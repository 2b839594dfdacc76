import FuseMount.Proofs.Json.Lexeme

/-!
# What is written is JSON

The text of a JSON value is spelled by the grammar: strings with whatever characters in them, and
objects with members in order. Numbers and arrays are left out, as no value that is written here has
one.

Results:

* `exists_units`: a string is written with units that stand for its text.
* `exists_writes_object`: an object is written as a tree with its names and the trees of its values.
-/

namespace FuseMount.Json

/-! ## Strings -/

/-- A control character is written with four digits. -/
theorem isHex4_control {n : Nat} (h : n < 0x20) :
    IsHex4 ((Nat.toDigits 16 n).leftpad 4 '0') n := by
  have hread : ∀ n < 0x20,
      (readHex4 ((Nat.toDigits 16 n).leftpad 4 '0')).toOption = some (n, []) := by decide
  obtain ⟨ds, hds, happend⟩ := exists_isHex4_of_readHex4 (toOption_eq_some_iff.1 (hread n h))
  rw [happend, List.append_nil]
  exact hds

/-- A character is written as a unit that stands for it, whatever comes after it. -/
theorem exists_unit (c : Char) :
    ∃ u : StringUnit, u.text = stringChar c ∧ ∀ us, chars? (u :: us) = (c :: ·) <$> chars? us := by
  unfold stringChar
  split
  · exact ⟨.short '"' '"' rfl, rfl, fun _ => rfl⟩
  · exact ⟨.short '\\' '\\' rfl, rfl, fun _ => rfl⟩
  · exact ⟨.short 'b' '\x08' rfl, rfl, fun _ => rfl⟩
  · exact ⟨.short 'f' '\x0C' rfl, rfl, fun _ => rfl⟩
  · exact ⟨.short 'n' '\n' rfl, rfl, fun _ => rfl⟩
  · exact ⟨.short 'r' '\r' rfl, rfl, fun _ => rfl⟩
  · exact ⟨.short 't' '\t' rfl, rfl, fun _ => rfl⟩
  · rename_i hquote hslash _ _ _ _ _
    split
    · rename_i hcontrol
      refine ⟨.code _ _ (isHex4_control hcontrol), rfl, fun us => ?_⟩
      have htrailing : ¬isTrailing c.toNat = true := by
        simp only [isTrailing, Bool.and_eq_true, decide_eq_true_eq]
        omega
      have hleading : ¬isLeading c.toNat = true := by
        simp only [isLeading, Bool.and_eq_true, decide_eq_true_eq]
        omega
      rw [chars?.eq_def]
      dsimp only
      rw [if_neg htrailing, if_neg hleading, Char.ofNat_toNat]
    · rename_i hcontrol
      exact ⟨.plain c ⟨hquote, hslash, Nat.not_lt.1 hcontrol⟩, rfl, fun _ => rfl⟩

/-- A string is written with units that stand for its text. -/
theorem exists_units (s : String) :
    ∃ us, stringText us = (renderString s).toList ∧ text? us = some s := by
  have hchars : ∀ cs : List Char,
      ∃ us, bodyText us = cs.flatMap stringChar ∧ chars? us = some cs := by
    intro cs
    induction cs with
    | nil => exact ⟨[], rfl, rfl⟩
    | cons c cs ih =>
      obtain ⟨us, hbody, hus⟩ := ih
      obtain ⟨u, hu, hread⟩ := exists_unit c
      exact ⟨u :: us, by rw [bodyText_cons, hu, hbody, List.flatMap_cons], by rw [hread, hus]; rfl⟩
  obtain ⟨us, hbody, hus⟩ := hchars s.toList
  refine ⟨us, ?_, ?_⟩
  · rw [stringText, hbody, renderString, String.toList_ofList]
    rfl
  · rw [text?, hus]
    exact congrArg some String.ofList_toList

/-! ## Single values -/

/-- A JSON value is written as a tree. -/
def Writes (j : Json) (t : Tree) : Prop :=
  t.Spells j.render.toList

theorem writes_null : Writes .null .null := Tree.Spells.null

theorem writes_bool : (b : Bool) → Writes (.bool b) (.bool b)
  | true => Tree.Spells.true
  | false => Tree.Spells.false

theorem exists_writes_string (s : String) :
    ∃ us, Writes (.string s) (.string us) ∧ text? us = some s := by
  obtain ⟨us, htext, hus⟩ := exists_units s
  refine ⟨us, ?_, hus⟩
  rw [Writes, render, ← htext]
  exact .string us

/-! ## Objects -/

theorem intercalate_cons (x : List Char) (xs : List (List Char)) :
    [','].intercalate (x :: xs) = x ++ xs.flatMap fun y => ',' :: y := by
  induction xs generalizing x with
  | nil => rw [List.intercalate_singleton, List.flatMap_nil, List.append_nil]
  | cons y xs ih =>
    rw [List.intercalate_cons_of_ne_nil (List.cons_ne_nil y xs), ih, List.flatMap_cons,
      List.append_assoc]
    rfl

/-- The text of a member, as it stands in an object. -/
def memberText (m : String × Json) : List Char :=
  (renderString m.1 ++ ":" ++ m.2.render).toList

theorem renderMembers_eq_map (members : List (String × Json)) :
    renderMembers members = members.map fun m => (m.1, m.2.render) := by
  induction members with
  | nil => rfl
  | cons m members ih => rw [renderMembers, ih, List.map_cons]

theorem toList_render_object (members : List (String × Json)) :
    (object members).render.toList =
      '\x7b' :: ([','].intercalate (members.map memberText) ++ ['\x7d']) := by
  rw [render, renderObject, renderMembers_eq_map, String.toList_append, String.toList_append,
    String.toList_intercalate, List.map_map, List.map_map]
  rfl

/-- A member is written as its name and a tree. -/
def WritesMember (m : String × Json) (m' : List StringUnit × Tree) : Prop :=
  stringText m'.1 = (renderString m.1).toList ∧ Writes m.2 m'.2

theorem WritesMember.spellsMembers {m : String × Json} {m' : List StringUnit × Tree}
    (hm : WritesMember m m') {first : Bool} {w cs : List Char} (hw : Separator first w)
    {ms : List (List StringUnit × Tree)} (hms : Tree.SpellsMembers false ms cs) :
    Tree.SpellsMembers first (m' :: ms) (w ++ (memberText m ++ cs)) := by
  obtain ⟨us, t⟩ := m'
  have hmember : Tree.SpellsMembers first ((us, t) :: ms) _ :=
    .member hw blank_nil blank_nil hm.2 hms
  rw [hm.1] at hmember
  rw [memberText, String.toList_append, String.toList_append, List.append_assoc, List.append_assoc]
  exact hmember

theorem spellsMembers_flatMap {members : List (String × Json)}
    {ms : List (List StringUnit × Tree)} (h : List.Forall₂ WritesMember members ms) :
    Tree.SpellsMembers false ms ((members.flatMap fun m => ',' :: memberText m) ++ ['\x7d']) := by
  induction h with
  | nil => exact .done blank_nil
  | cons hm _ ih =>
    have hmember := hm.spellsMembers (.comma blank_nil blank_nil) ih
    rw [List.nil_append, List.singleton_append] at hmember
    rw [List.flatMap_cons, List.append_assoc]
    exact hmember

theorem writes_object {members : List (String × Json)} {ms : List (List StringUnit × Tree)}
    (h : List.Forall₂ WritesMember members ms) : Writes (.object members) (.object ms) := by
  rw [Writes, toList_render_object]
  cases h with
  | nil => exact .object (.done blank_nil)
  | @cons m m' members ms hm h =>
    have hmembers := hm.spellsMembers (.first blank_nil) (spellsMembers_flatMap h)
    rw [List.nil_append] at hmembers
    rw [List.map_cons, intercalate_cons, List.flatMap_map, List.append_assoc]
    exact .object hmembers

/-- An object is written as a tree with its names and the trees of its values. -/
theorem exists_writes_object {members : List (String × Json)} {named : List (String × Tree)}
    (h : List.Forall₂ (fun m n => n.1 = m.1 ∧ Writes m.2 n.2) members named) :
    ∃ ms, Named ms named ∧ Writes (.object members) (.object ms) := by
  have hms : ∃ ms, Named ms named ∧ List.Forall₂ WritesMember members ms := by
    induction h with
    | nil => exact ⟨[], .nil, .nil⟩
    | @cons m n members named hm _ ih =>
      obtain ⟨ms, hnamed, hms⟩ := ih
      obtain ⟨us, htext, hus⟩ := exists_units m.1
      exact ⟨(us, n.2) :: ms, .cons ⟨hm.1 ▸ hus, rfl⟩ hnamed, .cons ⟨htext, hm.2⟩ hms⟩
  obtain ⟨ms, hnamed, hms⟩ := hms
  exact ⟨ms, hnamed, writes_object hms⟩

end FuseMount.Json
