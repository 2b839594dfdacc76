import FuseMount.Json.Skip
import FuseMount.Proofs.Json.Lexeme

/-!
# Passing over values and the grammar

A value that nobody asks for is passed over if and only if it belongs to the grammar, however deeply
it is nested. The collections that are still open are on a stack, so both directions speak of what
is left of them after a value: completeness by what the skipping function does next, soundness by
`Closes`.

Results:

* `skipValue_append`: a value of the grammar is passed over, and nothing but the value.
* `beginsWithValue_of_skipValue`: what is passed over is a value of the grammar.
-/

namespace FuseMount.Json

open FuseMount.Json.Tree

/-! ## Keys and scalars -/

theorem skipSpace_skipSpace (cs : List Char) : skipSpace (skipSpace cs) = skipSpace cs := by
  obtain ⟨w, hw, hcs⟩ := exists_blank_append_skipSpace cs
  exact (skipSpace_blank_append hw _).symm.trans (congrArg skipSpace hcs.symm)

theorem skipKey_skipSpace (cs : List Char) : skipKey (skipSpace cs) = skipKey cs := by
  rw [skipKey, skipKey, skipSpace_skipSpace]

theorem skipKey_append {w w₁ : List Char} (hw : Blank w) (hw₁ : Blank w₁) (us : List StringUnit)
    (rest : List Char) :
    skipKey (w ++ (stringText us ++ (w₁ ++ ':' :: rest))) = .ok rest := by
  have hquote : w ++ (stringText us ++ (w₁ ++ ':' :: rest)) =
      w ++ '"' :: (bodyText us ++ '"' :: (w₁ ++ ':' :: rest)) := by
    simp [stringText]
  rw [hquote, skipKey, skipSpace_blank_append_cons hw rfl]
  simp only [skipString_bodyText]
  rw [skipSpace_blank_append_cons hw₁ rfl]
  rfl

theorem exists_of_skipKey {cs rest : List Char} (h : skipKey cs = .ok rest) :
    ∃ w us w₁, Blank w ∧ Blank w₁ ∧ cs = w ++ (stringText us ++ (w₁ ++ ':' :: rest)) := by
  obtain ⟨w, hw, hcs⟩ := exists_blank_append_skipSpace cs
  unfold skipKey at h
  split at h
  · cases h
  · rename_i r hr
    split at h
    · cases h
    · rename_i r₁ hstring
      obtain ⟨us, rfl⟩ := exists_bodyText_of_skipString hstring
      obtain ⟨w₁, hw₁, hr₁⟩ := exists_blank_append_skipSpace r₁
      split at h
      · cases h
      · rename_i hcolon
        cases h
        refine ⟨w, us, w₁, hw, hw₁, ?_⟩
        rw [hcs, hr, ← hcolon, ← hr₁]
        simp [stringText]
      · cases h
  · cases h

/-- Neither an array nor an object. -/
def Tree.IsScalar : Tree → Prop
  | array _ | object _ => False
  | _ => True

theorem Tree.IsScalar.opens_ne {t : Tree} {c : Char} (ht : t.IsScalar) (h : t.Opens c) :
    c ≠ '[' ∧ c ≠ '\x7b' := by
  cases t with
  | number n =>
    rcases h with rfl | hd
    · decide
    · exact ⟨isDigit_ne hd rfl, isDigit_ne hd rfl⟩
  | bool b => cases b <;> cases h <;> decide
  | array _ => exact ht.elim
  | object _ => exact ht.elim
  | _ => cases h; decide

theorem skipScalar_append {t : Tree} {cs rest : List Char} (ht : t.IsScalar) (h : t.Spells cs)
    (hrest : ValueEnd rest) : skipScalar (cs ++ rest) = .ok rest := by
  cases h with
  | null => exact skipLiteral_append ['u', 'l', 'l'] rest
  | true => exact skipLiteral_append ['r', 'u', 'e'] rest
  | false => exact skipLiteral_append ['a', 'l', 's', 'e'] rest
  | number n =>
    obtain ⟨cs, hnumber⟩ := n
    cases hnumber with
    | positive h =>
      have hskip := skipNumber_append h hrest
      obtain ⟨d, ds, rfl, hd⟩ := h.exists_cons
      rw [List.cons_append] at hskip ⊢
      rw [skipScalar.eq_6 _ _ (isDigit_ne hd rfl) (isDigit_ne hd rfl) (isDigit_ne hd rfl)
        (isDigit_ne hd rfl) (isDigit_ne hd rfl), if_pos hd, hskip]
    | negative h => exact skipNumber_append h hrest
  | string us =>
    have hbody := skipString_bodyText us rest
    rw [stringText, List.cons_append, List.append_assoc, List.singleton_append]
    exact hbody
  | _ => exact ht.elim

theorem exists_spells_of_skipScalar {cs rest : List Char} (h : skipScalar cs = .ok rest) :
    ∃ t cs', Spells t cs' ∧ cs = cs' ++ rest := by
  unfold skipScalar at h
  split at h
  · exact ⟨_, _, .null, congrArg (_ :: ·) (eq_append_of_skipLiteral h)⟩
  · exact ⟨_, _, .true, congrArg (_ :: ·) (eq_append_of_skipLiteral h)⟩
  · exact ⟨_, _, .false, congrArg (_ :: ·) (eq_append_of_skipLiteral h)⟩
  · obtain ⟨n, hn, rfl⟩ := exists_isMagnitude_of_skipNumber h
    exact ⟨_, _, .number ⟨_, .negative hn⟩, rfl⟩
  · obtain ⟨us, rfl⟩ := exists_bodyText_of_skipString h
    exact ⟨_, _, .string us, by simp [stringText]⟩
  · split at h
    · obtain ⟨n, hn, hcs⟩ := exists_isMagnitude_of_skipNumber h
      exact ⟨_, _, .number ⟨_, .positive hn⟩, hcs⟩
    · cases h
  · cases h

/-! ## One step of passing over -/

section

variable {stack outer : List Frame} {cs r r' rest : List Char}

theorem skipWithin_emptyArray (h : skipSpace cs = '[' :: r) (h' : skipSpace r = ']' :: r') :
    skipWithin stack cs = skipAfter stack r' := by
  rw [skipWithin]
  split
  · rename_i hcs
    cases h.symm.trans hcs
    split <;> rename_i hr <;> cases h'.symm.trans hr
    · rfl
    · rename_i hbracket
      exact (hbracket rfl).elim
  · rename_i hcs
    cases h.symm.trans hcs
  · rename_i hcs _
    exact (hcs _ h).elim

theorem skipWithin_array {c : Char} (h : skipSpace cs = '[' :: r) (h' : skipSpace r = c :: r')
    (hc : c ≠ ']') : skipWithin stack cs = skipWithin (.list :: stack) (c :: r') := by
  rw [skipWithin]
  split
  · rename_i hcs
    cases h.symm.trans hcs
    split <;> rename_i hr <;> cases h'.symm.trans hr
    · exact absurd rfl hc
    · rfl
  · rename_i hcs
    cases h.symm.trans hcs
  · rename_i hcs _
    exact (hcs _ h).elim

theorem skipWithin_emptyObject (h : skipSpace cs = '\x7b' :: r)
    (h' : skipSpace r = '\x7d' :: r') : skipWithin stack cs = skipAfter stack r' := by
  rw [skipWithin]
  split
  · rename_i hcs
    cases h.symm.trans hcs
  · rename_i hcs
    cases h.symm.trans hcs
    split
    · rename_i hr
      cases h'.symm.trans hr
      rfl
    · rename_i hr
      exact (hr _ h').elim
  · rename_i _ hcs
    exact (hcs _ h).elim

theorem skipWithin_object (h : skipSpace cs = '\x7b' :: r) (h' : skipKey r = .ok r') :
    skipWithin stack cs = skipWithin (.object :: stack) r' := by
  rw [← skipKey_skipSpace] at h'
  rw [skipWithin]
  split
  · rename_i hcs
    cases h.symm.trans hcs
  · rename_i hcs
    cases h.symm.trans hcs
    split
    · rename_i hr
      rw [hr, skipKey, skipSpace_cons rfl] at h'
      cases h'
    · split <;> rename_i hkey <;> cases h'.symm.trans hkey
      rfl
  · rename_i _ hcs
    exact (hcs _ h).elim

theorem skipWithin_scalar (hlist : ∀ r, skipSpace cs ≠ '[' :: r)
    (hobject : ∀ r, skipSpace cs ≠ '\x7b' :: r) (h : skipScalar (skipSpace cs) = .ok rest) :
    skipWithin stack cs = skipAfter stack rest := by
  rw [skipWithin]
  split
  · rename_i hcs
    exact (hlist _ hcs).elim
  · rename_i hcs
    exact (hobject _ hcs).elim
  · split <;> rename_i hscalar <;> cases h.symm.trans hscalar
    rfl

theorem skipAfter_listComma (h : skipSpace cs = ',' :: r) :
    skipAfter (.list :: outer) cs = skipWithin (.list :: outer) r := by
  rw [skipAfter]
  split <;> simp_all

theorem skipAfter_listEnd (h : skipSpace cs = ']' :: r) :
    skipAfter (.list :: outer) cs = skipAfter outer r := by
  rw [skipAfter]
  split <;> simp_all

theorem skipAfter_objectComma (h : skipSpace cs = ',' :: r) (h' : skipKey r = .ok r') :
    skipAfter (.object :: outer) cs = skipWithin (.object :: outer) r' := by
  rw [skipAfter]
  split <;> simp_all
  split <;> simp_all

theorem skipAfter_objectEnd (h : skipSpace cs = '\x7d' :: r) :
    skipAfter (.object :: outer) cs = skipAfter outer r := by
  rw [skipAfter]
  split <;> simp_all

end

theorem skipWithin_of_isScalar {t : Tree} {cs : List Char} (stack : List Frame)
    {w rest : List Char} (hw : Blank w) (hrest : ValueEnd rest) (h : t.Spells cs)
    (ht : t.IsScalar) : skipWithin stack (w ++ (cs ++ rest)) = skipAfter stack rest := by
  have hspace := h.skipSpace_append hw rest
  have hscalar := skipScalar_append ht h hrest
  obtain ⟨c, cs', rfl, hopens⟩ := h.exists_cons
  obtain ⟨hlist, hobject⟩ := ht.opens_ne hopens
  refine skipWithin_scalar (fun r hr => ?_) (fun r hr => ?_) (by rw [hspace, hscalar])
  · exact hlist (List.cons.inj (hspace.symm.trans hr)).1
  · exact hobject (List.cons.inj (hspace.symm.trans hr)).1

/-! ## Completeness -/

mutual

/-- A value of the grammar is passed over, and nothing but the value. -/
theorem skipWithin_of_spells {t : Tree} {cs : List Char} (stack : List Frame) {w rest : List Char}
    (hw : Blank w) (hrest : ValueEnd rest) : t.Spells cs →
      skipWithin stack (w ++ (cs ++ rest)) = skipAfter stack rest
  | .array (.done hw') => by
    rw [List.cons_append, List.append_assoc, List.singleton_append]
    exact skipWithin_emptyArray (skipSpace_blank_append_cons hw rfl _)
      (skipSpace_blank_append_cons hw' rfl rest)
  | .array (.item (.first hw') h hts) => by
    -- The function looks at the first character of the first item before it goes on with it.
    simp only [List.append_assoc, List.cons_append]
    have hvalue := h.skipSpace_append hw'
    obtain ⟨c, r, hcons, hopens⟩ := h.exists_cons
    rw [skipWithin_array (skipSpace_blank_append_cons hw rfl _)
        ((hvalue _).trans (by rw [hcons, List.cons_append])) hopens.ne.2.2.1,
      ← List.cons_append, ← hcons]
    have hread := skipWithin_of_spells (.list :: stack) blank_nil (hts.valueEnd rest) h
    rw [List.nil_append] at hread
    rw [hread, skipAfter_of_spellsItems stack rest hts]
  | .object (.done hw') => by
    rw [List.cons_append, List.append_assoc, List.singleton_append]
    exact skipWithin_emptyObject (skipSpace_blank_append_cons hw rfl _)
      (skipSpace_blank_append_cons hw' rfl rest)
  | .object (.member (.first hw') hw₁ hw₂ h hms) => by
    simp only [List.append_assoc, List.cons_append]
    rw [skipWithin_object (skipSpace_blank_append_cons hw rfl _) (skipKey_append hw' hw₁ _ _),
      skipWithin_of_spells (.object :: stack) hw₂ (hms.valueEnd rest) h,
      skipAfter_of_spellsMembers stack rest hms]
  | .null => skipWithin_of_isScalar stack hw hrest .null trivial
  | .true => skipWithin_of_isScalar stack hw hrest .true trivial
  | .false => skipWithin_of_isScalar stack hw hrest .false trivial
  | .number n => skipWithin_of_isScalar stack hw hrest (.number n) trivial
  | .string us => skipWithin_of_isScalar stack hw hrest (.string us) trivial

theorem skipAfter_of_spellsItems {ts : List Tree} {cs : List Char} (outer : List Frame)
    (rest : List Char) : SpellsItems false ts cs →
      skipAfter (.list :: outer) (cs ++ rest) = skipAfter outer rest
  | .done hw => by
    rw [List.append_assoc]
    exact skipAfter_listEnd (skipSpace_blank_append_cons hw rfl rest)
  | .item (.comma hw hw') h hts => by
    simp only [List.append_assoc, List.cons_append]
    rw [skipAfter_listComma (skipSpace_blank_append_cons hw rfl _),
      skipWithin_of_spells (.list :: outer) hw' (hts.valueEnd rest) h,
      skipAfter_of_spellsItems outer rest hts]

theorem skipAfter_of_spellsMembers {ms : List (List StringUnit × Tree)} {cs : List Char}
    (outer : List Frame) (rest : List Char) : SpellsMembers false ms cs →
      skipAfter (.object :: outer) (cs ++ rest) = skipAfter outer rest
  | .done hw => by
    rw [List.append_assoc]
    exact skipAfter_objectEnd (skipSpace_blank_append_cons hw rfl rest)
  | .member (.comma hw hw') hw₁ hw₂ h hms => by
    simp only [List.append_assoc, List.cons_append]
    rw [skipAfter_objectComma (skipSpace_blank_append_cons hw rfl _) (skipKey_append hw' hw₁ _ _),
      skipWithin_of_spells (.object :: outer) hw₂ (hms.valueEnd rest) h,
      skipAfter_of_spellsMembers outer rest hms]

end

theorem skipValue_append {t : Tree} {w cs rest : List Char} (hw : Blank w) (h : t.Spells cs)
    (hrest : ValueEnd rest) : skipValue (w ++ (cs ++ rest)) = .ok rest := by
  rw [skipValue, skipWithin_of_spells [] hw hrest h, skipAfter]

/-! ## Soundness -/

/-- What is left of open collections, and what comes after them. -/
inductive Closes : List Frame → List Char → List Char → Prop
  | nil (rest : List Char) : Closes [] rest rest
  | list {outer : List Frame} {cs after rest : List Char} {ts : List Tree}
      (hts : SpellsItems false ts cs) (h : Closes outer after rest) :
      Closes (.list :: outer) (cs ++ after) rest
  | object {outer : List Frame} {cs after rest : List Char} {ms : List (List StringUnit × Tree)}
      (hms : SpellsMembers false ms cs) (h : Closes outer after rest) :
      Closes (.object :: outer) (cs ++ after) rest

/-- The characters begin with a value, after which open collections are closed. -/
def BeginsWithin (stack : List Frame) (cs rest : List Char) : Prop :=
  ∃ after, BeginsWithValue cs after ∧ Closes stack after rest

/-- A value in an array is the first one of the items that are left. -/
theorem BeginsWithin.exists_items {outer : List Frame} {cs rest : List Char}
    (h : BeginsWithin (.list :: outer) cs rest) {first : Bool} {w : List Char}
    (hw : Separator first w) :
    ∃ ts items after, SpellsItems first ts items ∧ w ++ cs = items ++ after ∧
      Closes outer after rest := by
  obtain ⟨_, ⟨w', t, value, hw', ht, rfl⟩, hcloses⟩ := h
  cases hcloses with
  | list hts h =>
    refine ⟨_, _, _, .item (hw.append_blank hw') ht hts, ?_, h⟩
    simp only [List.append_assoc]

/-- A value in an object makes with its key the first one of the members that are left. -/
theorem BeginsWithin.exists_members {outer : List Frame} {cs r rest : List Char}
    (h : BeginsWithin (.object :: outer) r rest) (hkey : skipKey cs = .ok r) {first : Bool}
    {w : List Char} (hw : Separator first w) :
    ∃ ms members after, SpellsMembers first ms members ∧ w ++ cs = members ++ after ∧
      Closes outer after rest := by
  obtain ⟨w₀, us, w₁, hw₀, hw₁, rfl⟩ := exists_of_skipKey hkey
  obtain ⟨_, ⟨w₂, t, value, hw₂, ht, rfl⟩, hcloses⟩ := h
  cases hcloses with
  | object hms h =>
    refine ⟨(us, t) :: _, _, _, .member (hw.append_blank hw₀) hw₁ hw₂ ht hms, ?_, h⟩
    simp only [List.append_assoc, List.cons_append]

/-- What is passed over is a value, and the collections around it are closed. -/
theorem beginsWithin_of_skip :
    (∀ stack cs rest, skipWithin stack cs = .ok rest → BeginsWithin stack cs rest) ∧
      ∀ stack cs rest, skipAfter stack cs = .ok rest → Closes stack cs rest := by
  apply skipWithin.mutual_induct
    (fun stack cs => ∀ rest, skipWithin stack cs = .ok rest → BeginsWithin stack cs rest)
    (fun stack cs => ∀ rest, skipAfter stack cs = .ok rest → Closes stack cs rest)
  case case2 =>
    intro stack cs r hlist r' hend ih rest h
    rw [skipWithin_emptyArray hlist hend] at h
    obtain ⟨w', hw', hr⟩ := exists_blank_append_skipSpace r
    refine ⟨r', .of_spells (.array (.done hw')) ?_, ih rest h⟩
    rw [hlist, hr, hend]
    simp only [List.append_assoc, List.cons_append, List.nil_append]
  case case3 =>
    intro stack cs r hlist c r' hc hr ih rest h
    rw [skipWithin_array hlist hr hc] at h
    obtain ⟨w', hw', hr'⟩ := exists_blank_append_skipSpace r
    obtain ⟨ts, items, after, hts, happend, hcloses⟩ := (ih rest h).exists_items (.first hw')
    refine ⟨after, .of_spells (.array hts) ?_, hcloses⟩
    rw [hlist, hr', hr, happend, List.cons_append]
  case case4 =>
    intro stack cs r hobject r' hend ih rest h
    rw [skipWithin_emptyObject hobject hend] at h
    obtain ⟨w', hw', hr⟩ := exists_blank_append_skipSpace r
    refine ⟨r', .of_spells (.object (.done hw')) ?_, ih rest h⟩
    rw [hobject, hr, hend]
    simp only [List.append_assoc, List.cons_append, List.nil_append]
  case case6 =>
    intro stack cs r hobject r' _ hkey ih rest h
    rw [skipKey_skipSpace] at hkey
    rw [skipWithin_object hobject hkey] at h
    obtain ⟨ms, members, after, hms, happend, hcloses⟩ :=
      (ih rest h).exists_members hkey (.first blank_nil)
    refine ⟨after, .of_spells (.object hms) ?_, hcloses⟩
    rw [hobject, List.cons_append, ← happend, List.nil_append]
  case case8 =>
    intro stack cs r hlist hobject hscalar ih rest h
    rw [skipWithin_scalar hlist hobject hscalar] at h
    obtain ⟨t, value, ht, hvalue⟩ := exists_spells_of_skipScalar hscalar
    exact ⟨r, .of_spells ht hvalue, ih rest h⟩
  case case9 =>
    intro cs rest h
    rw [skipAfter] at h
    cases h
    exact .nil cs
  case case11 =>
    intro cs outer r hcomma ih rest h
    rw [skipAfter_listComma hcomma] at h
    obtain ⟨w, hw, hcs⟩ := exists_blank_append_skipSpace cs
    obtain ⟨ts, items, after, hts, happend, hcloses⟩ :=
      (ih rest h).exists_items (.comma hw blank_nil)
    rw [hcs, hcomma, List.append_cons, happend]
    exact .list hts hcloses
  case case12 =>
    intro cs outer r hend ih rest h
    rw [skipAfter_listEnd hend] at h
    obtain ⟨w, hw, hcs⟩ := exists_blank_append_skipSpace cs
    rw [hcs, hend, List.append_cons]
    exact .list (.done hw) (ih rest h)
  case case16 =>
    intro cs outer r hcomma r' hkey ih rest h
    rw [skipAfter_objectComma hcomma hkey] at h
    obtain ⟨w, hw, hcs⟩ := exists_blank_append_skipSpace cs
    obtain ⟨ms, members, after, hms, happend, hcloses⟩ :=
      (ih rest h).exists_members hkey (.comma hw blank_nil)
    rw [hcs, hcomma, List.append_cons, happend]
    exact .object hms hcloses
  case case17 =>
    intro cs outer r hend ih rest h
    rw [skipAfter_objectEnd hend] at h
    obtain ⟨w, hw, hcs⟩ := exists_blank_append_skipSpace cs
    rw [hcs, hend, List.append_cons]
    exact .object (.done hw) (ih rest h)
  -- The cases that are left are faults.
  all_goals
    intros
    rename_i h
    first | unfold skipWithin at h | unfold skipAfter at h
    grind

/-- What is passed over is a value of the grammar. -/
theorem beginsWithValue_of_skipValue {cs rest : List Char} (h : skipValue cs = .ok rest) :
    BeginsWithValue cs rest := by
  obtain ⟨after, hbegins, hcloses⟩ := beginsWithin_of_skip.1 _ _ _ h
  cases hcloses
  exact hbegins

end FuseMount.Json
