import FuseMount.Proofs.Options.Grammar
import FuseMount.Proofs.TextMap.Lookup

/-!
# Options texts as trees

Every options text is the text of one tree of the grammar and of no other, and reading the text is
reading the tree.

Results:

* `Segmentation.exists_text_eq`: every text has a tree.
* `Segmentation.text_injective`: no text has two.
* `comma_notMem_of_mem_parse`: no value that is read holds a comma.
* `parse_eq_ofList_entries`: reading an options text is setting the entries of its tree, from left
  to right.
-/

namespace FuseMount.Options

/-! ## Every text has a tree -/

/-- What may come after the units of a name: what may come after a segment, an equals sign, or a
lone backslash. -/
inductive NameEnd : List Char → Prop
  | segment {rest : List Char} (h : SegmentEnd rest) : NameEnd rest
  | equals (rest : List Char) : NameEnd ('=' :: rest)
  | lone : NameEnd ['\\']

theorem exists_nameText_append (cs : List Char) :
    ∃ us rest, cs = nameText us ++ rest ∧ NameEnd rest := by
  have stop : ∀ {c : Char}, c = ',' ∨ c = '=' → ∀ cs, NameEnd (c :: cs) := by
    rintro c (rfl | rfl) cs
    · exact .segment (.comma cs)
    · exact .equals cs
  induction cs using readName.induct with
  | case1 => exact ⟨[], [], rfl, .segment .nil⟩
  | case2 c hc => exact ⟨[], [c], rfl, stop hc []⟩
  | case3 c hc =>
    obtain ⟨hcomma, hequals⟩ := not_or.1 hc
    by_cases hslash : c = '\\'
    · exact ⟨[], [c], rfl, hslash ▸ .lone⟩
    · exact ⟨[.plain c ⟨hcomma, hslash, hequals⟩], [], rfl, .segment .nil⟩
  | case4 c d cs hc => exact ⟨[], c :: d :: cs, rfl, stop hc (d :: cs)⟩
  | case5 d cs _ _ _ _ ih =>
    obtain ⟨us, rest, rfl, hrest⟩ := ih
    exact ⟨.escaped d :: us, rest, rfl, hrest⟩
  | case6 c d cs hc hslash _ _ _ ih =>
    obtain ⟨us, rest, heq, hrest⟩ := ih
    obtain ⟨hcomma, hequals⟩ := not_or.1 hc
    exact ⟨.plain c ⟨hcomma, hslash, hequals⟩ :: us, rest, by rw [heq]; rfl, hrest⟩

/-- A text begins with a segment, or is a name with a lone backslash at its end. -/
theorem exists_segment_append (cs : List Char) :
    (∃ (s : Segment) (rest : List Char), cs = s.text ++ rest ∧ SegmentEnd rest) ∨
      ∃ us, cs = nameText us ++ ['\\'] := by
  obtain ⟨us, rest, rfl, hrest⟩ := exists_nameText_append cs
  cases hrest with
  | segment h =>
    refine .inl ⟨⟨us, none⟩, rest, ?_, h⟩
    rw [Segment.text, valueText, List.append_nil]
  | lone => exact .inr ⟨us, rfl⟩
  | equals rest =>
    have hv : ',' ∉ rest.takeWhile (· ≠ ',') := fun h => by
      simpa using List.mem_takeWhile_imp h
    refine .inl ⟨⟨us, some ⟨_, hv⟩⟩, rest.dropWhile (· ≠ ','), ?_, .dropWhile rest⟩
    rw [Segment.text, valueText, List.append_assoc, List.cons_append,
      List.takeWhile_append_dropWhile]

namespace Segmentation

theorem exists_text_eq (cs : List Char) : ∃ t : Segmentation, t.text = cs := by
  induction h : cs.length using Nat.strongRecOn generalizing cs with
  | ind n ih =>
    obtain ⟨s, rest, rfl, hrest⟩ | ⟨us, rfl⟩ := exists_segment_append cs
    · cases hrest with
      | nil => exact ⟨⟨[], s, false, fun h => absurd h Bool.false_ne_true⟩, text_nil ..⟩
      | comma rest =>
        have hlt : rest.length < n := by
          rw [← h, List.length_append, List.length_cons]
          omega
        obtain ⟨⟨init, last, dangling, hvalue⟩, rfl⟩ := ih rest.length hlt rest rfl
        exact ⟨⟨s :: init, last, dangling, hvalue⟩, text_cons ..⟩
    · refine ⟨⟨[], ⟨us, none⟩, true, fun _ => rfl⟩, ?_⟩
      rw [text_nil, Segment.text, valueText, List.append_nil]
      rfl

end Segmentation

/-! ## No text has two trees -/

theorem nameText_cons (u : NameUnit) (us : List NameUnit) :
    nameText (u :: us) = u.text ++ nameText us :=
  List.flatMap_cons

/-- What comes after a name does not begin with a unit. -/
theorem NameEnd.ne_text_append {rest : List Char} (h : NameEnd rest) (u : NameUnit)
    (cs : List Char) : rest ≠ u.text ++ cs := by
  intro heq
  cases u with
  | escaped c =>
    cases h with
    | segment h => cases h <;> cases heq
    | equals _ => cases heq
    | lone => cases heq
  | plain c hc =>
    cases h with
    | segment h =>
      cases h with
      | nil => cases heq
      | comma rest =>
        cases heq
        exact hc.1 rfl
    | equals _ =>
      cases heq
      exact hc.2.2 rfl
    | lone =>
      cases heq
      exact hc.2.1 rfl

theorem NameUnit.text_append_inj {u u' : NameUnit} {cs cs' : List Char}
    (h : u.text ++ cs = u'.text ++ cs') : u = u' ∧ cs = cs' := by
  cases u with
  | plain c hc =>
    cases u' with
    | plain c' _ =>
      cases h
      exact ⟨rfl, rfl⟩
    | escaped c' =>
      cases h
      exact absurd rfl hc.2.1
  | escaped c =>
    cases u' with
    | plain c' hc' =>
      cases h
      exact absurd rfl hc'.2.1
    | escaped c' =>
      cases h
      exact ⟨rfl, rfl⟩

theorem nameText_append_inj {us us' : List NameUnit} {r r' : List Char} (hr : NameEnd r)
    (hr' : NameEnd r') (h : nameText us ++ r = nameText us' ++ r') : us = us' ∧ r = r' := by
  induction us generalizing us' with
  | nil =>
    cases us' with
    | nil => exact ⟨rfl, h⟩
    | cons u' us' =>
      rw [nameText_cons, List.append_assoc] at h
      exact absurd h (hr.ne_text_append u' _)
  | cons u us ih =>
    rw [nameText_cons, List.append_assoc] at h
    cases us' with
    | nil => exact absurd h.symm (hr'.ne_text_append u _)
    | cons u' us' =>
      rw [nameText_cons, List.append_assoc] at h
      obtain ⟨rfl, htail⟩ := NameUnit.text_append_inj h
      obtain ⟨rfl, rfl⟩ := ih htail
      exact ⟨rfl, rfl⟩

/-- What comes after the name of a segment. -/
theorem NameEnd.valueText_append (value? : Option Value) {r : List Char} (hr : SegmentEnd r) :
    NameEnd (valueText value? ++ r) := by
  cases value? with
  | none => exact .segment hr
  | some v => exact .equals _

theorem valueText_append_inj {v v' : Option Value} {r r' : List Char} (hr : SegmentEnd r)
    (hr' : SegmentEnd r') (h : valueText v ++ r = valueText v' ++ r') : v = v' ∧ r = r' := by
  cases v with
  | none =>
    cases v' with
    | none => exact ⟨rfl, h⟩
    | some v' =>
      rw [valueText, List.nil_append] at h
      subst h
      cases hr
  | some v =>
    cases v' with
    | none =>
      rw [valueText, valueText, List.nil_append] at h
      subst h
      cases hr'
    | some v' =>
      have h : v.val ++ r = v'.val ++ r' := (List.cons.inj h).2
      have hv : v.val = v'.val := by
        rw [← takeWhile_value v.property hr, h, takeWhile_value v'.property hr']
      have hrest : r = r' := by
        rw [← dropWhile_value v.property hr, h, dropWhile_value v'.property hr']
      exact ⟨congrArg some (Subtype.ext hv), hrest⟩

theorem Segment.text_append_inj {s s' : Segment} {r r' : List Char} (hr : SegmentEnd r)
    (hr' : SegmentEnd r') (h : s.text ++ r = s'.text ++ r') : s = s' ∧ r = r' := by
  obtain ⟨us, v⟩ := s
  obtain ⟨us', v'⟩ := s'
  rw [Segment.text, Segment.text, List.append_assoc, List.append_assoc] at h
  obtain ⟨rfl, htail⟩ := nameText_append_inj (.valueText_append v hr) (.valueText_append v' hr') h
  obtain ⟨rfl, hrest⟩ := valueText_append_inj hr hr' htail
  exact ⟨rfl, hrest⟩

/-- What comes after the name of the last segment. -/
theorem NameEnd.valueText_ending {value? : Option Value} {dangling : Bool}
    (h : dangling = true → value? = none) :
    NameEnd (valueText value? ++ if dangling then ['\\'] else []) := by
  cases dangling with
  | false => exact .valueText_append value? .nil
  | true =>
    cases h rfl
    exact .lone

/-- A lone backslash is not the beginning of a value or of what comes after it. -/
theorem lone_ne_valueText_append (v : Option Value) {r : List Char} (hr : SegmentEnd r) :
    ['\\'] ≠ valueText v ++ r := by
  intro h
  cases v with
  | none =>
    rw [valueText, List.nil_append] at h
    subst h
    cases hr
  | some v => cases h

namespace Segmentation

/-- A tree with one segment has no text in which a segment comes before a comma. -/
theorem text_nil_ne {last : Segment} {dangling : Bool} (hv : dangling = true → last.value? = none)
    (s : Segment) (rest : List Char) : text ⟨[], last, dangling, hv⟩ ≠ s.text ++ ',' :: rest := by
  rw [text_nil, Segment.text, Segment.text, List.append_assoc, List.append_assoc]
  intro h
  obtain ⟨-, htail⟩ :=
    nameText_append_inj (.valueText_ending hv) (.valueText_append s.value? (.comma rest)) h
  cases dangling with
  | false => cases (valueText_append_inj .nil (.comma rest) htail).2
  | true =>
    rw [hv rfl] at htail
    exact lone_ne_valueText_append s.value? (.comma rest) htail

theorem text_nil_injective {last last' : Segment} {dangling dangling' : Bool}
    {hv : dangling = true → last.value? = none} {hv' : dangling' = true → last'.value? = none}
    (h : text ⟨[], last, dangling, hv⟩ = text ⟨[], last', dangling', hv'⟩) :
    last = last' ∧ dangling = dangling' := by
  obtain ⟨us, v⟩ := last
  obtain ⟨us', v'⟩ := last'
  rw [text_nil, text_nil, Segment.text, Segment.text, List.append_assoc, List.append_assoc] at h
  obtain ⟨rfl, htail⟩ := nameText_append_inj (.valueText_ending hv) (.valueText_ending hv') h
  cases dangling with
  | false =>
    cases dangling' with
    | false =>
      obtain ⟨rfl, -⟩ := valueText_append_inj .nil .nil htail
      exact ⟨rfl, rfl⟩
    | true =>
      cases hv' rfl
      exact absurd htail.symm (lone_ne_valueText_append v .nil)
  | true =>
    cases hv rfl
    cases dangling' with
    | false => exact absurd htail (lone_ne_valueText_append v' .nil)
    | true =>
      cases hv' rfl
      exact ⟨rfl, rfl⟩

/-- Trees with one text are one tree. -/
theorem text_injective {t t' : Segmentation} (h : t.text = t'.text) : t = t' := by
  obtain ⟨init, last, dangling, hv⟩ := t
  obtain ⟨init', last', dangling', hv'⟩ := t'
  induction init generalizing init' with
  | nil =>
    cases init' with
    | nil =>
      obtain ⟨rfl, rfl⟩ := text_nil_injective h
      rfl
    | cons s' init' =>
      rw [text_cons] at h
      exact absurd h (text_nil_ne hv s' _)
  | cons s init ih =>
    rw [text_cons] at h
    cases init' with
    | nil => exact absurd h.symm (text_nil_ne hv' s _)
    | cons s' init' =>
      rw [text_cons] at h
      obtain ⟨rfl, htail⟩ := Segment.text_append_inj (.comma _) (.comma _) h
      cases ih init' (List.cons.inj htail).2
      rfl

end Segmentation

/-! ## Main theorem -/

theorem parse_ne_empty {s : String} (hs : s ≠ "") :
    parse s = TextMap.ofList (segments s.toList) := by
  rw [parse, if_neg (by simpa using hs)]

/-- The value of a segment, and so of every entry that is read, holds no comma. -/
theorem comma_notMem_of_mem_parse {s : String} {e : String × String}
    (he : e ∈ (parse s).entries) : ',' ∉ e.2.toList := by
  by_cases hs : s = ""
  · rw [hs] at he
    cases he
  · rw [parse_ne_empty hs] at he
    obtain ⟨t, ht⟩ := Segmentation.exists_text_eq s.toList
    have hmem := TextMap.mem_of_mem_entries_ofList he
    rw [← ht, Segmentation.segments_text, Segmentation.entries, List.mem_append,
      List.mem_singleton, List.mem_map] at hmem
    rcases hmem with ⟨seg, -, rfl⟩ | rfl
    · exact seg.comma_notMem_value
    · exact t.last.comma_notMem_value

/-- **Reading follows the grammar.** A text is the text of exactly one tree. Reading it gives the
map to which the entries of the tree are added from left to right, unless the text is empty. -/
theorem parse_eq_ofList_entries (s : String) :
    ∃ t : Segmentation, t.text = s.toList ∧ (∀ t' : Segmentation, t'.text = s.toList → t' = t) ∧
      parse s = if s = "" then ∅ else TextMap.ofList t.entries := by
  obtain ⟨t, ht⟩ := Segmentation.exists_text_eq s.toList
  refine ⟨t, ht, fun t' ht' => Segmentation.text_injective (ht'.trans ht.symm), ?_⟩
  by_cases hs : s = ""
  · rw [if_pos hs, hs]
    rfl
  · rw [if_neg hs, parse_ne_empty hs, ← ht, Segmentation.segments_text]

/-- An empty segment, a comma in a value and a lone backslash. -/
example : parse "a\\=b,,c=d\\,e\\" =
    TextMap.ofList [("a=b", ""), ("", ""), ("c", "d\\"), ("e\\", "")] := by
  cbv

end FuseMount.Options
