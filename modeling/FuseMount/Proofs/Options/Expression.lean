import FuseMount.Proofs.Options.RoundTrip

/-!
# Which options a text can express

Every text is an options text, and what is read from it has no commas in its values. That is all:
any options without commas in their values are read from some text. It is not always their own one,
which leaves equals signs in names unprotected and does not show a single empty name. A text that
protects the equals signs too and writes one after every name has neither fault.

Results:

* `parse_spelled`: options without commas in their values are read from the text that spells them
  out.
* `mem_range_parse_iff`: which options are read from texts.
* `range_parse`: the same, and that their own text does not do for names with equals signs.
-/

namespace FuseMount.Options

/-! ## Specification -/

/-- A character of a name, protected if it could have another meaning in a name. -/
def protectChar (c : Char) : List Char :=
  if c = ',' ∨ c = '\\' ∨ c = '=' then ['\\', c] else [c]

/-- An entry with all of its name protected, and with an equals sign also before an empty value. -/
def spelledEntry (e : String × String) : List Char :=
  e.1.toList.flatMap protectChar ++ '=' :: e.2.toList

/-- The text that spells options out. -/
def spelled (o : Options) : String :=
  String.ofList ([','].intercalate (o.entries.map spelledEntry))

/-! ## Reading what is spelled out -/

theorem NameUnit.text_ofChar_eq_protectChar (c : Char) :
    (NameUnit.ofChar c).text = protectChar c := by
  unfold NameUnit.ofChar protectChar
  by_cases hc : c = ',' ∨ c = '\\' ∨ c = '='
  · rw [dif_neg (by tauto), if_pos hc]
    rfl
  · rw [dif_pos (by tauto), if_neg hc]
    rfl

theorem exists_segment_spelledEntry {e : String × String} (hv : ',' ∉ e.2.toList) :
    ∃ s : Segment, s.text = spelledEntry e ∧ s.entry = e := by
  refine ⟨⟨e.1.toList.map NameUnit.ofChar, some ⟨e.2.toList, hv⟩⟩, ?_, ?_⟩
  · rw [Segment.text, nameText, List.flatMap_map, spelledEntry, valueText]
    simp only [NameUnit.text_ofChar_eq_protectChar]
  · rw [Segment.entry, Segment.name, map_char_map_ofChar, String.ofList_toList, Segment.value,
      Option.map_some, Option.getD_some, String.ofList_toList]

theorem spelled_eq_empty_iff (o : Options) : spelled o = "" ↔ o = ∅ := by
  constructor
  · intro h
    cases hes : o.entries with
    | nil => exact TextMap.ext_entries hes
    | cons e es =>
      have hmem : '=' ∈ (spelled o).toList := by
        rw [spelled, String.toList_ofList, hes, List.map_cons]
        by_cases hnil : es = []
        · simp [hnil, spelledEntry]
        · rw [List.intercalate_cons_of_ne_nil (by simpa using hnil)]
          simp [spelledEntry]
      rw [h] at hmem
      cases hmem
  · rintro rfl
    rfl

/-- Options without commas in their values are read from the text that spells them out. -/
theorem parse_spelled {o : Options} (hv : CommaFreeValues o) : parse (spelled o) = o := by
  by_cases ho : o = ∅
  · rw [ho]
    rfl
  · have hes : o.entries ≠ [] := fun h => ho (TextMap.ext_entries h)
    rw [parse_ne_empty (mt (spelled_eq_empty_iff o).1 ho), spelled, String.toList_ofList,
      segments_intercalate hes fun e he => exists_segment_spelledEntry (hv e he),
      TextMap.ofList_entries]

theorem mem_range_parse_iff (o : Options) : o ∈ Set.range parse ↔ CommaFreeValues o := by
  constructor
  · rintro ⟨s, rfl⟩
    exact commaFreeValues_parse s
  · intro hv
    exact ⟨spelled o, parse_spelled hv⟩

/-! ## Main theorem -/

/-- Names with equals signs are not read back from the text of the options. -/
theorem parse_render_ne {o : Options} (hv : CommaFreeValues o) (hnames : ¬EqualsFreeNames o) :
    parse o.render ≠ o :=
  fun h => hnames (h ▸ equalsFreeNames_parse_render hv)

/-- **What texts express.** The options that are read from texts are exactly those without commas in
their values. So there is a text for options with equals signs in names, such as the one that spells
them out, although it is not their own one. -/
theorem range_parse :
    Set.range parse = {o | CommaFreeValues o} ∧
      ∀ o, CommaFreeValues o → ¬EqualsFreeNames o → parse (spelled o) = o ∧ parse o.render ≠ o :=
  ⟨Set.ext mem_range_parse_iff, fun _ hv hnames => ⟨parse_spelled hv, parse_render_ne hv hnames⟩⟩

/-- Names with all three characters that are protected, an empty name, and a value that ends with a
backslash. -/
theorem range_parse_protectedNames :
    let o : Options := TextMap.ofList [("a=b", "x\\"), ("c\\,", ""), ("", "")]
    CommaFreeValues o ∧ ¬EqualsFreeNames o ∧ spelled o = "=,a\\=b=x\\,c\\\\\\,=" ∧
      parse (spelled o) = o ∧ parse o.render ≠ o := by
  intro o
  have hv : CommaFreeValues o := by decide +kernel
  have hnames : ¬EqualsFreeNames o := by decide +kernel
  exact ⟨hv, hnames, by decide +kernel, range_parse.2 o hv hnames⟩

end FuseMount.Options
