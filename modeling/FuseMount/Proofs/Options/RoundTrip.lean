import FuseMount.Proofs.Options.Decomposition

/-!
# Reading what was written

Which options come back when their text is read. A comma or a backslash in a name is protected, but
an equals sign is not; in a value nothing is protected, so a comma ends it. And the text of a single
empty name without a value is empty, which is read as no options at all.

Results:

* `toList_escapeName`: names are written character by character.
* `render_eq_empty_iff`: which options have the empty text.
* `equalsFreeNames_parse_render`: no name that is read back holds an equals sign if no value held a
  comma, even if names held equals signs before.
* `parse_render_eq_self_iff`: which options come back unchanged.
-/

namespace FuseMount.Options

/-- No name holds an equals sign. -/
def EqualsFreeNames (o : Options) : Prop :=
  ∀ e ∈ o.entries, '=' ∉ e.1.toList

instance (o : Options) : Decidable (EqualsFreeNames o) :=
  inferInstanceAs (Decidable (∀ e ∈ o.entries, '=' ∉ e.1.toList))

/-- No value holds a comma. -/
def CommaFreeValues (o : Options) : Prop :=
  ∀ e ∈ o.entries, ',' ∉ e.2.toList

instance (o : Options) : Decidable (CommaFreeValues o) :=
  inferInstanceAs (Decidable (∀ e ∈ o.entries, ',' ∉ e.2.toList))

theorem commaFreeValues_parse (s : String) : CommaFreeValues (parse s) :=
  fun _ he => comma_notMem_of_mem_parse he

/-! ## Written names -/

/-- A character of a name as it is written. -/
def escapeChar (c : Char) : List Char :=
  if c = ',' ∨ c = '\\' then ['\\', c] else [c]

/-- Doubling backslashes and then protecting commas is protecting each character once. -/
theorem protectAll_eq_flatMap (cs : List Char) : protectAll cs = cs.flatMap escapeChar := by
  rw [protectAll, replaceAll, replaceAll, List.flatMap_assoc]
  apply List.flatMap_congr
  intro c _
  by_cases hslash : c = '\\'
  · subst hslash
    rfl
  · by_cases hcomma : c = ','
    · subst hcomma
      rfl
    · simp [escapeChar, hslash, hcomma]

/-- Where nothing is to be protected, nothing changes. -/
theorem flatMap_escapeChar_of_plain {cs : List Char} (h : ∀ c ∈ cs, c ∉ ['\\', ',']) :
    cs.flatMap escapeChar = cs := by
  have hchar : ∀ c ∈ cs, escapeChar c = [c] := by
    intro c hc
    have hplain : c ≠ '\\' ∧ c ≠ ',' := by simpa using h c hc
    rw [escapeChar, if_neg (by tauto)]
  rw [List.flatMap_congr hchar, List.flatMap_singleton']

theorem toList_escapeName (name : String) :
    (escapeName name).toList = name.toList.flatMap escapeChar := by
  unfold escapeName
  split_ifs with h
  · rw [String.toList_ofList, protectAll_eq_flatMap]
  · exact (flatMap_escapeChar_of_plain (by simpa using h)).symm

theorem comma_notMem_escape {cs : List Char} (h : ',' ∉ cs) : ',' ∉ cs.flatMap escapeChar := by
  intro hmem
  obtain ⟨c, hc, hce⟩ := List.mem_flatMap.1 hmem
  have hne : c ≠ ',' := fun he => h (he ▸ hc)
  rw [escapeChar] at hce
  split_ifs at hce <;> simp [hne.symm] at hce

theorem comma_notMem_valueText (v : Option Value) : ',' ∉ valueText v := by
  cases v with
  | none => exact List.not_mem_nil
  | some v =>
    rw [valueText, List.mem_cons, not_or]
    exact ⟨by decide, v.property⟩

/-- The unit that writes a character: only ordinary characters stand alone. -/
def NameUnit.ofChar (c : Char) : NameUnit :=
  if h : c ≠ ',' ∧ c ≠ '\\' ∧ c ≠ '=' then .plain c h else .escaped c

@[simp] theorem NameUnit.char_ofChar (c : Char) : (NameUnit.ofChar c).char = c := by
  unfold NameUnit.ofChar
  split_ifs <;> rfl

theorem NameUnit.text_ofChar {c : Char} (h : c ≠ '=') :
    (NameUnit.ofChar c).text = escapeChar c := by
  unfold NameUnit.ofChar escapeChar
  by_cases hc : c = ',' ∨ c = '\\'
  · rw [dif_neg (by tauto), if_pos hc]
    rfl
  · rw [dif_pos (by tauto), if_neg hc]
    rfl

theorem nameText_map_ofChar {cs : List Char} (h : '=' ∉ cs) :
    nameText (cs.map NameUnit.ofChar) = cs.flatMap escapeChar := by
  rw [nameText, List.flatMap_map]
  apply List.flatMap_congr
  intro c hc
  exact NameUnit.text_ofChar fun he => h (he ▸ hc)

theorem map_char_map_ofChar (cs : List Char) :
    (cs.map NameUnit.ofChar).map NameUnit.char = cs := by
  rw [List.map_map, show NameUnit.char ∘ NameUnit.ofChar = id from funext NameUnit.char_ofChar,
    List.map_id]

/-! ## Written entries -/

/-- A value as it is written after a name: not at all if it is empty, or if it cannot be. -/
def Value.ofText? (text : List Char) : Option Value :=
  if h : text ≠ [] ∧ ',' ∉ text then some ⟨text, h.2⟩ else none

/-- An entry as a segment. -/
def Segment.ofEntry (e : String × String) : Segment :=
  ⟨e.1.toList.map NameUnit.ofChar, Value.ofText? e.2.toList⟩

theorem toList_entryText {e : String × String} (hv : ',' ∉ e.2.toList) :
    (entryText e).toList =
      e.1.toList.flatMap escapeChar ++ valueText (Value.ofText? e.2.toList) := by
  unfold entryText Value.ofText?
  by_cases he : e.2 = ""
  · rw [if_pos (by simp [he]), dif_neg (by simp [he]), toList_escapeName, valueText,
      List.append_nil]
  · rw [if_neg (by simpa using he), dif_pos ⟨by simpa using he, hv⟩, String.toList_append,
      String.toList_append, toList_escapeName, List.append_assoc]
    rfl

theorem Segment.text_ofEntry {e : String × String} (hk : '=' ∉ e.1.toList)
    (hv : ',' ∉ e.2.toList) : (Segment.ofEntry e).text = (entryText e).toList := by
  rw [toList_entryText hv, Segment.ofEntry, Segment.text, nameText_map_ofChar hk]

theorem Segment.entry_ofEntry {e : String × String} (hv : ',' ∉ e.2.toList) :
    (Segment.ofEntry e).entry = e := by
  have hvalue : (Segment.ofEntry e).value = e.2.toList := by
    unfold Segment.ofEntry Segment.value Value.ofText?
    by_cases he : e.2.toList = []
    · rw [dif_neg (fun h => h.1 he), he]
      rfl
    · rw [dif_pos ⟨he, hv⟩]
      rfl
  rw [Segment.entry, hvalue, Segment.name, Segment.ofEntry, map_char_map_ofChar,
    String.ofList_toList, String.ofList_toList]

/-! ## Written options -/

theorem toList_render (o : Options) :
    o.render.toList = [','].intercalate (o.entries.map fun e => (entryText e).toList) := by
  rw [render, String.toList_intercalate, List.map_map]
  rfl

theorem entryText_eq_empty_iff (e : String × String) : entryText e = "" ↔ e = ("", "") := by
  obtain ⟨k, v⟩ := e
  constructor
  · intro h
    have hname : escapeName k = "" ∧ v = "" := by
      unfold entryText at h
      split_ifs at h with hv
      · exact ⟨h, by simpa using hv⟩
      · simpa using congrArg String.toList h
    have hk : k.toList.flatMap escapeChar = [] := by
      rw [← toList_escapeName, hname.1]
      rfl
    cases hks : k.toList with
    | nil => rw [String.toList_eq_nil_iff.1 hks, hname.2]
    | cons c cs =>
      rw [hks, List.flatMap_cons, escapeChar] at hk
      split_ifs at hk <;> simp at hk
  · rintro ⟨⟩
    decide

/-- Only the empty map and the one with a single empty name and value have the empty text. -/
theorem render_eq_empty_iff (o : Options) :
    o.render = "" ↔ o = ∅ ∨ o = TextMap.ofList [("", "")] := by
  constructor
  · intro h
    match hes : o.entries with
    | [] => exact .inl (TextMap.ext_entries hes)
    | [e] =>
      rw [render, hes, List.map_singleton, String.intercalate_singleton,
        entryText_eq_empty_iff] at h
      exact .inr (TextMap.ext_entries (hes.trans (h ▸ rfl)))
    | e :: e' :: es =>
      rw [render, hes, List.map_cons, List.map_cons, String.intercalate_cons_cons] at h
      simpa using congrArg String.toList h
  · rintro (rfl | rfl)
    · rfl
    · decide

/-! ## Names with equals signs -/

theorem joinedText_append {ss ss' : List Segment} (h : ss ≠ []) (h' : ss' ≠ []) :
    joinedText (ss ++ ss') = joinedText ss ++ ',' :: joinedText ss' := by
  induction ss with
  | nil => exact absurd rfl h
  | cons s ss ih =>
    by_cases hss : ss = []
    · rw [hss, List.singleton_append, joinedText_cons s h', joinedText_singleton]
    · rw [List.cons_append, joinedText_cons s (by simp [hss]), ih hss, joinedText_cons s hss,
        List.append_assoc]
      rfl

/-- A text that falls into segments whose names hold no equals sign. -/
def EqualsFreeText (text : List Char) : Prop :=
  ∃ ss, ss ≠ [] ∧ joinedText ss = text ∧ ∀ s ∈ ss, '=' ∉ s.name

theorem EqualsFreeText.segment {k : List Char} (hk : '=' ∉ k) (v : Option Value) :
    EqualsFreeText (k.flatMap escapeChar ++ valueText v) := by
  refine ⟨[⟨k.map NameUnit.ofChar, v⟩], by simp, ?_, ?_⟩
  · rw [joinedText_singleton, Segment.text, nameText_map_ofChar hk]
  · intro s hs
    rwa [List.mem_singleton.1 hs, Segment.name, map_char_map_ofChar]

theorem EqualsFreeText.append_comma {text text' : List Char} (h : EqualsFreeText text)
    (h' : EqualsFreeText text') : EqualsFreeText (text ++ ',' :: text') := by
  obtain ⟨ss, hss, rfl, hnames⟩ := h
  obtain ⟨ss', hss', rfl, hnames'⟩ := h'
  refine ⟨ss ++ ss', by simp [hss], joinedText_append hss hss', ?_⟩
  intro s hs
  rcases List.mem_append.1 hs with hs | hs
  · exact hnames s hs
  · exact hnames' s hs

/-- A written entry falls into segments whose names hold no equals sign: what comes after the first
equals sign of the name is read as a value up to the next comma, even a protected one, and then a
new segment begins. -/
theorem equalsFreeText_entry (k : List Char) (v : Option Value) :
    EqualsFreeText (k.flatMap escapeChar ++ valueText v) := by
  induction hn : k.length using Nat.strongRecOn generalizing k with
  | ind n ih =>
    by_cases hk : '=' ∈ k
    · obtain ⟨a, b, rfl, ha⟩ := List.eq_append_cons_of_mem hk
      by_cases hb : ',' ∈ b
      · -- the backslash that protects the comma ends the value, and the comma ends the segment
        obtain ⟨b₁, b₂, rfl, hb₁⟩ := List.eq_append_cons_of_mem hb
        have hvalue : ',' ∉ b₁.flatMap escapeChar ++ ['\\'] := by
          simp [comma_notMem_escape hb₁]
        have hlt : b₂.length < n := by
          rw [← hn, List.length_append, List.length_cons, List.length_append, List.length_cons]
          omega
        have htext : (a ++ '=' :: (b₁ ++ ',' :: b₂)).flatMap escapeChar ++ valueText v =
            (a.flatMap escapeChar ++ valueText (some ⟨_, hvalue⟩)) ++
              ',' :: (b₂.flatMap escapeChar ++ valueText v) := by
          simp [escapeChar, valueText]
        rw [htext]
        exact (EqualsFreeText.segment ha _).append_comma (ih b₂.length hlt b₂ rfl)
      · have hvalue : ',' ∉ b.flatMap escapeChar ++ valueText v := by
          rw [List.mem_append, not_or]
          exact ⟨comma_notMem_escape hb, comma_notMem_valueText v⟩
        have htext : (a ++ '=' :: b).flatMap escapeChar ++ valueText v =
            a.flatMap escapeChar ++ valueText (some ⟨_, hvalue⟩) := by
          simp [escapeChar, valueText]
        rw [htext]
        exact .segment ha _
    · exact .segment hk v

theorem equalsFreeText_entries {es : List (String × String)} (hes : es ≠ [])
    (hv : ∀ e ∈ es, ',' ∉ e.2.toList) :
    EqualsFreeText ([','].intercalate (es.map fun e => (entryText e).toList)) := by
  induction es with
  | nil => exact absurd rfl hes
  | cons e es ih =>
    obtain ⟨hve, hv⟩ := List.forall_mem_cons.1 hv
    have he : EqualsFreeText (entryText e).toList := by
      rw [toList_entryText hve]
      exact equalsFreeText_entry _ _
    by_cases hes' : es = []
    · subst hes'
      rwa [List.map_singleton, List.intercalate_singleton]
    · rw [List.map_cons, List.intercalate_cons_of_ne_nil (by simpa using hes'), List.append_assoc]
      exact he.append_comma (ih hes' hv)

/-- Where no value holds a comma, no name that is read back holds an equals sign. -/
theorem equalsFreeNames_parse_render {o : Options} (hv : CommaFreeValues o) :
    EqualsFreeNames (parse o.render) := by
  intro e he
  by_cases hr : o.render = ""
  · rw [hr] at he
    cases he
  · have hes : o.entries ≠ [] := fun h => hr (by rw [render, h]; rfl)
    obtain ⟨ss, hss, htext, hnames⟩ := equalsFreeText_entries hes hv
    rw [parse_ne_empty hr, toList_render, ← htext, segments_joinedText hss] at he
    obtain ⟨s, hs, rfl⟩ := List.mem_map.1 (TextMap.mem_of_mem_entries_ofList he)
    rw [Segment.entry, String.toList_ofList]
    exact hnames s hs

/-- An equals sign ends the name and a comma the segment, also where the comma was protected. -/
example : parse (render (TextMap.ofList [("a=b,c", "")])) =
    TextMap.ofList [("a", "b\\"), ("c", "")] := by
  cbv

/-! ## Main theorem -/

/-- Written entries with commas between them are read back one by one. -/
theorem segments_entryTexts {es : List (String × String)} (hne : es ≠ [])
    (hk : ∀ e ∈ es, '=' ∉ e.1.toList) (hv : ∀ e ∈ es, ',' ∉ e.2.toList) :
    segments ([','].intercalate (es.map fun e => (entryText e).toList)) = es :=
  segments_intercalate hne fun e he =>
    ⟨Segment.ofEntry e, Segment.text_ofEntry (hk e he) (hv e he), Segment.entry_ofEntry (hv e he)⟩

theorem segments_render {o : Options} (hne : o.entries ≠ []) (hk : EqualsFreeNames o)
    (hv : CommaFreeValues o) : segments o.render.toList = o.entries := by
  rw [toList_render, segments_entryTexts hne hk hv]

theorem parse_render {o : Options} (hk : EqualsFreeNames o) (hv : CommaFreeValues o)
    (hne : o ≠ TextMap.ofList [("", "")]) : parse o.render = o := by
  by_cases hr : o.render = ""
  · rcases (render_eq_empty_iff o).1 hr with ho | ho
    · rw [ho]
      rfl
    · exact absurd ho hne
  · have hes : o.entries ≠ [] := fun h => hr (by rw [render, h]; rfl)
    rw [parse_ne_empty hr, segments_render hes hk hv, TextMap.ofList_entries]

/-- **The domain of the round trip.** Options come back unchanged from their text exactly if no name
holds an equals sign, no value holds a comma, and they are not a single empty name without a value.
-/
theorem parse_render_eq_self_iff (o : Options) :
    parse o.render = o ↔
      EqualsFreeNames o ∧ CommaFreeValues o ∧ o ≠ TextMap.ofList [("", "")] := by
  constructor
  · intro h
    have hv : CommaFreeValues o := h ▸ commaFreeValues_parse o.render
    refine ⟨h ▸ equalsFreeNames_parse_render hv, hv, ?_⟩
    rintro rfl
    rw [(render_eq_empty_iff _).2 (.inr rfl)] at h
    exact absurd h (by decide)
  · rintro ⟨hk, hv, hne⟩
    exact parse_render hk hv hne

end FuseMount.Options
