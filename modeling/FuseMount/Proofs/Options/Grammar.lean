import FuseMount.Options.Basic
import Mathlib.Data.List.TakeWhile
import Mathlib.Tactic.SplitIfs

/-!
# The grammar of options texts

An options text as a tree. A `Segmentation` is a list of segments, at least one, with commas between
them; a segment is a name and possibly a value; a name is a list of units, each of which is an
ordinary character or a backslash with any character after it; a value is any text without commas.
Only a backslash at the very end of the text may stand alone.

Results:

* `readSegment_text_append`: a written segment is read back, whatever comes after it.
* `segments_joinedText`, `segments_intercalate`: segments with commas between them are read back one
  by one, and so are entries that are written as segments.
* `Segmentation.segments_text`: the segments that are read from the text of a tree are those of the
  tree.
-/

namespace FuseMount.Options

/-! ## Specification -/

/-- A unit of a name as it is written. -/
inductive NameUnit where
  /-- An ordinary character, which stands for itself. -/
  | plain (c : Char) (ordinary : c ≠ ',' ∧ c ≠ '\\' ∧ c ≠ '=')
  /-- A backslash and the character that it protects. -/
  | escaped (c : Char)

namespace NameUnit

/-- The character that a unit stands for. -/
def char : NameUnit → Char
  | plain c _ => c
  | escaped c => c

/-- A unit as it is written. -/
def text : NameUnit → List Char
  | plain c _ => [c]
  | escaped c => ['\\', c]

end NameUnit

/-- A name as it is written. -/
def nameText (units : List NameUnit) : List Char :=
  units.flatMap NameUnit.text

/-- A value: a text without commas. -/
abbrev Value := { text : List Char // ',' ∉ text }

/-- A value as it is written after a name. -/
def valueText : Option Value → List Char
  | none => []
  | some value => '=' :: value.val

/-- A segment: a name and possibly a value. -/
structure Segment where
  /-- The units of the name. -/
  units : List NameUnit
  /-- The value, if there is an equals sign. -/
  value? : Option Value

namespace Segment

/-- A segment as it is written. -/
def text (s : Segment) : List Char :=
  nameText s.units ++ valueText s.value?

/-- The characters of the name. -/
def name (s : Segment) : List Char :=
  s.units.map NameUnit.char

/-- The characters of the value, none if there is no value. -/
def value (s : Segment) : List Char :=
  (s.value?.map Subtype.val).getD []

/-- The name and the value that a segment stands for. -/
def entry (s : Segment) : String × String :=
  (String.ofList s.name, String.ofList s.value)

end Segment

/-- Segments with commas between them. -/
def joinedText (segments : List Segment) : List Char :=
  [','].intercalate (segments.map Segment.text)

/-- An options text as a tree. -/
structure Segmentation where
  /-- The segments before the last one. -/
  init : List Segment
  /-- The last segment, without a lone backslash after it. -/
  last : Segment
  /-- Whether a lone backslash ends the text. -/
  dangling : Bool
  /-- A lone backslash belongs to a name, so there is no value before it. -/
  value?_last : dangling = true → last.value? = none

namespace Segmentation

/-- The lone backslash, if there is one. -/
def ending (t : Segmentation) : List Char :=
  if t.dangling then ['\\'] else []

/-- The text of a tree: the segments with commas between them, and the lone backslash. -/
def text (t : Segmentation) : List Char :=
  joinedText (t.init ++ [t.last]) ++ t.ending

/-- The entry of the last segment. A lone backslash stands for itself. -/
def lastEntry (t : Segmentation) : String × String :=
  (String.ofList (t.last.name ++ t.ending), String.ofList t.last.value)

/-- The entries of all segments, from left to right. -/
def entries (t : Segmentation) : List (String × String) :=
  t.init.map Segment.entry ++ [t.lastEntry]

end Segmentation

theorem Segment.comma_notMem_value (s : Segment) : ',' ∉ (String.ofList s.value).toList := by
  rw [String.toList_ofList, Segment.value]
  cases s.value? with
  | none => exact List.not_mem_nil
  | some v => exact v.property

/-! ## Reading names -/

theorem readName_plain {c : Char} (hc : c ≠ ',' ∧ c ≠ '\\' ∧ c ≠ '=') (cs : List Char) :
    readName (c :: cs) = (c :: (readName cs).1, (readName cs).2) := by
  have hstop : ¬(c = ',' ∨ c = '=') := fun h => h.elim hc.1 hc.2.2
  cases cs with
  | nil => rw [readName.eq_2, if_neg hstop, readName.eq_1]
  | cons d cs => rw [readName, if_neg hstop, if_neg hc.2.1]

theorem readName_escaped (c : Char) (cs : List Char) :
    readName ('\\' :: c :: cs) = (c :: (readName cs).1, (readName cs).2) := by
  rw [readName, if_neg (by decide), if_pos rfl]

theorem readName_stop {c : Char} (hc : c = ',' ∨ c = '=') (cs : List Char) :
    readName (c :: cs) = ([], c :: cs) := by
  cases cs <;> rw [readName, if_pos hc]

theorem readName_lone : readName ['\\'] = (['\\'], []) := rfl

/-- Units are read as their characters, whatever comes after them. -/
theorem readName_nameText_append (us : List NameUnit) (rest : List Char) :
    readName (nameText us ++ rest) =
      (us.map NameUnit.char ++ (readName rest).1, (readName rest).2) := by
  induction us with
  | nil => rfl
  | cons u us ih =>
    rw [nameText, List.flatMap_cons, ← nameText, List.append_assoc]
    cases u with
    | plain c hc =>
      rw [NameUnit.text, List.singleton_append, readName_plain hc, ih]
      rfl
    | escaped c =>
      rw [NameUnit.text, List.cons_append, List.singleton_append, readName_escaped, ih]
      rfl

/-! ## Reading segments -/

/-- What may come after a segment: nothing, or a comma and more. -/
inductive SegmentEnd : List Char → Prop
  | nil : SegmentEnd []
  | comma (rest : List Char) : SegmentEnd (',' :: rest)

theorem SegmentEnd.readName_eq {rest : List Char} (h : SegmentEnd rest) :
    readName rest = ([], rest) := by
  cases h with
  | nil => rfl
  | comma rest => exact readName_stop (.inl rfl) rest

theorem SegmentEnd.dropWhile (cs : List Char) : SegmentEnd (cs.dropWhile (· ≠ ',')) := by
  induction cs with
  | nil => exact .nil
  | cons c cs ih =>
    rw [List.dropWhile_cons]
    split_ifs with hc
    · exact ih
    · have : c = ',' := by simpa using hc
      rw [this]
      exact .comma cs

theorem takeWhile_value {v rest : List Char} (hv : ',' ∉ v) (h : SegmentEnd rest) :
    (v ++ rest).takeWhile (· ≠ ',') = v := by
  rw [List.takeWhile_append_of_pos fun c hc => by simpa using fun he : c = ',' => hv (he ▸ hc)]
  cases h <;> simp

theorem dropWhile_value {v rest : List Char} (hv : ',' ∉ v) (h : SegmentEnd rest) :
    (v ++ rest).dropWhile (· ≠ ',') = rest := by
  rw [List.dropWhile_append_of_pos fun c hc => by simpa using fun he : c = ',' => hv (he ▸ hc)]
  cases h <;> simp

theorem readSegment_text_append (s : Segment) {rest : List Char} (h : SegmentEnd rest) :
    readSegment (s.text ++ rest) = (s.entry, rest) := by
  obtain ⟨us, value?⟩ := s
  rw [readSegment, Segment.text, List.append_assoc, readName_nameText_append]
  cases value? with
  | none =>
    rw [valueText, List.nil_append, h.readName_eq, List.append_nil]
    cases h <;> rfl
  | some v =>
    rw [valueText, List.cons_append, readName_stop (.inr rfl), List.append_nil]
    simp only [takeWhile_value v.property h, dropWhile_value v.property h]
    rfl

theorem readSegment_lone (us : List NameUnit) :
    readSegment (nameText us ++ ['\\']) =
      ((String.ofList (us.map NameUnit.char ++ ['\\']), ""), []) := by
  rw [readSegment, readName_nameText_append, readName_lone]

theorem segments_of_comma {cs rest : List Char} {entry : String × String}
    (h : readSegment cs = (entry, ',' :: rest)) : segments cs = entry :: segments rest := by
  rw [segments]
  split
  · rename_i heq
    rw [h] at heq
    cases heq
    rfl
  · rename_i hne heq
    rw [h] at heq
    cases heq
    exact absurd rfl (hne rest)

theorem segments_of_end {cs : List Char} {entry : String × String}
    (h : readSegment cs = (entry, [])) : segments cs = [entry] := by
  rw [segments]
  split
  · rename_i heq
    rw [h] at heq
    cases heq
  · rename_i heq
    rw [h] at heq
    cases heq
    rfl

theorem joinedText_singleton (s : Segment) : joinedText [s] = s.text :=
  List.intercalate_singleton

theorem joinedText_cons (s : Segment) {ss : List Segment} (h : ss ≠ []) :
    joinedText (s :: ss) = s.text ++ ',' :: joinedText ss := by
  rw [joinedText, List.map_cons, List.intercalate_cons_of_ne_nil (by simpa using h),
    List.append_assoc]
  rfl

/-- A comma after a segment separates it from the rest. -/
theorem segments_text_comma (s : Segment) (rest : List Char) :
    segments (s.text ++ ',' :: rest) = s.entry :: segments rest :=
  segments_of_comma (readSegment_text_append s (.comma rest))

theorem segments_text (s : Segment) : segments s.text = [s.entry] := by
  have h := readSegment_text_append s .nil
  rw [List.append_nil] at h
  exact segments_of_end h

/-- The segments that are read from segments with commas between them are these segments. -/
theorem segments_joinedText {ss : List Segment} (h : ss ≠ []) :
    segments (joinedText ss) = ss.map Segment.entry := by
  induction ss with
  | nil => exact absurd rfl h
  | cons s ss ih =>
    by_cases hss : ss = []
    · rw [hss, joinedText_singleton, segments_text]
      rfl
    · rw [joinedText_cons s hss, segments_text_comma, ih hss]
      rfl

/-- Entries that are written as segments are read back one by one. -/
theorem segments_intercalate {es : List (String × String)} {text : String × String → List Char}
    (hne : es ≠ []) (h : ∀ e ∈ es, ∃ s : Segment, s.text = text e ∧ s.entry = e) :
    segments ([','].intercalate (es.map text)) = es := by
  induction es with
  | nil => exact absurd rfl hne
  | cons e es ih =>
    obtain ⟨⟨s, htext, hentry⟩, hes⟩ := List.forall_mem_cons.1 h
    by_cases hnil : es = []
    · rw [hnil, List.map_singleton, List.intercalate_singleton, ← htext, segments_text, hentry]
    · rw [List.map_cons, List.intercalate_cons_of_ne_nil (by simpa using hnil), List.append_assoc,
        List.singleton_append, ← htext, segments_text_comma, ih hnil hes, hentry]

namespace Segmentation

theorem text_nil (last : Segment) (dangling : Bool) (h : dangling = true → last.value? = none) :
    text ⟨[], last, dangling, h⟩ = last.text ++ if dangling then ['\\'] else [] := by
  rw [text, List.nil_append, joinedText_singleton]
  rfl

theorem text_cons (s : Segment) (init : List Segment) (last : Segment) (dangling : Bool)
    (h : dangling = true → last.value? = none) :
    text ⟨s :: init, last, dangling, h⟩ = s.text ++ ',' :: text ⟨init, last, dangling, h⟩ := by
  rw [text, text, List.cons_append, joinedText_cons s (by simp), List.append_assoc]
  rfl

/-- The segments that are read from the text of a tree are those of the tree. -/
theorem segments_text (t : Segmentation) : segments t.text = t.entries := by
  obtain ⟨init, last, dangling, hvalue⟩ := t
  induction init with
  | nil =>
    rw [text_nil]
    cases dangling with
    | false =>
      rw [if_neg Bool.false_ne_true, List.append_nil, Options.segments_text]
      simp [entries, lastEntry, ending, Segment.entry]
    | true =>
      obtain ⟨us, value?⟩ := last
      cases hvalue rfl
      rw [if_pos rfl, Segment.text, valueText, List.append_nil,
        segments_of_end (readSegment_lone us)]
      rfl
  | cons s init ih =>
    rw [text_cons, segments_text_comma, ih]
    rfl

end Segmentation

end FuseMount.Options
