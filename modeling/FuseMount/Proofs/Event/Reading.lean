import FuseMount.Event.Filter
import FuseMount.Proofs.Text.Encoding
import FuseMount.Proofs.Text.Trim

/-!
# When a filter can be read to its end

The parts of a directive are found in its text without the blanks around it, but are cut out of the
whole text at the same places. If blanks are missing at the beginning, a place between two characters
of the one text may be inside a character of the other. Otherwise the two texts are in step: at each
place they have characters of as many bytes. So it takes a blank before a directive, and a character
of more than one byte in it, for the reading to stop inside a character.

Results:

* `isBoundary_encode`: a text begins at a boundary.
* `safe_step`, `safe_foldlM_step`: texts in step stay in step.
* `safe_parse`: a directive that can be read to its end.
* `exists_of_parse_eq_insideCharacter`: what it takes for a filter not to be.
-/

namespace FuseMount

/-! ## Boundaries -/

namespace Utf8

/-- No character begins with a byte that another one goes on with. -/
theorem isBoundary_utf8EncodeChar_append (c : Char) (bytes : Bytes) :
    isBoundary (String.utf8EncodeChar c ++ bytes) := by
  have hlead : lead c.toNat < 0x80 ∨ 0xC0 ≤ lead c.toNat := by
    unfold lead tailLength
    split_ifs <;> simp [leadMark] <;> omega
  rw [utf8EncodeChar_eq, List.cons_append, isBoundary, Bool.or_eq_true, decide_eq_true_eq,
    decide_eq_true_eq, UInt8.lt_iff_toNat_lt, UInt8.le_iff_toNat_le,
    UInt8.toNat_ofNat_of_lt' (lead_lt (toNat_lt c))]
  exact hlead

theorem encode_ofList_cons (c : Char) (cs : List Char) :
    encode (String.ofList (c :: cs)) = String.utf8EncodeChar c ++ encode (String.ofList cs) := by
  simp [encode]

theorem encode_ofList_append (cs ds : List Char) :
    encode (String.ofList (cs ++ ds)) = encode (String.ofList cs) ++ encode (String.ofList ds) := by
  simp [encode]

theorem isBoundary_encode (s : String) : isBoundary (encode s) := by
  rw [encode]
  cases s.toList with
  | nil => rfl
  | cons c cs => exact isBoundary_utf8EncodeChar_append c _

end Utf8

namespace Directive

/-! ## Readers between characters -/

/-- A computation does not stop inside a character, and its result has a property. -/
def Safe {α : Type} (P : α → Prop) : Except Filter.Stop α → Prop
  | .ok a => P a
  | .error stop => stop ≠ .insideCharacter

theorem Safe.bind {α β : Type} {P : α → Prop} {Q : β → Prop} {x : Except Filter.Stop α}
    {f : α → Except Filter.Stop β} (h : Safe P x) (hf : ∀ a, P a → Safe Q (f a)) :
    Safe Q (x >>= f) := by
  cases x with
  | ok a => exact hf a h
  | error stop => exact h

theorem safe_fault {α : Type} {P : α → Prop} (fault : Filter.Fault) :
    Safe P (.error (.fault fault)) := by
  simp [Safe]

/-- Two texts have characters of as many bytes at the same places, as long as both last. -/
def InStep (cs ds : List Char) : Prop :=
  ∀ p ∈ cs.zip ds, p.1.utf8Size = p.2.utf8Size

/-- A reader is between two characters of the whole text: those of the part so far are before it,
and the given ones after it. -/
structure Reader.At (r : Reader) (after : List Char) : Prop where
  exists_bytes_eq : ∃ before : List Char, r.bytes.reverse = Utf8.encode (String.ofList before)
  ahead_eq : r.ahead = Utf8.encode (String.ofList after)

theorem partText_encode (before after : List Char) :
    partText (Utf8.encode (String.ofList before)) (Utf8.encode (String.ofList after)) =
      .ok (String.ofList before) := by
  rw [partText, Utf8.decode?_encode]
  exact if_pos (Utf8.isBoundary_encode _)

section

variable {r : Reader} {after : List Char}

theorem Reader.At.safe_text (h : r.At after) : Safe (fun _ => True) r.text := by
  obtain ⟨before, hbytes⟩ := h.exists_bytes_eq
  rw [Reader.text, hbytes, h.ahead_eq, partText_encode]
  trivial

theorem Reader.At.safe_remainder (h : r.At after) : Safe (fun _ => True) r.remainder := by
  obtain ⟨before, hbytes⟩ := h.exists_bytes_eq
  have htext := partText_encode (before ++ after) []
  rw [Utf8.encode_ofList_append] at htext
  rw [Reader.remainder, hbytes, h.ahead_eq]
  exact htext.symm ▸ trivial

/-- The characters of a part are passed over one by one. -/
theorem Reader.At.take (h : r.At after) {c : Char} {cs : List Char} (hstep : InStep (c :: cs) after) :
    (r.take c).At after.tail := by
  obtain ⟨before, hbytes⟩ := h.exists_bytes_eq
  cases after with
  | nil =>
    have hahead : r.ahead = [] := h.ahead_eq
    exact ⟨⟨before, by simp [Reader.take, hahead, hbytes]⟩, by simp [Reader.take, hahead, Utf8.encode]⟩
  | cons a after =>
    have hsize : (String.utf8EncodeChar a).length = c.utf8Size :=
      (String.length_utf8EncodeChar a).trans (hstep (c, a) List.mem_cons_self).symm
    have hahead := h.ahead_eq
    rw [Utf8.encode_ofList_cons] at hahead
    refine ⟨⟨before ++ [a], ?_⟩, ?_⟩
    · rw [Reader.take, hahead, ← hsize, List.take_left, List.reverse_append, List.reverse_reverse,
        hbytes, Utf8.encode_ofList_append]
      simp [Utf8.encode]
    · rw [Reader.take, hahead, ← hsize, List.drop_left, List.tail_cons]

/-- A mark is passed over as the one byte that it is. -/
theorem Reader.At.enter (h : r.At after) {c : Char} (hc : c.utf8Size = 1) {cs : List Char}
    (hstep : InStep (c :: cs) after) (part : Part) : (r.enter part).At after.tail := by
  have hahead := (h.take hstep).ahead_eq
  rw [Reader.take, hc, List.drop_one] at hahead
  exact ⟨⟨[], rfl⟩, hahead⟩

/-- What is known of the directive does not matter to where its reader is. -/
theorem Reader.At.learn (h : r.At after) (directive : Directive) :
    Reader.At { r with directive } after :=
  ⟨h.exists_bytes_eq, h.ahead_eq⟩

theorem Reader.At.safe_addField (h : r.At after) {part : Part}
    (hnext : (r.enter part).At after.tail) : Safe (·.At after.tail) (r.addField part) := by
  refine h.safe_text.bind fun text _ => ?_
  by_cases hempty : text.isEmpty
  · rw [if_pos hempty]
    exact safe_fault _
  · rw [if_neg hempty]
    cases hfield : FieldDemand.parse text with
    | error fault => exact safe_fault fault
    | ok field => exact hnext.learn _

/-- **A character is read safely** by a reader between two characters, which is so again after it. -/
theorem safe_step (h : r.At after) {c : Char} {cs : List Char} (hstep : InStep (c :: cs) after) :
    Safe (·.At after.tail) (r.step c) := by
  have htake := h.take hstep
  have hmark (hc : c.utf8Size = 1) (part : Part) : (r.enter part).At after.tail :=
    h.enter hc hstep part
  unfold Reader.step
  split
  · exact hmark rfl .span
  · split_ifs
    · exact ⟨htake.exists_bytes_eq, htake.ahead_eq⟩
    · exact safe_fault _
  · exact h.safe_text.bind fun _ _ => (hmark rfl .level).learn _
  · exact h.safe_text.bind fun _ _ => (hmark rfl .span).learn _
  · exact htake
  · exact h.safe_text.bind fun _ _ => (hmark rfl .spanEnd).learn _
  · exact h.safe_text.bind fun _ _ => (hmark rfl .field).learn _
  · exact htake
  · exact h.safe_addField (hmark rfl .fieldsEnd)
  · exact htake
  · exact hmark rfl .spanEnd
  · exact safe_fault _
  · exact hmark rfl .level
  · exact safe_fault _
  · exact htake

theorem InStep.tail {c : Char} {cs ds : List Char} (h : InStep (c :: cs) ds) :
    InStep cs ds.tail := by
  cases ds with
  | nil => simp [InStep]
  | cons d ds => exact fun p hp => h p (List.mem_cons_of_mem _ hp)

/-- A text is read safely as long as the whole text is in step with it. -/
theorem safe_foldlM_step (h : r.At after) {cs : List Char} (hstep : InStep cs after) :
    Safe (fun r' => ∃ rest, r'.At rest) (cs.foldlM Reader.step r) := by
  induction cs generalizing r after with
  | nil => exact ⟨after, h⟩
  | cons c cs ih =>
    rw [List.foldlM_cons]
    exact (safe_step h hstep).bind fun r' hr' => ih hr' hstep.tail

theorem safe_finish (h : r.At after) : Safe (fun _ => True) r.finish := by
  unfold Reader.finish
  split
  · refine h.safe_remainder.bind fun text _ => ?_
    split <;> trivial
  · refine h.safe_remainder.bind fun text _ => ?_
    split_ifs
    · trivial
    · split
      · trivial
      · exact safe_fault _
  · trivial
  · exact safe_fault _

end

/-! ## Directives and filters -/

/-- A directive is read to its end if its text is in step with what is left of it without the blanks
around it. -/
theorem safe_parse {text : List Char} (h : InStep (Text.trim text) text) :
    Safe (fun _ => True) (parse text) := by
  have hstart : Reader.At { ahead := Utf8.encode (String.ofList text) } text := ⟨⟨[], rfl⟩, rfl⟩
  exact (safe_foldlM_step hstart h).bind fun r ⟨rest, hr⟩ => safe_finish hr

theorem inStep_of_prefix {cs ds : List Char} (h : cs <+: ds) : InStep cs ds := by
  obtain ⟨rest, rfl⟩ := h
  intro p hp
  induction cs with
  | nil => simp at hp
  | cons c cs ih =>
    rcases List.mem_cons.1 hp with rfl | hp
    · rfl
    · exact ih hp

theorem inStep_of_ascii {cs ds : List Char} (hc : ∀ c ∈ cs, c.utf8Size = 1)
    (hd : ∀ d ∈ ds, d.utf8Size = 1) : InStep cs ds := by
  intro p hp
  obtain ⟨hleft, hright⟩ := List.of_mem_zip hp
  rw [hc _ hleft, hd _ hright]

/-- Only blanks at the beginning put a text out of step. -/
theorem inStep_trim {text : List Char}
    (h : (∀ c ∈ text.head?, ¬Text.isBlank c) ∨ ∀ c ∈ text, c.utf8Size = 1) :
    InStep (Text.trim text) text := by
  obtain ⟨before, after, heq, hbefore, -⟩ :=
    (Text.trimmed_iff.2 rfl : Text.Trimmed text (Text.trim text)).exists_eq
  rcases h with hhead | hascii
  · cases before with
    | nil => exact inStep_of_prefix ⟨after, heq.symm⟩
    | cons b before =>
      rw [heq] at hhead
      exact absurd (hbefore b List.mem_cons_self) (hhead b rfl)
  · refine inStep_of_ascii (fun c hc => hascii c ?_) hascii
    rw [heq]
    exact List.mem_append_left _ (List.mem_append_right _ hc)

theorem safe_mapM_parse {parts : List (List Char)}
    (h : ∀ part ∈ parts, InStep (Text.trim part) part) :
    Safe (fun _ => True) (parts.mapM parse) := by
  induction parts with
  | nil => trivial
  | cons part parts ih =>
    obtain ⟨hpart, hparts⟩ := List.forall_mem_cons.1 h
    rw [List.mapM_cons]
    exact (safe_parse hpart).bind fun _ _ => (ih hparts).bind fun _ _ => trivial

end Directive

/-- **What it takes for a filter not to be read to its end**: a directive that begins with a blank
and has a character of more than one byte. -/
theorem Filter.exists_of_parse_eq_insideCharacter {text : String}
    (h : parse text = .error .insideCharacter) :
    ∃ part ∈ text.toList.splitOn ',',
      (∃ c ∈ part.head?, Text.isBlank c) ∧ ∃ c ∈ part, 1 < c.utf8Size := by
  by_contra hnone
  simp only [not_exists, not_and, not_lt] at hnone
  have hsafe : Directive.Safe (fun _ => True) (parse text) := by
    refine (Directive.safe_mapM_parse fun part hpart => Directive.inStep_trim ?_).bind
      fun _ _ => trivial
    have hmem := (List.mem_filter.1 hpart).1
    by_cases hblank : ∃ c ∈ part.head?, Text.isBlank c
    · exact .inr fun c hc => Nat.le_antisymm (hnone part hmem hblank c hc) c.utf8Size_pos
    · exact .inl fun c hc hc' => hblank ⟨c, hc, hc'⟩
  rw [h] at hsafe
  exact hsafe rfl

end FuseMount
