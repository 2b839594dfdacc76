import FuseMount.Text.Terminal
import Mathlib.Data.List.Basic

/-!
# What a file shows of a coloured text

Colours begin and end with a control sequence each, which is a part of the text on its own. A file
shows nothing of it, and the next part is read as if there had been none. So whatever is written in
colours is shown as it would be without them, as long as it holds no control characters itself.

Results:

* `shown_plain`: no control characters but blanks are shown.
* `plainParts_cons`: a part without them is shown in full.
* `plainParts_coloured`: and so it is in a colour.
-/

namespace FuseMount.Terminal

/-- A text that is shown in full. Every character of it stays where no sequence has begun. -/
def Shown (text : String) : Prop :=
  ∀ c ∈ text.toList, State.ground.keeps c

instance (text : String) : Decidable (Shown text) :=
  List.decidableBAll _ text.toList

@[simp] theorem shown_append {s t : String} : Shown (s ++ t) ↔ Shown s ∧ Shown t := by
  simp only [Shown, String.toList_append, List.forall_mem_append]

@[simp] theorem shown_join {texts : List String} :
    Shown (String.join texts) ↔ ∀ text ∈ texts, Shown text := by
  induction texts with
  | nil => simp [Shown]
  | cons text texts ih => rw [String.join_cons, shown_append, ih, List.forall_mem_cons]

/-! ## One character -/

/-- Nothing stays in a sequence that does not stay outside of it. -/
theorem State.keeps_ground {s : State} {c : Char} (h : s.keeps c) : State.ground.keeps c := by
  cases s <;> simp_all [State.keeps]

/-- A character that stays begins no sequence. -/
theorem State.next_ground {c : Char} (h : State.ground.keeps c) :
    State.ground.next c = .ground := by
  have hne : c.toNat ≠ 0x1B := by
    intro hc
    have : c = '\x1b' := Char.toNat_inj.1 hc
    subst this
    exact absurd h (by decide)
  simp [State.next, hne]

theorem Writer.put_of_keeps {w : Writer} (hw : w.state = .ground) {c : Char}
    (hc : State.ground.keeps c) : w.put c = (true, ⟨.ground, true⟩) := by
  obtain ⟨state, passing⟩ := w
  cases hw
  cases passing <;> simp [Writer.put, hc, State.next_ground hc]

/-- Whatever a writer lets pass would stay outside of a sequence. -/
theorem Writer.keeps_of_put {w : Writer} {c : Char} (h : (w.put c).1) : State.ground.keeps c := by
  unfold Writer.put at h
  split at h
  · rename_i hpassing
    exact (Bool.and_eq_true_iff.1 hpassing).2
  · exact State.keeps_ground h

/-! ## One part -/

/-- Outside of a sequence a text is passed on in full, and no sequence has begun after it. -/
theorem Writer.run_of_shown {cs : List Char} (h : ∀ c ∈ cs, State.ground.keeps c) {w : Writer}
    (hw : w.state = .ground) : (w.run cs).1 = cs ∧ (w.run cs).2.state = .ground := by
  -- whether the last character stayed does not matter, as long as no sequence has begun
  induction cs generalizing w with
  | nil => exact ⟨rfl, hw⟩
  | cons c cs ih =>
    obtain ⟨hc, hcs⟩ := List.forall_mem_cons.1 h
    obtain ⟨hleft, hstate⟩ := ih hcs (w := ⟨.ground, true⟩) rfl
    rw [Writer.run, Writer.put_of_keeps hw hc]
    exact ⟨congrArg (c :: ·) hleft, hstate⟩

theorem Writer.keeps_of_mem_run {cs : List Char} {w : Writer} {c : Char} (h : c ∈ (w.run cs).1) :
    State.ground.keeps c := by
  induction cs generalizing w with
  | nil => cases h
  | cons d cs ih =>
    rw [Writer.run] at h
    simp only at h
    split at h
    · rename_i hput
      rcases List.mem_cons.1 h with rfl | h
      · exact Writer.keeps_of_put hput
      · exact ih h
    · exact ih h

/-- Nothing is shown of the sequence that sets a colour. -/
theorem Writer.run_colourStart (colour : Colour) :
    ({} : Writer).run ("\x1b[38;5;" ++ colour.number.repr ++ "m").toList = ([], {}) := by
  cases colour <;> decide +kernel

/-- Nor of the one that takes the colour back. -/
theorem Writer.run_colourEnd : ({} : Writer).run "\x1b[39m".toList = ([], {}) := by
  decide +kernel

/-! ## Several parts -/

theorem plainParts_cons {text : String} (h : Shown text) (parts : List String) :
    plainParts {} (text :: parts) = text.toList ++ plainParts {} parts := by
  obtain ⟨hleft, hstate⟩ := Writer.run_of_shown h (w := {}) rfl
  rw [plainParts, ← hleft]
  simp only [hstate, hleft]

theorem plainParts_sequence {text : String} (h : ({} : Writer).run text.toList = ([], {}))
    (parts : List String) : plainParts {} (text :: parts) = plainParts {} parts := by
  rw [plainParts, h]
  rfl

/-- A text in a colour is shown as the text. -/
theorem plainParts_coloured (colour : Colour) {text : String} (h : Shown text)
    (parts : List String) :
    plainParts {} (coloured colour text ++ parts) = text.toList ++ plainParts {} parts := by
  rw [coloured, List.cons_append, plainParts_sequence (Writer.run_colourStart colour),
    List.cons_append, plainParts_cons h, List.cons_append,
    plainParts_sequence Writer.run_colourEnd, List.nil_append]

theorem keeps_of_mem_plainParts {parts : List String} {w : Writer} {c : Char}
    (h : c ∈ plainParts w parts) : State.ground.keeps c := by
  induction parts generalizing w with
  | nil => cases h
  | cons part parts ih =>
    rw [plainParts] at h
    rcases List.mem_append.1 h with h | h
    · exact Writer.keeps_of_mem_run h
    · exact ih h

/-- What a file shows of a text is shown in full if it is written again. -/
theorem shown_plain (parts : List String) : Shown (plain parts) := by
  intro c hc
  rw [plain, String.toList_ofList] at hc
  exact keeps_of_mem_plainParts hc

end FuseMount.Terminal
