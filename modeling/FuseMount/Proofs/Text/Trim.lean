import FuseMount.Text.Blank
import Mathlib.Data.List.Basic
import Mathlib.Data.List.TakeWhile

/-!
# Texts without the blanks around them

What `trim` leaves of a text: the part between a beginning and an end of blanks that neither begins
nor ends with a blank itself. There is exactly one such part.

Results:

* `dropWhile_eq_iff`: what is left of a list without the items at its beginning.
* `trimmed_iff`: what is left of a text without the blanks at its two ends.
-/

namespace FuseMount.Text

/-- A text is another one without the blanks at its two ends. -/
structure Trimmed (source text : List Char) : Prop where
  /-- Only blanks are missing, and only around the text. -/
  exists_eq : ∃ before after, source = before ++ text ++ after ∧
    (∀ c ∈ before, isBlank c) ∧ ∀ c ∈ after, isBlank c
  /-- No more blanks are at the beginning. -/
  head_not_blank : ∀ c ∈ text.head?, ¬isBlank c
  /-- No more blanks are at the end. -/
  last_not_blank : ∀ c ∈ text.getLast?, ¬isBlank c

theorem dropWhile_eq_iff {α : Type} {p : α → Bool} {l rest : List α} :
    l.dropWhile p = rest ↔
      ∃ before, l = before ++ rest ∧ (∀ a ∈ before, p a) ∧ ∀ a ∈ rest.head?, ¬p a := by
  constructor
  · rintro rfl
    refine ⟨l.takeWhile p, List.takeWhile_append_dropWhile.symm,
      fun a ha => List.mem_takeWhile_imp ha, fun a ha => ?_⟩
    have hstop := l.head?_dropWhile_not p
    rw [Option.mem_def.1 ha] at hstop
    exact Bool.eq_false_iff.1 hstop
  · rintro ⟨before, rfl, hbefore, hstop⟩
    rw [List.dropWhile_append_of_pos hbefore]
    cases rest with
    | nil => rfl
    | cons a rest => exact List.dropWhile_cons_of_neg (hstop a rfl)

/-- The blanks at the end are those at the beginning of the reversed text. -/
theorem trim_eq_iff {source text : List Char} :
    trim source = text ↔ ∃ before after, source = before ++ text ++ after ∧
      (∀ c ∈ before, isBlank c) ∧ (∀ c ∈ after, isBlank c) ∧
        (∀ c ∈ (text ++ after).head?, ¬isBlank c) ∧ ∀ c ∈ text.getLast?, ¬isBlank c := by
  rw [trim, List.reverse_eq_iff, dropWhile_eq_iff]
  constructor
  · rintro ⟨after, heq, hafter, hlast⟩
    rw [List.reverse_eq_append_iff, List.reverse_reverse, dropWhile_eq_iff] at heq
    obtain ⟨before, rfl, hbefore, hhead⟩ := heq
    refine ⟨before, after.reverse, (List.append_assoc _ _ _).symm, hbefore,
      fun c hc => hafter c (List.mem_reverse.1 hc), hhead, fun c hc => hlast c ?_⟩
    rwa [List.head?_reverse]
  · rintro ⟨before, after, rfl, hbefore, hafter, hhead, hlast⟩
    refine ⟨after.reverse, ?_, fun c hc => hafter c (List.mem_reverse.1 hc), fun c hc => ?_⟩
    · rw [← List.reverse_append, dropWhile_eq_iff.2 ⟨before, List.append_assoc _ _ _, hbefore,
        hhead⟩]
    · rw [List.head?_reverse] at hc
      exact hlast c hc

theorem trimmed_iff {source text : List Char} : Trimmed source text ↔ text = trim source := by
  rw [eq_comm, trim_eq_iff]
  constructor
  · rintro ⟨⟨before, after, heq, hbefore, hafter⟩, hhead, hlast⟩
    cases text with
    | nil =>
      -- all is blank, so that none of it has to be left for the end
      refine ⟨source, [], by simp, fun c hc => ?_, by simp, by simp, by simp⟩
      rw [heq, List.append_nil] at hc
      exact (List.mem_append.1 hc).elim (hbefore c) (hafter c)
    | cons c text => exact ⟨before, after, heq, hbefore, hafter, hhead, hlast⟩
  · rintro ⟨before, after, heq, hbefore, hafter, hhead, hlast⟩
    refine ⟨⟨before, after, heq, hbefore, hafter⟩, fun c hc => hhead c ?_, hlast⟩
    exact List.mem_head?_append_of_mem_head? hc

end FuseMount.Text
