import FuseMount.Failure
import FuseMount.Proofs.TextMap.Lookup
import Mathlib.Data.List.Basic

/-!
# What a trace tells

A trace has a line for each message and one for each value, without any quotes. Still nothing is
lost in it: as long as no text breaks a line and no name holds a space, the trace of a failure is
that of no other failure. For a line begins with an arrow or with blanks, whatever stands behind
that, and the first space behind a name ends the name.

Results:

* `ended_inj`: a text tells its lines.
* `valueLine_inj`: a line tells the name and the value.
* `traceLines_append_inj`: lines tell a cause, and where it ends.
* `trace_inj`: a trace tells the failure.
-/

namespace FuseMount

/-! ## Specification -/

/-- A cause whose trace can be read: no text in it breaks a line, and the names are words, as
identifiers are. -/
structure Cause.Legible (cause : Cause) : Prop where
  break_notMem_message : '\n' ∉ cause.message.toList
  break_notMem_name : ∀ e ∈ cause.values.entries, '\n' ∉ e.1.toList
  space_notMem_name : ∀ e ∈ cause.values.entries, ' ' ∉ e.1.toList
  break_notMem_value : ∀ e ∈ cause.values.entries, '\n' ∉ e.2.toList

theorem Cause.legible_iff (cause : Cause) :
    cause.Legible ↔ '\n' ∉ cause.message.toList ∧ ∀ e ∈ cause.values.entries,
      '\n' ∉ e.1.toList ∧ ' ' ∉ e.1.toList ∧ '\n' ∉ e.2.toList :=
  ⟨fun h => ⟨h.1, fun e he => ⟨h.2 e he, h.3 e he, h.4 e he⟩⟩,
    fun h => ⟨h.1, fun e he => (h.2 e he).1, fun e he => (h.2 e he).2.1,
      fun e he => (h.2 e he).2.2⟩⟩

instance (cause : Cause) : Decidable cause.Legible :=
  decidable_of_iff' _ cause.legible_iff

/-- A failure whose trace can be read. -/
def Failure.Legible (f : Failure) : Prop :=
  ∀ cause ∈ f.causes, cause.Legible

instance (f : Failure) : Decidable f.Legible :=
  inferInstanceAs (Decidable (∀ cause ∈ f.causes, cause.Legible))

/-! ## Lines -/

/-- A text up to the first mark tells the text before the mark and the one after it. -/
theorem append_mark_inj {mark : Char} {l l' r r' : List Char} (h : mark ∉ l) (h' : mark ∉ l')
    (heq : l ++ mark :: r = l' ++ mark :: r') : l = l' ∧ r = r' := by
  induction l generalizing l' with
  | nil =>
    cases l' with
    | nil => exact ⟨rfl, (List.cons.inj heq).2⟩
    | cons c' l' => exact absurd ((List.cons.inj heq).1 ▸ List.mem_cons_self) h'
  | cons c l ih =>
    cases l' with
    | nil => exact absurd ((List.cons.inj heq).1 ▸ List.mem_cons_self) h
    | cons c' l' =>
      obtain ⟨hc, htail⟩ := List.cons.inj heq
      obtain ⟨rfl, rfl⟩ :=
        ih (mt (List.mem_cons_of_mem c) h) (mt (List.mem_cons_of_mem c') h') htail
      exact ⟨hc ▸ rfl, rfl⟩

/-- A text of lines, each of which has an end. -/
def ended (lines : List (List Char)) : List Char :=
  lines.flatMap (· ++ ['\n'])

theorem ended_cons (l : List Char) (ls : List (List Char)) :
    ended (l :: ls) = l ++ '\n' :: ended ls := by
  rw [ended, List.flatMap_cons, List.append_assoc]
  rfl

/-- A text tells its lines, if nothing in them breaks a line. -/
theorem ended_inj {ls ls' : List (List Char)} (h : ∀ l ∈ ls, '\n' ∉ l)
    (h' : ∀ l ∈ ls', '\n' ∉ l) (heq : ended ls = ended ls') : ls = ls' := by
  induction ls generalizing ls' with
  | nil =>
    cases ls' with
    | nil => rfl
    | cons l' ls' => simp [ended] at heq
  | cons l ls ih =>
    cases ls' with
    | nil => simp [ended] at heq
    | cons l' ls' =>
      obtain ⟨hl, hls⟩ := List.forall_mem_cons.1 h
      obtain ⟨hl', hls'⟩ := List.forall_mem_cons.1 h'
      rw [ended_cons, ended_cons] at heq
      obtain ⟨rfl, htail⟩ := append_mark_inj hl hl' heq
      rw [ih hls hls' htail]

/-! ## The lines of a trace -/

/-- The line for a message, without its end. -/
def messageLine (message : String) : List Char :=
  "-> ".toList ++ message.toList

/-- The line for a value, without its end. -/
def valueLine (e : String × String) : List Char :=
  "   ".toList ++ (e.1.toList ++ ' ' :: ("= ".toList ++ e.2.toList))

/-- The lines for a cause. -/
def Cause.traceLines (cause : Cause) : List (List Char) :=
  messageLine cause.message :: cause.values.entries.map valueLine

theorem Cause.toList_trace (cause : Cause) : cause.trace.toList = ended cause.traceLines := by
  unfold Cause.trace Cause.traceLines ended messageLine valueLine
  simp [List.flatMap_map]

theorem Failure.toList_trace (f : Failure) :
    f.trace.toList = ended (f.causes.flatMap Cause.traceLines) := by
  rw [Failure.trace, String.toList_join, List.flatMap_map, ended, List.flatMap_assoc]
  exact List.flatMap_congr fun cause _ => cause.toList_trace

theorem Cause.Legible.break_notMem {cause : Cause} (h : cause.Legible) :
    ∀ l ∈ cause.traceLines, '\n' ∉ l := by
  rw [Cause.traceLines, List.forall_mem_cons, List.forall_mem_map]
  refine ⟨?_, fun e he => ?_⟩
  · simpa [messageLine] using h.break_notMem_message
  · simpa [valueLine] using ⟨h.break_notMem_name e he, h.break_notMem_value e he⟩

/-! ## From lines to causes -/

theorem messageLine_inj {message message' : String}
    (h : messageLine message = messageLine message') : message = message' :=
  String.toList_inj.1 (List.append_cancel_left h)

/-- The first space behind the name ends the name. -/
theorem valueLine_inj {e e' : String × String} (h : ' ' ∉ e.1.toList) (h' : ' ' ∉ e'.1.toList)
    (heq : valueLine e = valueLine e') : e = e' := by
  obtain ⟨hname, hvalue⟩ := append_mark_inj h h' (List.append_cancel_left heq)
  exact Prod.ext (String.toList_inj.1 hname) (String.toList_inj.1 (List.append_cancel_left hvalue))

/-- What may come after the lines for a cause: nothing, or the lines for another one. -/
inductive CauseStart : List (List Char) → Prop
  | nil : CauseStart []
  | message (message : String) (rest : List (List Char)) : CauseStart (messageLine message :: rest)

/-- A line for a value does not begin as a line for a message does. -/
theorem CauseStart.ne_valueLine {r : List (List Char)} (h : CauseStart r) (e : String × String)
    (ls : List (List Char)) : r ≠ valueLine e :: ls := by
  cases h with
  | nil => exact nofun
  | message message rest => exact fun heq => nomatch (List.cons.inj heq).1

theorem map_valueLine_append_inj {es es' : List (String × String)} {r r' : List (List Char)}
    (h : ∀ e ∈ es, ' ' ∉ e.1.toList) (h' : ∀ e ∈ es', ' ' ∉ e.1.toList) (hr : CauseStart r)
    (hr' : CauseStart r') (heq : es.map valueLine ++ r = es'.map valueLine ++ r') :
    es = es' ∧ r = r' := by
  induction es generalizing es' with
  | nil =>
    cases es' with
    | nil => exact ⟨rfl, heq⟩
    | cons e' es' => exact absurd heq (hr.ne_valueLine e' _)
  | cons e es ih =>
    cases es' with
    | nil => exact absurd heq.symm (hr'.ne_valueLine e _)
    | cons e' es' =>
      obtain ⟨he, hes⟩ := List.forall_mem_cons.1 h
      obtain ⟨he', hes'⟩ := List.forall_mem_cons.1 h'
      obtain ⟨hline, htail⟩ := List.cons.inj heq
      obtain ⟨rfl, rfl⟩ := ih hes hes' htail
      exact ⟨valueLine_inj he he' hline ▸ rfl, rfl⟩

/-- The lines for a cause tell the cause, and where they end. -/
theorem Cause.traceLines_append_inj {cause cause' : Cause} {r r' : List (List Char)}
    (h : cause.Legible) (h' : cause'.Legible) (hr : CauseStart r) (hr' : CauseStart r')
    (heq : cause.traceLines ++ r = cause'.traceLines ++ r') : cause = cause' ∧ r = r' := by
  obtain ⟨message, values⟩ := cause
  obtain ⟨message', values'⟩ := cause'
  obtain ⟨hmessage, htail⟩ := List.cons.inj heq
  obtain ⟨hentries, rfl⟩ :=
    map_valueLine_append_inj h.space_notMem_name h'.space_notMem_name hr hr' htail
  obtain rfl : message = message' := messageLine_inj hmessage
  obtain rfl : values = values' := TextMap.ext_entries hentries
  exact ⟨rfl, rfl⟩

theorem causeStart_flatMap (causes : List Cause) :
    CauseStart (causes.flatMap Cause.traceLines) := by
  cases causes with
  | nil => exact .nil
  | cons cause causes => exact .message cause.message _

theorem flatMap_traceLines_inj {causes causes' : List Cause} (h : ∀ cause ∈ causes, cause.Legible)
    (h' : ∀ cause ∈ causes', cause.Legible)
    (heq : causes.flatMap Cause.traceLines = causes'.flatMap Cause.traceLines) :
    causes = causes' := by
  induction causes generalizing causes' with
  | nil =>
    cases causes' with
    | nil => rfl
    | cons cause' causes' => cases heq
  | cons cause causes ih =>
    cases causes' with
    | nil => cases heq
    | cons cause' causes' =>
      obtain ⟨hcause, hcauses⟩ := List.forall_mem_cons.1 h
      obtain ⟨hcause', hcauses'⟩ := List.forall_mem_cons.1 h'
      rw [List.flatMap_cons, List.flatMap_cons] at heq
      obtain ⟨rfl, htail⟩ := Cause.traceLines_append_inj hcause hcause'
        (causeStart_flatMap causes) (causeStart_flatMap causes') heq
      rw [ih hcauses hcauses' htail]

/-! ## Main theorem -/

theorem Failure.ext_causes {f g : Failure} (h : f.causes = g.causes) : f = g := by
  obtain ⟨head, sources⟩ := f
  obtain ⟨head', sources'⟩ := g
  obtain ⟨rfl, rfl⟩ := List.cons.inj h
  rfl

/-- **A trace tells its failure.** Of two failures whose traces can be read, each with as many
causes and values as it has, the traces are the same only if all messages and values are. -/
theorem Failure.trace_inj {f g : Failure} (hf : f.Legible) (hg : g.Legible) :
    f.trace = g.trace ↔ f = g := by
  refine ⟨fun h => ?_, congrArg Failure.trace⟩
  have hlines : f.causes.flatMap Cause.traceLines = g.causes.flatMap Cause.traceLines := by
    refine ended_inj ?_ ?_ ?_
    · exact List.forall_mem_flatMap.2 fun cause hcause => (hf cause hcause).break_notMem
    · exact List.forall_mem_flatMap.2 fun cause hcause => (hg cause hcause).break_notMem
    · rw [← f.toList_trace, ← g.toList_trace, h]
  exact Failure.ext_causes (flatMap_traceLines_inj hf hg hlines)

/-- Messages and values that look like lines, and two failures that have the same texts at other
levels. -/
theorem Failure.trace_inj_likeLines :
    let f : Failure := ⟨⟨"-> a", TextMap.ofList [("x", "y = z"), ("_", "")]⟩, [⟨"x = y", ∅⟩]⟩
    let g : Failure := ⟨⟨"-> a", ∅⟩, [⟨"x = y", TextMap.ofList [("x", "y = z"), ("_", "")]⟩]⟩
    f.Legible ∧ g.Legible ∧ f.trace = "-> -> a\n   _ = \n   x = y = z\n-> x = y\n" ∧
      (f.trace = g.trace ↔ f = g) := by
  intro f g
  have hf : f.Legible := by decide +kernel
  have hg : g.Legible := by decide +kernel
  exact ⟨hf, hg, by decide +kernel, Failure.trace_inj hf hg⟩

/-- A message that breaks a line is taken for two causes. -/
example : Failure.trace (.ofMessage "a\n-> b") =
    Failure.trace ((Failure.ofMessage "b").under "a") := by
  decide +kernel

end FuseMount
