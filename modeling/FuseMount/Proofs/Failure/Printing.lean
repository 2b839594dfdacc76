import FuseMount.Failure
import FuseMount.Proofs.Text.Terminal

/-!
# A failure on a terminal and as a text

A failure is written down in two ways: as the text of its trace, and line by line in colours for the
error stream. Where that stream is no terminal, what is left of the coloured lines is the trace,
unless a message, a name or a value holds a character that such a stream does not show.

Results:

* `plain_lines`: what is left of the lines for one cause.
* `printed_eq_trace_iff`: for which failures the two texts are the same.
* `printed_eq_trace`: they are the same if there are no control characters but blanks.
-/

namespace FuseMount

/-! ## Specification -/

/-- The texts of a cause: its message, and the names and the values that belong to it. -/
def Cause.texts (cause : Cause) : List String :=
  cause.message :: cause.values.entries.flatMap fun (name, value) => [name, value]

/-- The control characters, which are those of the general category `Cc`. -/
def Text.IsControl (c : Char) : Prop :=
  c.toNat < 0x20 ∨ 0x7F ≤ c.toNat ∧ c.toNat < 0xA0

instance (c : Char) : Decidable (Text.IsControl c) :=
  inferInstanceAs (Decidable (_ ∨ _))

/-- The control characters that are blanks: tab, line feed, form feed and carriage return. -/
def Text.blankControls : List Char := ['\t', '\n', '\x0C', '\r']

/-- A text without control characters, save for those that are blanks. -/
def Text.ControlFree (text : String) : Prop :=
  ∀ c ∈ text.toList, Text.IsControl c → c ∈ Text.blankControls

instance (text : String) : Decidable (Text.ControlFree text) :=
  List.decidableBAll _ text.toList

/-- All texts of a cause are shown in full. -/
def Cause.Shown (cause : Cause) : Prop :=
  ∀ text ∈ cause.texts, Terminal.Shown text

theorem Cause.shown_iff (cause : Cause) :
    cause.Shown ↔ Terminal.Shown cause.message ∧
      ∀ e ∈ cause.values.entries, Terminal.Shown e.1 ∧ Terminal.Shown e.2 := by
  unfold Cause.Shown Cause.texts
  simp only [List.forall_mem_cons, List.forall_mem_flatMap]
  simp

/-! ## The lines for one cause -/

/-- The texts around messages, names and values. -/
theorem shown_marks : Terminal.Shown "-> " ∧ Terminal.Shown "   " ∧ Terminal.Shown " = " ∧
    Terminal.Shown "\n" := by
  decide

theorem plain_messageLine {message : String} (h : Terminal.Shown message) :
    Terminal.plain (Terminal.coloured .red "->" ++ [" ", message, "\n"]) =
      "-> " ++ message ++ "\n" := by
  have harrow : Terminal.Shown "->" := by decide
  have hblank : Terminal.Shown " " := by decide
  obtain ⟨-, -, -, hbreak⟩ := shown_marks
  rw [Terminal.plain, Terminal.plainParts_coloured .red harrow, Terminal.plainParts_cons hblank,
    Terminal.plainParts_cons h, Terminal.plainParts_cons hbreak, Terminal.plainParts]
  simp [← String.toList_inj]

theorem plain_valueLine {name value : String} (hname : Terminal.Shown name)
    (hvalue : Terminal.Shown value) :
    Terminal.plain (["   "] ++ Terminal.coloured .blue name ++ [" = "] ++
        Terminal.coloured .green value ++ ["\n"]) =
      "   " ++ name ++ " = " ++ value ++ "\n" := by
  obtain ⟨-, hindent, hequals, hbreak⟩ := shown_marks
  simp only [List.append_assoc, List.cons_append, List.nil_append]
  rw [Terminal.plain, Terminal.plainParts_cons hindent, Terminal.plainParts_coloured .blue hname,
    Terminal.plainParts_cons hequals, Terminal.plainParts_coloured .green hvalue,
    Terminal.plainParts_cons hbreak, Terminal.plainParts]
  simp [← String.toList_inj]

/-- What is left of the lines for a cause are the lines of its trace. -/
theorem plain_lines {cause : Cause} (h : cause.Shown) :
    String.join (cause.lines.map Terminal.plain) = cause.trace := by
  obtain ⟨hmessage, hvalues⟩ := cause.shown_iff.1 h
  rw [Cause.lines, Cause.trace, List.map_cons, String.join_cons, plain_messageLine hmessage,
    List.map_map]
  congr 2
  refine List.map_congr_left fun e he => ?_
  exact plain_valueLine (hvalues e he).1 (hvalues e he).2

/-! ## The lines for all causes -/

theorem Cause.shown_trace_iff (cause : Cause) : Terminal.Shown cause.trace ↔ cause.Shown := by
  obtain ⟨harrow, hindent, hequals, hbreak⟩ := shown_marks
  rw [Cause.shown_iff, Cause.trace]
  simp only [Terminal.shown_append, Terminal.shown_join, List.forall_mem_map, harrow, hindent,
    hequals, hbreak, true_and, and_true]

theorem Failure.shown_trace_iff (f : Failure) :
    Terminal.Shown f.trace ↔ ∀ cause ∈ f.causes, cause.Shown := by
  simp only [Failure.trace, Terminal.shown_join, List.forall_mem_map, Cause.shown_trace_iff]

theorem Failure.shown_printed (f : Failure) : Terminal.Shown f.printed := by
  rw [Failure.printed, Terminal.shown_join, List.forall_mem_map]
  exact fun parts _ => Terminal.shown_plain parts

/-- What is left line by line is what is left cause by cause. -/
theorem Failure.printed_eq_join (f : Failure) :
    f.printed =
      String.join (f.causes.map fun cause => String.join (cause.lines.map Terminal.plain)) := by
  rw [Failure.printed, ← String.toList_inj]
  simp only [String.toList_join, List.flatMap_map, List.flatMap_assoc]

/-- The two texts are the same exactly if every text of the failure is shown in full. -/
theorem Failure.printed_eq_trace_iff (f : Failure) :
    f.printed = f.trace ↔ ∀ cause ∈ f.causes, cause.Shown := by
  constructor
  · intro h
    rw [← f.shown_trace_iff, ← h]
    exact f.shown_printed
  · intro h
    rw [Failure.printed_eq_join, Failure.trace]
    congr 1
    refine List.map_congr_left fun cause hcause => ?_
    exact plain_lines (h cause hcause)

/-! ## Main theorem -/

theorem Text.ControlFree.shown {text : String} (h : Text.ControlFree text) :
    Terminal.Shown text := by
  intro c hc
  by_cases hcontrol : Text.IsControl c
  · have hblank := h c hc hcontrol
    rw [Text.blankControls] at hblank
    simp only [List.mem_cons, List.not_mem_nil, or_false] at hblank
    rcases hblank with rfl | rfl | rfl | rfl <;> decide
  · rw [Text.IsControl] at hcontrol
    have hprintable : 0x20 ≤ c.toNat ∧ c.toNat ≠ 0x7F := by omega
    simp [Terminal.State.keeps, hprintable]

/-- **The two ways of writing a failure down agree.** An error stream that is no terminal shows the
trace of a failure, however many causes it has, if no message, no name and no value holds a control
character that is not a blank. -/
theorem Failure.printed_eq_trace {f : Failure}
    (h : ∀ cause ∈ f.causes, ∀ text ∈ cause.texts, Text.ControlFree text) :
    f.printed = f.trace := by
  rw [Failure.printed_eq_trace_iff]
  exact fun cause hcause text htext => (h cause hcause text htext).shown

/-- A message of two lines, a value that looks like a line of its own, letters that are not ASCII,
and a cause without a message. -/
theorem Failure.printed_eq_trace_twoLines :
    let f : Failure :=
      ⟨⟨"réad\nfailed", TextMap.ofList [("path", "\t-> x = y\r"), ("λ", "")]⟩, [⟨"", ∅⟩]⟩
    (∀ cause ∈ f.causes, ∀ text ∈ cause.texts, Text.ControlFree text) ∧
      f.trace = "-> réad\nfailed\n   path = \t-> x = y\r\n   λ = \n-> \n" ∧
      f.printed = f.trace := by
  intro f
  have hcontrols : ∀ cause ∈ f.causes, ∀ text ∈ cause.texts, Text.ControlFree text := by
    decide +kernel
  exact ⟨hcontrols, by decide +kernel, Failure.printed_eq_trace hcontrols⟩

/-- A control sequence in a message is not shown. -/
example : Failure.printed (.ofMessage "a\x1b[31mb") = "-> ab\n" := by
  decide +kernel

end FuseMount
