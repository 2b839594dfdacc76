import FuseMount.Host
import FuseMount.Proofs.Run.Except
import Mathlib.Tactic.SplitIfs

/-!
# Starting programs

What a host does when it starts a program by its name. Whatever the directories that are tried hold,
at most one file is executed; it has the name that was asked for, it is executable, and it is given
the arguments unchanged.

Results:

* `getLast?_of_locate_programPath`: a name in a directory leads to a place of that name.
* `exists_execute_of_search`: the search finds a file in one of the directories.
* `start_cases`: either nothing is executed and there is an error, or one file is executed and its
  answer is the result.
-/

namespace FuseMount.Host

/-- A name that a file in a directory can have. -/
structure IsFileName (name : Bytes) : Prop where
  ne_nil : name ≠ []
  ne_here : name ≠ Path.here
  ne_above : name ≠ Path.above
  slash_notMem : Path.slash ∉ name

instance (name : Bytes) : Decidable (IsFileName name) :=
  decidable_of_iff (name ≠ [] ∧ name ≠ Path.here ∧ name ≠ Path.above ∧ Path.slash ∉ name)
    ⟨fun ⟨h₁, h₂, h₃, h₄⟩ => ⟨h₁, h₂, h₃, h₄⟩, fun ⟨h₁, h₂, h₃, h₄⟩ => ⟨h₁, h₂, h₃, h₄⟩⟩

/-! ## Places -/

theorem exists_parts_programPath (directory : Bytes) {name : Bytes} (hname : IsFileName name) :
    ∃ parts, Path.parts (programPath directory name) = parts ++ [name] := by
  have hsplit : name.splitOn Path.slash = [name] := List.splitOn_eq_singleton hname.slash_notMem
  unfold Path.parts programPath
  split_ifs
  · exact ⟨[], hsplit⟩
  · exact ⟨directory.splitOn Path.slash, by rw [List.splitOn_append_cons_self, hsplit]⟩

theorem eq_append_of_follow {host : Host} {place place' : Place} {name : Bytes}
    (hname : IsFileName name) (h : host.follow place name = .ok place') :
    place' = place ++ [name] := by
  have hstep : ¬(decide (name = []) || decide (name = Path.here)) = true := by
    simp [hname.ne_nil, hname.ne_here]
  unfold follow at h
  rw [if_neg hstep, if_neg hname.ne_above] at h
  split_ifs at h
  cases h
  rfl

/-- A name in a directory leads to a place of that name. -/
theorem getLast?_of_locate_programPath {host : Host} {directory name : Bytes} {place : Place}
    (hname : IsFileName name) (h : host.locate (programPath directory name) = .ok place) :
    place.getLast? = some name := by
  obtain ⟨parts, hparts⟩ := exists_parts_programPath directory hname
  unfold locate at h
  split_ifs at h
  all_goals
    rw [hparts, List.foldlM_append] at h
    obtain ⟨before, -, h⟩ := bind_eq_ok_iff.1 h
    rw [List.foldlM_cons] at h
    obtain ⟨after, hafter, h⟩ := bind_eq_ok_iff.1 h
    cases h
    rw [eq_append_of_follow hname hafter, List.getLast?_concat]

theorem lookUp_eq_ok {host : Host} {path : Bytes} {place : Place} {node : Node}
    (h : host.lookUp path = .ok (place, node)) :
    host.locate path = .ok place ∧ host.node? place = some node := by
  obtain ⟨place', hplace, h⟩ := bind_eq_ok_iff.1 h
  split at h
  · rename_i node' hnode
    cases h
    exact ⟨hplace, hnode⟩
  · cases h

/-! ## Programs -/

/-- Only an executable program is executed, and with the arguments as they are. -/
theorem execute_eq_ok {host : Host} {path : Bytes} {arguments : List Bytes} {call : Call}
    {exit : Exit} (h : host.execute path arguments = .ok (call, exit)) :
    (∃ content,
      host.lookUp path = .ok (call.file, .programFile true exit.code exit.diagnostics content)) ∧
      call.arguments = arguments := by
  obtain ⟨found, hfound, h⟩ := bind_eq_ok_iff.1 h
  split at h
  · cases h
    exact ⟨⟨_, hfound⟩, rfl⟩
  · cases h

/-- What the search finds was executed in one of the directories. -/
theorem exists_execute_of_search {host : Host} {name : Bytes} {arguments : List Bytes}
    {denied : Bool} {failure : SystemError} {directories : List Bytes} {started : Call × Exit}
    (h : host.search name arguments denied failure directories = .ok started) :
    ∃ directory ∈ directories,
      host.execute (programPath directory name) arguments = .ok started := by
  induction directories generalizing denied failure with
  | nil => cases h
  | cons directory rest ih =>
    rw [search] at h
    have later : ∀ {denied failure}, host.search name arguments denied failure rest = .ok started →
        ∃ d ∈ directory :: rest, host.execute (programPath d name) arguments = .ok started := by
      intro denied failure hrest
      obtain ⟨d, hd, hexec⟩ := ih hrest
      exact ⟨d, List.mem_cons_of_mem _ hd, hexec⟩
    split at h
    · rename_i started' hexec
      cases h
      exact ⟨directory, List.mem_cons_self, hexec⟩
    · exact later h
    · exact later h
    · exact later h
    · cases h

/-- A program that was executed: where its file is, what it was given, and how it ended. -/
structure Executed (host : Host) (name : Bytes) (arguments : List Bytes) (call : Call)
    (exit : Exit) : Prop where
  /-- The file has the name that was asked for. -/
  name_eq : call.file.getLast? = some name
  /-- The file is an executable program with this answer. -/
  node_eq : ∃ content,
    host.node? call.file = some (.programFile true exit.code exit.diagnostics content)
  /-- The program was given these arguments. -/
  arguments_eq : call.arguments = arguments

theorem executed_of_search {host : Host} {name : Bytes} {arguments : List Bytes}
    {denied : Bool} {failure : SystemError} {directories : List Bytes} {call : Call} {exit : Exit}
    (hname : IsFileName name)
    (h : host.search name arguments denied failure directories = .ok (call, exit)) :
    Executed host name arguments call exit := by
  obtain ⟨directory, -, hexec⟩ := exists_execute_of_search h
  obtain ⟨⟨content, hlook⟩, harguments⟩ := execute_eq_ok hexec
  obtain ⟨hlocate, hnode⟩ := lookUp_eq_ok hlook
  exact ⟨getLast?_of_locate_programPath hname hlocate, ⟨content, hnode⟩, harguments⟩

/-- No program is given an argument with a NUL byte. -/
theorem start_of_nul (host : Host) (name : Bytes) {arguments : List Bytes} {argument : Bytes}
    (hmem : argument ∈ arguments) (hnul : 0 ∈ argument) :
    host.start name arguments = ⟨.error .nulInArgument, []⟩ := by
  have hany : arguments.any (·.contains 0) :=
    List.any_eq_true.2 ⟨argument, hmem, List.contains_iff_mem.2 hnul⟩
  rw [start, if_pos hany]
  rfl

/-- Starting a program is an error without any effect, or executes one file. -/
theorem start_cases (host : Host) {name : Bytes} (hname : IsFileName name)
    (arguments : List Bytes) :
    (∃ e, host.start name arguments = ⟨.error e, []⟩) ∨
      ∃ call exit, host.start name arguments = ⟨.ok exit, [.call call]⟩ ∧
        Executed host name arguments call exit := by
  unfold start
  split_ifs
  · exact .inl ⟨.nulInArgument, rfl⟩
  · cases hsearch : host.search name arguments false host.staleError host.programDirectories with
    | error e => exact .inl ⟨e, rfl⟩
    | ok started => exact .inr ⟨started.1, started.2, rfl, executed_of_search hname hsearch⟩

end FuseMount.Host
