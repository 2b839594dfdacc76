import FuseMount.Helper
import FuseMount.Proofs.Host.Directories

/-!
# Searching the directories of `PATH`

A host searches `PATH` in two ways that do not ask for the same. To see whether a helper is there it
looks for a file, be it executable or not; to start a program it goes on to the first file that is
executable. On its way it passes over directories where the name is missing or stands for something
that cannot be executed; any other error ends the search.

Results:

* `findInPath_iff`, `findHelper_linux_iff`: which helper is found to be there.
* `search_of_passed`: what a search keeps of a directory that it passes over.
* `exists_search_iff`: when the search for a program finds one.
* `reaches_iff_hasProgram`: it does if there is one, where no path in `PATH` ends a search.
* `exists_calls_start_iff`: when a program that is started is executed.
-/

namespace FuseMount.Host

/-! ## Specification -/

section

variable (host : Host)

/-- A path leads to a file, executable or not. -/
def LeadsToFile (path : Bytes) : Prop :=
  ∃ place node, host.lookUp path = .ok (place, node) ∧ node ≠ .directory

/-- A path leads to a file that can be executed. -/
def LeadsToProgram (path : Bytes) : Prop :=
  ∃ place code diagnostics content,
    host.lookUp path = .ok (place, .programFile true code diagnostics content)

/-- Why nothing is executed at a path that does not lead to a file that can be. -/
def refusal (path : Bytes) : SystemError :=
  match host.lookUp path with
  | .ok _ => .permissionDenied
  | .error e => e

/-- An error other than that a name is missing ends the search at a path. -/
def Blocks (path : Bytes) : Prop :=
  ∃ e, host.lookUp path = .error e ∧ e ≠ .notFound ∧ e ≠ .notADirectory ∧ e ≠ .permissionDenied

/-- A directory of `PATH` has a file of a name. -/
def HasFile (name : Bytes) : Prop :=
  ∃ directory ∈ host.searchPath, host.LeadsToFile (join directory name)

/-- A directory of `PATH` has an executable file of a name. -/
def HasProgram (name : Bytes) : Prop :=
  ∃ directory ∈ host.searchPath, host.LeadsToProgram (join directory name)

/-- A directory in which a program is tried has an executable file of a name, and none of those
before it ends the search. -/
def Reaches (name : Bytes) : Prop :=
  ∃ before directory after, host.programDirectories = before ++ directory :: after ∧
    (∀ d ∈ before, ¬host.Blocks (programPath d name)) ∧
      host.LeadsToProgram (programPath directory name)

/-- A call executes a file of a name in a directory in which a program is tried, with arguments. -/
def Executes (name : Bytes) (arguments : List Bytes) (call : Call) : Prop :=
  ∃ directory ∈ host.programDirectories, ∃ code diagnostics content,
    host.lookUp (programPath directory name) =
        .ok (call.file, .programFile true code diagnostics content) ∧
      call.arguments = arguments

end

variable {host : Host}

/-! ## Files -/

theorem LeadsToProgram.leadsToFile {path : Bytes} (h : host.LeadsToProgram path) :
    host.LeadsToFile path := by
  obtain ⟨place, code, diagnostics, content, hlook⟩ := h
  exact ⟨place, _, hlook, by simp⟩

theorem HasProgram.hasFile {name : Bytes} (h : host.HasProgram name) : host.HasFile name := by
  obtain ⟨directory, hmem, hprogram⟩ := h
  exact ⟨directory, hmem, hprogram.leadsToFile⟩

theorem isFile_iff (path : Bytes) : host.isFile path ↔ host.LeadsToFile path := by
  unfold isFile LeadsToFile
  cases host.lookUp path with
  | error e => simp
  | ok found =>
    obtain ⟨place, node⟩ := found
    cases node with
    | directory => simp
    | file content => exact iff_of_true rfl ⟨place, _, rfl, by simp⟩
    | programFile executable code diagnostics content =>
      exact iff_of_true rfl ⟨place, _, rfl, by simp⟩

instance (path : Bytes) : Decidable (host.LeadsToFile path) :=
  decidable_of_iff _ (isFile_iff path)

instance (name : Bytes) : Decidable (host.HasFile name) :=
  inferInstanceAs
    (Decidable (∃ directory ∈ host.searchPath, host.LeadsToFile (join directory name)))

theorem findInPath_iff (name : Bytes) : host.findInPath name ↔ host.HasFile name := by
  simp only [findInPath, HasFile, List.any_eq_true, isFile_iff]

theorem findHelper_linux_iff (implementation : Implementation) (helper : String) :
    host.findHelper .linux implementation = some helper ↔
      helper = "fusermount3" ∧ host.HasFile (Utf8.encode "fusermount3") ∨
        helper = "fusermount" ∧ ¬host.HasFile (Utf8.encode "fusermount3") ∧
          host.HasFile (Utf8.encode "fusermount") := by
  have hfirst : host.hasHelper "fusermount3" ↔ host.HasFile (Utf8.encode "fusermount3") := by
    rw [← findInPath_iff]
    rfl
  have hsecond : host.hasHelper "fusermount" ↔ host.HasFile (Utf8.encode "fusermount") := by
    rw [← findInPath_iff]
    rfl
  rw [← hfirst, ← hsecond, findHelper, helperCandidates, List.find?_cons, List.find?_cons,
    List.find?_nil]
  cases host.hasHelper "fusermount3" with
  | true =>
    constructor
    · rintro ⟨⟩
      exact .inl ⟨rfl, rfl⟩
    · rintro (⟨rfl, -⟩ | ⟨-, hfirst, -⟩)
      · rfl
      · exact absurd rfl hfirst
  | false =>
    cases host.hasHelper "fusermount" with
    | true =>
      constructor
      · rintro ⟨⟩
        exact .inr ⟨rfl, Bool.false_ne_true, rfl⟩
      · rintro (⟨-, ⟨⟩⟩ | ⟨rfl, -, -⟩)
        rfl
    | false =>
      refine iff_of_false (fun h => nomatch h) ?_
      rintro (⟨-, ⟨⟩⟩ | ⟨-, -, ⟨⟩⟩)

/-! ## Programs -/

instance (path : Bytes) : Decidable (host.LeadsToProgram path) :=
  match h : host.lookUp path with
  | .ok (place, .programFile true code diagnostics content) =>
    .isTrue ⟨place, code, diagnostics, content, h⟩
  | .ok (_, .programFile false ..) | .ok (_, .file _) | .ok (_, .directory) | .error _ =>
    .isFalse fun ⟨_, _, _, _, hlook⟩ => nomatch h.symm.trans hlook

instance (path : Bytes) : Decidable (host.Blocks path) :=
  match h : host.lookUp path with
  | .ok _ => .isFalse fun ⟨_, hlook, _⟩ => nomatch h.symm.trans hlook
  | .error e =>
    decidable_of_iff (e ≠ .notFound ∧ e ≠ .notADirectory ∧ e ≠ .permissionDenied)
      ⟨fun hne => ⟨e, h, hne⟩, fun ⟨_, hlook, hne⟩ => Except.error.inj (h.symm.trans hlook) ▸ hne⟩

instance (name : Bytes) : Decidable (host.HasProgram name) :=
  inferInstanceAs
    (Decidable (∃ directory ∈ host.searchPath, host.LeadsToProgram (join directory name)))

/-- A path that is too long ends a search. -/
theorem blocks_of_long {path : Bytes} (h : pathLimit ≤ path.length) : host.Blocks path := by
  by_cases hnul : path.contains 0
  · exact ⟨.nulInPath, by rw [lookUp, locate, if_pos hnul]; rfl, by simp, by simp, by simp⟩
  · have hpath : path ≠ [] := by
      rintro rfl
      exact absurd h (by decide)
    exact ⟨.nameTooLong, by rw [lookUp, locate, if_neg hnul, if_neg hpath, if_pos h]; rfl, by simp,
      by simp, by simp⟩

theorem LeadsToFile.length_lt {path : Bytes} (h : host.LeadsToFile path) :
    path.length < pathLimit := by
  refine Nat.not_le.1 fun hlong => ?_
  obtain ⟨e, herror, -⟩ : host.Blocks path := blocks_of_long hlong
  obtain ⟨place, node, hlook, -⟩ := h
  cases herror.symm.trans hlook

/-- Where no search ends, a path that is tried leads to what was looked for. -/
theorem lookUp_programPath_of_not_blocks {directory name : Bytes}
    (h : ¬host.Blocks (programPath directory name)) :
    host.lookUp (programPath directory name) = host.lookUp (join directory name) :=
  host.lookUp_programPath (Nat.not_le.1 (mt blocks_of_long h))

/-- Where no path in `PATH` ends a search, the directories of `PATH` are tried as they are. -/
theorem programDirectories_eq_searchPath {name : Bytes} (hpath : host.searchPath ≠ [])
    (h : ∀ d ∈ host.searchPath, ¬host.Blocks (programPath d name)) :
    host.programDirectories = host.searchPath := by
  obtain ⟨directory, hmem⟩ := List.exists_mem_of_ne_nil _ hpath
  rw [programDirectories_of_mem hmem]
  refine triedDirectories_eq_self fun d hd => ?_
  have hshort : (programPath d name).length < pathLimit :=
    Nat.not_le.1 (mt blocks_of_long (h d hd))
  exact Nat.lt_of_le_of_lt (length_le_length_programPath d name) hshort

theorem execute_of_program {path diagnostics content : Bytes} {place : Place} {code : Nat}
    (h : host.lookUp path = .ok (place, .programFile true code diagnostics content))
    (arguments : List Bytes) :
    host.execute path arguments = .ok (⟨place, arguments⟩, ⟨code, diagnostics⟩) := by
  rw [execute, h]
  rfl

theorem execute_of_not_program {path : Bytes} (h : ¬host.LeadsToProgram path)
    (arguments : List Bytes) : host.execute path arguments = .error (host.refusal path) := by
  unfold execute refusal
  cases hlook : host.lookUp path with
  | error e => rfl
  | ok found =>
    match found with
    | (_, .directory) => rfl
    | (_, .file _) => rfl
    | (_, .programFile false ..) => rfl
    | (place, .programFile true code diagnostics content) =>
      exact absurd ⟨place, code, diagnostics, content, hlook⟩ h

theorem refusal_of_lookUp_error {path : Bytes} {e : SystemError} (h : host.lookUp path = .error e) :
    host.refusal path = e := by
  rw [refusal, h]

theorem refusal_of_leadsToFile {path : Bytes} (h : host.LeadsToFile path) :
    host.refusal path = .permissionDenied := by
  obtain ⟨place, node, hlook, -⟩ := h
  rw [refusal, hlook]

theorem refusal_of_not_blocks {path : Bytes} (h : ¬host.Blocks path) :
    host.refusal path = .notFound ∨ host.refusal path = .notADirectory ∨
      host.refusal path = .permissionDenied := by
  cases hlook : host.lookUp path with
  | ok found => exact .inr (.inr (by rw [refusal, hlook]))
  | error e =>
    rw [refusal_of_lookUp_error hlook]
    refine Decidable.byContradiction fun hne => h ⟨e, hlook, ?_⟩
    simpa only [not_or] using hne

section

variable {name directory : Bytes} (arguments : List Bytes) (denied : Bool) (failure : SystemError)
  (rest : List Bytes)

theorem search_of_program {place : Place} {code : Nat} {diagnostics content : Bytes}
    (h : host.lookUp (programPath directory name) =
      .ok (place, .programFile true code diagnostics content)) :
    host.search name arguments denied failure (directory :: rest) =
      .ok (⟨place, arguments⟩, ⟨code, diagnostics⟩) := by
  rw [search, execute_of_program h arguments]

/-- A search that passes over a directory goes on. If it was refused permission there it remembers
just that, and else the error. -/
theorem search_of_passed (hprogram : ¬host.LeadsToProgram (programPath directory name))
    (hblocks : ¬host.Blocks (programPath directory name)) :
    host.search name arguments denied failure (directory :: rest) =
      if host.refusal (programPath directory name) = .permissionDenied then
        host.search name arguments true failure rest
      else
        host.search name arguments denied (host.refusal (programPath directory name)) rest := by
  rw [search, execute_of_not_program hprogram arguments]
  rcases refusal_of_not_blocks hblocks with hrefusal | hrefusal | hrefusal <;>
    simp [hrefusal]

theorem exists_search_of_passed (hprogram : ¬host.LeadsToProgram (programPath directory name))
    (hblocks : ¬host.Blocks (programPath directory name)) :
    ∃ denied' failure', host.search name arguments denied failure (directory :: rest) =
      host.search name arguments denied' failure' rest := by
  rw [search_of_passed arguments denied failure rest hprogram hblocks]
  split_ifs
  · exact ⟨_, _, rfl⟩
  · exact ⟨_, _, rfl⟩

theorem search_of_blocks (h : host.Blocks (programPath directory name)) :
    ∃ e, host.lookUp (programPath directory name) = .error e ∧
      host.search name arguments denied failure (directory :: rest) = .error e := by
  obtain ⟨e, hlook, hfound, hdirectory, hdenied⟩ := h
  refine ⟨e, hlook, ?_⟩
  have hprogram : ¬host.LeadsToProgram (programPath directory name) := by
    rintro ⟨_, _, _, _, hfile⟩
    cases hlook.symm.trans hfile
  rw [search, execute_of_not_program hprogram, refusal_of_lookUp_error hlook]
  cases e <;> simp_all

end

/-- The search finds a program exactly if there is one that no directory before it hides. -/
theorem exists_search_iff (name : Bytes) (arguments : List Bytes) (denied : Bool)
    (failure : SystemError) (directories : List Bytes) :
    (∃ started, host.search name arguments denied failure directories = .ok started) ↔
      ∃ before directory after, directories = before ++ directory :: after ∧
        (∀ d ∈ before, ¬host.Blocks (programPath d name)) ∧
          host.LeadsToProgram (programPath directory name) := by
  induction directories generalizing denied failure with
  | nil => simp [search]
  | cons directory rest ih =>
    by_cases hprogram : host.LeadsToProgram (programPath directory name)
    · obtain ⟨place, code, diagnostics, content, hlook⟩ := hprogram
      exact iff_of_true ⟨_, search_of_program arguments denied failure rest hlook⟩
        ⟨[], directory, rest, rfl, by simp, place, code, diagnostics, content, hlook⟩
    · by_cases hblocks : host.Blocks (programPath directory name)
      · obtain ⟨e, -, hsearch⟩ := search_of_blocks arguments denied failure rest hblocks
        rw [hsearch]
        refine iff_of_false (by simp) ?_
        rintro ⟨_ | ⟨d, before⟩, directory', after, heq, hbefore, hfound⟩
        · cases heq
          exact hprogram hfound
        · cases heq
          exact hbefore _ List.mem_cons_self hblocks
      · obtain ⟨denied', failure', hsearch⟩ :=
          exists_search_of_passed arguments denied failure rest hprogram hblocks
        rw [hsearch, ih]
        constructor
        · rintro ⟨before, directory', after, rfl, hbefore, hfound⟩
          exact ⟨directory :: before, directory', after, rfl,
            List.forall_mem_cons.2 ⟨hblocks, hbefore⟩, hfound⟩
        · rintro ⟨_ | ⟨d, before⟩, directory', after, heq, hbefore, hfound⟩
          · cases heq
            exact absurd hfound hprogram
          · cases heq
            exact ⟨before, directory', after, rfl, (List.forall_mem_cons.1 hbefore).2, hfound⟩

/-! ## Starting a program -/

/-- A file of the name in `PATH` is there only where there is a `PATH`. -/
theorem HasFile.searchPath_ne_nil {name : Bytes} (h : host.HasFile name) :
    host.searchPath ≠ [] := by
  obtain ⟨directory, hmem, -⟩ := h
  exact List.ne_nil_of_mem hmem

/-- Where no path in `PATH` ends a search, exactly a program that is there is found. -/
theorem reaches_iff_hasProgram {name : Bytes} (hpath : host.searchPath ≠ [])
    (h : ∀ d ∈ host.searchPath, ¬host.Blocks (programPath d name)) :
    host.Reaches name ↔ host.HasProgram name := by
  have hlook {d : Bytes} (hd : d ∈ host.searchPath) :
      host.LeadsToProgram (programPath d name) ↔ host.LeadsToProgram (join d name) := by
    simp only [LeadsToProgram, lookUp_programPath_of_not_blocks (h d hd)]
  rw [Reaches, programDirectories_eq_searchPath hpath h]
  constructor
  · rintro ⟨before, directory, after, hsplit, -, hprogram⟩
    have hmem : directory ∈ host.searchPath := hsplit ▸ List.mem_append_cons_self
    exact ⟨directory, hmem, (hlook hmem).1 hprogram⟩
  · rintro ⟨directory, hmem, hprogram⟩
    obtain ⟨before, after, hsplit⟩ := List.append_of_mem hmem
    refine ⟨before, directory, after, hsplit, fun d hd => h d ?_, (hlook hmem).2 hprogram⟩
    exact hsplit ▸ List.mem_append_left _ hd

theorem executes_of_search {name : Bytes} {arguments : List Bytes} {denied : Bool}
    {failure : SystemError} {call : Call} {exit : Exit}
    (h : host.search name arguments denied failure host.programDirectories = .ok (call, exit)) :
    host.Executes name arguments call := by
  obtain ⟨directory, hmem, hexec⟩ := exists_execute_of_search h
  obtain ⟨⟨content, hlook⟩, harguments⟩ := execute_eq_ok hexec
  exact ⟨directory, hmem, exit.code, exit.diagnostics, content, hlook, harguments⟩

/-- Only a file that the arguments can be given to, and that the search finds, is executed. -/
theorem exists_calls_start_iff (name : Bytes) {arguments : List Bytes}
    (harguments : ∀ a ∈ arguments, 0 ∉ a) :
    (∃ call, (host.start name arguments).calls = [call] ∧ host.Executes name arguments call) ↔
      host.Reaches name := by
  have hnul : ¬arguments.any (·.contains 0) := by simpa using harguments
  rw [Reaches, ← exists_search_iff name arguments false host.staleError, start, if_neg hnul]
  cases hsearch : host.search name arguments false host.staleError host.programDirectories with
  | error e =>
    refine iff_of_false ?_ (by simp)
    rintro ⟨call, hcalls, -⟩
    cases hcalls
  | ok started =>
    obtain ⟨call, exit⟩ := started
    exact iff_of_true ⟨call, rfl, executes_of_search hsearch⟩ ⟨_, rfl⟩

end FuseMount.Host
