import FuseMount.Proofs.Host.Search

/-!
# Starting a program that is there

Where a directory of `PATH` has a file of a name, a program of that name cannot be missing. The
search for it takes the directories in order. It executes the first file that can be executed; if
there is none, permission is refused. Only a path that is too long makes a difference: at such a
path the search ends, whatever the directories after it have.

Results:

* `lookUp_eq_error`, `Blocks.eq_of_lookUp`: which errors a path may lead to, and which of them end a
  search.
* `start_of_passes`: the error of a search that finds nothing.
* `outcome_start`: what comes of starting a program that is there (`Outcome`).
* `Outcome.startsFirst`: where no path is too long, the first file that can be executed is.
-/

namespace FuseMount.Host

/-! ## Specification -/

section

variable (host : Host) (name : Bytes) (arguments : List Bytes)

/-- A search for a name passes over a directory: there is no program, and no error that ends it. -/
def Passes (directory : Bytes) : Prop :=
  ¬host.LeadsToProgram (programPath directory name) ∧ ¬host.Blocks (programPath directory name)

/-- The run executes the first file of a name in `PATH` that can be executed. If there is none, it
is refused permission. -/
inductive StartsFirst : Run (Except SystemError Exit) → Prop
  | executed {before after : List Bytes} {directory : Bytes} {place : Place} {code : Nat}
      {diagnostics content : Bytes} (split : host.searchPath = before ++ directory :: after)
      (first : ∀ d ∈ before, ¬host.LeadsToProgram (join d name))
      (program : host.lookUp (join directory name) =
        .ok (place, .programFile true code diagnostics content)) :
      StartsFirst ⟨.ok ⟨code, diagnostics⟩, [.call ⟨place, arguments⟩]⟩
  | denied (none : ¬host.HasProgram name) : StartsFirst ⟨.error .permissionDenied, []⟩

/-- What comes of starting a program of a name that some file in `PATH` has. -/
inductive Outcome : Run (Except SystemError Exit) → Prop
  /-- The search passes over the directories before a file that can be executed, and executes it. -/
  | executed {before after : List Bytes} {directory : Bytes} {place : Place} {code : Nat}
      {diagnostics content : Bytes} (split : host.programDirectories = before ++ directory :: after)
      (passes : ∀ d ∈ before, host.Passes name d)
      (program : host.lookUp (programPath directory name) =
        .ok (place, .programFile true code diagnostics content)) :
      Outcome ⟨.ok ⟨code, diagnostics⟩, [.call ⟨place, arguments⟩]⟩
  /-- It passes over all directories. -/
  | denied (passes : ∀ d ∈ host.programDirectories, host.Passes name d) :
      Outcome ⟨.error .permissionDenied, []⟩
  /-- It ends at a directory in which the path of the name is too long, or no path at all. -/
  | cutOff {before after : List Bytes} {directory : Bytes} {e : SystemError}
      (split : host.programDirectories = before ++ directory :: after)
      (passes : ∀ d ∈ before, host.Passes name d)
      (bad : host.lookUp (programPath directory name) = .error e)
      (kind : e = .nameTooLong ∨ e = .nulInPath ∧ 0 ∈ programPath directory name) :
      Outcome ⟨.error e, []⟩

end

variable {host : Host} {name : Bytes} {arguments : List Bytes}

/-! ## Errors -/

theorem follow_eq_error {place : Place} {part : Bytes} {e : SystemError}
    (h : host.follow place part = .error e) :
    e = .notADirectory ∨ e = .nameTooLong ∨ e = .notFound := by
  unfold follow at h
  split_ifs at h <;> cases h <;> simp

theorem foldlM_follow_eq_error {place : Place} {parts : List Bytes} {e : SystemError}
    (h : parts.foldlM host.follow place = .error e) :
    e = .notADirectory ∨ e = .nameTooLong ∨ e = .notFound := by
  induction parts generalizing place with
  | nil => cases h
  | cons part parts ih =>
    rw [List.foldlM_cons] at h
    rcases bind_eq_error_iff.1 h with hstep | ⟨place', -, hrest⟩
    · exact follow_eq_error hstep
    · exact ih hrest

/-- Where a path does not lead anywhere, it is no path, or too long, or something is missing. -/
theorem lookUp_eq_error {path : Bytes} {e : SystemError} (h : host.lookUp path = .error e) :
    e = .notFound ∨ e = .notADirectory ∨ e = .nameTooLong ∨ e = .nulInPath ∧ 0 ∈ path := by
  rcases bind_eq_error_iff.1 h with hlocate | ⟨place, -, hnode⟩
  · unfold locate at hlocate
    split_ifs at hlocate with hnul
    · cases hlocate
      exact .inr (.inr (.inr ⟨rfl, List.contains_iff_mem.1 hnul⟩))
    · cases hlocate
      exact .inl rfl
    · cases hlocate
      exact .inr (.inr (.inl rfl))
    all_goals rcases foldlM_follow_eq_error hlocate with rfl | rfl | rfl <;> simp
  · split at hnode
    · cases hnode
    · cases hnode
      exact .inl rfl

/-- A search ends only at a path that is too long, or that is none. -/
theorem Blocks.eq_of_lookUp {path : Bytes} {e : SystemError} (h : host.Blocks path)
    (hlook : host.lookUp path = .error e) : e = .nameTooLong ∨ e = .nulInPath ∧ 0 ∈ path := by
  obtain ⟨e', hlook', hfound, hdirectory, -⟩ := h
  obtain rfl : e = e' := Except.error.inj (hlook.symm.trans hlook')
  exact ((lookUp_eq_error hlook).resolve_left hfound).resolve_left hdirectory

/-! ## Searches -/

instance (directory : Bytes) : Decidable (host.Passes name directory) :=
  inferInstanceAs (Decidable (_ ∧ _))

/-- A search that passes over directories comes to what is after them. -/
theorem search_append_of_passes (arguments : List Bytes) (denied : Bool) (failure : SystemError)
    {before : List Bytes} (h : ∀ d ∈ before, host.Passes name d) (rest : List Bytes) :
    ∃ denied' failure', host.search name arguments denied failure (before ++ rest) =
      host.search name arguments denied' failure' rest := by
  induction before generalizing denied failure with
  | nil => exact ⟨denied, failure, rfl⟩
  | cons directory before ih =>
    obtain ⟨⟨hprogram, hblocks⟩, hbefore⟩ := List.forall_mem_cons.1 h
    obtain ⟨denied', failure', hstep⟩ :=
      exists_search_of_passed arguments denied failure (before ++ rest) hprogram hblocks
    obtain ⟨denied'', failure'', hrest⟩ := ih denied' failure' hbefore
    exact ⟨denied'', failure'', hstep.trans hrest⟩

/-- A search that passes over all directories fails for want of permission if that was refused in
one of them, and else with the error of the last one. -/
theorem search_of_passes (arguments : List Bytes) (denied : Bool) (failure : SystemError)
    {directories : List Bytes} (h : ∀ d ∈ directories, host.Passes name d) :
    host.search name arguments denied failure directories =
      .error (
        if denied ∨ ∃ d ∈ directories, host.refusal (programPath d name) = .permissionDenied then
          .permissionDenied
        else (directories.getLast?.map fun d => host.refusal (programPath d name)).getD failure) := by
  induction directories generalizing denied failure with
  | nil => simp [search]
  | cons directory rest ih =>
    obtain ⟨⟨hprogram, hblocks⟩, hrest⟩ := List.forall_mem_cons.1 h
    rw [search_of_passed arguments denied failure rest hprogram hblocks]
    by_cases hrefusal : host.refusal (programPath directory name) = .permissionDenied
    · rw [if_pos hrefusal, ih true failure hrest, if_pos (.inl rfl),
        if_pos (.inr ⟨directory, List.mem_cons_self, hrefusal⟩)]
    · rw [if_neg hrefusal, ih denied _ hrest]
      simp only [List.mem_cons, exists_eq_or_imp, hrefusal, false_or, List.getLast?_cons,
        Option.map_some, Option.getD_some, Option.getD_map]

/-- Either a search passes over all directories, or there is a first one that it does not. -/
theorem passes_or_exists_first (host : Host) (name : Bytes) (directories : List Bytes) :
    (∀ d ∈ directories, host.Passes name d) ∨
      ∃ before directory after, directories = before ++ directory :: after ∧
        (∀ d ∈ before, host.Passes name d) ∧ ¬host.Passes name directory := by
  cases hfind : directories.find? fun d => ¬host.Passes name d with
  | none => exact .inl (by simpa using hfind)
  | some directory =>
    obtain ⟨hnot, before, after, hsplit, hbefore⟩ := List.find?_eq_some_iff_append.1 hfind
    exact .inr ⟨before, directory, after, hsplit, by simpa using hbefore, by simpa using hnot⟩

/-! ## Starting a program -/

theorem start_of_search_error {e : SystemError} (hnul : ∀ a ∈ arguments, 0 ∉ a)
    (h : host.search name arguments false host.staleError host.programDirectories = .error e) :
    host.start name arguments = ⟨.error e, []⟩ := by
  rw [start, if_neg (by simpa using hnul), h]
  rfl

theorem start_of_search_ok {call : Call} {exit : Exit} (hnul : ∀ a ∈ arguments, 0 ∉ a)
    (h : host.search name arguments false host.staleError host.programDirectories =
      .ok (call, exit)) :
    host.start name arguments = ⟨.ok exit, [.call call]⟩ := by
  rw [start, if_neg (by simpa using hnul), h]
  rfl

/-- Where no directory has a file that can be executed and none ends the search, the error tells
whether permission was refused, and else what was wrong in the last directory. -/
theorem start_of_passes (hnul : ∀ a ∈ arguments, 0 ∉ a)
    (h : ∀ d ∈ host.programDirectories, host.Passes name d) :
    host.start name arguments = ⟨.error (
      if ∃ d ∈ host.programDirectories,
          host.refusal (programPath d name) = .permissionDenied then .permissionDenied
      else (host.programDirectories.getLast?.map fun d =>
        host.refusal (programPath d name)).getD host.staleError), []⟩ := by
  refine start_of_search_error hnul ?_
  rw [search_of_passes arguments false host.staleError h]
  simp only [Bool.false_eq_true, false_or]

/-- A search that passes over a file that is found is refused permission for it. -/
theorem exists_refusal_of_hasFile (hfile : host.HasFile name)
    (h : ∀ d ∈ host.programDirectories, host.Passes name d) :
    ∃ d ∈ host.programDirectories, host.refusal (programPath d name) = .permissionDenied := by
  obtain ⟨directory, hmem, hleads⟩ := hfile
  have htried : directory ∈ host.programDirectories :=
    mem_programDirectories hmem
      (Nat.lt_of_le_of_lt (length_le_length_join directory name) hleads.length_lt)
  refine ⟨directory, htried, refusal_of_leadsToFile ?_⟩
  rw [LeadsToFile, lookUp_programPath_of_not_blocks (h directory htried).2]
  exact hleads

/-- What comes of starting a program of a name that some file has. -/
theorem outcome_start (hfile : host.HasFile name) (hnul : ∀ a ∈ arguments, 0 ∉ a) :
    Outcome host name arguments (host.start name arguments) := by
  rcases passes_or_exists_first host name host.programDirectories with hpasses | hfirst
  · rw [start_of_passes hnul hpasses, if_pos (exists_refusal_of_hasFile hfile hpasses)]
    exact .denied hpasses
  · obtain ⟨before, directory, after, hsplit, hpasses, hnot⟩ := hfirst
    obtain ⟨denied, failure, hsearch⟩ :=
      search_append_of_passes arguments false host.staleError hpasses (directory :: after)
    rw [← hsplit] at hsearch
    by_cases hprogram : host.LeadsToProgram (programPath directory name)
    · obtain ⟨place, code, diagnostics, content, hlook⟩ := hprogram
      have hend := search_of_program arguments denied failure after hlook
      rw [start_of_search_ok hnul (hsearch.trans hend)]
      exact .executed hsplit hpasses hlook
    · have hblocks : host.Blocks (programPath directory name) :=
        Decidable.byContradiction fun hblocks => hnot ⟨hprogram, hblocks⟩
      obtain ⟨e, hlook, hend⟩ := search_of_blocks arguments denied failure after hblocks
      rw [start_of_search_error hnul (hsearch.trans hend)]
      exact .cutOff hsplit hpasses hlook (hblocks.eq_of_lookUp hlook)

section

variable {r : Run (Except SystemError Exit)}

/-- A program that some file has the name of is not missing. -/
theorem Outcome.ne_notFound (h : Outcome host name arguments r) : r.value ≠ .error .notFound := by
  cases h with
  | executed => exact fun heq => nomatch heq
  | denied => exact fun heq => nomatch heq
  | cutOff _ _ _ hkind =>
    rcases hkind with rfl | ⟨rfl, -⟩ <;> exact fun heq => nomatch heq

/-- Where no path in `PATH` ends a search, the first file that can be executed is. -/
theorem Outcome.startsFirst (h : Outcome host name arguments r) (hpath : host.searchPath ≠ [])
    (hblocks : ∀ d ∈ host.searchPath, ¬host.Blocks (programPath d name)) :
    StartsFirst host name arguments r := by
  have hdirectories := programDirectories_eq_searchPath hpath hblocks
  have hlook {d : Bytes} (hd : d ∈ host.searchPath) :
      host.lookUp (programPath d name) = host.lookUp (join d name) :=
    lookUp_programPath_of_not_blocks (hblocks d hd)
  have hfails {d : Bytes} (hd : d ∈ host.searchPath) (hpasses : host.Passes name d) :
      ¬host.LeadsToProgram (join d name) := by
    rw [LeadsToProgram, ← hlook hd]
    exact hpasses.1
  cases h with
  | @executed before _ directory _ _ _ _ hsplit hpasses hprogram =>
    rw [hdirectories] at hsplit
    have hmem : directory ∈ host.searchPath := hsplit ▸ List.mem_append_cons_self
    refine .executed hsplit (fun d hd => ?_) (hlook hmem ▸ hprogram)
    exact hfails (hsplit ▸ List.mem_append_left _ hd) (hpasses d hd)
  | denied hpasses =>
    rw [hdirectories] at hpasses
    refine .denied ?_
    rintro ⟨d, hd, hprogram⟩
    exact hfails hd (hpasses d hd) hprogram
  | @cutOff _ _ directory _ hsplit _ hend hkind =>
    rw [hdirectories] at hsplit
    refine absurd ⟨_, hend, ?_⟩ (hblocks directory (hsplit ▸ List.mem_append_cons_self))
    rcases hkind with rfl | ⟨rfl, -⟩ <;> simp

end

end FuseMount.Host
