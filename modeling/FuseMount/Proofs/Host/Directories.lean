import FuseMount.Proofs.Host.Start

/-!
# The directories in which a program is tried

The directories of `PATH` are taken in two ways: as they are when a file is looked for, and as the C
library takes them when a program is started. The two come to the same unless a path is too long,
since it makes no difference to what a path leads to whether there are one or two slashes in a place
of it.

Results:

* `mem_triedDirectories`, `triedDirectories_eq_self`: which directories are tried.
* `lookUp_programPath`: the two paths of a name in a directory lead to the same, or the one at which
  a program is tried is too long.
-/

namespace FuseMount.Host

/-! ## Directories -/

theorem mem_triedDirectories {directories : List Bytes} {directory : Bytes}
    (hmem : directory ∈ directories) (h : directory.length < pathLimit) :
    directory ∈ triedDirectories directories := by
  induction directories with
  | nil => exact hmem
  | cons first rest ih =>
    rw [triedDirectories]
    rcases List.mem_cons.1 hmem with rfl | hlater
    · rw [if_pos h]
      exact List.mem_cons_self
    · split_ifs with hfirst hlast
      · exact List.mem_cons_of_mem _ (ih hlater)
      · rw [List.isEmpty_iff.1 hlast] at hlater
        cases hlater
      · exact List.mem_cons_of_mem _ (ih hlater)

/-- All directories are tried if none is longer than any path. -/
theorem triedDirectories_eq_self {directories : List Bytes}
    (h : ∀ d ∈ directories, d.length < pathLimit) : triedDirectories directories = directories := by
  induction directories with
  | nil => rfl
  | cons first rest ih =>
    obtain ⟨hfirst, hrest⟩ := List.forall_mem_cons.1 h
    rw [triedDirectories, if_pos hfirst, ih hrest]

/-- There is a `PATH` where there is a directory in it. -/
theorem programDirectories_of_mem {host : Host} {directory : Bytes}
    (h : directory ∈ host.searchPath) :
    host.programDirectories = triedDirectories host.searchPath := by
  unfold programDirectories
  cases hpath : host.environment.path with
  | some path => rfl
  | none =>
    rw [searchPath, hpath] at h
    cases h

theorem mem_programDirectories {host : Host} {directory : Bytes} (hmem : directory ∈ host.searchPath)
    (h : directory.length < pathLimit) : directory ∈ host.programDirectories := by
  rw [programDirectories_of_mem hmem]
  exact mem_triedDirectories hmem h

/-! ## Paths -/

theorem length_le_length_programPath (directory name : Bytes) :
    directory.length ≤ (programPath directory name).length := by
  unfold programPath
  split_ifs with h
  · simp [h]
  · simp

theorem length_le_length_join (directory name : Bytes) :
    directory.length ≤ (join directory name).length := by
  unfold join
  split_ifs with h
  · simp [h]
  · simp
  · simp

/-- A path in which two slashes follow one another has an empty part, which leads nowhere. -/
theorem foldlM_follow_nil_cons (host : Host) (place : Place) {parts : List Bytes}
    (h : parts ≠ []) :
    ([] :: parts).foldlM host.follow place = parts.foldlM host.follow place := by
  obtain ⟨part, rest, rfl⟩ := List.exists_cons_of_ne_nil h
  by_cases hnode : host.node? place = some .directory
  · have hempty : host.follow place [] = .ok place := by simp [follow, hnode]
    rw [List.foldlM_cons, hempty]
    rfl
  · -- no part can be followed from there, whether it is empty or not
    have hfollow (part : Bytes) : host.follow place part = .error .notADirectory := by
      rw [follow, if_pos hnode]
    rw [List.foldlM_cons, List.foldlM_cons, hfollow, hfollow]
    rfl

theorem locate_of_two_slashes (host : Host) (directory name : Bytes)
    (h : (directory ++ Path.slash :: Path.slash :: name).length < pathLimit) :
    host.locate (directory ++ Path.slash :: Path.slash :: name) =
      host.locate (directory ++ Path.slash :: name) := by
  have hshort : (directory ++ Path.slash :: name).length < pathLimit := by
    simp only [List.length_append, List.length_cons] at h ⊢
    omega
  have habsolute : Path.isAbsolute (directory ++ Path.slash :: Path.slash :: name) =
      Path.isAbsolute (directory ++ Path.slash :: name) := by
    cases directory <;> rfl
  have hnul : (directory ++ Path.slash :: Path.slash :: name).contains 0 =
      (directory ++ Path.slash :: name).contains 0 := by
    simp [Path.slash]
  have hparts (place : Place) :
      (Path.parts (directory ++ Path.slash :: Path.slash :: name)).foldlM host.follow place =
        (Path.parts (directory ++ Path.slash :: name)).foldlM host.follow place := by
    have hname : name.splitOn Path.slash ≠ [] := List.splitOn_ne_nil _ _
    have hslash : (Path.slash :: name).splitOn Path.slash = [] :: name.splitOn Path.slash :=
      List.splitOn_append_cons_self [] name
    rw [Path.parts, Path.parts, List.splitOn_append_cons_self, List.splitOn_append_cons_self,
      hslash, List.foldlM_append, List.foldlM_append]
    exact congrArg _ (funext fun place => foldlM_follow_nil_cons host place hname)
  simp only [locate, hnul, habsolute, hparts, if_neg (Nat.not_le.2 h),
    if_neg (Nat.not_le.2 hshort), List.append_eq_nil_iff, reduceCtorEq, and_false]

/-- **A program is tried where it is found**: the path at which it is tried in a directory leads to
the same as the path at which it is looked for there, unless it is too long. -/
theorem lookUp_programPath (host : Host) {directory name : Bytes}
    (h : (programPath directory name).length < pathLimit) :
    host.lookUp (programPath directory name) = host.lookUp (join directory name) := by
  unfold programPath join at *
  split_ifs at * with hempty hlast
  · rfl
  · obtain ⟨d, rfl⟩ := List.getLast?_eq_some_iff.1 hlast
    simp only [List.append_assoc, List.singleton_append] at h ⊢
    rw [lookUp, lookUp, locate_of_two_slashes host d name h]
  · rfl

end FuseMount.Host
