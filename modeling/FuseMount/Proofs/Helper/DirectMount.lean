import FuseMount.Helper
import FuseMount.Proofs.Options.RoundTrip
import FuseMount.Proofs.Text.Numeral

/-!
# Reading the data of a direct mount back

The data that the kernel is given to mount an open descriptor begins with four entries of its own,
and the options come after them. Read as an options text it gives these four entries, overridden by
the options. A single empty name without a value is no exception: its text is empty, but there is
still a comma before it, and what follows a comma is a segment.

Results:

* `ownEntries`: the four entries.
* `directMountData_eq`: the data as written entries with commas between them.
* `parse_directMountData`: what is read back, and when the four entries are.
-/

namespace FuseMount

open Options
open TextMap (lastValue?)

/-! ## Specification -/

/-- The entries that the data begins with: the descriptor, the mode of a directory, and the owner.
-/
def ownEntries (fd : Int32) (uid gid : UInt32) : List (String × String) :=
  [("fd", fd.toInt.repr), ("rootmode", "40000"), ("user_id", uid.toNat.repr),
    ("group_id", gid.toNat.repr)]

/-! ## Decimal numbers -/

theorem comma_notMem_natRepr (n : Nat) : ',' ∉ n.repr.toList :=
  fun h => absurd (Numeral.isDigit_of_mem_repr h) (by decide)

theorem comma_notMem_intRepr (n : Int) : ',' ∉ n.repr.toList := by
  cases n with
  | ofNat n => exact comma_notMem_natRepr n
  | negSucc n =>
    rw [Int.repr, String.toList_append, List.mem_append, not_or]
    exact ⟨by decide, comma_notMem_natRepr _⟩

theorem intRepr_ne_empty (n : Int) : n.repr ≠ "" := by
  cases n with
  | ofNat n => exact Nat.repr_ne_empty
  | negSucc n =>
    intro h
    rw [Int.repr] at h
    simpa using congrArg String.toList h

/-! ## The data as entries -/

theorem entryText_of_ne_empty {k v : String} (hv : v ≠ "") :
    entryText (k, v) = escapeName k ++ "=" ++ v := by
  rw [entryText, if_neg (by simpa using hv)]

section

variable (fd : Int32) (uid gid : UInt32) (o : Options)

theorem intercalate_ownEntries :
    String.intercalate "," ((ownEntries fd uid gid).map entryText) =
      "fd=" ++ fd.toInt.repr ++ ",rootmode=40000,user_id=" ++ uid.toNat.repr ++
        ",group_id=" ++ gid.toNat.repr := by
  have hfd : entryText ("fd", fd.toInt.repr) = "fd=" ++ fd.toInt.repr :=
    entryText_of_ne_empty (intRepr_ne_empty _)
  have huid : entryText ("user_id", uid.toNat.repr) = "user_id=" ++ uid.toNat.repr :=
    entryText_of_ne_empty Nat.repr_ne_empty
  have hgid : entryText ("group_id", gid.toNat.repr) = "group_id=" ++ gid.toNat.repr :=
    entryText_of_ne_empty Nat.repr_ne_empty
  have hmode : entryText ("rootmode", "40000") = "rootmode=40000" := by decide
  simp only [ownEntries, List.map_cons, List.map_nil, hfd, huid, hgid, hmode,
    String.intercalate_cons_cons, String.intercalate_singleton]
  simp only [← String.toList_inj, String.toList_append, List.append_assoc]
  rfl

theorem directMountData_eq :
    directMountData fd uid gid o =
      String.intercalate "," ((ownEntries fd uid gid ++ o.entries).map entryText) := by
  rw [directMountData, ← intercalate_ownEntries]
  by_cases h : o.entries = []
  · rw [if_pos (by simp [TextMap.isEmpty, h]), h, List.append_nil, String.append_empty]
  · rw [if_neg (by simp [TextMap.isEmpty, h]), List.map_append,
      String.intercalate_append_of_ne_nil (by simp [ownEntries]) (by simpa using h), render,
      String.append_assoc]

theorem equals_notMem_of_mem_ownEntries :
    ∀ e ∈ ownEntries fd uid gid, '=' ∉ e.1.toList := by
  simp only [ownEntries, List.forall_mem_cons, List.not_mem_nil, false_implies, implies_true,
    and_true]
  decide

theorem comma_notMem_of_mem_ownEntries :
    ∀ e ∈ ownEntries fd uid gid, ',' ∉ e.2.toList := by
  simp only [ownEntries, List.forall_mem_cons, List.not_mem_nil, false_implies, implies_true,
    and_true]
  exact ⟨comma_notMem_intRepr _, by decide, comma_notMem_natRepr _, comma_notMem_natRepr _⟩

variable {o} in
/-- The segments of the data are the four entries and those of the options. -/
theorem segments_directMountData (hnames : EqualsFreeNames o) (hvalues : CommaFreeValues o) :
    segments (directMountData fd uid gid o).toList = ownEntries fd uid gid ++ o.entries := by
  have htext : (directMountData fd uid gid o).toList = [','].intercalate
      ((ownEntries fd uid gid ++ o.entries).map fun e => (entryText e).toList) := by
    rw [directMountData_eq, String.toList_intercalate, List.map_map]
    rfl
  rw [htext]
  refine segments_entryTexts (by simp [ownEntries]) (fun e he => ?_) (fun e he => ?_)
  · rcases List.mem_append.1 he with he | he
    · exact equals_notMem_of_mem_ownEntries fd uid gid e he
    · exact hnames e he
  · rcases List.mem_append.1 he with he | he
    · exact comma_notMem_of_mem_ownEntries fd uid gid e he
    · exact hvalues e he

end

/-! ## Main theorem -/

theorem directMountData_ne_empty (fd : Int32) (uid gid : UInt32) (o : Options) :
    directMountData fd uid gid o ≠ "" := by
  intro h
  simpa [directMountData] using congrArg String.toList h

/-- The names of the four entries differ. -/
theorem lastValue?_of_mem_ownEntries {fd : Int32} {uid gid : UInt32} {e : String × String}
    (he : e ∈ ownEntries fd uid gid) : lastValue? e.1 (ownEntries fd uid gid) = some e.2 := by
  simp only [ownEntries, List.mem_cons, List.not_mem_nil, or_false] at he
  rcases he with rfl | rfl | rfl | rfl <;> rfl

/-- **The data of a direct mount is read back.** What is read is the map of the four entries with
the options set on top of it. So each of the four names has the value that the data gave it, unless
the options set it to a different one. -/
theorem parse_directMountData {o : Options} (hnames : EqualsFreeNames o)
    (hvalues : CommaFreeValues o) (fd : Int32) (uid gid : UInt32) :
    let m := parse (directMountData fd uid gid o)
    m = (TextMap.ofList (ownEntries fd uid gid)).insertAll o.entries ∧
      (∀ k, m.get? k = (o.get? k <|> lastValue? k (ownEntries fd uid gid))) ∧
      ((∀ e ∈ ownEntries fd uid gid, m.get? e.1 = some e.2) ↔
        ∀ e ∈ ownEntries fd uid gid, ∀ v, o.get? e.1 = some v → v = e.2) := by
  intro m
  have hm : m = (TextMap.ofList (ownEntries fd uid gid)).insertAll o.entries := by
    rw [show m = _ from parse_ne_empty (directMountData_ne_empty fd uid gid o),
      segments_directMountData fd uid gid hnames hvalues]
    exact List.foldl_append
  have hget : ∀ k, m.get? k = (o.get? k <|> lastValue? k (ownEntries fd uid gid)) := by
    intro k
    rw [hm, TextMap.get?_insertAll, TextMap.lastValue?_entries, TextMap.get?_ofList]
  refine ⟨hm, hget, forall₂_congr fun e he => ?_⟩
  rw [hget, lastValue?_of_mem_ownEntries he]
  cases o.get? e.1 <;> simp

/-- A negative descriptor, a name of the four that is set to a different value, a protected comma,
and a single empty name. -/
theorem parse_directMountData_overridden :
    let o : Options := TextMap.ofList [("fd", "7"), ("x,y", "a=b\\")]
    (EqualsFreeNames o ∧ CommaFreeValues o) ∧
      (EqualsFreeNames (TextMap.ofList [("", "")]) ∧ CommaFreeValues (TextMap.ofList [("", "")])) ∧
      parse (directMountData (-1) 0 4294967295 o) =
        TextMap.ofList [("fd", "7"), ("rootmode", "40000"), ("user_id", "0"),
          ("group_id", "4294967295"), ("x,y", "a=b\\")] ∧
      parse (directMountData (-1) 0 4294967295 (TextMap.ofList [("", "")])) =
        TextMap.ofList [("fd", "-1"), ("rootmode", "40000"), ("user_id", "0"),
          ("group_id", "4294967295"), ("", "")] := by
  have ho : EqualsFreeNames (TextMap.ofList [("fd", "7"), ("x,y", "a=b\\")]) ∧
      CommaFreeValues (TextMap.ofList [("fd", "7"), ("x,y", "a=b\\")]) := by
    decide +kernel
  have hempty : EqualsFreeNames (TextMap.ofList [("", "")]) ∧
      CommaFreeValues (TextMap.ofList [("", "")]) := by
    decide +kernel
  refine ⟨ho, hempty, ?_, ?_⟩
  · rw [(parse_directMountData ho.1 ho.2 (-1) 0 4294967295).1]
    decide +kernel
  · rw [(parse_directMountData hempty.1 hempty.2 (-1) 0 4294967295).1]
    decide +kernel

end FuseMount
