import FuseMount.InitFlags
import Mathlib.Data.List.Nodup

/-!
# Capability flags as sets of bits

A set of flags is known by the places of its bits. Each flag of the table is one bit, and no two of
the table have a name in common; so the names of a set tell which flags of the table are in it.

Results:

* `eq_of_has_iff`: sets with the same places are equal.
* `exists_place_of_mem_named`, `contains_iff_has`: a flag of the table is in a set exactly if its one
  bit is set.
* `mem_names_iff`: a name stands among the names of a set exactly if the bit of its flag is set.
* `names_sublist`: the names of a set stand in the order of the table.
* `names_perm`, `disjoint_names`: what is kept of a set and what is taken away from it divide its
  names among them.
* `Known.unionOf_names`, `known_initFlags`: the flags of a configuration are all in the table, so
  that their names tell them.
-/

namespace FuseMount.InitFlags

/-- The bit at a place is set. -/
def Has (flags : InitFlags) (place : Nat) : Prop :=
  flags.bits.toBitVec.getLsbD place = true

instance (flags : InitFlags) (place : Nat) : Decidable (flags.Has place) :=
  inferInstanceAs (Decidable (_ = _))

section

variable {flags a b : InitFlags} {i : Nat}

/-! ## Places -/

theorem lt_of_has (h : flags.Has i) : i < 32 :=
  BitVec.lt_of_getLsbD h

theorem eq_of_has_iff (h : ∀ i, a.Has i ↔ b.Has i) : a = b := by
  obtain ⟨a⟩ := a
  obtain ⟨b⟩ := b
  have hbits : a.toBitVec = b.toBitVec :=
    BitVec.eq_of_getLsbD_eq fun i _ => Bool.eq_iff_iff.2 (h i)
  rw [UInt32.toBitVec_inj.1 hbits]

@[simp] theorem not_has_empty : ¬(∅ : InitFlags).Has i := by
  simp [Has, EmptyCollection.emptyCollection, empty]

@[simp] theorem has_and : (a &&& b).Has i ↔ a.Has i ∧ b.Has i := by
  change (a.bits &&& b.bits).toBitVec.getLsbD i = true ↔ _
  rw [UInt32.toBitVec_and, BitVec.getLsbD_and, Bool.and_eq_true]
  rfl

@[simp] theorem has_or : (a ||| b).Has i ↔ a.Has i ∨ b.Has i := by
  change (a.bits ||| b.bits).toBitVec.getLsbD i = true ↔ _
  rw [UInt32.toBitVec_or, BitVec.getLsbD_or, Bool.or_eq_true]
  rfl

@[simp] theorem has_diff : (a.diff b).Has i ↔ a.Has i ∧ ¬b.Has i := by
  have hlt : a.Has i → i < 32 := lt_of_has
  simp only [Has, diff, UInt32.toBitVec_and, UInt32.toBitVec_not, BitVec.getLsbD_and,
    BitVec.getLsbD_not, Bool.and_eq_true, decide_eq_true_eq, Bool.not_eq_true', Bool.not_eq_true]
    at hlt ⊢
  exact ⟨fun ⟨ha, _, hb⟩ => ⟨ha, hb⟩, fun ⟨ha, hb⟩ => ⟨ha, hlt ha, hb⟩⟩

theorem isEmpty_iff : flags.isEmpty ↔ ∀ i, ¬flags.Has i := by
  rw [isEmpty, beq_iff_eq]
  constructor
  · rintro h i
    simp [Has, h]
  · intro h
    have hempty : flags = ∅ := eq_of_has_iff fun i => by simp [h i]
    rw [hempty]
    rfl

theorem contains_iff : a.contains b ↔ ∀ i, b.Has i → a.Has i := by
  rw [contains, beq_iff_eq]
  constructor
  · intro h i hi
    rw [← h, has_and] at hi
    exact hi.1
  · intro h
    exact eq_of_has_iff fun i => by
      rw [has_and]
      exact ⟨And.right, fun hi => ⟨h i hi, hi⟩⟩

end

/-! ## The table -/

theorem has_bit_iff (n : Fin 32) (i : Nat) : (bit (UInt32.ofNat n)).Has i ↔ i = n := by
  have hfin : ∀ n i : Fin 32, (bit (UInt32.ofNat n)).Has i ↔ i = n := by decide +kernel
  constructor
  · intro h
    exact congrArg Fin.val ((hfin n ⟨i, lt_of_has h⟩).1 h)
  · rintro rfl
    exact (hfin n n).2 rfl

/-- Each flag of the table is one bit. -/
theorem exists_place_of_mem_named {f : InitFlags × String} (hf : f ∈ named) :
    ∃ place, ∀ i, f.1.Has i ↔ i = place := by
  have hbit : ∀ f ∈ named, ∃ n : Fin 32, f.1 = bit (UInt32.ofNat n) := by decide +kernel
  obtain ⟨n, hn⟩ := hbit f hf
  exact ⟨n, fun i => by rw [hn, has_bit_iff]⟩

theorem exists_has_of_mem_named {f : InitFlags × String} (hf : f ∈ named) : ∃ i, f.1.Has i := by
  obtain ⟨place, hplace⟩ := exists_place_of_mem_named hf
  exact ⟨place, (hplace place).2 rfl⟩

theorem nodup_named : (named.map Prod.snd).Nodup := by decide +kernel

section

variable {flags a b : InitFlags} {f : InitFlags × String} {i : Nat}

/-- A flag of the table is in a set as soon as one of its bits is set. -/
theorem contains_iff_has (hf : f ∈ named) (hi : f.1.Has i) : flags.contains f.1 ↔ flags.Has i := by
  obtain ⟨place, hplace⟩ := exists_place_of_mem_named hf
  obtain rfl := (hplace i).1 hi
  simp only [contains_iff, hplace, forall_eq]

theorem exists_mem_named_of_mem_names {name : String} (h : name ∈ flags.names) :
    ∃ f ∈ named, flags.contains f.1 ∧ f.2 = name := by
  simpa only [names, List.mem_map, List.mem_filter, and_assoc] using h

/-- The name of a flag tells its bit. -/
theorem mem_names_iff (hf : f ∈ named) (hi : f.1.Has i) : f.2 ∈ flags.names ↔ flags.Has i := by
  rw [← contains_iff_has hf hi]
  constructor
  · intro h
    obtain ⟨g, hg, hcontains, hname⟩ := exists_mem_named_of_mem_names h
    rwa [← List.inj_on_of_nodup_map nodup_named hg hf hname]
  · exact fun h => List.mem_map_of_mem (List.mem_filter.2 ⟨hf, h⟩)

theorem names_sublist : flags.names.Sublist (named.map Prod.snd) :=
  List.filter_sublist.map _

/-- What holds of the bits of flags selects the flags of the table. -/
theorem filter_named_congr {p : InitFlags × String → Bool}
    (h : ∀ f ∈ named, ∀ i, f.1.Has i → (flags.Has i ↔ p f)) :
    named.filter (fun f => flags.contains f.1) = named.filter p := by
  refine List.filter_congr fun f hf => Bool.eq_iff_iff.2 ?_
  obtain ⟨i, hi⟩ := exists_has_of_mem_named hf
  rw [contains_iff_has hf hi, h f hf i hi]

/-- The names of a set are those that it has in common with another one, and the others. -/
theorem names_perm : a.names.Perm ((a &&& b).names ++ (a.diff b).names) := by
  have hand : named.filter (fun f => (a &&& b).contains f.1) =
      (named.filter fun f => a.contains f.1).filter fun f => b.contains f.1 := by
    rw [List.filter_filter]
    refine filter_named_congr fun f hf i hi => ?_
    simp only [Bool.and_eq_true, contains_iff_has hf hi, has_and, and_comm]
  have hdiff : named.filter (fun f => (a.diff b).contains f.1) =
      (named.filter fun f => a.contains f.1).filter fun f => !b.contains f.1 := by
    rw [List.filter_filter]
    refine filter_named_congr fun f hf i hi => ?_
    simp only [Bool.and_eq_true, Bool.not_eq_true', ← Bool.not_eq_true, contains_iff_has hf hi,
      has_diff, and_comm]
  simp only [names, hand, hdiff, ← List.map_append]
  exact ((List.filter_append_perm _ _).map _).symm

theorem disjoint_names : (a &&& b).names.Disjoint (a.diff b).names := by
  intro name hand hdiff
  obtain ⟨f, hf, -, rfl⟩ := exists_mem_named_of_mem_names hand
  obtain ⟨i, hi⟩ := exists_has_of_mem_named hf
  rw [mem_names_iff hf hi, has_and] at hand
  rw [mem_names_iff hf hi, has_diff] at hdiff
  exact hdiff.2 hand.2

end

/-! ## Sets without other bits -/

/-- Every bit that is set belongs to a flag of the table. -/
def Known (flags : InitFlags) : Prop :=
  ∀ i, flags.Has i → ∃ f ∈ named, f.1.Has i

/-- The union of the flags of the table that have names in a list. -/
def unionOf (names : List String) : InitFlags :=
  (named.filter fun f => f.2 ∈ names).foldr (fun f flags => f.1 ||| flags) ∅

section

variable {a b : InitFlags}

theorem known_empty : Known ∅ := fun _ h => absurd h not_has_empty

theorem known_of_mem_named {f : InitFlags × String} (hf : f ∈ named) : f.1.Known :=
  fun _ h => ⟨f, hf, h⟩

theorem Known.or (ha : a.Known) (hb : b.Known) : (a ||| b).Known := fun i h =>
  (has_or.1 h).elim (ha i) (hb i)

theorem Known.and_right (ha : a.Known) (b : InitFlags) : (a &&& b).Known := fun i h =>
  ha i (has_and.1 h).1

theorem Known.onlyIf (ha : a.Known) (wanted : Bool) : (a.onlyIf wanted).Known := by
  cases wanted with
  | false => exact known_empty
  | true => exact ha

theorem has_foldr_or_iff (fs : List (InitFlags × String)) (i : Nat) :
    (fs.foldr (fun f flags => f.1 ||| flags) (∅ : InitFlags)).Has i ↔ ∃ f ∈ fs, f.1.Has i := by
  induction fs with
  | nil => simp
  | cons f fs ih => rw [List.foldr_cons, has_or, ih, List.exists_mem_cons_iff]

theorem has_unionOf_iff (names : List String) (i : Nat) :
    (unionOf names).Has i ↔ ∃ f ∈ named, f.2 ∈ names ∧ f.1.Has i := by
  simp only [unionOf, has_foldr_or_iff, List.mem_filter, decide_eq_true_eq, and_assoc]

/-- A set without other bits is known by its names. -/
theorem Known.unionOf_names (ha : a.Known) : unionOf a.names = a := by
  refine eq_of_has_iff fun i => ?_
  rw [has_unionOf_iff]
  constructor
  · rintro ⟨f, hf, hname, hi⟩
    exact (mem_names_iff hf hi).1 hname
  · intro h
    obtain ⟨f, hf, hi⟩ := ha i h
    exact ⟨f, hf, (mem_names_iff hf hi).2 h, hi⟩

end

/-- No configuration asks for a flag that is not in the table. -/
theorem known_initFlags (config : Config) (platform : Platform) :
    (config.initFlags platform).Known := by
  have hnamed : ∀ flags ∈ named.map Prod.fst, flags.Known := by
    simp only [List.mem_map]
    rintro _ ⟨f, hf, rfl⟩
    exact known_of_mem_named hf
  have hreaddirplus : (doReaddirplus ||| onlyIf config.enableAutoReaddirplus readdirplusAuto).Known :=
    (hnamed doReaddirplus (by decide)).or ((hnamed readdirplusAuto (by decide)).onlyIf _)
  exact (hnamed bigWrites (by decide)).or (hnamed maxPages (by decide))
    |>.or ((hnamed asyncRead (by decide)).onlyIf _)
    |>.or ((hnamed writebackCache (by decide)).onlyIf _)
    |>.or ((hnamed cacheSymlinks (by decide)).onlyIf _)
    |>.or ((hnamed noOpenSupport (by decide)).onlyIf _)
    |>.or ((hnamed noOpendirSupport (by decide)).onlyIf _)
    |>.or ((hnamed parallelDirops (by decide)).onlyIf _)
    |>.or ((hnamed atomicTrunc (by decide)).onlyIf _)
    |>.or (hreaddirplus.onlyIf _)

end FuseMount.InitFlags
