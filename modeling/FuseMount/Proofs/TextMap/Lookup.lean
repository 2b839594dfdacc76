import FuseMount.TextMap
import Mathlib.Data.List.Sort
import Mathlib.Tactic.SplitIfs

/-!
# Looking keys up

What a map holds after some of its keys are set, and that a map is determined by the values of its
keys.

* `get?_insert`, `get?_insertAll`: a key has the value that it was given last (`lastValue?`), and
  else the one that it had before.
* `get?_eq_some_iff`: the entries of a map are the keys with their values.
* `ext_get?`: maps that give every key the same value are equal.
* `ofList_entries`: setting all entries of a map gives the map back.
* `insertAll_append`, `insertAll_insertAll_self`, `insertAll_swap`: keys that are set in two goes,
  twice, or in another order.
* `fst_exchange`, `size_insert`: what a key held before it is set, and what setting it does to the
  number of entries.
-/

namespace FuseMount.TextMap

/-! ## Lists of pairs -/

/-- The value in the last pair with a key. -/
def lastValue? (k : String) (pairs : List (String × String)) : Option String :=
  lookup k pairs.reverse

theorem lookup_append (k : String) (l l' : List (String × String)) :
    lookup k (l ++ l') = (lookup k l <|> lookup k l') := by
  induction l with
  | nil => rfl
  | cons e l ih =>
    rw [List.cons_append, lookup, lookup]
    split_ifs
    · rfl
    · exact ih

@[simp] theorem lastValue?_nil (k : String) : lastValue? k [] = none := rfl

theorem lastValue?_append (k : String) (l l' : List (String × String)) :
    lastValue? k (l ++ l') = (lastValue? k l' <|> lastValue? k l) := by
  rw [lastValue?, List.reverse_append, lookup_append]
  rfl

theorem lastValue?_singleton (k k' v : String) :
    lastValue? k [(k', v)] = if k = k' then some v else none := rfl

theorem lastValue?_cons (k k' v : String) (l : List (String × String)) :
    lastValue? k ((k', v) :: l) = (lastValue? k l <|> if k = k' then some v else none) := by
  rw [← List.singleton_append, lastValue?_append, lastValue?_singleton]

theorem mem_of_lookup {k v : String} {l : List (String × String)} (h : lookup k l = some v) :
    (k, v) ∈ l := by
  induction l with
  | nil => cases h
  | cons e l ih =>
    rw [lookup] at h
    split_ifs at h with hk
    · cases h
      subst hk
      exact List.mem_cons_self
    · exact List.mem_cons_of_mem _ (ih h)

theorem mem_of_lastValue? {k v : String} {l : List (String × String)}
    (h : lastValue? k l = some v) : (k, v) ∈ l :=
  List.mem_reverse.1 (mem_of_lookup h)

/-- Where no two pairs have one key, every pair is found. -/
theorem lookup_eq_some_iff {k v : String} {l : List (String × String)}
    (hl : l.Pairwise fun a b => a.1 ≠ b.1) : lookup k l = some v ↔ (k, v) ∈ l := by
  refine ⟨mem_of_lookup, fun h => ?_⟩
  induction l with
  | nil => cases h
  | cons e l ih =>
    obtain ⟨hne, hl⟩ := List.pairwise_cons.1 hl
    rw [lookup]
    rcases List.mem_cons.1 h with rfl | h
    · rw [if_pos rfl]
    · rw [if_neg (hne _ h).symm]
      exact ih hl h

theorem pairwise_ne_of_keysIncrease {l : List (String × String)} (h : KeysIncrease l) :
    l.Pairwise fun a b => a.1 ≠ b.1 := by
  refine List.Pairwise.imp (fun {a b} hab he => ?_) h
  rw [he] at hab
  exact String.lt_irrefl _ hab

/-- Where the keys increase, the last pair with a key is the only one. -/
theorem lastValue?_of_keysIncrease {l : List (String × String)} (h : KeysIncrease l) (k : String) :
    lastValue? k l = lookup k l := by
  have hl := pairwise_ne_of_keysIncrease h
  have hr : l.reverse.Pairwise fun a b => a.1 ≠ b.1 :=
    List.pairwise_reverse.2 (hl.imp fun hab => hab.symm)
  ext v
  rw [lastValue?, lookup_eq_some_iff hr, lookup_eq_some_iff hl, List.mem_reverse]

theorem lastValue?_eq_none {k : String} {l : List (String × String)} (h : k ∉ l.map Prod.fst) :
    lastValue? k l = none :=
  Option.eq_none_iff_forall_ne_some.2 fun _ hv => h (List.mem_map_of_mem (mem_of_lastValue? hv))

/-! ## Maps -/

theorem lookup_place (k v k' : String) (entries : List (String × String)) :
    lookup k' (place k v entries) = if k' = k then some v else lookup k' entries := by
  fun_induction place k v entries with
  | case1 => rfl
  | case2 k₁ v₁ rest => rw [lookup]
  | case3 v₁ rest =>
    rw [lookup, lookup]
    split_ifs <;> rfl
  | case4 k₁ v₁ rest hlt hne ih =>
    rw [lookup, lookup, ih]
    by_cases hk : k' = k₁
    · rw [if_pos hk, if_neg (fun he : k' = k => hne (he ▸ hk)), if_pos hk]
    · rw [if_neg hk, if_neg hk]

@[simp] theorem get?_empty (k : String) : (∅ : TextMap).get? k = none := rfl

/-- Setting a key changes the value of that key alone. -/
theorem get?_insert (m : TextMap) (k v k' : String) :
    (m.insert k v).get? k' = if k' = k then some v else m.get? k' :=
  lookup_place k v k' m.entries

/-- After several keys are set, each of them has the value that it was given last. -/
theorem get?_insertAll (m : TextMap) (pairs : List (String × String)) (k : String) :
    (m.insertAll pairs).get? k = (lastValue? k pairs <|> m.get? k) := by
  induction pairs generalizing m with
  | nil => rfl
  | cons p pairs ih =>
    rw [insertAll, List.foldl_cons, ← insertAll, ih, get?_insert, lastValue?_cons]
    cases lastValue? k pairs with
    | some v => rfl
    | none => split_ifs <;> rfl

theorem get?_ofList (pairs : List (String × String)) (k : String) :
    (ofList pairs).get? k = lastValue? k pairs := by
  rw [ofList, get?_insertAll, get?_empty]
  cases lastValue? k pairs <;> rfl

/-- The entries of a map are its keys with their values. -/
theorem get?_eq_some_iff (m : TextMap) (k v : String) : m.get? k = some v ↔ (k, v) ∈ m.entries :=
  lookup_eq_some_iff (pairwise_ne_of_keysIncrease m.keysIncrease)

theorem lastValue?_entries (m : TextMap) (k : String) : lastValue? k m.entries = m.get? k :=
  lastValue?_of_keysIncrease m.keysIncrease k

theorem ext_entries {m m' : TextMap} (h : m.entries = m'.entries) : m = m' := by
  cases m
  cases m'
  cases h
  rfl

/-- The values of the keys determine a map. -/
theorem ext_get? {m m' : TextMap} (h : ∀ k, m.get? k = m'.get? k) : m = m' := by
  have hmem : ∀ e, e ∈ m.entries ↔ e ∈ m'.entries := fun ⟨k, v⟩ => by
    rw [← get?_eq_some_iff, ← get?_eq_some_iff, h]
  have : Std.Irrefl fun a b : String × String => a.1 < b.1 := ⟨fun a => String.lt_irrefl a.1⟩
  have : Std.Antisymm fun a b : String × String => a.1 < b.1 :=
    ⟨fun a b hab hba => absurd (String.lt_trans hab hba) (String.lt_irrefl a.1)⟩
  exact ext_entries (List.Pairwise.eq_of_mem_iff m.keysIncrease m'.keysIncrease hmem)

/-- A map is made again from its entries. -/
theorem ofList_entries (m : TextMap) : ofList m.entries = m :=
  ext_get? fun k => by rw [get?_ofList, lastValue?_entries]

/-- Whatever a map is made from has its entries. -/
theorem mem_of_mem_entries_ofList {pairs : List (String × String)} {e : String × String}
    (h : e ∈ (ofList pairs).entries) : e ∈ pairs := by
  obtain ⟨k, v⟩ := e
  rw [← get?_eq_some_iff, get?_ofList] at h
  exact mem_of_lastValue? h

/-! ## Setting keys -/

/-- Keys that differ can be set in either order. -/
theorem insert_insert_of_ne (m : TextMap) {k k' : String} (h : k ≠ k') (v v' : String) :
    (m.insert k v).insert k' v' = (m.insert k' v').insert k v := by
  refine ext_get? fun k'' => ?_
  rw [get?_insert, get?_insert, get?_insert, get?_insert]
  by_cases hk : k'' = k
  · rw [hk, if_neg h, if_pos rfl, if_pos rfl]
  · rw [if_neg hk, if_neg hk]

theorem insertAll_append (m : TextMap) (l l' : List (String × String)) :
    m.insertAll (l ++ l') = (m.insertAll l).insertAll l' :=
  List.foldl_append

/-- Setting the same keys again changes nothing. -/
theorem insertAll_insertAll_self (m : TextMap) (l : List (String × String)) :
    (m.insertAll l).insertAll l = m.insertAll l := by
  refine ext_get? fun k => ?_
  rw [get?_insertAll, get?_insertAll]
  cases lastValue? k l <;> rfl

/-- Neighbours with keys that differ can be set in either order. -/
theorem insertAll_swap (m : TextMap) (l l' : List (String × String)) {e e' : String × String}
    (h : e.1 ≠ e'.1) : m.insertAll (l ++ e :: e' :: l') = m.insertAll (l ++ e' :: e :: l') := by
  rw [insertAll_append, insertAll_append]
  exact congrArg (insertAll · l') (insert_insert_of_ne _ h e.2 e'.2)

theorem lookup_eq_none_of_lt {k : String} {l : List (String × String)} (h : ∀ e ∈ l, k < e.1) :
    lookup k l = none := by
  induction l with
  | nil => rfl
  | cons e l ih =>
    obtain ⟨he, hl⟩ := List.forall_mem_cons.1 h
    have hne : k ≠ e.1 := fun hk => String.lt_irrefl _ (hk ▸ he)
    rw [lookup, if_neg hne]
    exact ih hl

/-- Where a new entry comes before all others, its key is not there yet. -/
theorem lookup_cons_eq_none {k k' v' : String} {rest : List (String × String)} (hlt : k < k')
    (h : KeysIncrease ((k', v') :: rest)) : lookup k ((k', v') :: rest) = none := by
  refine lookup_eq_none_of_lt (List.forall_mem_cons.2 ⟨hlt, fun e he => ?_⟩)
  exact String.lt_trans hlt (List.rel_of_pairwise_cons h he)

theorem fst_exchangeIn (k v : String) {entries : List (String × String)}
    (h : KeysIncrease entries) : (exchangeIn k v entries).1 = lookup k entries := by
  fun_induction place k v entries with
  | case1 => rfl
  | case2 k' v' rest hlt => rw [exchangeIn, if_pos hlt, lookup_cons_eq_none hlt h]
  | case3 v' rest hlt => rw [exchangeIn, if_neg hlt, if_pos rfl, lookup, if_pos rfl]
  | case4 k' v' rest hlt hne ih =>
    rw [exchangeIn, if_neg hlt, if_neg hne, lookup, if_neg hne]
    exact ih (List.Pairwise.of_cons h)

/-- The value that is replaced is the one that the key had. -/
theorem fst_exchange (m : TextMap) (k v : String) : (m.exchange k v).1 = m.get? k :=
  fst_exchangeIn k v m.keysIncrease

theorem snd_exchange (m : TextMap) (k v : String) : (m.exchange k v).2 = m.insert k v :=
  ext_entries (snd_exchangeIn k v m.entries)

theorem length_place (k v : String) {entries : List (String × String)}
    (h : KeysIncrease entries) :
    (place k v entries).length = entries.length + if lookup k entries = none then 1 else 0 := by
  fun_induction place k v entries with
  | case1 => rfl
  | case2 k' v' rest hlt => rw [lookup_cons_eq_none hlt h, if_pos rfl, List.length_cons]
  | case3 v' rest hlt =>
    rw [lookup, if_pos rfl, if_neg (by simp), List.length_cons, List.length_cons, Nat.add_zero]
  | case4 k' v' rest hlt hne ih =>
    rw [lookup, if_neg hne, List.length_cons, List.length_cons, ih (List.Pairwise.of_cons h),
      Nat.add_right_comm]

/-- A map grows by the keys that it did not have. -/
theorem size_insert (m : TextMap) (k v : String) :
    (m.insert k v).size = m.size + if m.get? k = none then 1 else 0 :=
  length_place k v m.keysIncrease

end FuseMount.TextMap
