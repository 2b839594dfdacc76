/-!
# Maps from texts to texts

A finite map is the list of its entries in increasing order of the keys, which the type demands. So
equal maps have equal entries, and whatever is written out from a map does not depend on how the map
came about. Keys are ordered by code points, which is the order of their UTF-8 bytes too.

* `TextMap.get?` looks a key up, `TextMap.insert` sets the value of a key; `TextMap.exchange` does
  so too, and gives the value that is replaced.
* `TextMap.insertAll` inserts pairs from left to right, so that the last value of a key stays.
-/

namespace FuseMount

/-- Entries in strictly increasing order of their keys. -/
def KeysIncrease (entries : List (String × String)) : Prop :=
  entries.Pairwise fun a b => a.1 < b.1

instance (entries : List (String × String)) : Decidable (KeysIncrease entries) :=
  inferInstanceAs (Decidable (entries.Pairwise fun a b => a.1 < b.1))

/-- A finite map from texts to texts. -/
structure TextMap where
  /-- The entries in order of their keys. -/
  entries : List (String × String)
  /-- The keys strictly increase. -/
  keysIncrease : KeysIncrease entries
  deriving DecidableEq

namespace TextMap

/-- The map without entries. -/
def empty : TextMap := ⟨[], List.Pairwise.nil⟩

instance : EmptyCollection TextMap := ⟨empty⟩

instance : Inhabited TextMap := ⟨∅⟩

/-- The value of a key in a list of entries. -/
def lookup (k : String) : List (String × String) → Option String
  | [] => none
  | (k', v) :: rest => if k = k' then some v else lookup k rest

/-- Sets the value of a key in a list of entries, at the place that the order gives it. -/
def place (k v : String) : List (String × String) → List (String × String)
  | [] => [(k, v)]
  | (k', v') :: rest =>
    if k < k' then (k, v) :: (k', v') :: rest
    else if k = k' then (k, v) :: rest
    else (k', v') :: place k v rest

theorem mem_place {k v : String} {entries : List (String × String)} {e : String × String}
    (h : e ∈ place k v entries) : e = (k, v) ∨ e ∈ entries := by
  fun_induction place k v entries <;> simp_all <;> grind

theorem lt_of_not_lt_of_ne {a b : String} (h : ¬a < b) (hne : ¬a = b) : b < a := by
  refine Decidable.byContradiction fun hba => hne ?_
  exact String.le_antisymm (String.not_lt.1 hba) (String.not_lt.1 h)

/-- Placing an entry keeps the keys increasing. -/
theorem keysIncrease_place (k v : String) {entries : List (String × String)}
    (h : KeysIncrease entries) : KeysIncrease (place k v entries) := by
  unfold KeysIncrease at *
  fun_induction place k v entries with
  | case1 => simp
  | case2 k' v' rest hlt =>
    refine List.Pairwise.cons (fun e he => ?_) h
    rcases List.mem_cons.1 he with rfl | he
    · exact hlt
    · exact String.lt_trans hlt (List.rel_of_pairwise_cons h he)
  | case3 v' rest _ =>
    exact List.Pairwise.cons (fun e he => List.rel_of_pairwise_cons h he) (List.Pairwise.of_cons h)
  | case4 k' v' rest hlt hne ih =>
    refine List.Pairwise.cons (fun e he => ?_) (ih (List.Pairwise.of_cons h))
    rcases mem_place he with rfl | he
    · exact lt_of_not_lt_of_ne hlt hne
    · exact List.rel_of_pairwise_cons h he

/-- Sets the value of a key in a list of entries as `place` does, and gives the value that it had
before. -/
def exchangeIn (k v : String) : List (String × String) → Option String × List (String × String)
  | [] => (none, [(k, v)])
  | (k', v') :: rest =>
    if k < k' then (none, (k, v) :: (k', v') :: rest)
    else if k = k' then (some v', (k, v) :: rest)
    else
      let (old, rest) := exchangeIn k v rest
      (old, (k', v') :: rest)

theorem snd_exchangeIn (k v : String) (entries : List (String × String)) :
    (exchangeIn k v entries).2 = place k v entries := by
  fun_induction place k v entries with
  | case1 => rfl
  | case2 k' v' rest hlt => rw [exchangeIn, if_pos hlt]
  | case3 v' rest hlt => rw [exchangeIn, if_neg hlt, if_pos rfl]
  | case4 k' v' rest hlt hne ih =>
    rw [exchangeIn, if_neg hlt, if_neg hne, ← ih]

/-- The value of a key, if the map has the key. -/
def get? (m : TextMap) (k : String) : Option String :=
  lookup k m.entries

/-- Whether the map has a key. -/
def contains (m : TextMap) (k : String) : Bool :=
  (m.get? k).isSome

/-- The map with the value of one key set. -/
def insert (m : TextMap) (k v : String) : TextMap :=
  ⟨place k v m.entries, keysIncrease_place k v m.keysIncrease⟩

/-- The value that a key has, and the map with another value of it. -/
def exchange (m : TextMap) (k v : String) : Option String × TextMap :=
  let r := exchangeIn k v m.entries
  (r.1, ⟨r.2, snd_exchangeIn k v m.entries ▸ keysIncrease_place k v m.keysIncrease⟩)

/-- The map after its entries are set by pairs, from left to right. -/
def insertAll (m : TextMap) (pairs : List (String × String)) : TextMap :=
  pairs.foldl (fun m p => m.insert p.1 p.2) m

/-- The map with the given pairs; of two pairs with one key the later one counts. -/
def ofList (pairs : List (String × String)) : TextMap :=
  insertAll ∅ pairs

/-- The number of entries. -/
def size (m : TextMap) : Nat :=
  m.entries.length

/-- Whether there is no entry. -/
def isEmpty (m : TextMap) : Bool :=
  m.entries.isEmpty

end TextMap

end FuseMount
