import FuseMount.Proofs.Json.Record
import Mathlib.Data.List.Nodup
import Mathlib.Data.List.Pairwise
import Mathlib.Data.List.Perm.Basic

/-!
# Records as functions of their members

What a record is read as depends on the members that are fields alone, not on their order, as long
as none of them is there twice and fields do not disturb each other (`Independent`).

Results:

* `objectOf_known`: members that are no fields do not count.
* `objectOf_of_repeated`: a field that is there twice makes the record unreadable.
* `objectOf_perm`: the order of the members does not count.
* `objectOf_replace`: what another value of one field changes.
* `objectOf_zip`, `itemsOf_eq_none`: an array stands for an object with the first fields.
-/

namespace FuseMount.Json.Decoder

variable {σ : Type}

/-! ## Specification -/

/-- What a record is read as from members with these names. -/
def objectOf (fields : List (Field σ)) (blank : σ) (members : List (String × Tree)) : Option σ :=
  Prod.fst <$> members.foldlM (fun s m => recordMemberOf fields s m.1 m.2) (blank, [])

/-- The members that are fields. -/
def known (fields : List (Field σ)) (members : List (String × Tree)) : List (String × Tree) :=
  members.filter fun m => m.1 ∈ fields.map (·.name)

/-- Fields of which it does not matter which one is set first. -/
def Independent (f g : Field σ) : Prop :=
  ∀ {t u : Tree} {set set' : σ → σ}, f.read.ofTree t = some set → g.read.ofTree u = some set' →
    ∀ s, set (set' s) = set' (set s)

/-! ## Names -/

variable {fields : List (Field σ)}

theorem find?_eq_none_of_notMem {key : String} (h : key ∉ fields.map (·.name)) :
    fields.find? (·.name = key) = none := by
  refine List.find?_eq_none.2 fun f hf hname => h ?_
  exact List.mem_map.2 ⟨f, hf, of_decide_eq_true hname⟩

theorem exists_find?_of_mem {key : String} (h : key ∈ fields.map (·.name)) :
    ∃ f ∈ fields, f.name = key ∧ fields.find? (·.name = key) = some f := by
  obtain ⟨g, hg, hname⟩ := List.mem_map.1 h
  cases hfind : fields.find? (·.name = key) with
  | none => exact absurd (decide_eq_true hname) (List.find?_eq_none.1 hfind g hg)
  | some f =>
    exact ⟨f, List.mem_of_find?_eq_some hfind, by simpa using List.find?_some hfind, rfl⟩

theorem find?_of_mem (hnames : (fields.map (·.name)).Nodup) {f : Field σ} (hf : f ∈ fields) :
    fields.find? (·.name = f.name) = some f := by
  obtain ⟨g, hg, hname, hfind⟩ := exists_find?_of_mem (List.mem_map_of_mem hf)
  rw [hfind, List.inj_on_of_nodup_map hnames hg hf hname]

/-! ## Members that are no fields -/

theorem recordMemberOf_of_notMem {key : String} (h : key ∉ fields.map (·.name))
    (s : σ × List String) (t : Tree) : recordMemberOf fields s key t = some s := by
  rw [recordMemberOf, find?_eq_none_of_notMem h]

/-- Members that are no fields do not count. -/
theorem objectOf_known (blank : σ) (members : List (String × Tree)) :
    objectOf fields blank (known fields members) = objectOf fields blank members := by
  have hfold : ∀ s : σ × List String,
      (known fields members).foldlM (fun s m => recordMemberOf fields s m.1 m.2) s =
        members.foldlM (fun s m => recordMemberOf fields s m.1 m.2) s := by
    induction members with
    | nil => exact fun _ => rfl
    | cons m members ih =>
      intro s
      by_cases hm : m.1 ∈ fields.map (·.name)
      · rw [known, List.filter_cons_of_pos (by simpa using hm), List.foldlM_cons, List.foldlM_cons]
        exact congrArg _ (funext ih)
      · rw [known, List.filter_cons_of_neg (by simpa using hm), List.foldlM_cons,
          recordMemberOf_of_notMem hm]
        exact ih s
  rw [objectOf, objectOf, hfold]

theorem mem_known_iff {members : List (String × Tree)} {m : String × Tree} :
    m ∈ known fields members ↔ m ∈ members ∧ m.1 ∈ fields.map (·.name) := by
  rw [known, List.mem_filter, decide_eq_true_iff]

/-- Which members are fields is a matter of their names. -/
theorem map_fst_known (members : List (String × Tree)) :
    (known fields members).map (·.1) =
      (members.map (·.1)).filter fun name => name ∈ fields.map (·.name) := by
  rw [known, List.filter_map]
  rfl

theorem known_eq_self {members : List (String × Tree)}
    (h : ∀ m ∈ members, m.1 ∈ fields.map (·.name)) : known fields members = members :=
  List.filter_eq_self.2 fun m hm => decide_eq_true (h m hm)

/-! ## Fields that are there twice -/

/-- A field is read if it was not there before. -/
theorem recordMemberOf_of_mem {key : String} (h : key ∈ fields.map (·.name))
    {s s' : σ × List String} {t : Tree} (hs : recordMemberOf fields s key t = some s') :
    key ∉ s.2 ∧ s'.2 = key :: s.2 := by
  obtain ⟨f, -, -, hfind⟩ := exists_find?_of_mem h
  rw [recordMemberOf, hfind] at hs
  dsimp only at hs
  split at hs
  · cases hs
  · rename_i hkey
    obtain ⟨set, -, rfl⟩ := Option.map_eq_some_iff.1 hs
    exact ⟨hkey, rfl⟩

/-- The names of the fields that are read differ from each other and from those before. -/
theorem nodup_of_foldlM {members : List (String × Tree)}
    (hmem : ∀ m ∈ members, m.1 ∈ fields.map (·.name)) {s s' : σ × List String}
    (h : members.foldlM (fun s m => recordMemberOf fields s m.1 m.2) s = some s') :
    (members.map (·.1)).Nodup ∧ ∀ m ∈ members, m.1 ∉ s.2 := by
  induction members generalizing s with
  | nil => exact ⟨List.nodup_nil, fun _ hm => absurd hm List.not_mem_nil⟩
  | cons m members ih =>
    obtain ⟨s₁, hstep, h⟩ := Option.bind_eq_some_iff.1 h
    obtain ⟨hnew, hseen⟩ := recordMemberOf_of_mem (hmem m List.mem_cons_self) hstep
    obtain ⟨hnodup, hdisjoint⟩ := ih (fun m' hm' => hmem m' (List.mem_cons_of_mem _ hm')) h
    rw [hseen] at hdisjoint
    refine ⟨?_, ?_⟩
    · refine List.nodup_cons.2 ⟨fun hm => ?_, hnodup⟩
      obtain ⟨m', hm', he⟩ := List.mem_map.1 hm
      exact hdisjoint m' hm' (he ▸ List.mem_cons_self)
    · intro m' hm'
      rcases List.mem_cons.1 hm' with rfl | hm'
      · exact hnew
      · exact fun hmem => hdisjoint m' hm' (List.mem_cons_of_mem _ hmem)

/-- A field that is there twice makes the record unreadable. -/
theorem objectOf_of_repeated {blank : σ} {members : List (String × Tree)}
    (h : ¬((known fields members).map (·.1)).Nodup) : objectOf fields blank members = none := by
  rw [← objectOf_known, objectOf]
  cases hfold : (known fields members).foldlM (fun s m => recordMemberOf fields s m.1 m.2)
      (blank, []) with
  | none => rfl
  | some s => exact absurd (nodup_of_foldlM (fun m hm => (mem_known_iff.1 hm).2) hfold).1 h

/-! ## The order of fields -/

/-- What a member does to a record, apart from the names that were there. -/
def assign (fields : List (Field σ)) (s : σ) (m : String × Tree) : Option σ :=
  match fields.find? (·.name = m.1) with
  | some field => (fun set => set s) <$> field.read.ofTree m.2
  | none => some s

/-- Where no field is there twice, the names need not be remembered. -/
theorem foldlM_eq_assign {members : List (String × Tree)}
    (hnodup : (members.map (·.1)).Nodup) {s : σ × List String} (hnew : ∀ m ∈ members, m.1 ∉ s.2) :
    Prod.fst <$> members.foldlM (fun s m => recordMemberOf fields s m.1 m.2) s =
      members.foldlM (assign fields) s.1 := by
  induction members generalizing s with
  | nil => rfl
  | cons m members ih =>
    obtain ⟨hm, hnodup⟩ := List.nodup_cons.1 hnodup
    have hrest : ∀ m' ∈ members, m'.1 ∉ s.2 := fun m' hm' => hnew m' (List.mem_cons_of_mem _ hm')
    have hother : ∀ m' ∈ members, m'.1 ≠ m.1 := fun m' hm' he =>
      hm (List.mem_map.2 ⟨m', hm', he⟩)
    rw [List.foldlM_cons, List.foldlM_cons, recordMemberOf, assign]
    cases fields.find? (·.name = m.1) with
    | none => exact ih hnodup hrest
    | some f =>
      dsimp only
      rw [if_neg (hnew m List.mem_cons_self)]
      cases f.read.ofTree m.2 with
      | none => rfl
      | some set =>
        refine ih hnodup fun m' hm' hmem => ?_
        rcases List.mem_cons.1 hmem with he | hmem
        · exact hother m' hm' he
        · exact hrest m' hm' hmem

theorem objectOf_eq_assign {blank : σ} {members : List (String × Tree)}
    (h : ((known fields members).map (·.1)).Nodup) :
    objectOf fields blank members = (known fields members).foldlM (assign fields) blank := by
  rw [← objectOf_known, objectOf, foldlM_eq_assign h fun _ _ => List.not_mem_nil]

instance : Std.Symm (Independent : Field σ → Field σ → Prop) :=
  ⟨fun _ _ h _ _ _ _ ht hu s => (h hu ht s).symm⟩

section

variable (hind : fields.Pairwise Independent)

include hind

theorem assign_comm {m m' : String × Tree} (h : m.1 ≠ m'.1) (s : σ) :
    (assign fields s m).bind (assign fields · m') =
      (assign fields s m').bind (assign fields · m) := by
  unfold assign
  cases hfind : fields.find? (·.name = m.1) with
  | none => exact (Option.bind_some _ _).trans (Option.bind_fun_some _).symm
  | some f =>
    cases hfind' : fields.find? (·.name = m'.1) with
    | none => exact (Option.bind_fun_some _).trans (Option.bind_some _ _).symm
    | some g =>
      have hname : f.name = m.1 := by simpa using List.find?_some hfind
      have hname' : g.name = m'.1 := by simpa using List.find?_some hfind'
      have hne : f ≠ g := fun he => h (hname ▸ hname' ▸ congrArg _ he)
      have hcomm : Independent f g := hind.forall (List.mem_of_find?_eq_some hfind)
        (List.mem_of_find?_eq_some hfind') hne
      dsimp only
      cases hf : f.read.ofTree m.2 <;> cases hg : g.read.ofTree m'.2
      · rfl
      · rfl
      · rfl
      · exact congrArg some (hcomm hf hg s).symm

theorem foldlM_assign_perm {members members' : List (String × Tree)}
    (hperm : members.Perm members') (hnodup : (members.map (·.1)).Nodup) (s : σ) :
    members.foldlM (assign fields) s = members'.foldlM (assign fields) s := by
  induction hperm generalizing s with
  | nil => rfl
  | cons m _ ih =>
    rw [List.foldlM_cons, List.foldlM_cons]
    exact congrArg _ (funext fun s' => ih (List.nodup_cons.1 hnodup).2 s')
  | swap m m' members =>
    have hne : m'.1 ≠ m.1 := fun he =>
      (List.nodup_cons.1 hnodup).1 (List.mem_map.2 ⟨m, List.mem_cons_self, he.symm⟩)
    simp only [List.foldlM_cons, ← bind_assoc]
    exact congrArg (· >>= _) (assign_comm hind hne s)
  | trans hperm _ ih ih' =>
    rw [ih hnodup, ih' ((hperm.map (·.1)).nodup_iff.1 hnodup)]

/-- The order of the members does not count. -/
theorem objectOf_perm {blank : σ} {members members' : List (String × Tree)}
    (hperm : (known fields members).Perm (known fields members')) :
    objectOf fields blank members = objectOf fields blank members' := by
  have hiff := (hperm.map (·.1)).nodup_iff
  by_cases hnodup : ((known fields members).map (·.1)).Nodup
  · rw [objectOf_eq_assign hnodup, objectOf_eq_assign (hiff.1 hnodup),
      foldlM_assign_perm hind hperm hnodup]
  · -- With a field twice neither of them is read.
    rw [objectOf_of_repeated hnodup, objectOf_of_repeated fun h => hnodup (hiff.2 h)]

/-- A member that is a field may be taken up last. -/
theorem objectOf_append_cons {blank : σ} {before after : List (String × Tree)} {name : String}
    {t : Tree} (hname : name ∈ fields.map (·.name))
    (hnodup : ((known fields (before ++ (name, t) :: after)).map (·.1)).Nodup) :
    objectOf fields blank (before ++ (name, t) :: after) =
      ((known fields (before ++ after)).foldlM (assign fields) blank).bind
        (assign fields · (name, t)) := by
  have hperm : (known fields (before ++ (name, t) :: after)).Perm
      (known fields (before ++ after) ++ [(name, t)]) := by
    rw [known, known, List.filter_append, List.filter_append,
      List.filter_cons_of_pos (by simpa using hname), List.append_assoc]
    exact (List.perm_append_singleton _ _).symm.append_left _
  rw [objectOf_eq_assign hnodup, foldlM_assign_perm hind hperm hnodup, List.foldlM_append]
  refine congrArg _ (funext fun s => ?_)
  rw [List.foldlM_cons]
  exact Option.bind_fun_some _

/-- What another value of one field changes. -/
theorem objectOf_replace {blank s : σ} {before after : List (String × Tree)} {field : Field σ}
    (hfind : fields.find? (·.name = field.name) = some field) {t : Tree}
    (h : objectOf fields blank (before ++ (field.name, t) :: after) = some s) :
    ∃ s₀ set, field.read.ofTree t = some set ∧ s = set s₀ ∧
      ∀ t', objectOf fields blank (before ++ (field.name, t') :: after) =
        (field.read.ofTree t').map fun set' => set' s₀ := by
  have hname : field.name ∈ fields.map (·.name) :=
    List.mem_map_of_mem (List.mem_of_find?_eq_some hfind)
  have hnodup : ((known fields (before ++ (field.name, t) :: after)).map (·.1)).Nodup := by
    by_contra hrepeated
    rw [objectOf_of_repeated hrepeated] at h
    cases h
  have hread : ∀ t', objectOf fields blank (before ++ (field.name, t') :: after) =
      ((known fields (before ++ after)).foldlM (assign fields) blank).bind fun s₀ =>
        (field.read.ofTree t').map fun set' => set' s₀ := by
    intro t'
    have hnodup' : ((known fields (before ++ (field.name, t') :: after)).map (·.1)).Nodup := by
      rw [map_fst_known, List.map_append, List.map_cons] at hnodup ⊢
      exact hnodup
    rw [objectOf_append_cons hind hname hnodup']
    simp only [assign, hfind]
    rfl
  rw [hread] at h
  obtain ⟨s₀, hs₀, h⟩ := Option.bind_eq_some_iff.1 h
  obtain ⟨set, hset, rfl⟩ := Option.map_eq_some_iff.1 h
  exact ⟨s₀, set, hset, rfl, fun t' => by rw [hread, hs₀, Option.bind_some]⟩

end

/-! ## Arrays -/

theorem map_fst_zip_sublist {α β : Type} (l : List α) (l' : List β) :
    ((l.zip l').map (·.1)).Sublist l := by
  induction l generalizing l' with
  | nil => exact List.Sublist.refl _
  | cons a l ih =>
    cases l' with
    | nil => exact List.nil_sublist _
    | cons b l' => exact (ih l').cons_cons a

/-- An array stands for an object that gives its items to the first fields. -/
theorem objectOf_zip (hnames : (fields.map (·.name)).Nodup) (blank : σ) {ts : List Tree}
    (hlength : ts.length ≤ fields.length) :
    objectOf fields blank ((fields.map (·.name)).zip ts) = itemsOf fields ts blank := by
  have hfold : ∀ (rest : List (Field σ)) (ts : List Tree) (s : σ), rest ⊆ fields →
      ts.length ≤ rest.length →
        ((rest.map (·.name)).zip ts).foldlM (assign fields) s = itemsOf rest ts s := by
    intro rest
    induction rest with
    | nil =>
      intro ts s _ hts
      cases ts with
      | nil => rfl
      | cons t ts => exact absurd hts (Nat.not_succ_le_zero _)
    | cons f rest ih =>
      intro ts s hrest hts
      cases ts with
      | nil => rfl
      | cons t ts =>
        rw [List.map_cons, List.zip_cons_cons, List.foldlM_cons, assign,
          find?_of_mem hnames (hrest List.mem_cons_self), itemsOf]
        dsimp only
        cases f.read.ofTree t with
        | none => rfl
        | some set =>
          exact ih ts (set s) (fun g hg => hrest (List.mem_cons_of_mem _ hg))
            (Nat.le_of_succ_le_succ hts)
  have hknown : known fields ((fields.map (·.name)).zip ts) = (fields.map (·.name)).zip ts :=
    known_eq_self fun _ hm => (List.of_mem_zip hm).1
  rw [objectOf_eq_assign, hknown, hfold fields ts blank (fun _ hf => hf) hlength]
  rw [hknown]
  exact hnames.sublist (map_fst_zip_sublist _ ts)

/-- There are no more items than fields. -/
theorem itemsOf_eq_none {ts : List Tree} (h : fields.length < ts.length) (s : σ) :
    itemsOf fields ts s = none := by
  induction fields generalizing ts s with
  | nil =>
    cases ts with
    | nil => exact absurd h (Nat.lt_irrefl 0)
    | cons t ts => rfl
  | cons f fields ih =>
    cases ts with
    | nil => exact absurd h (Nat.not_lt_zero _)
    | cons t ts =>
      rw [itemsOf]
      cases f.read.ofTree t with
      | none => rfl
      | some set => exact ih (Nat.lt_of_succ_lt_succ h) _

end FuseMount.Json.Decoder
