import FuseMount.Proofs.Options.Precedence

/-!
# Options completed by a platform

The options of a configuration may be used as the options of another one, in which nothing else is
set. That adds the options which a platform sets wherever nothing is configured, and changes none
that are there. Platforms agree on the values of the options that they set, so it makes no
difference in which order options are completed by several of them.

Results:

* `get?_completed`, `contains_completed`: completed options, name by name.
* `contains_usual_iff`: the names that a platform sets.
* `completed_eq_self_iff`: options are complete exactly if they have these names.
* `completed_mountOptions_iff`: when the options of a configuration are complete.
* `completed_closure`: completing is a closure operator.
-/

namespace FuseMount.Options

/-! ## Specification -/

/-- The options that a platform sets where nothing is configured. -/
def usual (p : Platform) : Options := ({} : Config).mountOptions p

/-- The options of a configuration in which nothing is set but its own options. -/
def completed (p : Platform) (o : Options) : Options := ({ options := o } : Config).mountOptions p

/-! ## Names and values -/

theorem get?_usual (p : Platform) (k : String) :
    (usual p).get? k = ({} : Config).impliedValue? p k := by
  rw [usual, Config.get?_mountOptions]
  rfl

theorem get?_completed (p : Platform) (o : Options) (k : String) :
    (completed p o).get? k = (o.get? k <|> (usual p).get? k) := by
  rw [completed, Config.get?_mountOptions, get?_usual]
  rfl

theorem contains_completed (p : Platform) (o : Options) (k : String) :
    (completed p o).contains k ↔ o.contains k ∨ (usual p).contains k := by
  rw [TextMap.contains, TextMap.contains, TextMap.contains, get?_completed]
  cases o.get? k <;> simp

/-- The names that a platform sets. -/
theorem contains_usual_iff (p : Platform) (k : String) :
    (usual p).contains k ↔
      k = "default_permissions" ∨ p = .linux ∧ k = "fsname" ∨
        p = .darwin ∧ (k = "novncache" ∨ k = "noappledouble") := by
  rw [TextMap.contains, get?_usual]
  fun_cases Config.impliedValue? {} p k <;> simp_all

/-- Platforms that set a name give it one value. -/
theorem usual_agree {p q : Platform} {k v w : String} (hp : (usual p).get? k = some v)
    (hq : (usual q).get? k = some w) : v = w := by
  rw [get?_usual] at hp hq
  fun_cases Config.impliedValue? {} p k <;> simp_all [Config.impliedValue?]

/-! ## Complete options -/

section

variable (p q : Platform) (o : Options)

/-- Options are complete exactly if they have the names that the platform sets. -/
theorem completed_eq_self_iff :
    completed p o = o ↔ ∀ k, (usual p).contains k → o.contains k := by
  constructor
  · intro h k hk
    rw [← h, contains_completed]
    exact .inr hk
  · intro h
    refine TextMap.ext_get? fun k => ?_
    have hk := h k
    rw [TextMap.contains, TextMap.contains] at hk
    rw [get?_completed]
    cases hown : o.get? k with
    | some v => rfl
    | none =>
      cases husual : (usual p).get? k with
      | none => rfl
      | some v => simp [hown, husual] at hk

theorem entries_subset_completed : o.entries ⊆ (completed p o).entries := by
  rintro ⟨k, v⟩ hown
  rw [← TextMap.get?_eq_some_iff] at hown ⊢
  rw [get?_completed, hown]
  rfl

theorem completed_completed : completed p (completed p o) = completed p o :=
  (completed_eq_self_iff p _).2 fun k hk => (contains_completed p o k).2 (.inr hk)

/-- Where both platforms add a name, they add it with one value. -/
theorem completed_comm : completed p (completed q o) = completed q (completed p o) := by
  refine TextMap.ext_get? fun k => ?_
  simp only [get?_completed]
  cases o.get? k with
  | some v => rfl
  | none =>
    cases hp : (usual p).get? k with
    | none => cases (usual q).get? k <;> rfl
    | some v =>
      cases hq : (usual q).get? k with
      | none => rfl
      | some w => rw [usual_agree hp hq]

variable {o} in
theorem contains_completed_mono {o' : Options} (h : o.entries ⊆ o'.entries) {k : String}
    (hk : (completed p o).contains k) : (completed p o').contains k := by
  rw [contains_completed] at hk ⊢
  refine hk.imp_left fun hown => ?_
  obtain ⟨v, hv⟩ := Option.isSome_iff_exists.1 hown
  have hv' := h ((o.get?_eq_some_iff k v).1 hv)
  exact Option.isSome_iff_exists.2 ⟨v, (o'.get?_eq_some_iff k v).2 hv'⟩

end

/-! ## Options of a configuration -/

theorem contains_mountOptions (c : Config) (p : Platform) (k : String) :
    (c.mountOptions p).contains k ↔ c.options.contains k ∨ (c.impliedValue? p k).isSome := by
  rw [TextMap.contains, TextMap.contains, Config.get?_mountOptions]
  cases c.options.get? k <;> simp

/-- A name that a platform sets follows from the fields of every configuration on it, but for the
two names that a field takes away. -/
theorem isSome_impliedValue?_iff (c : Config) {p : Platform} {k : String}
    (hk : (usual p).contains k) :
    (c.impliedValue? p k).isSome ↔
      ¬(k = "default_permissions" ∧ c.disableDefaultPermissions) ∧
        ¬(k = "novncache" ∧ c.enableVnodeCaching) := by
  rcases (contains_usual_iff p k).1 hk with rfl | ⟨rfl, rfl⟩ | ⟨rfl, rfl | rfl⟩
  · simp [Config.impliedValue?]
  · by_cases hfsName : c.fsName = "" <;> simp [Config.impliedValue?, hfsName]
  · simp [Config.impliedValue?]
  · simp [Config.impliedValue?]

/-- The options of a configuration are complete, unless it takes one of the two names away and does
not set it among its own options. -/
theorem completed_mountOptions_iff (c : Config) (p : Platform) :
    completed p (c.mountOptions p) = c.mountOptions p ↔
      ¬(c.disableDefaultPermissions ∧ ¬c.options.contains "default_permissions") ∧
        ¬(p = .darwin ∧ c.enableVnodeCaching ∧ ¬c.options.contains "novncache") := by
  rw [completed_eq_self_iff]
  constructor
  · intro h
    have himplied : ∀ {k}, (usual p).contains k → ¬c.options.contains k →
        (c.impliedValue? p k).isSome := fun hk hown =>
      ((contains_mountOptions c p _).1 (h _ hk)).resolve_left hown
    refine ⟨fun ⟨hoff, hown⟩ => ?_, fun ⟨hp, hon, hown⟩ => ?_⟩
    · have hk := (contains_usual_iff p "default_permissions").2 (.inl rfl)
      exact ((isSome_impliedValue?_iff c hk).1 (himplied hk hown)).1 ⟨rfl, hoff⟩
    · have hk := (contains_usual_iff p "novncache").2 (.inr (.inr ⟨hp, .inl rfl⟩))
      exact ((isSome_impliedValue?_iff c hk).1 (himplied hk hown)).2 ⟨rfl, hon⟩
  · rintro ⟨hoff, hon⟩ k hk
    rw [contains_mountOptions, isSome_impliedValue?_iff c hk, or_iff_not_imp_left]
    intro hown
    refine ⟨?_, ?_⟩
    · rintro ⟨rfl, hdisabled⟩
      exact hoff ⟨hdisabled, hown⟩
    · rintro ⟨rfl, henabled⟩
      have hp : p = .darwin := by simpa [contains_usual_iff] using hk
      exact hon ⟨hp, henabled, hown⟩

/-! ## Main theorem -/

/-- **Completing is a closure operator.** Options keep all their entries; completing them twice is
as good as once, and two platforms complete them in either order; of more options there are more
names when they are completed. The complete ones are those that have all names which the platform
sets where nothing is configured. So are the options of a configuration, unless it disables default
permissions, or enables the cache of entries on Darwin, without setting that name itself. -/
theorem completed_closure (p q : Platform) (o : Options) :
    o.entries ⊆ (completed p o).entries ∧
      completed p (completed p o) = completed p o ∧
      completed p (completed q o) = completed q (completed p o) ∧
      (∀ o' : Options, o.entries ⊆ o'.entries →
        ∀ k, (completed p o).contains k → (completed p o').contains k) ∧
      (completed p o = o ↔ ∀ k, (({} : Config).mountOptions p).contains k → o.contains k) ∧
      ∀ c : Config, completed p (c.mountOptions p) = c.mountOptions p ↔
        ¬(c.disableDefaultPermissions ∧ ¬c.options.contains "default_permissions") ∧
          ¬(p = .darwin ∧ c.enableVnodeCaching ∧ ¬c.options.contains "novncache") :=
  ⟨entries_subset_completed p o, completed_completed p o, completed_comm p q o,
    fun _ h _ hk => contains_completed_mono p h hk, completed_eq_self_iff p o,
    fun c => completed_mountOptions_iff c p⟩

end FuseMount.Options
