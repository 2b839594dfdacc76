import FuseMount.Event.Log

/-!
# What filters let through

A directive decides about an event only if it is the most specific one of those that are about the
event. Where all directives have one limit it does not matter which one that is.

Results:

* `passes_of_limit_eq`: filters with one limit.
* `passes_defaultFilter_iff`: the filter for a log of which nothing is said.
* `parse_empty`, `not_passes_nil`: a text without directives makes a filter that lets nothing
  through.
-/

namespace FuseMount

/-! ## The directive that decides -/

namespace Directive

theorem mem_of_mostSpecific {directives : List Directive} {d : Directive}
    (h : mostSpecific directives = some d) : d ∈ directives := by
  induction directives with
  | nil => cases h
  | cons first rest ih =>
    rw [mostSpecific] at h
    split at h
    · rename_i best hbest
      split at h
      · exact List.mem_cons_of_mem first (ih (hbest.trans h))
      · cases h
        exact List.mem_cons_self
    · cases h
      exact List.mem_cons_self

theorem mostSpecific_eq_none_iff {directives : List Directive} :
    mostSpecific directives = none ↔ directives = [] := by
  cases directives with
  | nil => exact ⟨fun _ => rfl, fun _ => rfl⟩
  | cons first rest =>
    refine ⟨fun h => ?_, nofun⟩
    rw [mostSpecific] at h
    split at h
    · split at h <;> cases h
    · cases h

end Directive

/-! ## Filters -/

namespace Filter

variable {filter : Filter} {limit : Limit}

/-- If there is only one limit, it decides about all events that some directive is about. -/
theorem passes_of_limit_eq (h : ∀ d ∈ filter.directives, d.limit = limit) (e : Event) :
    filter.passes e ↔ (∃ d ∈ filter.directives, d.concerns e) ∧ limit.admits e.level := by
  unfold passes
  cases hmost : Directive.mostSpecific (filter.directives.filter (·.concerns e)) with
  | none =>
    have hnil := Directive.mostSpecific_eq_none_iff.1 hmost
    refine ⟨nofun, ?_⟩
    rintro ⟨⟨d, hd, hconcerns⟩, -⟩
    exact absurd hconcerns (List.filter_eq_nil_iff.1 hnil d hd)
  | some best =>
    obtain ⟨hbest, hconcerns⟩ := List.mem_filter.1 (Directive.mem_of_mostSpecific hmost)
    rw [Option.any_some, h best hbest]
    exact ⟨fun hadmits => ⟨⟨best, hbest, hconcerns⟩, hadmits⟩, fun hpasses => hpasses.2⟩

theorem not_passes_nil (e : Event) : ¬(⟨[]⟩ : Filter).passes e := Bool.false_ne_true

theorem parse_empty : parse "" = .ok ⟨[]⟩ := rfl

end Filter

/-- By default the events of two parts of the program are shown, and of these the details are not. -/
theorem Log.passes_defaultFilter_iff (e : Event) :
    defaultFilter.passes e ↔
      ("mountkit_cli".toList <+: e.target.toList ∨ "mountkit_mount".toList <+: e.target.toList) ∧
        e.level.rank ≤ Level.info.rank := by
  have hlimit : ∀ d ∈ defaultFilter.directives, d.limit = some .info := by
    simp [defaultFilter]
  rw [Filter.passes_of_limit_eq hlimit]
  simp [defaultFilter, Directive.concerns, Limit.admits]

end FuseMount
