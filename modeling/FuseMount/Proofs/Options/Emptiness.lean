import FuseMount.Proofs.Options.Completion
import FuseMount.Proofs.Options.RoundTrip

/-!
# Options without a text

Almost always there is a text where there are options. The exception is a single empty name without
a value, which is written as nothing. A configuration has it only if the caller sets it and nothing
follows from the fields, and this is never so on a platform that sets a name in any case.

Results:

* `render_ne_empty_of_contains`: a name that is not empty makes for a text.
* `isEmpty_iff_render_iff`: for which options having no entries is the same as having no text.
* `render_mountOptions_ne_empty`, `render_mountOptions_eq_empty_iff`: when the options of a
  configuration have a text.
* `render_mountOptions_ne_empty_of_ne_other`, `render_mountOptions_other_eq_empty_iff`: the same by
  the platform.
-/

namespace FuseMount.Options

/-! ## Entries and text -/

section

variable {o : Options}

theorem contains_singleton_empty (k : String) :
    (TextMap.ofList [("", "")]).contains k ↔ k = "" := by
  rw [TextMap.contains, TextMap.get?_ofList, TextMap.lastValue?_singleton]
  split_ifs with hk <;> simp [hk]

theorem render_ne_empty_of_contains {k : String} (h : o.contains k) (hk : k ≠ "") :
    o.render ≠ "" := by
  intro hr
  rcases (render_eq_empty_iff o).1 hr with rfl | rfl
  · cases h
  · exact hk ((contains_singleton_empty k).1 h)

theorem isEmpty_iff_eq_empty : o.isEmpty ↔ o = ∅ := by
  rw [TextMap.isEmpty, List.isEmpty_iff]
  exact ⟨fun h => TextMap.ext_entries h, fun h => h ▸ rfl⟩

/-- Only a single empty name without a value is an entry without a text. -/
theorem isEmpty_iff_render_iff :
    (o.isEmpty ↔ o.render = "") ↔ o ≠ TextMap.ofList [("", "")] := by
  rw [isEmpty_iff_eq_empty, render_eq_empty_iff]
  constructor
  · rintro h rfl
    exact absurd (h.2 (.inr rfl)) (by decide)
  · intro hne
    exact ⟨.inl, fun h => h.resolve_right hne⟩

end

/-! ## Configurations -/

section

variable (c : Config) (p : Platform)

variable {c p} in
/-- Where nothing follows from the fields, there are the caller's own options alone. -/
theorem mountOptions_eq_options (h : ∀ k, c.impliedValue? p k = none) :
    c.mountOptions p = c.options := by
  refine TextMap.ext_get? fun k => ?_
  rw [Config.get?_mountOptions, h]
  cases c.options.get? k <;> rfl

variable {c p} in
/-- What follows from the fields has a name, and so a text. -/
theorem render_mountOptions_ne_empty {k : String} (h : (c.impliedValue? p k).isSome) :
    (c.mountOptions p).render ≠ "" := by
  have hk : k ≠ "" := by
    rintro rfl
    cases h
  exact render_ne_empty_of_contains ((contains_mountOptions c p k).2 (.inr h)) hk

theorem render_mountOptions_eq_empty_iff :
    (c.mountOptions p).render = "" ↔
      (∀ k, c.impliedValue? p k = none) ∧
        (c.options = ∅ ∨ c.options = TextMap.ofList [("", "")]) := by
  constructor
  · intro hr
    have himplied : ∀ k, c.impliedValue? p k = none := fun k =>
      Option.not_isSome_iff_eq_none.1 fun h => render_mountOptions_ne_empty h hr
    rw [mountOptions_eq_options himplied, render_eq_empty_iff] at hr
    exact ⟨himplied, hr⟩
  · rintro ⟨himplied, hoptions⟩
    rwa [mountOptions_eq_options himplied, render_eq_empty_iff]

theorem isSome_impliedValue?_fsName : (c.impliedValue? .linux "fsname").isSome := by
  by_cases h : c.fsName = "" <;> simp [Config.impliedValue?, h]

theorem isSome_impliedValue?_noAppleDouble : (c.impliedValue? .darwin "noappledouble").isSome := by
  simp [Config.impliedValue?]

variable {p} in
/-- A platform with conventions of its own has an option for every configuration. -/
theorem render_mountOptions_ne_empty_of_ne_other (h : p ≠ .other) :
    (c.mountOptions p).render ≠ "" := by
  cases p with
  | linux => exact render_mountOptions_ne_empty (isSome_impliedValue?_fsName c)
  | darwin => exact render_mountOptions_ne_empty (isSome_impliedValue?_noAppleDouble c)
  | other => exact absurd rfl h

/-- On a platform without conventions of its own, something follows from four fields only. -/
theorem impliedValue?_other_eq_none_iff :
    (∀ k, c.impliedValue? .other k = none) ↔
      c.disableDefaultPermissions ∧ ¬c.readOnly ∧ c.fsName = "" ∧ c.subtype = "" := by
  constructor
  · intro h
    have hpermissions := h "default_permissions"
    have hreadOnly := h "ro"
    have hfsName := h "fsname"
    have hsubtype := h "subtype"
    simp_all [Config.impliedValue?]
  · rintro ⟨hpermissions, hreadOnly, hfsName, hsubtype⟩ k
    fun_cases Config.impliedValue? c .other k <;> simp_all

theorem render_mountOptions_other_eq_empty_iff :
    (c.mountOptions .other).render = "" ↔
      c.disableDefaultPermissions ∧ ¬c.readOnly ∧ c.fsName = "" ∧ c.subtype = "" ∧
        (c.options = ∅ ∨ c.options = TextMap.ofList [("", "")]) := by
  rw [render_mountOptions_eq_empty_iff, impliedValue?_other_eq_none_iff]
  simp only [and_assoc]

end

end FuseMount.Options
