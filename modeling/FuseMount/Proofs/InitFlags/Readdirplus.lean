import FuseMount.Proofs.InitFlags.Negotiation
import FuseMount.Proofs.InitFlags.Requested

/-!
# Automatic `readdirplus`

The kernel can be left to choose when `readdirplus` is used, which has a sense only if it is used at
all. A configuration asks for this choice only together with `readdirplus` itself. Negotiation is an
intersection and nothing more, though: an offer of the choice alone takes `readdirplus` away and
leaves the choice. Any other offer leaves the two together, or neither of them, or `readdirplus`
alone.

Results:

* `paired_initFlags`: what a configuration asks for.
* `paired_negotiateAll_iff`, `paired_negotiate_iff`: which offers let the choice stand alone.
* `readdirplusAuto_survives`: the same for the flags that a configuration asks for.
-/

namespace FuseMount

/-! ## Specification -/

/-- A configuration asks for the automatic choice of `readdirplus`. -/
def Config.WantsAuto (c : Config) : Prop :=
  c.enableReaddirplus ∧ c.enableAutoReaddirplus

namespace InitFlags

/-- The automatic choice is not there without `readdirplus` itself. -/
def Paired (flags : InitFlags) : Prop :=
  flags.contains readdirplusAuto → flags.contains doReaddirplus

instance (flags : InitFlags) : Decidable flags.Paired :=
  inferInstanceAs (Decidable (_ → _))

/-! ## Which offers keep the pair -/

section

variable {flags requested offered : InitFlags}

theorem contains_doReaddirplus_iff : flags.contains doReaddirplus ↔ flags.Has 13 :=
  contains_iff_has (f := (doReaddirplus, "do_readdirplus")) (by decide) (by decide)

theorem contains_readdirplusAuto_iff : flags.contains readdirplusAuto ↔ flags.Has 14 :=
  contains_iff_has (f := (readdirplusAuto, "readdirplus_auto")) (by decide) (by decide)

/-- The pair is broken if all offers have the choice, and some of them not `readdirplus`. -/
theorem paired_negotiateAll_iff (h : requested.Paired) (offers : List InitFlags) :
    (negotiateAll requested offers).value.Paired ↔
      ¬(requested.contains readdirplusAuto ∧ (∀ offered ∈ offers, offered.contains readdirplusAuto) ∧
        ∃ offered ∈ offers, ¬offered.contains doReaddirplus) := by
  have hfinal (i : Nat) := (leads_trace requested offers).has_final_iff (i := i)
  simp only [Paired, contains_readdirplusAuto_iff, contains_doReaddirplus_iff] at h ⊢
  rw [hfinal, hfinal]
  constructor
  · rintro hpaired ⟨hauto, hall, offered, hmem, hnot⟩
    exact hnot ((hpaired ⟨hauto, hall⟩).2 offered hmem)
  · rintro hnot ⟨hauto, hall⟩
    refine ⟨h hauto, fun offered hmem => ?_⟩
    by_contra hoffered
    exact hnot ⟨hauto, hall, offered, hmem, hoffered⟩

theorem negotiateAll_singleton (requested offered : InitFlags) :
    (negotiateAll requested [offered]).value = (negotiate requested offered).value := rfl

/-- One offer breaks the pair if it has the choice and not `readdirplus`. -/
theorem paired_negotiate_iff (h : requested.Paired) :
    (negotiate requested offered).value.Paired ↔
      ¬(requested.contains readdirplusAuto ∧ offered.contains readdirplusAuto ∧
        ¬offered.contains doReaddirplus) := by
  simpa only [negotiateAll_singleton, List.mem_singleton, forall_eq, exists_eq_left]
    using paired_negotiateAll_iff h [offered]

end

/-! ## Configurations -/

section

variable (c : Config) (p : Platform)

theorem contains_readdirplusAuto_initFlags_iff :
    (c.initFlags p).contains readdirplusAuto ↔ c.WantsAuto := by
  rw [contains_readdirplusAuto_iff, has_initFlags_iff]
  rfl

theorem contains_doReaddirplus_initFlags_iff :
    (c.initFlags p).contains doReaddirplus ↔ c.enableReaddirplus := by
  rw [contains_doReaddirplus_iff, has_initFlags_iff]
  rfl

theorem paired_initFlags : (c.initFlags p).Paired := by
  rw [Paired, contains_readdirplusAuto_initFlags_iff, contains_doReaddirplus_initFlags_iff]
  exact And.left

/-- **When the automatic choice survives alone.** No configuration asks for the choice without
`readdirplus`. An offer leaves the choice alone exactly if it has the choice and not `readdirplus`,
and the configuration asks for both; several offers do so exactly if all of them have the choice and
some of them not `readdirplus`. -/
theorem readdirplusAuto_survives :
    (c.initFlags p).Paired ∧
      (∀ offered, (negotiate (c.initFlags p) offered).value.Paired ↔
        ¬(c.WantsAuto ∧ offered.contains readdirplusAuto ∧ ¬offered.contains doReaddirplus)) ∧
      ∀ offers, (negotiateAll (c.initFlags p) offers).value.Paired ↔
        ¬(c.WantsAuto ∧ (∀ offered ∈ offers, offered.contains readdirplusAuto) ∧
          ∃ offered ∈ offers, ¬offered.contains doReaddirplus) := by
  have hpaired := paired_initFlags c p
  rw [← contains_readdirplusAuto_initFlags_iff c p]
  exact ⟨hpaired, fun offered => paired_negotiate_iff hpaired, paired_negotiateAll_iff hpaired⟩

end

/-- An offer of the choice alone is met by the choice alone. -/
theorem not_paired_autoOffered :
    let c : Config := { enableReaddirplus := true, enableAutoReaddirplus := true }
    (c.initFlags .linux).Paired ∧
      (negotiate (c.initFlags .linux) readdirplusAuto).value = readdirplusAuto ∧
      ¬(negotiate (c.initFlags .linux) readdirplusAuto).value.Paired := by
  decide

end InitFlags

end FuseMount
