import FuseMount.Proofs.InitFlags.Names
import FuseMount.Proofs.Run.Quiet

/-!
# Negotiation over several offers

A set of requested flags meets one offer after another. Each offer takes away the flags that it
lacks, and an event gives the names of those that it takes away. In the end nothing is lost and
nothing invented: a flag that was requested is left, or it was taken away by one offer and named in
the event of that offer alone.

Results:

* `fair_stepOf`, `effects_negotiate`: what one offer takes away, and when an event tells so.
* `negotiate_self`, `negotiate_and_right`: what is left after an offer, offered again.
* `Leads.has_final_iff`: the flags that are left in the end.
* `Leads.count_dropped`: how often the name of a flag is reported.
* `negotiateAll_account`: the account of the whole negotiation.
-/

namespace FuseMount.InitFlags

/-! ## Specification -/

/-- The negotiation of one offer after another. -/
def negotiateAll (requested : InitFlags) (offers : List InitFlags) : Run InitFlags :=
  offers.foldlM negotiate requested

/-- What one offer does. -/
structure Step where
  /-- The flags that are left when the offer is made. -/
  before : InitFlags
  /-- The offer. -/
  offered : InitFlags
  /-- The flags that are left after it. -/
  after : InitFlags
  /-- The names of the flags that it takes away. -/
  dropped : List String

namespace Step

/-- Some bit is not offered, whether there is a name for it or not. -/
def Short (s : Step) : Prop :=
  ∃ i, s.before.Has i ∧ ¬s.offered.Has i

/-- The event that gives the names of the flags that are taken away. -/
def event (s : Step) : Event where
  level := .debug
  target := "mountkit_mount::init"
  message := "the kernel did not offer the requested init flags"
  fields := [("dropped", .text (Text.bracketed (s.dropped.map Text.quote)))]

/-- What is left, and the names of what is taken away, are as the offer has it. -/
structure Fair (s : Step) : Prop where
  has_after_iff : ∀ i, s.after.Has i ↔ s.before.Has i ∧ s.offered.Has i
  /-- The names stand in the order of the table. -/
  dropped_sublist : s.dropped.Sublist (named.map Prod.snd)
  /-- Together with the names that are left they are the names from before. -/
  names_perm : s.before.names.Perm (s.after.names ++ s.dropped)
  disjoint : s.after.names.Disjoint s.dropped

theorem short_iff (s : Step) : s.Short ↔ ¬(s.before.diff s.offered).isEmpty := by
  simp only [Short, isEmpty_iff, has_diff, not_forall, not_not]

instance (s : Step) : Decidable s.Short := decidable_of_iff _ s.short_iff.symm

end Step

/-- Steps that lead, offer by offer, from one set of flags to another one. -/
inductive Leads : InitFlags → List InitFlags → List Step → InitFlags → Prop
  /-- Without an offer the flags stay. -/
  | nil (flags : InitFlags) : Leads flags [] [] flags
  /-- The next step starts where an offer has led to. -/
  | cons {s : Step} {offers : List InitFlags} {steps : List Step} {final : InitFlags} :
      s.Fair → Leads s.after offers steps final →
        Leads s.before (s.offered :: offers) (s :: steps) final

/-- The account of a negotiation. -/
structure Account (requested : InitFlags) (offers : List InitFlags) (r : Run InitFlags)
    (steps : List Step) : Prop where
  /-- There is a fair step for each offer. -/
  leads : Leads requested offers steps r.value
  /-- What is left has been requested and stands in all offers. -/
  bits_eq : r.value.bits = offers.foldl (fun bits offered => bits &&& offered.bits) requested.bits
  /-- The order of the offers does not matter for it. -/
  value_eq_of_perm : ∀ offers', offers.Perm offers' → (negotiateAll requested offers').value = r.value
  /-- An event is reported where a bit is not offered, and nothing else is done. -/
  effects_eq : r.effects = (steps.filter fun s => s.Short).map fun s => .event s.event
  /-- A flag of the table whose bit has been requested and is lost in the end is named in one event,
  and no other flag is named in any event. -/
  count_dropped : ∀ f ∈ named, ∀ i, f.1.Has i →
    (steps.filter fun s => s.Short).countP (fun s => f.2 ∈ s.dropped) =
      if requested.Has i ∧ ¬r.value.Has i then 1 else 0

/-! ## One offer -/

/-- The step from a set of flags with an offer. -/
def stepOf (flags offered : InitFlags) : Step where
  before := flags
  offered := offered
  after := flags &&& offered
  dropped := (flags.diff offered).names

theorem fair_stepOf (flags offered : InitFlags) : (stepOf flags offered).Fair where
  has_after_iff _ := has_and
  dropped_sublist := names_sublist
  names_perm := names_perm
  disjoint := disjoint_names

theorem value_negotiate (flags offered : InitFlags) :
    (negotiate flags offered).value = flags &&& offered := by
  unfold negotiate
  dsimp only
  split <;> rfl

theorem effects_negotiate (flags offered : InitFlags) :
    (negotiate flags offered).effects =
      if (stepOf flags offered).Short then [.event (stepOf flags offered).event] else [] := by
  simp only [Step.short_iff, ite_not]
  unfold negotiate
  dsimp only [stepOf]
  by_cases h : (flags.diff offered).isEmpty <;> simp only [h] <;> rfl

theorem quiet_negotiate (flags offered : InitFlags) : (negotiate flags offered).Quiet := by
  unfold negotiate
  dsimp only
  split
  · exact Run.quiet_pure _
  · exact (Run.quiet_report _).bind (Run.quiet_pure _)

theorem negotiate_self (flags : InitFlags) : negotiate flags flags = pure flags := by
  have hdiff : (flags.diff flags).isEmpty := isEmpty_iff.2 fun i => by simp
  have hand : flags &&& flags = flags := eq_of_has_iff fun i => by simp
  simp only [negotiate, hdiff, hand]
  rfl

/-- An offer counts only as far as it meets what is requested. -/
theorem negotiate_and_right (flags offered : InitFlags) :
    negotiate flags (flags &&& offered) = negotiate flags offered := by
  have hdiff : flags.diff (flags &&& offered) = flags.diff offered :=
    eq_of_has_iff fun i => by simpa using .inl
  have hand : flags &&& (flags &&& offered) = flags &&& offered := eq_of_has_iff fun i => by simp
  simp only [negotiate, hdiff, hand]

section

variable {f : InitFlags × String} {i : Nat}

/-- An offer reports the name of a flag exactly if it takes away its bit. -/
theorem Step.Fair.mem_dropped_iff {s : Step} (h : s.Fair) (hf : f ∈ named) (hi : f.1.Has i) :
    f.2 ∈ s.dropped ↔ s.before.Has i ∧ ¬s.offered.Has i := by
  have hbefore : f.2 ∈ s.before.names ↔ f.2 ∈ s.after.names ∨ f.2 ∈ s.dropped := by
    rw [h.names_perm.mem_iff, List.mem_append]
  have hdisjoint : f.2 ∈ s.after.names → f.2 ∉ s.dropped := fun ha hd => h.disjoint ha hd
  rw [mem_names_iff hf hi, mem_names_iff hf hi, h.has_after_iff] at hbefore
  rw [mem_names_iff hf hi, h.has_after_iff] at hdisjoint
  tauto

/-! ## One offer after another -/

variable {flags final : InitFlags} {offers : List InitFlags} {steps : List Step}

theorem Leads.has_final_iff (h : Leads flags offers steps final) :
    final.Has i ↔ flags.Has i ∧ ∀ offered ∈ offers, offered.Has i := by
  induction h with
  | nil => simp
  | cons hfair _ ih => rw [ih, hfair.has_after_iff, List.forall_mem_cons, and_assoc]

/-- The name of a flag is reported once if its bit is lost on the way, and else never. -/
theorem Leads.count_dropped (h : Leads flags offers steps final) (hf : f ∈ named)
    (hi : f.1.Has i) :
    (steps.filter fun s => s.Short).countP (fun s => f.2 ∈ s.dropped) =
      if flags.Has i ∧ ¬final.Has i then 1 else 0 := by
  rw [List.countP_filter]
  induction h with
  | nil => simp
  | @cons s offers steps final hfair hrest ih =>
    have hdropped : f.2 ∈ s.dropped ∧ s.Short ↔ s.before.Has i ∧ ¬s.offered.Has i := by
      rw [hfair.mem_dropped_iff hf hi]
      exact and_iff_left_of_imp fun h => ⟨i, h⟩
    have hfinal : final.Has i → s.after.Has i := fun h => (hrest.has_final_iff.1 h).1
    rw [hfair.has_after_iff] at hfinal
    rw [List.countP_cons, ih]
    simp only [Bool.and_eq_true, decide_eq_true_eq, hdropped, hfair.has_after_iff]
    -- The bit is lost at this offer, or later, or never.
    by_cases hbefore : s.before.Has i <;> by_cases hoffered : s.offered.Has i <;>
      simp_all

end

/-! ## The whole negotiation -/

/-- The steps of a negotiation. -/
def trace : InitFlags → List InitFlags → List Step
  | _, [] => []
  | flags, offered :: offers => stepOf flags offered :: trace (flags &&& offered) offers

theorem bits_negotiateAll (flags : InitFlags) (offers : List InitFlags) :
    (negotiateAll flags offers).value.bits =
      offers.foldl (fun bits offered => bits &&& offered.bits) flags.bits := by
  induction offers generalizing flags with
  | nil => rfl
  | cons offered offers ih =>
    rw [negotiateAll, List.foldlM_cons, Run.value_bind, value_negotiate]
    exact ih (flags &&& offered)

theorem leads_trace (flags : InitFlags) (offers : List InitFlags) :
    Leads flags offers (trace flags offers) (negotiateAll flags offers).value := by
  induction offers generalizing flags with
  | nil => exact .nil flags
  | cons offered offers ih =>
    rw [negotiateAll, List.foldlM_cons, Run.value_bind, value_negotiate]
    exact .cons (fair_stepOf flags offered) (ih (flags &&& offered))

theorem effects_negotiateAll (flags : InitFlags) (offers : List InitFlags) :
    (negotiateAll flags offers).effects =
      ((trace flags offers).filter fun s => s.Short).map fun s => .event s.event := by
  induction offers generalizing flags with
  | nil => rfl
  | cons offered offers ih =>
    rw [negotiateAll, List.foldlM_cons, Run.effects_bind, value_negotiate, effects_negotiate,
      trace, List.filter_cons]
    have hrest := ih (flags &&& offered)
    rw [negotiateAll] at hrest
    rw [hrest]
    by_cases hshort : (stepOf flags offered).Short <;> simp [hshort]

/-- **Negotiation loses and invents nothing.** Whatever was requested and whatever is offered, one
offer after another, what is left are the flags that stand in all of them, in any order of the
offers; and the events that are reported on the way name each flag of the table that is lost exactly
once, where it is lost, and no other flag. -/
theorem negotiateAll_account (requested : InitFlags) (offers : List InitFlags) :
    ∃ steps, Account requested offers (negotiateAll requested offers) steps := by
  have hleads := leads_trace requested offers
  refine ⟨trace requested offers, {
    leads := hleads
    bits_eq := bits_negotiateAll requested offers
    value_eq_of_perm := fun offers' h => eq_of_has_iff fun i => ?_
    effects_eq := effects_negotiateAll requested offers
    count_dropped := fun f hf i hi => hleads.count_dropped hf hi }⟩
  rw [(leads_trace requested offers').has_final_iff, hleads.has_final_iff]
  simp only [h.mem_iff]

/-- A bit without a name is told of by an event that names nothing. -/
example : (negotiateAll ⟨0x80000000⟩ [∅]).effects = [.event {
    level := .debug
    target := "mountkit_mount::init"
    message := "the kernel did not offer the requested init flags"
    fields := [("dropped", .text "[]")] }] := by decide +kernel

end FuseMount.InitFlags
