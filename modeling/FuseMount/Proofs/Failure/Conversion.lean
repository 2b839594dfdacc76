import FuseMount.Failure

/-!
# Failures made of other errors

An error of any kind says something, and may name the error that it comes from, its source. What it
says and what its sources say, one below the other, is what a failure made of it says too. Values
are another matter: only an error that is a failure already has any, and it keeps them only if it is
handed over itself. One that is only looked at gives its messages and those of its sources.

Results:

* `toFailure_eq`: conversion goes from an error to its source.
* `Says.messages_toFailure`: the failure has the messages of the error and of its sources.
* `Says.eq`, `says_messages`: an error says one thing, and a failure says its messages.
* `conversion_keeps`: what a conversion keeps, and what it drops.
-/

namespace FuseMount

/-! ## Specification -/

/-- A cause without its values. -/
def Cause.bare (cause : Cause) : Cause := { cause with values := ∅ }

/-- No cause of a failure has values. -/
def Failure.Bare (f : Failure) : Prop :=
  ∀ cause ∈ f.causes, cause.values = ∅

namespace AnyError

/-- What an error says itself. -/
def message : AnyError → String
  | failure f => f.message
  | plain message => message
  | wrapped message _ => message

/-- The source that an error names. That of a failure is a failure as well. -/
def source? : AnyError → Option AnyError
  | failure ⟨_, []⟩ => none
  | failure ⟨_, cause :: causes⟩ => some (failure ⟨cause, causes⟩)
  | plain _ => none
  | wrapped _ source => some source

/-- What an error and its sources say, from the error down to the last source. -/
inductive Says : AnyError → List String → Prop
  /-- An error without a source. -/
  | last {e : AnyError} (source?_eq : e.source? = none) : Says e [e.message]
  /-- An error above its source. -/
  | above {e source : AnyError} {texts : List String} (source?_eq : e.source? = some source)
      (below : Says source texts) : Says e (e.message :: texts)

/-- A failure says what an error says. -/
structure Kept (e : AnyError) (f : Failure) : Prop where
  /-- Its messages are what the error and its sources say. -/
  says_messages : e.Says f.messages
  /-- Taken as an error again, it and its sources say the same. -/
  says_iff : ∀ texts, (failure f).Says texts ↔ e.Says texts
  /-- Looked at again, it loses its values and nothing else. -/
  causes_toFailure : (failure f).toFailure.causes = f.causes.map Cause.bare

/-! ## What errors say -/

/-- An error says one thing. -/
theorem Says.eq {e : AnyError} {texts texts' : List String} (h : e.Says texts)
    (h' : e.Says texts') : texts = texts' := by
  induction h generalizing texts' with
  | last hnone =>
    cases h' with
    | last => rfl
    | above hsome => cases hnone.symm.trans hsome
  | above hsome _ ih =>
    cases h' with
    | last hnone => cases hnone.symm.trans hsome
    | above hsome' below =>
      cases hsome.symm.trans hsome'
      rw [ih below]

theorem says_failure (head : Cause) (sources : List Cause) :
    (failure ⟨head, sources⟩).Says (Failure.messages ⟨head, sources⟩) := by
  induction sources generalizing head with
  | nil => exact .last rfl
  | cons cause causes ih => exact .above rfl (ih cause)

/-- However an error is made up, it says its messages. -/
theorem says_messages (e : AnyError) : e.Says e.messages := by
  induction e with
  | failure f => exact says_failure f.head f.sources
  | plain message => exact .last rfl
  | wrapped message source ih => exact .above rfl ih

/-! ## Conversion -/

/-- Conversion goes from an error to its source, and puts the message of the error on top. -/
theorem toFailure_eq (e : AnyError) :
    e.toFailure =
      match e.source? with
      | none => .ofMessage e.message
      | some source => source.toFailure.under e.message := by
  match e with
  | failure ⟨_, []⟩ => rfl
  | failure ⟨_, _ :: _⟩ => rfl
  | plain _ => rfl
  | wrapped _ _ => rfl

theorem Says.messages_toFailure {e : AnyError} {texts : List String} (h : e.Says texts) :
    e.toFailure.messages = texts := by
  induction h with
  | last hnone =>
    rw [toFailure_eq, hnone]
    rfl
  | above hsome _ ih =>
    rw [toFailure_eq, hsome, ← ih]
    rfl

theorem Says.bare_toFailure {e : AnyError} {texts : List String} (h : e.Says texts) :
    e.toFailure.Bare := by
  induction h with
  | last hnone =>
    rw [toFailure_eq, hnone]
    exact List.forall_mem_singleton.2 rfl
  | above hsome _ ih =>
    rw [toFailure_eq, hsome]
    exact List.forall_mem_cons.2 ⟨rfl, ih⟩

theorem causes_toFailure_failure (f : Failure) :
    (failure f).toFailure.causes = f.causes.map Cause.bare := rfl

theorem kept_toFailure (e : AnyError) : e.Kept e.toFailure where
  says_messages := by
    rw [e.says_messages.messages_toFailure]
    exact e.says_messages
  says_iff texts := by
    have h : (failure e.toFailure).Says e.messages := by
      rw [← e.says_messages.messages_toFailure]
      exact says_messages (failure e.toFailure)
    exact ⟨fun h' => h.eq h' ▸ e.says_messages, fun h' => e.says_messages.eq h' ▸ h⟩
  causes_toFailure := causes_toFailure_failure e.toFailure

theorem kept_failure (f : Failure) : (failure f).Kept f where
  says_messages := says_messages (failure f)
  says_iff _ := Iff.rfl
  causes_toFailure := causes_toFailure_failure f

/-- An error that is handed over is converted as if looked at, unless it is a failure. -/
theorem intoFailure_eq (e : AnyError) :
    (∃ f, e = failure f ∧ e.intoFailure = f) ∨
      (∀ f, e ≠ failure f) ∧ e.intoFailure = e.toFailure := by
  cases e with
  | failure f => exact .inl ⟨f, rfl, rfl⟩
  | plain message => exact .inr ⟨nofun, rfl⟩
  | wrapped message source => exact .inr ⟨nofun, rfl⟩

/-! ## Main theorem -/

/-- **What conversion keeps.** A failure that an error is made into, whether the error is looked at
or handed over, says what the error and its sources say, level by level. A failure that is handed
over stays the same with all its values; in every other case there are no values. -/
theorem conversion_keeps (e : AnyError) :
    e.Kept e.toFailure ∧ e.Kept e.intoFailure ∧ e.toFailure.Bare ∧
      ((∃ f, e = failure f ∧ e.intoFailure = f) ∨
        (∀ f, e ≠ failure f) ∧ e.intoFailure.Bare) := by
  have hkept := e.kept_toFailure
  have hbare := e.says_messages.bare_toFailure
  rcases e.intoFailure_eq with ⟨f, rfl, hinto⟩ | ⟨hne, hinto⟩
  · refine ⟨hkept, ?_, hbare, .inl ⟨f, rfl, hinto⟩⟩
    rw [hinto]
    exact kept_failure f
  · rw [hinto]
    exact ⟨hkept, hkept, hbare, .inr ⟨hne, hbare⟩⟩

/-- The values of a failure below an error of another kind are lost. -/
example :
    (wrapped "outer" (failure ⟨⟨"inner", TextMap.ofList [("path", "/mnt")]⟩, []⟩)).intoFailure =
      ⟨⟨"outer", ∅⟩, [⟨"inner", ∅⟩]⟩ := by
  decide +kernel

end AnyError

end FuseMount
