import FuseMount.Json.Skip
import FuseMount.TextMap

/-!
# Decoders

A decoder reads a value from the beginning of a document, or says why there is none. It reads from
left to right and stops at the first fault, so that a value of a wrong type is reported also where
the document after it is no JSON.

* `Decoder.string`, `Decoder.bool`, `Decoder.null`, `Decoder.textMap` and `Decoder.optional` read
  values of these kinds.
* `Decoder.variant` reads a name out of a list, written as a string or as an object whose only
  member has this name and the value `null`.
* `Decoder.record` reads a record: an object with members in any order, or an array of the first
  fields in order. Fields that are not there keep the value they have.
* `Decoder.decode` reads a whole document.
-/

namespace FuseMount.Json

/-- A reader of values at the beginning of a document. -/
structure Decoder (α : Type) where
  /-- The value and the characters after it. -/
  run : List Char → Except Fault (α × List Char)
  /-- There are not more characters after the value than there were. -/
  shrinks : ∀ {cs : List Char} {a : α} {rest : List Char},
    run cs = .ok (a, rest) → rest.length ≤ cs.length

namespace Decoder

/-! ## Combining decoders -/

instance : Monad Decoder where
  pure a := ⟨fun cs => .ok (a, cs), by simp_all⟩
  bind d f :=
    { run := fun cs =>
        match d.run cs with
        | .error e => .error e
        | .ok (a, rest) => (f a).run rest
      shrinks := by
        intro cs b rest h
        split at h
        · simp at h
        · rename_i a r hd
          exact Nat.le_trans ((f a).shrinks h) (d.shrinks hd) }

@[simp] theorem run_pure {α : Type} (a : α) (cs : List Char) :
    (pure a : Decoder α).run cs = .ok (a, cs) := rfl

theorem run_bind {α β : Type} (d : Decoder α) (f : α → Decoder β) (cs : List Char) :
    (d >>= f).run cs =
      match d.run cs with
      | .error e => .error e
      | .ok (a, rest) => (f a).run rest := rfl

/-- The decoder that finds a fault at once. -/
def fail {α : Type} (e : Fault) : Decoder α :=
  ⟨fun _ => .error e, by simp⟩

/-- Reads by a function that leaves fewer characters. -/
def ofReading {α : Type} (f : List Char → Except Fault (α × List Char))
    (h : ∀ {cs a rest}, f cs = .ok (a, rest) → rest.length < cs.length) : Decoder α :=
  ⟨f, fun hf => Nat.le_of_lt (h hf)⟩

/-- Passes over the beginning of a document. -/
def ofSkipping (f : List Char → Except Fault (List Char))
    (h : ∀ {cs rest}, f cs = .ok rest → rest.length ≤ cs.length) : Decoder Unit where
  run cs := (f cs).map fun rest => ((), rest)
  shrinks := by
    intro cs a rest hf
    cases hr : f cs with
    | error e => simp [hr, Except.map] at hf
    | ok r =>
      simp only [hr, Except.map, Except.ok.injEq, Prod.mk.injEq] at hf
      exact hf.2 ▸ h hr

/-- The first character after white space, which is not passed over; none at the end of the
document. -/
def peek : Decoder (Option Char) where
  run cs := .ok ((skipSpace cs).head?, skipSpace cs)
  shrinks := by
    intro cs a rest h
    simp only [Except.ok.injEq, Prod.mk.injEq] at h
    exact h.2 ▸ skipSpace_length_le cs

/-- Passes over one character. -/
def next : Decoder Unit where
  run cs := .ok ((), cs.tail)
  shrinks := by
    intro cs a rest h
    simp only [Except.ok.injEq, Prod.mk.injEq] at h
    rw [← h.2]
    simp

/-- Passes over the rest of a literal name. -/
def literal (letters : List Char) : Decoder Unit :=
  ofSkipping (skipLiteral letters) skipLiteral_length_le

/-- Passes over the value that comes next. -/
def skip : Decoder Unit :=
  ofSkipping skipValue fun h => Nat.le_of_lt (skipValue_length_lt h)

/-- The text of a string whose opening quote has been passed over. -/
def stringBody : Decoder String := do
  let cs ← ofReading readString readString_length_lt
  return String.ofList cs

/-- A number whose minus sign, if it has one, has been passed over. -/
def numberBody (negative : Bool) : Decoder Number :=
  ofReading (readNumber negative) readNumber_length_lt

/-- Reports the value that comes next as one of a wrong type. A string, a number or a literal name
has to be well formed for that; of a collection only the bracket is looked at. -/
def wrongType {α : Type} (expected : String) : Decoder α := do
  let report (found : Found) : Decoder α := fail (.mismatch (.wrongType found expected))
  match ← peek with
  | some 'n' => do
    next
    literal ['u', 'l', 'l']
    report .null
  | some 't' => do
    next
    literal ['r', 'u', 'e']
    report (.bool true)
  | some 'f' => do
    next
    literal ['a', 'l', 's', 'e']
    report (.bool false)
  | some '-' => do
    next
    report (.number (← numberBody true))
  | some '"' => do
    next
    report (.string (← stringBody))
  | some '[' => report .array
  | some '\x7b' => report .object
  | some c =>
    if isDigit c then do report (.number (← numberBody false))
    else fail (.malformed .expectedValue)
  | none => fail (.unfinished .value)

/-! ## Values -/

/-- A string. -/
def string : Decoder String := do
  match ← peek with
  | some '"' => do
    next
    stringBody
  | _ => wrongType "a string"

/-- A boolean. -/
def bool : Decoder Bool := do
  match ← peek with
  | some 't' => do
    next
    literal ['r', 'u', 'e']
    return true
  | some 'f' => do
    next
    literal ['a', 'l', 's', 'e']
    return false
  | _ => wrongType "a boolean"

/-- The value `null`. -/
def null : Decoder Unit := do
  match ← peek with
  | some 'n' => do
    next
    literal ['u', 'l', 'l']
  | _ => wrongType "unit"

/-- Either `null` or a value. -/
def optional {α : Type} (d : Decoder α) : Decoder (Option α) := do
  match ← peek with
  | some 'n' => do
    next
    literal ['u', 'l', 'l']
    return none
  | _ => do
    return some (← d)

/-- The colon after a member's name. -/
def colon : Decoder Unit := do
  match ← peek with
  | some ':' => next
  | some _ => fail (.malformed .expectedColon)
  | none => fail (.unfinished .object)

/-- The name of the only member of an object whose opening brace has been passed over. An object
without members lacks the value that it should stand for. -/
def onlyKey : Decoder String := do
  match ← peek with
  | some '"' => do
    next
    stringBody
  | some '\x7d' => fail (.malformed .expectedValue)
  | some _ => fail (.malformed .keyNotString)
  | none => fail (.unfinished .object)

/-- What a name out of a list stands for, found by `find`. -/
def named {α : Type} (known : List String) (find : String → Option α) (name : String) :
    Decoder α :=
  match find name with
  | some a => pure a
  | none => fail (.mismatch (.unknownVariant name known))

/-- A name out of a list, as a string or as the only member of an object. -/
def variant {α : Type} (known : List String) (find : String → Option α) : Decoder α := do
  match ← peek with
  | some '"' => do
    next
    named known find (← stringBody)
  | some '\x7b' => do
    next
    let a ← named known find (← onlyKey)
    colon
    null
    match ← peek with
    | some '\x7d' => do
      next
      return a
    | some _ => fail (.malformed .expectedValue)
    | none => fail (.unfinished .object)
  | some _ => fail (.malformed .expectedValue)
  | none => fail (.unfinished .value)

/-! ## Collections -/

/-- The name of a member, which has to be a string. -/
def readKeyName : List Char → Except Fault (String × List Char)
  | '"' :: rest =>
    match readString rest with
    | .error e => .error e
    | .ok (text, rest) => .ok (String.ofList text, rest)
  | _ => .error (.malformed .keyNotString)

theorem readKeyName_length_lt {cs rest : List Char} {key : String}
    (h : readKeyName cs = .ok (key, rest)) : rest.length < cs.length := by
  unfold readKeyName at h
  grind [→ readString_length_lt]

/-- Where the next member of an object begins, or none at the closing brace, which is passed over.
Members after the first one follow a comma. -/
def nextMember (first : Bool) (cs : List Char) : Except Fault (Bool × List Char) :=
  match skipSpace cs with
  | [] => .error (.unfinished .object)
  | '\x7d' :: rest => .ok (false, rest)
  | c :: rest =>
    if first then .ok (true, c :: rest)
    else if c = ',' then
      match skipSpace rest with
      | [] => .error (.unfinished .value)
      | '\x7d' :: _ => .error (.malformed .trailingComma)
      | rest => .ok (true, rest)
    else .error (.malformed .expectedObjectEnd)

theorem nextMember_length_le {first more : Bool} {cs rest : List Char}
    (h : nextMember first cs = .ok (more, rest)) : rest.length ≤ cs.length := by
  have h₀ := skipSpace_length_le cs
  unfold nextMember at h
  split at h
  · simp at h
  · simp_all
    omega
  · rename_i c r _ hr
    have h₁ := skipSpace_length_le r
    rw [hr] at h₀
    simp only [List.length_cons] at h₀
    split at h
    · simp only [Except.ok.injEq, Prod.mk.injEq] at h
      rw [← h.2]
      exact h₀
    · split at h
      · split at h <;> simp_all
        omega
      · simp at h

/-- The members of an object after its opening brace, each one taken up into a state. -/
def readMembers {σ : Type} (member : σ → String → Decoder σ) (first : Bool) (s : σ)
    (cs : List Char) : Except Fault (σ × List Char) :=
  match _h : nextMember first cs with
  | .error e => .error e
  | .ok (false, rest) => .ok (s, rest)
  | .ok (true, rest) =>
    match _h' : readKeyName rest with
    | .error e => .error e
    | .ok (key, rest) =>
      match _h'' : (member s key).run rest with
      | .error e => .error e
      | .ok (next, rest) => readMembers member false next rest
termination_by cs.length
decreasing_by
  have h₁ := nextMember_length_le _h
  have h₂ := readKeyName_length_lt _h'
  have h₃ := (member s key).shrinks _h''
  omega

theorem readMembers_length_le {σ : Type} {member : σ → String → Decoder σ} {first : Bool} {s t : σ}
    {cs rest : List Char} (h : readMembers member first s cs = .ok (t, rest)) :
    rest.length ≤ cs.length := by
  fun_induction readMembers member first s cs with
  | case1 => simp at h
  | case2 _ _ cs r hn =>
    have := nextMember_length_le hn
    simp_all
  | case3 => simp at h
  | case4 => simp at h
  | case5 _ s cs r hn key r₁ hk s' r₂ hm ih =>
    have h₁ := nextMember_length_le hn
    have h₂ := readKeyName_length_lt hk
    have h₃ := (member s key).shrinks hm
    have h₄ := ih h
    omega

/-- The members of an object after its opening brace, each one taken up into a state by a decoder
that reads from the colon on. -/
def members {σ : Type} (member : σ → String → Decoder σ) (s : σ) : Decoder σ :=
  ⟨readMembers member true s, readMembers_length_le⟩

/-- A map from texts to texts. Of two members with one name the later one counts. -/
def textMap : Decoder TextMap := do
  match ← peek with
  | some '\x7b' => do
    next
    members (fun m key => do colon; return m.insert key (← string)) ∅
  | _ => wrongType "a map"

/-- Whether there is another item in an array. -/
def hasItem (first : Bool) : Decoder Bool := do
  match ← peek with
  | none => fail (.unfinished .list)
  | some ']' => return false
  | some c =>
    if first then return true
    else if c = ',' then do
      next
      match ← peek with
      | some ']' => fail (.malformed .trailingComma)
      | some _ => return true
      | none => fail (.unfinished .value)
    else fail (.malformed .expectedListEnd)

/-- The end of an array after its last item. -/
def arrayEnd : Decoder Unit := do
  match ← peek with
  | some ']' => next
  | some ',' => do
    next
    match ← peek with
    | some ']' => fail (.malformed .trailingComma)
    | _ => fail (.malformed .trailingCharacters)
  | some _ => fail (.malformed .trailingCharacters)
  | none => fail (.unfinished .list)

/-- A field of a record: its name, and a reader of values that go into the record. -/
structure Field (σ : Type) where
  name : String
  read : Decoder (σ → σ)

/-- The items of an array, which are the first fields of a record in order. -/
def items {σ : Type} : List (Field σ) → Bool → σ → Decoder σ
  | [], _, s => pure s
  | field :: fields, first, s => do
    if ← hasItem first then
      let set ← field.read
      items fields false (set s)
    else return s

/-- A member of a record that is written as an object. A field may be there once; members that are
no fields are passed over. The state is the record with the names of the fields that were there. -/
def recordMember {σ : Type} (fields : List (Field σ)) (s : σ × List String) (key : String) :
    Decoder (σ × List String) := do
  match fields.find? (·.name = key) with
  | some field =>
    if key ∈ s.2 then fail (.mismatch (.duplicateField key))
    else
      colon
      let set ← field.read
      return (set s.1, key :: s.2)
  | none =>
    colon
    skip
    return s

/-- A record with the given fields, which begin with the values of `blank`. -/
def record {σ : Type} (label : String) (fields : List (Field σ)) (blank : σ) : Decoder σ := do
  match ← peek with
  | some '[' => do
    next
    let s ← items fields true blank
    arrayEnd
    return s
  | some '\x7b' => do
    next
    let s ← members (recordMember fields) (blank, [])
    return s.1
  | _ => wrongType ("struct " ++ label)

/-! ## Documents -/

/-- The value of a whole document, around which there is only white space. -/
def decode {α : Type} (d : Decoder α) (document : String) : Except Fault α :=
  match d.run document.toList with
  | .error e => .error e
  | .ok (a, rest) =>
    if skipSpace rest = [] then .ok a else .error (.malformed .trailingCharacters)

end Decoder

end FuseMount.Json
