import FuseMount.Json.Lexeme

/-!
# Passing over values

`skipValue` passes over a value that nobody asks for, however deeply it is nested. The collections
around the place that has been reached are on a stack, the innermost one first; when it is empty the
value is at its end.
-/

namespace FuseMount.Json

/-- A collection that is not closed yet. -/
inductive Frame where
  | list
  | object
  deriving DecidableEq, Repr

/-- Passes over the name of a member and the colon after it. -/
def skipKey (cs : List Char) : Except Fault (List Char) :=
  match skipSpace cs with
  | [] => .error (.unfinished .object)
  | '"' :: rest =>
    match skipString rest with
    | .error e => .error e
    | .ok rest =>
      match skipSpace rest with
      | [] => .error (.unfinished .object)
      | ':' :: rest => .ok rest
      | _ => .error (.malformed .expectedColon)
  | _ => .error (.malformed .keyNotString)

theorem skipKey_length_lt {cs rest : List Char} (h : skipKey cs = .ok rest) :
    rest.length < cs.length := by
  unfold skipKey at h
  have h₀ := skipSpace_length_le cs
  split at h
  · simp at h
  · rename_i r hr
    split at h
    · simp at h
    · rename_i r₁ hs
      have h₁ := skipString_length_lt hs
      have h₂ := skipSpace_length_le r₁
      split at h <;> simp_all
      omega
  · simp at h

/-- What a value that is no collection begins with decides how it is passed over. -/
def skipScalar : List Char → Except Fault (List Char)
  | 'n' :: rest => skipLiteral ['u', 'l', 'l'] rest
  | 't' :: rest => skipLiteral ['r', 'u', 'e'] rest
  | 'f' :: rest => skipLiteral ['a', 'l', 's', 'e'] rest
  | '-' :: rest => skipNumber rest
  | '"' :: rest => skipString rest
  | c :: rest => if isDigit c then skipNumber (c :: rest) else .error (.malformed .expectedValue)
  | [] => .error (.unfinished .value)

theorem skipScalar_length_lt {cs rest : List Char} (h : skipScalar cs = .ok rest) :
    rest.length < cs.length := by
  unfold skipScalar at h
  split at h
  · have := skipLiteral_length_le h; simp only [List.length_cons]; omega
  · have := skipLiteral_length_le h; simp only [List.length_cons]; omega
  · have := skipLiteral_length_le h; simp only [List.length_cons]; omega
  · have := skipNumber_length_lt h; simp only [List.length_cons]; omega
  · have := skipString_length_lt h; simp only [List.length_cons]; omega
  · split at h
    · exact skipNumber_length_lt h
    · simp at h
  · simp at h

mutual

/-- Passes over a value and all that is left of the collections around it. -/
def skipWithin (stack : List Frame) (cs : List Char) : Except Fault (List Char) :=
  match _h : skipSpace cs with
  | '[' :: rest =>
    match _h' : skipSpace rest with
    | [] => .error (.unfinished .list)
    | ']' :: rest => skipAfter stack rest
    | c :: rest => skipWithin (.list :: stack) (c :: rest)
  | '\x7b' :: rest =>
    match _h' : skipSpace rest with
    | '\x7d' :: rest => skipAfter stack rest
    | rest =>
      match _h'' : skipKey rest with
      | .error e => .error e
      | .ok rest => skipWithin (.object :: stack) rest
  | cs =>
    match _h' : skipScalar cs with
    | .error e => .error e
    | .ok rest => skipAfter stack rest
termination_by cs.length
decreasing_by
  all_goals grind [skipSpace_length_le, → skipKey_length_lt, → skipScalar_length_lt]

/-- Passes over all that is left of the collections around a value that has been passed over. -/
def skipAfter (stack : List Frame) (cs : List Char) : Except Fault (List Char) :=
  match stack with
  | [] => .ok cs
  | .list :: outer =>
    match _h : skipSpace cs with
    | [] => .error (.unfinished .list)
    | ',' :: rest => skipWithin (.list :: outer) rest
    | ']' :: rest => skipAfter outer rest
    | _ => .error (.malformed .expectedListEnd)
  | .object :: outer =>
    match _h : skipSpace cs with
    | [] => .error (.unfinished .object)
    | ',' :: rest =>
      match _h' : skipKey rest with
      | .error e => .error e
      | .ok rest => skipWithin (.object :: outer) rest
    | '\x7d' :: rest => skipAfter outer rest
    | _ => .error (.malformed .expectedObjectEnd)
termination_by cs.length
decreasing_by
  all_goals grind [skipSpace_length_le, → skipKey_length_lt]

end

/-- Both functions leave fewer characters than there were, or at least not more. -/
theorem skip_length :
    (∀ stack cs rest, skipWithin stack cs = .ok rest → rest.length < cs.length) ∧
      ∀ stack cs rest, skipAfter stack cs = .ok rest → rest.length ≤ cs.length := by
  apply skipWithin.mutual_induct
    (fun stack cs => ∀ rest, skipWithin stack cs = .ok rest → rest.length < cs.length)
    (fun stack cs => ∀ rest, skipAfter stack cs = .ok rest → rest.length ≤ cs.length)
  all_goals intros
  all_goals rename_i hr
  all_goals first | unfold skipWithin at hr | unfold skipAfter at hr
  all_goals grind [skipSpace_length_le, → skipKey_length_lt, → skipScalar_length_lt]

/-- Passes over a value. -/
def skipValue (cs : List Char) : Except Fault (List Char) :=
  skipWithin [] cs

theorem skipValue_length_lt {cs rest : List Char} (h : skipValue cs = .ok rest) :
    rest.length < cs.length :=
  skip_length.1 _ _ _ h

end FuseMount.Json
