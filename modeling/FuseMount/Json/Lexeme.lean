import FuseMount.Json.Fault

/-!
# The lexemes of JSON

Reading the smallest parts of a document from a list of characters: white space, literal names,
strings and numbers. Each function returns the characters that are left, and a lemma `…_length_le`
or `…_length_lt` says that these are not more, or fewer, than before.

Strings are read in two ways. `readString` gives the text, so a surrogate escape has to be one half
of a pair. `skipString` passes over a string that nobody asks for, where it need not be. Likewise
`readNumber` finds a number's value, which has to fit into a double, and `skipNumber` passes over
it.
-/

namespace FuseMount.Json

/-- What reading the beginning of a document gives: the answer and the characters that are left. -/
abbrev Reading (α : Type) := Except Fault (α × List Char)

/-! ## White space and literal names -/

/-- Whether a character is white space between lexemes. -/
def isSpace (c : Char) : Bool :=
  c == ' ' || c == '\n' || c == '\t' || c == '\r'

/-- The document from the next lexeme on. -/
def skipSpace (cs : List Char) : List Char :=
  cs.dropWhile isSpace

theorem skipSpace_length_le (cs : List Char) : (skipSpace cs).length ≤ cs.length :=
  (List.dropWhile_suffix isSpace).length_le

/-- Passes over the rest of a literal name, whose first letter is read already. -/
def skipLiteral : List Char → List Char → Except Fault (List Char)
  | [], cs => .ok cs
  | _ :: _, [] => .error (.unfinished .value)
  | l :: ls, c :: cs => if c = l then skipLiteral ls cs else .error (.malformed .expectedIdent)

theorem skipLiteral_length_le {ls cs rest : List Char} (h : skipLiteral ls cs = .ok rest) :
    rest.length ≤ cs.length := by
  fun_induction skipLiteral ls cs with
  | case1 cs =>
    cases h
    exact Nat.le_refl _
  | case2 => cases h
  | case3 l ls cs ih => exact Nat.le_succ_of_le (ih h)
  | case4 => cases h

/-! ## Strings -/

/-- The value of a digit in base 16. -/
def hexDigit? (c : Char) : Option Nat := Numeral.digit? 16 c

/-- The number of four digits in base 16. -/
def readHex4 : List Char → Reading Nat
  | a :: b :: c :: d :: rest =>
    match hexDigit? a, hexDigit? b, hexDigit? c, hexDigit? d with
    | some a, some b, some c, some d => .ok (((a * 16 + b) * 16 + c) * 16 + d, rest)
    | _, _, _, _ => .error (.malformed .badEscape)
  | cs =>
    if (String.ofList cs).utf8ByteSize < 4 then .error (.unfinished .string)
    else .error (.malformed .badEscape)

theorem readHex4_length_lt {cs rest : List Char} {n : Nat} (h : readHex4 cs = .ok (n, rest)) :
    rest.length < cs.length := by
  unfold readHex4 at h
  split at h
  · split at h
    · cases h
      simp only [List.length_cons]
      omega
    · cases h
  · split at h <;> cases h

/-- Whether a code unit is the first half of a surrogate pair. -/
def isLeading (n : Nat) : Bool := 0xD800 ≤ n && n ≤ 0xDBFF

/-- Whether a code unit is the second half of a surrogate pair. -/
def isTrailing (n : Nat) : Bool := 0xDC00 ≤ n && n ≤ 0xDFFF

/-- The character that an escape after `\u` stands for. -/
def readUnicodeEscape (cs : List Char) : Reading Char :=
  match readHex4 cs with
  | .error e => .error e
  | .ok (n, rest) =>
    if isTrailing n then .error (.malformed .loneSurrogate)
    else if isLeading n then
      match rest with
      | [] | ['\\'] => .error (.unfinished .string)
      | '\\' :: 'u' :: rest =>
        match readHex4 rest with
        | .error e => .error e
        | .ok (m, rest) =>
          if isTrailing m then
            .ok (Char.ofNat (0x10000 + (n - 0xD800) * 0x400 + (m - 0xDC00)), rest)
          else .error (.malformed .loneSurrogate)
      | _ => .error (.malformed .unpairedSurrogate)
    else .ok (Char.ofNat n, rest)

theorem readUnicodeEscape_length_lt {cs rest : List Char} {c : Char}
    (h : readUnicodeEscape cs = .ok (c, rest)) : rest.length < cs.length := by
  unfold readUnicodeEscape at h
  split at h
  · simp at h
  · rename_i n rest' h'
    have hlt := readHex4_length_lt h'
    split at h
    · simp at h
    split at h
    · split at h
      · simp at h
      · simp at h
      · split at h
        · simp at h
        · rename_i m r hm
          have := readHex4_length_lt hm
          split at h <;> simp_all
          omega
      · simp at h
    · simp_all

/-- The character that a letter after a backslash stands for. -/
def shortEscape? : Char → Option Char
  | '"' => some '"'
  | '\\' => some '\\'
  | '/' => some '/'
  | 'b' => some '\x08'
  | 'f' => some '\x0C'
  | 'n' => some '\n'
  | 'r' => some '\r'
  | 't' => some '\t'
  | _ => none

/-- The next character of a string, or none at the closing quote. -/
def readStringChar : List Char → Reading (Option Char)
  | [] => .error (.unfinished .string)
  | '"' :: rest => .ok (none, rest)
  | ['\\'] => .error (.unfinished .string)
  | '\\' :: 'u' :: rest =>
    match readUnicodeEscape rest with
    | .error e => .error e
    | .ok (c, rest) => .ok (some c, rest)
  | '\\' :: c :: rest =>
    match shortEscape? c with
    | some c => .ok (some c, rest)
    | none => .error (.malformed .badEscape)
  | c :: rest =>
    if c.toNat < 0x20 then .error (.malformed .controlInString) else .ok (some c, rest)

theorem readStringChar_length_lt {cs rest : List Char} {c? : Option Char}
    (h : readStringChar cs = .ok (c?, rest)) : rest.length < cs.length := by
  unfold readStringChar at h
  split at h
  · simp at h
  · simp_all
  · simp at h
  · split at h
    · simp at h
    · rename_i hu
      have := readUnicodeEscape_length_lt hu
      simp_all
      omega
  · split at h
    · cases h
      simp only [List.length_cons]
      omega
    · cases h
  · split at h <;> simp_all

/-- The text of a string whose opening quote is read already. -/
def readString (cs : List Char) : Reading (List Char) :=
  match _h : readStringChar cs with
  | .error e => .error e
  | .ok (none, rest) => .ok ([], rest)
  | .ok (some c, rest) =>
    match readString rest with
    | .error e => .error e
    | .ok (text, rest) => .ok (c :: text, rest)
termination_by cs.length
decreasing_by exact readStringChar_length_lt ‹_›

theorem readString_length_lt {cs rest text : List Char} (h : readString cs = .ok (text, rest)) :
    rest.length < cs.length := by
  fun_induction readString cs generalizing text rest with
  | case1 => simp at h
  | case2 cs r hc =>
    have := readStringChar_length_lt hc
    simp_all
  | case3 => simp at h
  | case4 cs c r hc t r' hr ih =>
    have h₁ := readStringChar_length_lt hc
    have h₂ := ih hr
    simp_all
    omega

/-- Passes over the next character of a string; says whether it was the closing quote. -/
def skipStringChar : List Char → Reading Bool
  | [] => .error (.unfinished .string)
  | '"' :: rest => .ok (true, rest)
  | ['\\'] => .error (.unfinished .string)
  | '\\' :: 'u' :: rest =>
    match readHex4 rest with
    | .error e => .error e
    | .ok (_, rest) => .ok (false, rest)
  | '\\' :: c :: rest =>
    if (shortEscape? c).isSome then .ok (false, rest) else .error (.malformed .badEscape)
  | c :: rest =>
    if c.toNat < 0x20 then .error (.malformed .controlInString) else .ok (false, rest)

theorem skipStringChar_length_lt {cs rest : List Char} {b : Bool}
    (h : skipStringChar cs = .ok (b, rest)) : rest.length < cs.length := by
  unfold skipStringChar at h
  split at h
  · simp at h
  · simp_all
  · simp at h
  · split at h
    · simp at h
    · rename_i hu
      have := readHex4_length_lt hu
      simp_all
      omega
  · split at h
    · cases h
      simp only [List.length_cons]
      omega
    · cases h
  · split at h <;> simp_all

/-- Passes over a string whose opening quote is read already. -/
def skipString (cs : List Char) : Except Fault (List Char) :=
  match _h : skipStringChar cs with
  | .error e => .error e
  | .ok (true, rest) => .ok rest
  | .ok (false, rest) => skipString rest
termination_by cs.length
decreasing_by exact skipStringChar_length_lt ‹_›

theorem skipString_length_lt {cs rest : List Char} (h : skipString cs = .ok rest) :
    rest.length < cs.length := by
  fun_induction skipString cs with
  | case1 => simp at h
  | case2 cs r hc =>
    have := skipStringChar_length_lt hc
    simp_all
  | case3 cs r hc ih =>
    have h₁ := skipStringChar_length_lt hc
    have h₂ := ih h
    omega

/-! ## Numbers -/

/-- Whether a character is a decimal digit. -/
def isDigit (c : Char) : Bool := '0' ≤ c && c ≤ '9'

/-- The value of a decimal digit. -/
def digitValue (c : Char) : Nat := c.toNat - '0'.toNat

/-- The digits at the beginning of a document, and the rest. -/
def spanDigits (cs : List Char) : List Char × List Char :=
  (cs.takeWhile isDigit, cs.dropWhile isDigit)

theorem spanDigits_length_le (cs : List Char) : (spanDigits cs).2.length ≤ cs.length :=
  (List.dropWhile_suffix isDigit).length_le

/-- The digits before the point: a single zero, or digits that do not begin with one. -/
def readInteger : List Char → Reading (List Char)
  | [] => .error (.unfinished .value)
  | '0' :: rest =>
    if rest.head?.any isDigit then .error (.malformed .badNumber) else .ok (['0'], rest)
  | c :: rest =>
    if isDigit c then .ok (c :: (spanDigits rest).1, (spanDigits rest).2)
    else .error (.malformed .badNumber)

theorem readInteger_length_lt {cs rest ds : List Char} (h : readInteger cs = .ok (ds, rest)) :
    rest.length < cs.length := by
  unfold readInteger at h
  split at h
  · simp at h
  · split at h <;> simp_all
  · rename_i c r _
    split at h
    · cases h
      exact Nat.lt_succ_of_le (spanDigits_length_le r)
    · cases h

/-- The digits after the point, at least one; none where there is no point. -/
def readFraction : List Char → Reading (Option (List Char))
  | '.' :: rest =>
    match spanDigits rest with
    | ([], []) => .error (.unfinished .value)
    | ([], _ :: _) => .error (.malformed .badNumber)
    | (ds, rest) => .ok (some ds, rest)
  | cs => .ok (none, cs)

theorem readFraction_length_le {cs rest : List Char} {ds : Option (List Char)}
    (h : readFraction cs = .ok (ds, rest)) : rest.length ≤ cs.length := by
  unfold readFraction at h
  split at h
  · rename_i r
    have hle := spanDigits_length_le r
    split at h
    · cases h
    · cases h
    · rename_i hdigits
      cases h
      rw [hdigits] at hle
      exact Nat.le_succ_of_le hle
  · simp_all

/-- Whether a minus sign stands first, and what follows the sign if there is one. -/
def splitSign : List Char → Bool × List Char
  | '+' :: rest => (false, rest)
  | '-' :: rest => (true, rest)
  | rest => (false, rest)

theorem splitSign_length_le (cs : List Char) : (splitSign cs).2.length ≤ cs.length := by
  unfold splitSign
  split <;> simp

/-- Whether an exponent is negative, and its digits, at least one; none where there is none. -/
def readExponent : List Char → Reading (Option (Bool × List Char))
  | c :: rest =>
    if c = 'e' ∨ c = 'E' then
      match spanDigits (splitSign rest).2 with
      | ([], []) => .error (.unfinished .value)
      | ([], _ :: _) => .error (.malformed .badNumber)
      | (ds, left) => .ok (some ((splitSign rest).1, ds), left)
    else .ok (none, c :: rest)
  | [] => .ok (none, [])

theorem readExponent_length_le {cs rest : List Char} {e : Option (Bool × List Char)}
    (h : readExponent cs = .ok (e, rest)) : rest.length ≤ cs.length := by
  unfold readExponent at h
  split at h
  · rename_i c r
    have h₁ := spanDigits_length_le (splitSign r).2
    have h₂ := splitSign_length_le r
    split at h
    · split at h <;> simp_all
      omega
    · simp_all
  · simp_all

/-- A number of decimal notation as it is read: a natural number and a power of ten. -/
structure Significand where
  value : Nat
  power : Int

/-- The greatest value of a significand. -/
def Significand.bound : Nat := UInt64.size - 1

/-- Takes up digits before the point. From the first one on that does not fit, each digit only
raises the power. -/
def Significand.takeInteger : Nat → List Char → Significand
  | n, [] => ⟨n, 0⟩
  | n, d :: ds =>
    if n * 10 + digitValue d ≤ bound then takeInteger (n * 10 + digitValue d) ds
    else ⟨n, ds.length + 1⟩

/-- Takes up digits after the point, up to the first one that does not fit. -/
def Significand.takeFraction : Significand → List Char → Significand
  | s, [] => s
  | s, d :: ds =>
    if s.value * 10 + digitValue d ≤ bound then
      takeFraction ⟨s.value * 10 + digitValue d, s.power - 1⟩ ds
    else s

/-- Multiplies a double by a power of ten, in at most `n` divisions by 10³⁰⁸ and one more step. None
if the result is not finite. -/
def scale : Nat → Float → Int → Option Float
  | 0, x, _ => some x
  | n + 1, x, power =>
    if power.natAbs ≤ 308 then
      if 0 ≤ power then
        let y := x * Float.ofScientific 1 false power.natAbs
        if y.isInf then none else some y
      else some (x / Float.ofScientific 1 false power.natAbs)
    else if x == 0 then some x
    else if 0 ≤ power then none
    else scale n (x / Float.ofScientific 1 false 308) (power + 308)

/-- The value of a decimal number as a double, unless it is too large. -/
def Significand.toFloat? (s : Significand) : Option Float :=
  scale 4 (Float.ofNat s.value) s.power

/-- The value of an exponent's digits. -/
def exponentValue (ds : List Char) : Nat :=
  ds.foldl (fun n d => n * 10 + digitValue d) 0

/-- The greatest exponent that is computed with. -/
def exponentBound : Nat := 0x7FFFFFFF

/-- The magnitude of a number with a point, an exponent, or too many digits for 64 bits. -/
def magnitude? (s : Significand) (exponent : Option (Bool × List Char)) : Option Float :=
  match exponent with
  | none => s.toFloat?
  | some (negative, ds) =>
    let e := exponentValue ds
    if exponentBound < e then
      if s.value ≠ 0 && !negative then none else some 0
    else Significand.toFloat? ⟨s.value, s.power + if negative then -(e : Int) else e⟩

/-- The greatest magnitude of a negative integer that fits into 64 bits. -/
def negativeBound : Nat := 0x8000000000000000

/-- The number that a sign, digits, a fraction and an exponent stand for. -/
def numberOf (negative : Bool) (digits : List Char) (fraction : Option (List Char))
    (exponent : Option (Bool × List Char)) : Except Fault Number :=
  let s := Significand.takeInteger 0 digits
  let isInteger := s.power = 0 && fraction.isNone && exponent.isNone
  if isInteger && !negative then .ok (.integer s.value)
  else if isInteger && s.value ≠ 0 && s.value ≤ negativeBound then .ok (.integer (-s.value))
  else
    match magnitude? (s.takeFraction (fraction.getD [])) exponent with
    | some x => .ok (.real (if negative then -x else x))
    | none => .error (.malformed .numberOutOfRange)

/-- The value of a number whose minus sign, if it has one, is read already. -/
def readNumber (negative : Bool) (cs : List Char) : Except Fault (Number × List Char) := do
  let (digits, cs) ← readInteger cs
  let (fraction, cs) ← readFraction cs
  let (exponent, cs) ← readExponent cs
  let n ← numberOf negative digits fraction exponent
  return (n, cs)

theorem readNumber_length_lt {negative : Bool} {cs rest : List Char} {n : Number}
    (h : readNumber negative cs = .ok (n, rest)) : rest.length < cs.length := by
  unfold readNumber at h
  simp only [bind, Except.bind] at h
  split at h
  · simp at h
  rename_i p₁ h₁
  split at h
  · simp at h
  rename_i p₂ h₂
  split at h
  · simp at h
  rename_i p₃ h₃
  split at h
  · simp at h
  have a : p₁.2.length < cs.length := readInteger_length_lt h₁
  have b : p₂.2.length ≤ p₁.2.length := readFraction_length_le h₂
  have c : p₃.2.length ≤ p₂.2.length := readExponent_length_le h₃
  simp only [pure, Except.pure, Except.ok.injEq, Prod.mk.injEq] at h
  obtain ⟨_, rfl⟩ := h
  omega

/-- A reading in which the end of the document counts as a wrong character. -/
def endIsBadNumber {α : Type} : Reading α → Reading α
  | .error _ => .error (.malformed .badNumber)
  | .ok r => .ok r

/-- Passes over a number whose minus sign, if it has one, is read already. Whether its value fits
into a double does not matter. -/
def skipNumber (cs : List Char) : Except Fault (List Char) := do
  let (_, cs) ← endIsBadNumber (readInteger cs)
  let (_, cs) ← endIsBadNumber (readFraction cs)
  let (_, cs) ← endIsBadNumber (readExponent cs)
  return cs

theorem endIsBadNumber_eq_ok {α : Type} {r : Reading α} {p : α × List Char}
    (h : endIsBadNumber r = .ok p) : r = .ok p := by
  cases r <;> simp_all [endIsBadNumber]

theorem skipNumber_length_lt {cs rest : List Char} (h : skipNumber cs = .ok rest) :
    rest.length < cs.length := by
  unfold skipNumber at h
  simp only [bind, Except.bind] at h
  split at h
  · simp at h
  rename_i p₁ h₁
  split at h
  · simp at h
  rename_i p₂ h₂
  split at h
  · simp at h
  rename_i p₃ h₃
  have a : p₁.2.length < cs.length := readInteger_length_lt (endIsBadNumber_eq_ok h₁)
  have b : p₂.2.length ≤ p₁.2.length := readFraction_length_le (endIsBadNumber_eq_ok h₂)
  have c : p₃.2.length ≤ p₂.2.length := readExponent_length_le (endIsBadNumber_eq_ok h₃)
  simp only [pure, Except.pure, Except.ok.injEq] at h
  subst h
  omega

end FuseMount.Json
