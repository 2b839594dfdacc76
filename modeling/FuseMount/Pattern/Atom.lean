import FuseMount.Pattern.Mode
import FuseMount.Text.Numeral

/-!
# Atoms of patterns

The smallest parts of a pattern: characters that stand for themselves, as they are or by an escape,
and the escapes that stand for a class or a place. `Atom.read` reads one.
-/

namespace FuseMount.Pattern

/-- A smallest part of a pattern. -/
inductive Atom where
  /-- A character; `asByte` tells that it is written as a byte, by two digits. -/
  | literal (c : Char) (asByte : Bool)
  /-- One of the classes `\d`, `\s` and `\w`, or the complement of one. -/
  | shorthand (negated : Bool)
  /-- A place at or off the edge of a word. -/
  | wordEdge
  /-- The beginning or the end of the text. -/
  | textEdge
  deriving DecidableEq, Repr

namespace Atom

/-- The number that the next `n` digits in base 16 continue, between which blanks do not count. -/
def readDigits (m : Mode) : Nat → Nat → List Char → Option (Nat × List Char)
  | 0, value, cs => some (value, cs)
  | n + 1, value, cs =>
    match m.skip cs with
    | [] => none
    | c :: rest =>
      match Numeral.digit? 16 c with
      | some d => readDigits m n (value * 16 + d) rest
      | none => none

theorem readDigits_length_le {m : Mode} {n value number : Nat} {cs rest : List Char}
    (h : readDigits m n value cs = some (number, rest)) : rest.length ≤ cs.length := by
  fun_induction readDigits m n value cs with
  | case1 => simp_all
  | case2 => simp at h
  | case3 n value cs c r hr d hd ih =>
    have h₁ := m.skip_length_le cs
    have h₂ := ih h
    simp only [hr, List.length_cons] at h₁
    omega
  | case4 => simp at h

/-- The character whose number is given by `n` digits. -/
def readNumbered (m : Mode) (n : Nat) (asByte : Bool) (cs : List Char) :
    Option (Atom × List Char) :=
  match readDigits m n 0 cs with
  | some (number, rest) =>
    if number.isValidChar then some (.literal (Char.ofNat number) asByte, rest) else none
  | none => none

/-- Reads an escape after its backslash. A sign stands for itself; a letter or a digit without a
meaning is none. -/
def readEscape (m : Mode) : List Char → Option (Atom × List Char)
  | [] => none
  | c :: rest =>
    match c with
    | 'x' => readNumbered m 2 true rest
    | 'u' => readNumbered m 4 false rest
    | 'U' => readNumbered m 8 false rest
    | 'd' | 's' | 'w' => some (.shorthand false, rest)
    | 'D' | 'S' | 'W' => some (.shorthand true, rest)
    | 'b' | 'B' | '<' | '>' => some (.wordEdge, rest)
    | 'A' | 'z' => some (.textEdge, rest)
    | 'a' => some (.literal '\x07' false, rest)
    | 'f' => some (.literal '\x0C' false, rest)
    | 'n' => some (.literal '\n' false, rest)
    | 'r' => some (.literal '\r' false, rest)
    | 't' => some (.literal '\t' false, rest)
    | 'v' => some (.literal '\x0B' false, rest)
    | c => if c.toNat < 0x80 && !c.isAlphanum then some (.literal c false, rest) else none

/-- Reads an atom, which begins with its escape or is the next character itself. -/
def read (m : Mode) : List Char → Option (Atom × List Char)
  | [] => none
  | '\\' :: rest => readEscape m rest
  | c :: rest => some (.literal c false, rest)

theorem readNumbered_length_le {m : Mode} {n : Nat} {asByte : Bool} {a : Atom}
    {cs rest : List Char} (h : readNumbered m n asByte cs = some (a, rest)) :
    rest.length ≤ cs.length := by
  unfold readNumbered at h
  split at h
  · rename_i hd
    have := readDigits_length_le hd
    split at h <;> simp_all
  · simp at h

theorem readEscape_length_le {m : Mode} {a : Atom} {cs rest : List Char}
    (h : readEscape m cs = some (a, rest)) : rest.length ≤ cs.length := by
  unfold readEscape at h
  grind [→ readNumbered_length_le]

theorem read_length_lt {m : Mode} {a : Atom} {cs rest : List Char}
    (h : read m cs = some (a, rest)) : rest.length < cs.length := by
  unfold read at h
  grind [→ readEscape_length_le]

end Atom

end FuseMount.Pattern
