import FuseMount.Text.Blank

/-!
# Modes of patterns

A pattern is read in modes that it can switch itself, for its rest or for a group. Three of them
decide what may stand in it: whether blanks count, whether it is about characters or about bytes,
and whether the two cases of a letter are alike.

What a pattern matches is text in UTF-8, and no tables of classes or of cases are at hand. Hence
characters of either case and the classes `\d`, `\s` and `\w` are there only for bytes, and bytes
have to be ASCII characters.
-/

namespace FuseMount.Pattern

/-- The modes in which a part of a pattern is read. -/
structure Mode where
  /-- Blanks are passed over, and so is a comment from `#` to the end of the line. -/
  spaced : Bool := false
  /-- The pattern is about characters, not about bytes. -/
  unicode : Bool := true
  /-- The two cases of a letter are alike. -/
  anyCase : Bool := false
  deriving DecidableEq, Repr

namespace Mode

/-- The letters of the modes. The last four of them do not change what may stand in a pattern. -/
def letters : List Char := ['x', 'u', 'i', 'm', 's', 'U', 'R']

/-- Switches the mode with a letter on or off. -/
def set (m : Mode) (letter : Char) (on : Bool) : Mode :=
  match letter with
  | 'x' => { m with spaced := on }
  | 'u' => { m with unicode := on }
  | 'i' => { m with anyCase := on }
  | _ => m

/-! ## What may stand in a pattern -/

/-- Whether a character may stand for itself; `asByte` tells that it is written as a byte. -/
def admitsLiteral (m : Mode) (c : Char) (asByte : Bool) : Bool :=
  if m.unicode then !m.anyCase else !asByte || c.toNat < 0x80

/-- Whether a character may be a member of a set. -/
def admitsMember (m : Mode) (c : Char) : Bool :=
  if m.unicode then !m.anyCase else c.toNat < 0x80

/-- Whether a class with a name, such as `[:alpha:]`, may be part of a set. -/
def admitsNamed (m : Mode) (negated : Bool) : Bool :=
  if m.unicode then !m.anyCase else !negated

/-- Whether there may be `\d`, `\s` and `\w`, or their complements. -/
def admitsShorthand (m : Mode) (negated : Bool) : Bool :=
  !m.unicode && !negated

/-! ## Blanks -/

/-- Passes over blanks and comments, beginning inside of a comment if the flag is set. -/
def skipBlanks : Bool → List Char → List Char
  | _, [] => []
  | true, c :: cs => skipBlanks (c ≠ '\n') cs
  | false, c :: cs =>
    if Text.isBlank c then skipBlanks false cs
    else if c = '#' then skipBlanks true cs
    else c :: cs

theorem skipBlanks_length_le (inComment : Bool) (cs : List Char) :
    (skipBlanks inComment cs).length ≤ cs.length := by
  fun_induction skipBlanks inComment cs <;> simp_all <;> omega

/-- The pattern from the next character on that counts. -/
def skip (m : Mode) (cs : List Char) : List Char :=
  if m.spaced then skipBlanks false cs else cs

theorem skip_length_le (m : Mode) (cs : List Char) : (m.skip cs).length ≤ cs.length := by
  unfold skip
  split
  · exact skipBlanks_length_le false cs
  · exact Nat.le_refl _

/-- The next character in view. Where blanks are passed over, so is one `#`, but not the comment
after it. -/
def peek (m : Mode) (cs : List Char) : Option Char :=
  if m.spaced then
    match cs.dropWhile Text.isBlank with
    | '#' :: cs => (cs.dropWhile Text.isBlank).head?
    | cs => cs.head?
  else cs.head?

end Mode

end FuseMount.Pattern
