import FuseMount.Pattern.Brackets
import FuseMount.Text.Letter

/-!
# Patterns

A pattern is a regular expression that a filter gives for the value of a field. `Pattern.check` says
whether it is one that can be matched by an automaton: it has to be well formed, it may be nested
only to a certain depth, and it must not look at the edges of words in all scripts.

A pattern is part of a directive, where a brace ends the field. Hence there are no counts, and no
escapes with braces: what an opening brace begins outside of a set never ends.

* `Pattern.read` reads a whole pattern and finds its `Shape`, which is what the check is about.
-/

namespace FuseMount.Pattern

/-! ## Shapes -/

/-- What counts of a part of a pattern. -/
structure Shape where
  /-- How deep it is nested. -/
  depth : Nat := 0
  /-- Whether it looks at the edges of words in all scripts. -/
  wordEdge : Bool := false
  /-- Whether it can be repeated. -/
  repeatable : Bool := true
  deriving DecidableEq, Repr

namespace Shape

/-- The shape of something around a part. -/
def around (part : Shape) : Shape :=
  { depth := part.depth + 1, wordEdge := part.wordEdge }

/-- The shape of parts one after the other, or of parts to choose from. A single part is not nested
for that. -/
def ofParts (parts : List Shape) : Shape where
  depth :=
    let depth := (parts.map depth).foldl max 0
    if parts.length ≤ 1 then depth else depth + 1
  wordEdge := parts.any wordEdge

/-- The shape of an atom, if there may be one. -/
def ofAtom (m : Mode) : Atom → Option Shape
  | .literal c asByte => if m.admitsLiteral c asByte then some {} else none
  | .shorthand negated => if m.admitsShorthand negated then some {} else none
  | .wordEdge => some { wordEdge := m.unicode }
  | .textEdge => some {}

end Shape

/-! ## Groups -/

/-- What an opening parenthesis begins. -/
inductive Opening where
  /-- A group that is read in a mode, and may have a name. -/
  | group (mode : Mode) (name : Option (List Char))
  /-- Nothing: only the mode is another one from there on. -/
  | switch (mode : Mode)
  deriving DecidableEq, Repr

/-- Reads the letters of modes up to the colon before a group, or up to a closing parenthesis.
Letters after a dash switch modes off; every letter, and the dash, stands there once. -/
def readModes (m : Mode) (before : List Char) : List Char → Option (Opening × List Char)
  | [] => none
  | c :: rest =>
    if c = ':' then if before.head? = some '-' then none else some (.group m none, rest)
    else if c = ')' then
      if before.isEmpty || before.head? = some '-' then none else some (.switch m, rest)
    else if c ∈ before || !(c = '-' || c ∈ Mode.letters) then none
    else readModes (m.set c !before.contains '-') (c :: before) rest

theorem readModes_length_le {m : Mode} {before : List Char} {o : Opening} {cs rest : List Char}
    (h : readModes m before cs = some (o, rest)) : rest.length ≤ cs.length := by
  fun_induction readModes m before cs <;> grind

/-- Whether a text can name a group. -/
def isName : List Char → Bool
  | [] => false
  | c :: cs =>
    (c = '_' || Text.isLetter c) &&
      cs.all fun c => c ∈ ['_', '.', '[', ']'] || Text.isAlphanumeric c

/-- Reads the name of a group, which ends with an angle. -/
def readName (m : Mode) (cs : List Char) : Option (Opening × List Char) :=
  let name := cs.takeWhile (· ≠ '>')
  match cs.dropWhile (· ≠ '>') with
  | _ :: rest => if isName name then some (.group m (some name), rest) else none
  | [] => none

theorem readName_length_le {m : Mode} {o : Opening} {cs rest : List Char}
    (h : readName m cs = some (o, rest)) : rest.length ≤ cs.length := by
  have hd := (List.dropWhile_suffix (l := cs) (· ≠ '>')).length_le
  unfold readName at h
  grind

/-- Reads what comes after an opening parenthesis: a name, modes, or the group itself. -/
def readOpening (m : Mode) (cs : List Char) : Option (Opening × List Char) :=
  match m.skip cs with
  | '?' :: 'P' :: '<' :: rest | '?' :: '<' :: rest => readName m rest
  | '?' :: rest => readModes m [] rest
  | rest => some (.group m none, rest)

theorem readOpening_length_le {m : Mode} {o : Opening} {cs rest : List Char}
    (h : readOpening m cs = some (o, rest)) : rest.length ≤ cs.length := by
  unfold readOpening at h
  grind [Mode.skip_length_le, → readName_length_le, → readModes_length_le]

/-! ## Open groups -/

/-- A group, or the whole pattern, that has been read in part. -/
structure OpenGroup where
  /-- The mode that it is read in. -/
  mode : Mode := {}
  /-- The alternatives before the one that is being read, the last one first. -/
  alternatives : List Shape := []
  /-- The parts of this alternative, the last one first. -/
  parts : List Shape := []
  deriving DecidableEq, Repr

namespace OpenGroup

/-- Adds a part. -/
def add (group : OpenGroup) (part : Shape) : OpenGroup :=
  { group with parts := part :: group.parts }

/-- Switches to another mode. -/
def switch (group : OpenGroup) (mode : Mode) : OpenGroup :=
  { group.add { repeatable := false } with mode }

/-- Goes on to the next alternative. -/
def next (group : OpenGroup) : OpenGroup :=
  { group with
    alternatives := Shape.ofParts group.parts :: group.alternatives
    parts := [] }

/-- The shape of all that has been read. -/
def shape (group : OpenGroup) : Shape :=
  Shape.ofParts group.next.alternatives

/-- Repeats the last part, if there is one that can be repeated. -/
def repeated (group : OpenGroup) : Option OpenGroup :=
  match group.parts with
  | part :: parts =>
    if part.repeatable then some { group with parts := part.around :: parts } else none
  | [] => none

end OpenGroup

/-! ## Reading -/

/-- Reads an atom outside of brackets, where a dot stands for any character. -/
def readAtom (m : Mode) : List Char → Option (Shape × List Char)
  | '.' :: rest => if m.unicode then some ({}, rest) else none
  | '^' :: rest | '$' :: rest => some ({}, rest)
  | '\x7b' :: _ => none
  | cs =>
    match Atom.read m cs with
    | none => none
    | some (atom, rest) =>
      match Shape.ofAtom m atom with
      | none => none
      | some part => some (part, rest)

theorem readAtom_length_lt {m : Mode} {part : Shape} {cs rest : List Char}
    (h : readAtom m cs = some (part, rest)) : rest.length < cs.length := by
  unfold readAtom at h
  grind [→ Atom.read_length_lt]

/-- Passes over the mark of a repetition that takes as little as it can. -/
def skipLazy : List Char → List Char
  | '?' :: rest => rest
  | rest => rest

theorem skipLazy_length_le (cs : List Char) : (skipLazy cs).length ≤ cs.length := by
  unfold skipLazy
  split <;> simp

/-- Reads the rest of a group that is nested in others, and the rest of the pattern. The groups so
far have the given names. -/
def readGroups (names : List (List Char)) (group : OpenGroup) (outer : List OpenGroup)
    (cs : List Char) : Option Shape :=
  match _h : group.mode.skip cs with
  | [] => if outer.isEmpty then some group.shape else none
  | '(' :: rest =>
    match _h' : readOpening group.mode rest with
    | none => none
    | some (.switch mode, rest) => readGroups names (group.switch mode) outer rest
    | some (.group mode none, rest) => readGroups names { mode } (group :: outer) rest
    | some (.group mode (some name), rest) =>
      if name ∈ names then none else readGroups (name :: names) { mode } (group :: outer) rest
  | ')' :: rest =>
    match outer with
    | [] => none
    | up :: outer => readGroups names (up.add group.shape.around) outer rest
  | '|' :: rest => readGroups names group.next outer rest
  | '[' :: rest =>
    match _h' : Brackets.read group.mode rest with
    | none => none
    | some (depth, rest) => readGroups names (group.add { depth }) outer rest
  | c :: rest =>
    if c ∈ ['?', '*', '+'] then
      match group.repeated with
      | none => none
      | some next => readGroups names next outer (skipLazy rest)
    else
      match _h' : readAtom group.mode (c :: rest) with
      | none => none
      | some (part, rest) => readGroups names (group.add part) outer rest
termination_by cs.length
decreasing_by
  all_goals
    have hs := group.mode.skip_length_le cs
    rw [_h] at hs
    simp only [List.length_cons] at hs
  · have := readOpening_length_le _h'
    omega
  · have := readOpening_length_le _h'
    omega
  · have := readOpening_length_le _h'
    omega
  · omega
  · omega
  · have := Brackets.read_length_le _h'
    omega
  · have := skipLazy_length_le rest
    omega
  · have := readAtom_length_lt _h'
    simp only [List.length_cons] at this
    omega

/-- The shape of a pattern, if it is well formed. -/
def read (text : List Char) : Option Shape :=
  readGroups [] {} [] text

/-! ## The check -/

/-- Why a text is no pattern that can be matched. -/
inductive Fault where
  /-- It is not well formed, or nested too deep. -/
  | malformed
  /-- It looks at the edges of words in all scripts. -/
  | wordEdge
  deriving DecidableEq, Repr

/-- The wording of a fault. -/
def Fault.message : Fault → String
  | .malformed => "error building NFA"
  | .wordEdge =>
    "unsupported regex feature for DFAs: cannot build DFAs for regexes with Unicode word " ++
      "boundaries; switch to ASCII word boundaries, or heuristically enable Unicode word " ++
      "boundaries or use a different regex engine"

/-- How deep a pattern may be nested. -/
def maxDepth : Nat := 250

/-- Whether a text is a pattern that can be matched. -/
def check (text : List Char) : Except Fault Unit :=
  match read text with
  | none => .error .malformed
  | some shape =>
    if maxDepth < shape.depth then .error .malformed
    else if shape.wordEdge then .error .wordEdge
    else .ok ()

end FuseMount.Pattern
