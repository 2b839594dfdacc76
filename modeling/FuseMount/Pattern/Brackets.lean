import FuseMount.Pattern.Atom

/-!
# Sets between brackets

A set is written as its members between brackets: characters, ranges, classes with a name and
further sets. Two parts of a set may be joined by `&&`, `--` or `~~`. `Brackets.read` passes over a
set and finds how deep it is nested.
-/

namespace FuseMount.Pattern.Brackets

/-! ## Members -/

/-- Whether an atom may be a member of a set. -/
def isMember (m : Mode) : Atom → Bool
  | .literal c _ => m.admitsMember c
  | .shorthand negated => m.admitsShorthand negated
  | .wordEdge | .textEdge => false

/-- Whether two atoms may be the ends of a range. -/
def isRange (m : Mode) : Atom → Atom → Bool
  | .literal first _, .literal last _ =>
    first ≤ last && m.admitsMember first && m.admitsMember last
  | _, _ => false

/-- Passes over an atom or a range. A dash makes a range, unless another dash or the closing bracket
comes after it. -/
def readMember (m : Mode) (cs : List Char) : Option (List Char) :=
  match Atom.read m cs with
  | none => none
  | some (first, rest) =>
    match m.skip rest with
    | '-' :: rest =>
      if m.peek rest = some ']' || m.peek rest = some '-' then
        if isMember m first then some ('-' :: rest) else none
      else
        match Atom.read m (m.skip rest) with
        | none => none
        | some (last, rest) => if isRange m first last then some rest else none
    | rest => if isMember m first then some rest else none

theorem readMember_length_lt {m : Mode} {cs rest : List Char}
    (h : readMember m cs = some rest) : rest.length < cs.length := by
  unfold readMember at h
  grind [→ Atom.read_length_lt, Mode.skip_length_le]

/-- The names of classes. -/
def classNames : List String :=
  ["alnum", "alpha", "ascii", "blank", "cntrl", "digit", "graph", "lower", "print", "punct",
    "space", "upper", "word", "xdigit"]

/-- Reads a class with a name, such as `[:alpha:]` or `[:^alpha:]`, after its bracket: whether it is
the complement, and the characters after it. -/
def readNamed? : List Char → Option (Bool × List Char)
  | ':' :: cs =>
    let negated := cs.head? = some '^'
    let body := if negated then cs.tail else cs
    let name := String.ofList (body.takeWhile (· ≠ ':'))
    match body.dropWhile (· ≠ ':') with
    | ':' :: ']' :: rest => if name ∈ classNames then some (negated, rest) else none
    | _ => none
  | _ => none

theorem readNamed?_length_lt {negated : Bool} {cs rest : List Char}
    (h : readNamed? cs = some (negated, rest)) : rest.length < cs.length := by
  unfold readNamed? at h
  split at h
  · rename_i cs
    have hd := (List.dropWhile_suffix (l := if cs.head? = some '^' then cs.tail else cs)
      (· ≠ ':')).length_le
    grind
  · simp at h

/-! ## Open sets -/

/-- How much of a set has been read. At its beginning dashes stand for themselves, and so does a
closing bracket that comes first. -/
inductive Reach where
  | start
  | dashes
  | inside
  deriving DecidableEq, Repr

/-- A set that has been read in part. -/
structure OpenSet where
  reach : Reach := .start
  /-- How deep the part before the last `&&`, `--` or `~~` is nested, if there is one. -/
  left : Option Nat := none
  /-- The number of members after it. -/
  count : Nat := 0
  /-- How deep these are nested. -/
  depth : Nat := 0
  deriving DecidableEq, Repr

namespace OpenSet

/-- Adds a member. -/
def add (set : OpenSet) (depth : Nat) : OpenSet :=
  { set with reach := .inside, count := set.count + 1, depth := max set.depth depth }

/-- Adds a dash or a bracket that stands for itself at the beginning of the set. -/
def addFirst (set : OpenSet) (c : Char) : OpenSet :=
  { set.add 0 with reach := if c = '-' then .dashes else .inside }

/-- How deep the members are nested. Several of them are nested in their union. -/
def unionDepth (set : OpenSet) : Nat :=
  if set.count ≤ 1 then set.depth else set.depth + 1

/-- How deep all that has been read is nested. -/
def partDepth (set : OpenSet) : Nat :=
  match set.left with
  | none => set.unionDepth
  | some left => max left set.unionDepth + 1

/-- Goes on after `&&`, `--` or `~~`. -/
def next (set : OpenSet) : OpenSet :=
  { reach := .inside, left := some set.partDepth }

/-- How deep the set is nested with its brackets. -/
def setDepth (set : OpenSet) : Nat :=
  set.partDepth + 1

end OpenSet

/-! ## Sets -/

/-- Passes over the mark of a complement at the beginning of a set, if it is there and may be. -/
def readMark (m : Mode) (cs : List Char) : Option (List Char) :=
  match m.skip cs with
  | '^' :: rest => if m.unicode then some rest else none
  | rest => some rest

theorem readMark_length_le {m : Mode} {cs rest : List Char} (h : readMark m cs = some rest) :
    rest.length ≤ cs.length := by
  unfold readMark at h
  grind [Mode.skip_length_le]

/-- Reads the rest of a set that is nested in others: how deep the outermost one is nested, and the
characters after it. -/
def readSets (m : Mode) (set : OpenSet) (outer : List OpenSet) (cs : List Char) :
    Option (Nat × List Char) :=
  match _h : m.skip cs with
  | [] => none
  | c :: rest =>
    if c = '-' ∧ set.reach ≠ .inside ∨ c = ']' ∧ set.reach = .start then
      if m.admitsMember c then readSets m (set.addFirst c) outer rest else none
    else if c = ']' then
      match outer with
      | [] => some (set.setDepth, rest)
      | up :: outer => readSets m (up.add set.setDepth) outer rest
    else if c = '[' then
      match _h' : readNamed? rest with
      | some (negated, rest) =>
        if m.admitsNamed negated then readSets m (set.add 0) outer rest else none
      | none =>
        match _h' : readMark m rest with
        | some rest => readSets m {} (set :: outer) rest
        | none => none
    else if c ∈ ['&', '-', '~'] ∧ rest.head? = some c then
      readSets m set.next outer rest.tail
    else
      match _h' : readMember m (c :: rest) with
      | some rest => readSets m (set.add 0) outer rest
      | none => none
termination_by cs.length
decreasing_by
  all_goals
    have hs := m.skip_length_le cs
    rw [_h] at hs
    simp only [List.length_cons] at hs
  · omega
  · omega
  · have := readNamed?_length_lt _h'
    omega
  · have := readMark_length_le _h'
    omega
  · simp only [List.length_tail]
    omega
  · have := readMember_length_lt _h'
    simp only [List.length_cons] at this
    omega

theorem readSets_length_le {m : Mode} {set : OpenSet} {outer : List OpenSet} {depth : Nat}
    {cs rest : List Char} (h : readSets m set outer cs = some (depth, rest)) :
    rest.length ≤ cs.length := by
  fun_induction readSets m set outer cs <;>
    grind [Mode.skip_length_le, → readNamed?_length_lt, → readMark_length_le,
      → readMember_length_lt]

/-- Reads a set after its opening bracket: how deep it is nested, and the characters after it. -/
def read (m : Mode) (cs : List Char) : Option (Nat × List Char) :=
  match readMark m cs with
  | some rest => readSets m {} [] rest
  | none => none

theorem read_length_le {m : Mode} {depth : Nat} {cs rest : List Char}
    (h : read m cs = some (depth, rest)) : rest.length ≤ cs.length := by
  unfold read at h
  split at h
  · rename_i hm
    exact Nat.le_trans (readSets_length_le h) (readMark_length_le hm)
  · simp at h

end FuseMount.Pattern.Brackets
