import FuseMount.TextMap

/-!
# Mount options as text

Mount options are a map from names to values. Written as one text, the entries stand in order of
their names with commas between them; an entry with an empty value is only its name, any other is
`name=value`. A comma or a backslash in a name has a backslash before it. Values are written as they
are.

* `Options.render` writes the text, `Options.escapeName` a name in it.
* `Options.parse` reads any text. It falls into segments at the commas that no backslash in a name
  protects; each segment is a name, up to the first unprotected `=`, and a value after that.
-/

namespace FuseMount

/-- Mount options: a map from names to values, where the empty value marks a bare flag. -/
abbrev Options := TextMap

namespace Options

/-! ## Writing -/

/-- Puts `text` in place of every occurrence of a character. -/
def replaceAll (c : Char) (text : List Char) (cs : List Char) : List Char :=
  cs.flatMap fun d => if d = c then text else [d]

/-- Puts a backslash before every backslash and every comma. Backslashes come first, so that the ones
which are then put before commas stay single. -/
def protectAll (cs : List Char) : List Char :=
  replaceAll ',' ['\\', ','] (replaceAll '\\' ['\\', '\\'] cs)

/-- A name as it stands in an options text. One in which nothing is to be protected stays as it
is. -/
def escapeName (name : String) : String :=
  if name.toList.any (· ∈ ['\\', ',']) then String.ofList (protectAll name.toList) else name

/-- An entry as it stands in an options text. -/
def entryText (entry : String × String) : String :=
  if entry.2.isEmpty then escapeName entry.1 else escapeName entry.1 ++ "=" ++ entry.2

/-- The options as one text. -/
def render (options : Options) : String :=
  String.intercalate "," (options.entries.map entryText)

/-! ## Reading -/

/-- The name at the beginning of a segment, without the backslashes that protect a character, and
what follows it: nothing, or a text that begins with an unprotected comma or equals sign. A
backslash at the very end of the text stands for itself. -/
def readName : List Char → List Char × List Char
  | [] => ([], [])
  | [c] => if c = ',' ∨ c = '=' then ([], [c]) else ([c], [])
  | c :: d :: cs =>
    if c = ',' ∨ c = '=' then ([], c :: d :: cs)
    else if c = '\\' then
      let (name, rest) := readName cs
      (d :: name, rest)
    else
      let (name, rest) := readName (d :: cs)
      (c :: name, rest)

theorem readName_length_le (cs : List Char) : (readName cs).2.length ≤ cs.length := by
  fun_induction readName cs <;> simp_all <;> omega

/-- The entry of the first segment, and what follows the segment: nothing, or a text that begins
with the comma after it. In the value every character but a comma stands for itself. -/
def readSegment (cs : List Char) : (String × String) × List Char :=
  match readName cs with
  | (name, '=' :: rest) =>
    ((String.ofList name, String.ofList (rest.takeWhile (· ≠ ','))), rest.dropWhile (· ≠ ','))
  | (name, rest) => ((String.ofList name, ""), rest)

theorem readSegment_length_le (cs : List Char) : (readSegment cs).2.length ≤ cs.length := by
  have h := readName_length_le cs
  unfold readSegment
  split
  · rename_i name rest heq
    have hd := (List.dropWhile_suffix (· ≠ ',') (l := rest)).length_le
    simp only [heq, List.length_cons] at h
    simp only
    omega
  · simp_all

/-- The entries of all segments, from left to right. -/
def segments (cs : List Char) : List (String × String) :=
  match _h : readSegment cs with
  | (entry, ',' :: rest) => entry :: segments rest
  | (entry, _) => [entry]
termination_by cs.length
decreasing_by
  have hle := readSegment_length_le cs
  rw [_h] at hle
  exact hle

/-- The options that a text holds. The empty text holds none; of two segments with one name the
later one counts. -/
def parse (s : String) : Options :=
  if s.isEmpty then ∅ else TextMap.ofList (segments s.toList)

end Options

end FuseMount
