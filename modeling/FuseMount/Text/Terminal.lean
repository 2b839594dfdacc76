/-!
# Texts for a terminal and for a file

A text for a terminal may hold control sequences, which begin with an escape character and change
colours, titles and the like. Written to a file they are left out, together with every other control
character that is not a blank. `Terminal.plain` says what is left of a text that is written in
several parts.

The sequences are those of ISO 6429: an escape character with intermediate characters and a final
one; `ESC [` with parameters and a final character; and the string sequences for devices, the
operating system and applications, which run up to their own terminator.
-/

namespace FuseMount.Terminal

/-- Where in a control sequence a text stands. -/
inductive State where
  /-- In no sequence. -/
  | ground
  /-- After an escape character. -/
  | escape
  /-- After intermediate characters that follow an escape character. -/
  | escapeIntermediate
  /-- In the parameters that follow `ESC [`. -/
  | parameters
  /-- After `ESC P`. -/
  | deviceEntry
  /-- In the parameters that follow `ESC P`. -/
  | deviceParameters
  /-- In the intermediate characters that follow `ESC P`. -/
  | deviceIntermediate
  /-- In the data of a device string, up to U+009C. -/
  | deviceData
  /-- In an operating system command, up to U+0007. -/
  | systemCommand
  /-- In a string for an application, up to U+009C. -/
  | applicationString
  deriving DecidableEq, Repr

/-- Whether byte 0x9C, which ends a device string, is among the bytes of a character. -/
def hasTerminator (c : Char) : Bool :=
  (String.utf8EncodeChar c).contains 0x9C

/-- The state after a character. -/
def State.next (s : State) (c : Char) : State :=
  let n := c.toNat
  if n == 0x18 || n == 0x1A then .ground
  else if n == 0x1B then .escape
  else
    let isIntermediate := 0x20 ≤ n && n ≤ 0x2F
    let isParameter := 0x30 ≤ n && n ≤ 0x3F
    let isFinal := 0x40 ≤ n && n ≤ 0x7E
    match s with
    | .ground => .ground
    | .escape =>
      if isIntermediate then .escapeIntermediate
      else if c == '[' then .parameters
      else if c == ']' then .systemCommand
      else if c == 'P' then .deviceEntry
      else if c == 'X' || c == '^' || c == '_' then .applicationString
      else if isParameter || isFinal then .ground
      else .escape
    | .escapeIntermediate => if isParameter || isFinal then .ground else .escapeIntermediate
    | .parameters => if isFinal then .ground else .parameters
    | .deviceEntry =>
      if isIntermediate then .deviceIntermediate
      else if isParameter then .deviceParameters
      else if isFinal then .deviceData
      else .deviceEntry
    | .deviceParameters =>
      if isIntermediate then .deviceIntermediate
      else if isFinal || '<' ≤ c && c ≤ '?' then .deviceData
      else .deviceParameters
    | .deviceIntermediate =>
      if isParameter || isFinal then .deviceData else .deviceIntermediate
    | .deviceData => if hasTerminator c then .ground else .deviceData
    | .systemCommand => if n == 0x07 then .ground else .systemCommand
    | .applicationString => if hasTerminator c then .ground else .applicationString

/-- Whether a character stays when the text is written to a file. Blanks stay in a sequence too,
unless it is a string sequence. -/
def State.keeps (s : State) (c : Char) : Bool :=
  let isBlankControl := c == '\t' || c == '\n' || c == '\x0C' || c == '\r'
  match s with
  | .ground => isBlankControl || (0x20 ≤ c.toNat && c.toNat != 0x7F)
  | .escape | .escapeIntermediate | .parameters => isBlankControl
  | _ => false

/-- A writer that leaves out the control sequences. While it passes characters on it takes them for
characters outside of a sequence; the state of a sequence that a blank interrupted is taken up again
at the next character that does not stay. -/
structure Writer where
  /-- The state at the last character that was left out. -/
  state : State := .ground
  /-- Whether the last character stayed. -/
  passing : Bool := false
  deriving DecidableEq, Repr

/-- Whether a character stays, and the writer after it. -/
def Writer.put (w : Writer) (c : Char) : Bool × Writer :=
  if w.passing && State.ground.keeps c then
    (true, { w with state := if c.toNat < 0x80 then w.state else .ground })
  else (w.state.keeps c, { state := w.state.next c, passing := w.state.keeps c })

/-- What a writer leaves of a run of characters, and the writer after them. -/
def Writer.run (w : Writer) : List Char → List Char × Writer
  | [] => ([], w)
  | c :: cs =>
    let (keeps, w) := w.put c
    let (rest, w) := w.run cs
    (if keeps then c :: rest else rest, w)

/-- What is left of a text that is written in parts. Each part is begun as if the last character
before it had been left out. -/
def plainParts (w : Writer) : List String → List Char
  | [] => []
  | part :: parts =>
    let (left, w) := w.run part.toList
    left ++ plainParts { w with passing := false } parts

/-- What is left, in a file, of a text that is written in parts. -/
def plain (parts : List String) : String :=
  String.ofList (plainParts {} parts)

/-- The colours of a text for a terminal. -/
inductive Colour where
  | red
  | green
  | yellow
  | blue
  deriving DecidableEq, Repr

/-- The number of a colour in a control sequence. -/
def Colour.number : Colour → Nat
  | .red => 9
  | .green => 10
  | .yellow => 11
  | .blue => 12

/-- The parts that write a text in a colour. -/
def coloured (colour : Colour) (text : String) : List String :=
  ["\x1b[38;5;" ++ colour.number.repr ++ "m", text, "\x1b[39m"]

end FuseMount.Terminal
