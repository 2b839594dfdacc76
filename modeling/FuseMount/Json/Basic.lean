import FuseMount.Decimal.Shortest
import FuseMount.Text.Quoted

/-!
# JSON values

The values of JSON (RFC 8259) and their text without white space, `Json.render`. Members of an
object keep their order, and names may repeat. A number is an integer if it is written as one and
fits into 64 bits, and a double else.
-/

namespace FuseMount

/-- A number of JSON. -/
inductive Json.Number where
  | integer (i : Int)
  | real (x : Float)

/-- The text of a number. -/
def Json.Number.render : Json.Number → String
  | .integer i => i.repr
  | .real x => Decimal.render x

/-- A value of JSON. -/
inductive Json where
  | null
  | bool (b : Bool)
  | number (n : Json.Number)
  | string (s : String)
  | array (items : List Json)
  | object (members : List (String × Json))

namespace Json

instance : Inhabited Json := ⟨null⟩

/-- A character as it stands in a JSON string. Only what has to be escaped is. -/
def stringChar (c : Char) : List Char :=
  match c with
  | '"' => ['\\', '"']
  | '\\' => ['\\', '\\']
  | '\x08' => ['\\', 'b']
  | '\x0C' => ['\\', 'f']
  | '\n' => ['\\', 'n']
  | '\r' => ['\\', 'r']
  | '\t' => ['\\', 't']
  | c =>
    if c.toNat < 0x20 then ['\\', 'u'] ++ (Nat.toDigits 16 c.toNat).leftpad 4 '0' else [c]

/-- The JSON text of a string. -/
def renderString (s : String) : String :=
  String.ofList ('"' :: s.toList.flatMap stringChar ++ ['"'])

/-- The JSON text of a list of items that are rendered already. -/
def renderArray (items : List String) : String :=
  "[" ++ String.intercalate "," items ++ "]"

/-- The JSON text of an object whose values are rendered already. -/
def renderObject (members : List (String × String)) : String :=
  "\x7b" ++ String.intercalate "," (members.map fun (k, v) => renderString k ++ ":" ++ v) ++ "\x7d"

mutual

/-- The JSON text of a value, without white space. -/
def render : Json → String
  | null => "null"
  | bool b => if b then "true" else "false"
  | number n => n.render
  | string s => renderString s
  | array items => renderArray (renderItems items)
  | object members => renderObject (renderMembers members)

/-- The texts of several values. -/
def renderItems : List Json → List String
  | [] => []
  | item :: items => render item :: renderItems items

/-- The names of members with the texts of their values. -/
def renderMembers : List (String × Json) → List (String × String)
  | [] => []
  | (name, value) :: members => (name, render value) :: renderMembers members

end

/-- Sets a member in a list with increasing names. -/
def placeMember (name : String) (value : Json) : List (String × Json) → List (String × Json)
  | [] => [(name, value)]
  | (name', value') :: rest =>
    if name < name' then (name, value) :: (name', value') :: rest
    else if name = name' then (name, value) :: rest
    else (name', value') :: placeMember name value rest

/-- The members of an object in order of their names. Of two members with one name the later one
counts. -/
def sortMembers (members : List (String × Json)) : List (String × Json) :=
  members.foldl (fun sorted m => placeMember m.1 m.2 sorted) []

end Json

end FuseMount
