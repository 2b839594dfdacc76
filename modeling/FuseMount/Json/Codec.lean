import FuseMount.Json.Decoder

/-!
# Codecs

A codec ties a type to JSON: how its values are written, how they are read from a document, and how
they are taken from a JSON value that has been read already. A record is described once, by the list
of its fields (`Record`), for all three.

The two ways to read agree on well-formed input, up to which fault is reported. From a document, a
value of a wrong type in place of a name is a malformed document and an array with too many items
has trailing characters; members are looked at in the order in which they stand. From a value these
are mismatches, and members are looked at in order of their names.
-/

namespace FuseMount.Json

/-- A way to write values of a type as JSON and to read them. -/
structure Codec (α : Type) where
  /-- Reads a value from a document. -/
  decoder : Decoder α
  /-- Takes a value from JSON. -/
  ofJson : Json → Except Mismatch α
  /-- Writes a value as JSON. -/
  toJson : α → Json

/-- Reports JSON as a value of a wrong type. -/
def wrongType {α : Type} (expected : String) (j : Json) : Except Mismatch α :=
  .error (.wrongType j.found expected)

namespace Codec

/-! ## Codecs of single values -/

/-- Texts. -/
def text : Codec String where
  decoder := Decoder.string
  ofJson
    | .string s => .ok s
    | j => wrongType "a string" j
  toJson := .string

/-- Booleans. -/
def toggle : Codec Bool where
  decoder := Decoder.bool
  ofJson
    | .bool b => .ok b
    | j => wrongType "a boolean" j
  toJson := .bool

/-- Maps from texts to texts. -/
def textMap : Codec TextMap where
  decoder := Decoder.textMap
  ofJson
    | .object members =>
      (sortMembers members).foldlM
        (fun m (key, value) => (m.insert key ·) <$> text.ofJson value) ∅
    | j => wrongType "a map" j
  toJson m := .object (m.entries.map fun (k, v) => (k, .string v))

/-- The value that a name stands for. -/
def named {α : Type} (all : List α) (name : α → String) (s : String) : Option α :=
  all.find? (name · = s)

/-- Values out of a list, each of them written as its name. -/
def variant {α : Type} (all : List α) (name : α → String) : Codec α where
  decoder := Decoder.variant (all.map name) (named all name)
  ofJson j :=
    let find (s : String) : Except Mismatch α :=
      match named all name s with
      | some a => .ok a
      | none => .error (.unknownVariant s (all.map name))
    match j with
    | .string s => find s
    | .object members =>
      match sortMembers members with
      | [(s, value)] => do
        let a ← find s
        match value with
        | .null => return a
        | j => wrongType "unit" j
      | _ => .error .notOneMember
    | j => wrongType "string or map" j
  toJson a := .string (name a)

/-- Values that may be missing, which is written as `null`. -/
def optional {α : Type} (codec : Codec α) : Codec (Option α) where
  decoder := Decoder.optional codec.decoder
  ofJson
    | .null => .ok none
    | j => some <$> codec.ofJson j
  toJson
    | none => .null
    | some a => codec.toJson a

end Codec

/-! ## Records -/

/-- A field of a record: its name, and how its value is read into a record and written from it.
Nothing is written where the record holds what it holds without the field. -/
structure RecordField (σ : Type) where
  name : String
  decoder : Decoder (σ → σ)
  ofJson : Json → Except Mismatch (σ → σ)
  toJson? : σ → Option Json

/-- A field whose value is got and set by two functions. It is not written if `isBlank` holds of
it. -/
def RecordField.make {σ α : Type} (name : String) (codec : Codec α) (get : σ → α)
    (set : α → σ → σ) (isBlank : α → Bool) : RecordField σ where
  name := name
  decoder := do return set (← codec.decoder)
  ofJson j := set <$> codec.ofJson j
  toJson? s := if isBlank (get s) then none else some (codec.toJson (get s))

/-- A record type: the name by which messages call it, its fields in order, and the record that has
none of them. -/
structure Record (σ : Type) where
  label : String
  fields : List (RecordField σ)
  blank : σ

namespace Record

/-- Takes the fields of a record from the items of an array. -/
def ofItems {σ : Type} : List (RecordField σ) → List Json → σ → Except Mismatch (σ × List Json)
  | [], items, s => .ok (s, items)
  | _, [], s => .ok (s, [])
  | field :: fields, item :: items, s => do
    let set ← field.ofJson item
    ofItems fields items (set s)

/-- Takes the fields of a record from members. Those that are no fields are passed over. -/
def ofMembers {σ : Type} (fields : List (RecordField σ)) :
    List (String × Json) → σ → Except Mismatch σ
  | [], s => .ok s
  | (key, value) :: members, s =>
    match fields.find? (·.name = key) with
    | some field => do
      let set ← field.ofJson value
      ofMembers fields members (set s)
    | none => ofMembers fields members s

/-- The members of a record that are written. -/
def toMembers {σ : Type} (fields : List (RecordField σ)) (s : σ) : List (String × Json) :=
  fields.filterMap fun field => (field.toJson? s).map fun j => (field.name, j)

/-- The codec of a record type. -/
def codec {σ : Type} (record : Record σ) : Codec σ where
  decoder :=
    Decoder.record record.label (record.fields.map fun f => ⟨f.name, f.decoder⟩) record.blank
  ofJson
    | .array items => do
      let (s, left) ← ofItems record.fields items record.blank
      if left.isEmpty then return s else .error (.tooManyItems items.length)
    | .object members => ofMembers record.fields (sortMembers members) record.blank
    | j => wrongType ("struct " ++ record.label) j
  toJson s := .object (toMembers record.fields s)

end Record

end FuseMount.Json
