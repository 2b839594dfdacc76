import FuseMount.Config.Codec

/-!
# Settings of the command line

What the configuration file of the command line holds: a mount's configuration that the arguments
are applied to, a platform, and what is logged in which format. Each of them may be missing.
-/

namespace FuseMount

/-- How events are written. -/
inductive LogFormat where
  | compact
  | json
  | pretty
  deriving DecidableEq, Repr

namespace LogFormat

/-- All formats, in the order in which messages list them. -/
def all : List LogFormat := [compact, json, pretty]

/-- The name of a format. -/
def name : LogFormat → String
  | compact => "compact"
  | json => "json"
  | pretty => "pretty"

instance : Inhabited LogFormat := ⟨compact⟩

/-- The codec of formats. -/
def codec : Json.Codec LogFormat := .variant all name

end LogFormat

/-- What is logged, and how. -/
structure Logging where
  /-- The filter that decides which events are logged. -/
  filter : String := ""
  /-- The format, if one is chosen. -/
  format : Option LogFormat := none
  deriving DecidableEq, Repr

namespace Logging

open Json (RecordField)

/-- Logging as a record type. -/
def record : Json.Record Logging where
  label := "Tracing"
  fields :=
    [.make "filter" .text (·.filter) (fun v l => { l with filter := v }) String.isEmpty,
      .make "format" (.optional LogFormat.codec) (·.format) (fun v l => { l with format := v })
        Option.isNone]
  blank := {}

end Logging

/-- The settings of the command line. -/
structure Settings where
  /-- The configuration that arguments are applied to. -/
  mount : Option Config := none
  /-- The platform, if it is not the host's. -/
  platform : Option Platform := none
  /-- What is logged, and how. -/
  logging : Option Logging := none
  deriving DecidableEq

namespace Settings

/-- Settings as a record type. -/
def record : Json.Record Settings where
  label := "Config"
  fields :=
    [.make "mount" (.optional Config.codec) (·.mount) (fun v s => { s with mount := v })
        Option.isNone,
      .make "platform" (.optional Platform.codec) (·.platform)
        (fun v s => { s with platform := v }) Option.isNone,
      .make "tracing" (.optional Logging.record.codec) (·.logging)
        (fun v s => { s with logging := v }) Option.isNone]
  blank := {}

/-- The codec of settings. -/
def codec : Json.Codec Settings := record.codec

/-- The settings that a document holds. -/
def decode (document : String) : Except Json.Fault Settings :=
  codec.decoder.decode document

/-- Settings as a document. -/
def encode (settings : Settings) : String :=
  (codec.toJson settings).render

end Settings

end FuseMount
