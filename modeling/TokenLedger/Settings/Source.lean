import TokenLedger.Json.Reader
import TokenLedger.Settings
import TokenLedger.Toml.Document

/-! # Sources of settings

A layer of settings is read from a table of a TOML document or from a JSON value. Keys that are not
settings are ignored; the level of the log is looked at only when all the rest fits.
-/
namespace TokenLedger

namespace Format

/-- A name, or a table with the name as its only key and nothing in it. -/
def ofToml : Toml.Value → Except Misfit Format
  | .string name => choose name
  | .table [] => .error (.other "wanted exactly 1 element, found 0 elements")
  | .table [(name, v)] => do
    let format ← choose name
    match v with
    | .table [] | .array [] | .tables [] => .ok format
    | .table _ | .array _ => .error (.other "expected empty table")
    | .tables _ => .error (.other "expected empty array")
    | v => .error (.other ("expected table, found " ++ v.typeName))
  | .table _ => .error (.other "wanted exactly 1 element, more than 1 element")
  | _ => .error (.other "wanted string or table")
where
  choose (name : String) : Except Misfit Format :=
    match variants.lookup name with
    | some f => .ok f
    | none => .error (.unknownVariant name (variants.map (·.1)))

def ofNode (n : Json.Node) : Json.Read Format := n.readVariant variants

end Format

namespace Settings

def textOfToml : Toml.Value → Except Misfit String
  | .string s => .ok s
  | v => .error (.wrongType v.found "a string")

def boolOfToml : Toml.Value → Except Misfit Bool
  | .bool b => .ok b
  | v => .error (.wrongType v.found "a boolean")

namespace Layer

def shape : String := "struct CliDefaults with 3 elements"

def addEntries (layer : Layer) : List (String × Toml.Value) → Except Misfit Layer
  | [] => .ok layer
  | ("format", v) :: rest => do
    let format ← Format.ofToml v
    addEntries { layer with format := some format } rest
  | ("log_level", v) :: rest => do
    let logLevel ← textOfToml v
    addEntries { layer with logLevel := some logLevel } rest
  | ("fail_on_reject", v) :: rest => do
    let failOnReject ← boolOfToml v
    addEntries { layer with failOnReject := some failOnReject } rest
  | _ :: rest => addEntries layer rest

/-- The settings of a table, or of an array that begins with the three of them. A date has none. -/
def ofToml : Toml.Value → Except Misfit Layer
  | .table entries => addEntries silent entries
  | .date _ => .ok silent
  | .array items | .tables items => do
    let format ← match items[0]? with
      | some v => Format.ofToml v
      | none => .error (.wrongLength 0 shape)
    let logLevel ← match items[1]? with
      | some v => textOfToml v
      | none => .error (.wrongLength 1 shape)
    let failOnReject ← match items[2]? with
      | some v => boolOfToml v
      | none => .error (.wrongLength 2 shape)
    .ok ⟨some format, some logLevel, some failOnReject⟩
  | v => .error (.wrongType v.found "struct CliDefaults")

open Json

structure Draft where
  format : Option (Option Format)
  logLevel : Option (Option String)
  failOnReject : Option (Option Bool)

namespace Draft

def empty : Draft := ⟨none, none, none⟩

def readFormat (n : Node) : Read (Option Format) := n.readOptional Format.ofNode

def readLevel (n : Node) : Read (Option String) := n.readOptional (Node.readString "a string")

def readChoice (n : Node) : Read (Option Bool) := n.readOptional Node.readBool

def field (d : Draft) (name : String) : Option (Node → Read Draft) :=
  match name with
  | "format" => some (once name d.format readFormat fun v => { d with format := some v })
  | "log_level" => some (once name d.logLevel readLevel fun v => { d with logLevel := some v })
  | "fail_on_reject" =>
    some (once name d.failOnReject readChoice fun v => { d with failOnReject := some v })
  | _ => none

end Draft

def ofNode (n : Node) : Read Layer :=
  match n with
  | .object members ending => do
    let d ← readObject Draft.field .empty members ending
    .ok ⟨d.format.join, d.logLevel.join, d.failOnReject.join⟩
  | .array items ending => do
    let (format, items) ← readItem 0 shape Draft.readFormat items ending
    let (logLevel, items) ← readItem 1 shape Draft.readLevel items ending
    let (failOnReject, items) ← readItem 2 shape Draft.readChoice items ending
    endOfItems items ending
    .ok ⟨format, logLevel, failOnReject⟩
  | n => n.refuse "struct CliDefaults"

end Layer

namespace Config

inductive Fault
  | notToml
  | misfit (misfit : Misfit)
  | unknownLevel (lowered : String)
  deriving DecidableEq

def ofEntries (entries : List (String × Toml.Value)) : Except Misfit Config :=
  match entries.lookup "defaults" with
  | none => .ok ⟨none⟩
  | some v => do
    let layer ← Layer.ofToml v
    .ok ⟨some layer⟩

def parse (text : String) : Except Fault Config :=
  match Toml.parse text with
  | none => .error .notToml
  | some entries =>
    match ofEntries entries with
    | .error misfit => .error (.misfit misfit)
    | .ok config =>
      match config.defaults.bind Layer.logLevel with
      | none => .ok config
      | some level =>
        match Level.validate level with
        | .ok () => .ok config
        | .error lowered => .error (.unknownLevel lowered)

end Config

end Settings

end TokenLedger
