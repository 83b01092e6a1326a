import TokenLedger.Level

/-! # Settings

The settings of a run come in layers: those built in, over them those of a file, over them those of
the command line. Each layer decides each setting on its own.
-/
namespace TokenLedger

inductive Format
  | table
  | json
  deriving DecidableEq

namespace Format

def all : List Format := [.table, .json]

def name : Format → String
  | .table => "table"
  | .json => "json"

def variants : List (String × Format) := all.map fun f => (f.name, f)

end Format

structure Settings where
  format : Format
  logLevel : String
  failOnReject : Bool
  deriving DecidableEq

namespace Settings

def builtIn : Settings := ⟨.table, "warn", true⟩

/-- A layer may leave any setting to the layer below. -/
structure Layer where
  format : Option Format
  logLevel : Option String
  failOnReject : Option Bool
  deriving DecidableEq

def Layer.silent : Layer := ⟨none, none, none⟩

def under (s : Settings) (layer : Layer) : Settings where
  format := layer.format.getD s.format
  logLevel := layer.logLevel.getD s.logLevel
  failOnReject := layer.failOnReject.getD s.failOnReject

/-- What a file says: a layer, or nothing at all. -/
structure Config where
  defaults : Option Layer
  deriving DecidableEq

def ofConfig (c : Config) : Settings := builtIn.under (c.defaults.getD .silent)

end Settings

end TokenLedger
