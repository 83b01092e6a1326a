import TokenLedger.Decimal.Layout
import TokenLedger.Misfit

/-! # TOML values

The values of a document, and how they are described when they do not fit.
-/
namespace TokenLedger.Toml

/-- A date or a time is kept as it is spelled. A table keeps the order of its keys. An array stands
between brackets; `tables` is an array whose elements have a header each. -/
inductive Value
  | string (value : String)
  | integer (value : Int)
  | float (value : Float)
  | bool (value : Bool)
  | date (spelling : List Char)
  | array (items : List Value)
  | tables (elements : List Value)
  | table (entries : List (String × Value))

def floatLayout : Decimal.Layout where
  from? := none
  below? := none
  tie := .up
  notANumber := "NaN"
  infinity := "inf"

def Value.found : Value → Found
  | .string s => .string s
  | .integer n => .integer n
  | .float x => .float (floatLayout.render x)
  | .bool b => .bool b
  | .date _ => .map
  | .array _ | .tables _ => .sequence
  | .table _ => .map

def Value.typeName : Value → String
  | .string _ => "string"
  | .integer _ => "integer"
  | .float _ => "float"
  | .bool _ => "boolean"
  | .date _ => "datetime"
  | .array _ => "array"
  | .tables _ => "array of tables"
  | .table _ => "table"

end TokenLedger.Toml
