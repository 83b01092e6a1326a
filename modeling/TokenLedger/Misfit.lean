import TokenLedger.Record
import TokenLedger.Text.Quoted

/-! # Misfits

How a value of a well-formed document fails to be what is expected in its place. The words are the
same for every format of documents.
-/
namespace TokenLedger

inductive Found
  | null
  | bool (value : Bool)
  | integer (value : Int)
  | float (text : String)
  | string (value : String)
  | sequence
  | map
  deriving DecidableEq

def Found.describe : Found → String
  | .null => "null"
  | .bool value => "boolean `" ++ toString value ++ "`"
  | .integer value => "integer `" ++ toString value ++ "`"
  | .float text => "floating point `" ++ text ++ "`"
  | .string value => "string " ++ String.ofList (Text.quoted value.toList)
  | .sequence => "sequence"
  | .map => "map"

inductive Misfit
  | wrongType (found : Found) (expected : String)
  | wrongValue (found : Found) (expected : String)
  | wrongLength (length : Nat) (expected : String)
  | missingField (name : String)
  | duplicateField (name : String)
  | unknownVariant (name : String) (variants : List String)
  | party (fault : Party.Fault)
  | record (fault : Record.Fault)
  /-- A misfit that is described as a whole. -/
  | other (description : String)
  deriving DecidableEq

namespace Misfit

def alternatives : List String → String
  | [] => "there are no variants"
  | [a] => "expected `" ++ a ++ "`"
  | [a, b] => "expected `" ++ a ++ "` or `" ++ b ++ "`"
  | names => "expected one of " ++ ", ".intercalate (names.map fun n => "`" ++ n ++ "`")

def message : Misfit → String
  | .wrongType found expected =>
    "invalid type: " ++ found.describe ++ ", expected " ++ expected
  | .wrongValue found expected =>
    "invalid value: " ++ found.describe ++ ", expected " ++ expected
  | .wrongLength length expected =>
    "invalid length " ++ toString length ++ ", expected " ++ expected
  | .missingField name => "missing field `" ++ name ++ "`"
  | .duplicateField name => "duplicate field `" ++ name ++ "`"
  | .unknownVariant name variants => "unknown variant `" ++ name ++ "`, " ++ alternatives variants
  | .party fault => fault.message
  | .record fault => fault.message
  | .other description => description

end Misfit

end TokenLedger
