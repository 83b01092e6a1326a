import TokenLedger.Files
import TokenLedger.Json.Error
import TokenLedger.Settings.Source
import TokenLedger.Text.Hex

/-! # Failures

What can go wrong in a run of the program, apart from a faulty command line.
-/
namespace TokenLedger

inductive Failure
  | unknownLevel (lowered : String)
  | configMissing (path : String)
  | configUnreadable (path : String) (reason : Files.Fault)
  | configNotToml
  | configMisfit (misfit : Misfit)
  | proposalUnreadable (path : String) (reason : Files.Fault)
  | proposalMalformed (path : String) (error : Json.Error)
  | keyNotHex (fault : Hex.Fault)
  | keyEmpty
  | rejected (count total : Nat)
  deriving DecidableEq

namespace Failure

def message : Failure → String
  | .unknownLevel lowered =>
    "Configuration error: Unknown log level: '" ++ lowered ++
      "'. Supported: trace, debug, info, warn, error"
  | .configMissing path => "Configuration error: Configuration file not found: " ++ path
  | .configUnreadable path reason =>
    "Failed to load config from " ++ path ++ ": " ++ reason.message
  | .configNotToml => "Invalid config: not a TOML document"
  | .configMisfit misfit => "Invalid config: " ++ misfit.message
  | .proposalUnreadable path reason =>
    "Failed to read proposal file '" ++ path ++ "': " ++ reason.message
  | .proposalMalformed path error =>
    "Failed to read proposal file '" ++ path ++ "': " ++ error.message
  | .keyNotHex fault => "Invalid public key: " ++ fault.message
  | .keyEmpty => "Invalid public key: public key is empty"
  | .rejected count total => toString count ++ " of " ++ toString total ++ " proposal(s) rejected"

def ofConfigFault : Settings.Config.Fault → Failure
  | .notToml => .configNotToml
  | .misfit m => .configMisfit m
  | .unknownLevel lowered => .unknownLevel lowered

end Failure

end TokenLedger
