import TokenLedger.Command.Failure

/-! # Settings file

A file that is asked for must exist; the file in the home directory need not.
-/
namespace TokenLedger.Settings

def homeFile (home : String) : String :=
  (if home.endsWith "/" then home else home ++ "/") ++ ".token-cli/config.toml"

def loadExisting (files : Files) (path : String) : Except Failure Config :=
  match files.read path with
  | .error reason => .error (.configUnreadable path reason)
  | .ok text => (Config.parse text).mapError .ofConfigFault

def load (files : Files) (home : String) (path? : Option String) : Except Failure Config :=
  match path? with
  | some path =>
    if files.present path then loadExisting files path else .error (.configMissing path)
  | none =>
    if files.present (homeFile home) then loadExisting files (homeFile home) else .ok ⟨none⟩

end TokenLedger.Settings
