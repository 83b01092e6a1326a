/-! # Files

What a command needs to know of files: whether there is one at a path, and its text. A path that
cannot be read gives the reason in the words of the system.
-/
namespace TokenLedger

namespace Files

inductive Fault
  | notFound
  | notADirectory
  | isADirectory
  | nameTooLong
  | nameWithNul
  | notText
  | other (reason : String)
  deriving DecidableEq

def Fault.message : Fault → String
  | .notFound => "No such file or directory (os error 2)"
  | .notADirectory => "Not a directory (os error 20)"
  | .isADirectory => "Is a directory (os error 21)"
  | .nameTooLong => "File name too long (os error 36)"
  | .nameWithNul => "file name contained an unexpected NUL byte"
  | .notText => "stream did not contain valid UTF-8"
  | .other reason => reason

end Files

def Files.Fault.isAbsence : Files.Fault → Bool
  | .notFound | .notADirectory | .nameTooLong | .nameWithNul => true
  | _ => false

structure Files where
  present : String → Bool
  read : String → Except Files.Fault String

def Files.ofList (found : List (String × Except Files.Fault String)) : Files where
  present path := match found.lookup path with
    | none => false
    | some (.ok _) => true
    | some (.error fault) => !fault.isAbsence
  read path := (found.lookup path).getD (.error .notFound)

end TokenLedger
