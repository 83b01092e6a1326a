import TokenLedger.Command.Usage
import TokenLedger.Wire.Event

/-! # The program

Looks up the files that a run needs, runs it, and writes what it printed, logged and complained of.
-/
namespace TokenLedger

def Files.Fault.ofRefusal (path : String) : IO.Error → Files.Fault
  | .noFileOrDirectory .. => .notFound
  | .inappropriateType _ code _ => if code = 21 then .isADirectory else .notADirectory
  | .invalidArgument .. => if path.toList.contains '\x00' then .nameWithNul else .nameTooLong
  | .permissionDenied .. => .other "Permission denied (os error 13)"
  | error => .other (toString error)

def lookUp (path : String) : IO (String × Except Files.Fault String) := do
  try
    match String.fromUTF8? (← IO.FS.readBinFile path) with
    | some text => return (path, .ok text)
    | none => return (path, .error .notText)
  catch error => return (path, .error (.ofRefusal path error))

def surroundings : IO Environment := do
  return ⟨← IO.getEnv "TOKEN_CLI_VERBOSE", ← IO.getEnv "TOKEN_CLI_FORMAT",
    ← IO.getEnv "TOKEN_CLI_CONFIG", (← IO.getEnv "HOME").getD "."⟩

def writeLog (level : Level) (events : List Event) : IO Unit := do
  for event in events do
    if event.isShown level then IO.eprintln event.line

def Writing.write (w : Writing) : IO Unit :=
  match w with
  | .report _ => IO.println w.text
  | .complaint _ => IO.eprintln w.text

def writeOutcome (settings : Settings) (o : Outcome) : IO UInt32 := do
  match Level.parse settings.logLevel with
  | .ok level => writeLog level o.events
  | .error _ => pure ()
  for w in o.transcript do
    w.write
  return o.exitCode.toUInt32

def writeRefused (refused : Refused) : IO UInt32 := do
  if refused.exitCode = 0 then IO.println refused.message else IO.eprintln refused.message
  return refused.exitCode.toUInt32

end TokenLedger

open TokenLedger in
def main (arguments : List String) : IO UInt32 := do
  let e ← surroundings
  let files := Files.ofList (← (pathsOf arguments e).mapM lookUp)
  match prepare arguments e files with
  | .error refused => writeRefused refused
  | .ok (settings, command) => writeOutcome settings (command.run files settings)
