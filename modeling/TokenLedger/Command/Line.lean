import TokenLedger.Settings

/-! # Command line

The arguments of the program: options, then a command with one argument of its own. An option that
the command line leaves out can be set by a variable of the environment.

An option that takes a value is pending until its value has been looked at. It is looked at before
the next option takes effect, and at the end; a command is read to its end before that.
-/
namespace TokenLedger

inductive Command
  | verify (file : String)
  | batch (file : String)
  | party (publicKey : String)
  deriving DecidableEq

def Command.file? : Command → Option String
  | .verify file | .batch file => some file
  | .party _ => none

structure CommandLine where
  verbose : Bool
  format : Option Format
  config : Option String
  allowReject : Bool
  command : Command
  deriving DecidableEq

/-- The variables that stand in for options, and the home directory. -/
structure Environment where
  verbose : Option String
  format : Option String
  config : Option String
  home : String

namespace CommandLine

/-- Why a command line leads to no command. The last two are what the user asked for. -/
inductive Refusal
  | unknownArgument
  | unknownCommand
  | invalidValue
  | repeatedOption
  | valueOfFlag
  | missingArgument
  | missingCommand
  | nothingGiven
  | help
  | version
  deriving DecidableEq

def Refusal.exitCode : Refusal → Nat
  | .help | .version => 0
  | _ => 2

inductive Valued
  | format
  | config

/-- The options that have been given, and the last one that takes a value, if it is pending. A
pending option without a value waits for it. -/
structure Given where
  verbose : Bool
  allowReject : Bool
  format : Option Format
  config : Option String
  pending : Option (Valued × Option String)

namespace Given

def none : Given := ⟨false, false, .none, .none, .none⟩

def parseFormat (text : String) : Except Refusal Format :=
  match Format.variants.lookup text with
  | some f => .ok f
  | .none => .error .invalidValue

def set (g : Given) (option : Valued) (value : String) : Except Refusal Given :=
  match option with
  | .format =>
    if g.format.isSome then .error .repeatedOption
    else do
      let f ← parseFormat value
      .ok { g with format := some f }
  | .config =>
    if g.config.isSome then .error .repeatedOption else .ok { g with config := some value }

def settle (g : Given) : Except Refusal Given :=
  match g.pending with
  | .none => .ok g
  | some (_, .none) => .error .invalidValue
  | some (option, some value) => { g with pending := .none }.set option value

def attach (g : Given) (option : Valued) (value : String) : Except Refusal Given := do
  (← g.settle).set option value

def await (g : Given) (option : Valued) : Except Refusal Given := do
  .ok { (← g.settle) with pending := some (option, .none) }

def beVerbose (g : Given) : Except Refusal Given := do
  let g ← g.settle
  if g.verbose then .error .repeatedOption else .ok { g with verbose := true }

def beLenient (g : Given) : Except Refusal Given := do
  let g ← g.settle
  if g.allowReject then .error .repeatedOption else .ok { g with allowReject := true }

def request (g : Given) (what : Refusal) : Except Refusal Given := do
  let _ ← g.settle
  .error what

def waiting? (g : Given) : Option Valued :=
  match g.pending with
  | some (option, .none) => some option
  | _ => .none

def long (g : Given) (name : String) (value? : Option String) : Except Refusal Given :=
  match name, value? with
  | "format", some value => g.attach .format value
  | "format", .none => g.await .format
  | "config", some value => g.attach .config value
  | "config", .none => g.await .config
  | "verbose", .none => g.beVerbose
  | "allow-reject", .none => g.beLenient
  | "help", .none => g.request .help
  | "version", .none => g.request .version
  | name, some _ =>
    if name ∈ ["verbose", "allow-reject", "help", "version"] then .error .valueOfFlag
    else .error .unknownArgument
  | _, .none => .error .unknownArgument

def withValue (g : Given) (option : Valued) : List Char → Except Refusal Given
  | [] => g.await option
  | '=' :: value => g.attach option (String.ofList value)
  | value => g.attach option (String.ofList value)

def short (g : Given) : List Char → Except Refusal Given
  | [] => .ok g
  | 'v' :: rest => do short (← g.beVerbose) rest
  | 'h' :: _ => g.request .help
  | 'V' :: _ => g.request .version
  | 'f' :: rest => g.withValue .format rest
  | 'c' :: rest => g.withValue .config rest
  | _ => .error .unknownArgument

end Given

inductive Argument
  | separator
  | long (name : String) (value? : Option String)
  | short (letters : List Char)
  | plain

def Argument.ofText (text : String) : Argument :=
  match text.toList with
  | ['-', '-'] => .separator
  | '-' :: '-' :: rest =>
    match rest.span (· != '=') with
    | (name, _ :: value) => .long (String.ofList name) (some (String.ofList value))
    | (name, []) => .long (String.ofList name) none
  | '-' :: c :: rest => .short (c :: rest)
  | _ => .plain

/-- The commands by name, each with what it makes of its argument. -/
inductive CommandName
  | verify
  | batch
  | party

def CommandName.ofText? : String → Option CommandName
  | "verify" => some .verify
  | "batch" => some .batch
  | "party" => some .party
  | _ => none

def CommandName.command (name : CommandName) (argument : String) : Except Refusal Command :=
  match name with
  | .verify => if argument = "" then .error .invalidValue else .ok (.verify argument)
  | .batch => if argument = "" then .error .invalidValue else .ok (.batch argument)
  | .party => .ok (.party argument)

/-- Reads the arguments of a command. Behind a separator nothing is an option. -/
def readCommand (name : CommandName) (plainOnly : Bool) (argument? : Option String) :
    List String → Except Refusal Command
  | [] =>
    match argument? with
    | none => .error .missingArgument
    | some argument => name.command argument
  | text :: rest =>
    let plain (_ : Unit) : Except Refusal Command :=
      match argument? with
      | none => readCommand name plainOnly (some text) rest
      | some _ => .error .unknownArgument
    let help (_ : Unit) : Except Refusal Command :=
      match argument? with
      | none => .error .help
      | some argument => do
        let _ ← name.command argument
        .error .help
    if plainOnly then plain ()
    else match Argument.ofText text with
      | .separator => readCommand name true argument? rest
      | .long "help" (some _) => .error .valueOfFlag
      | .long "help" none => help ()
      | .long _ _ => .error .unknownArgument
      | .short ('h' :: _) => help ()
      | .short _ => .error .unknownArgument
      | .plain => plain ()

def readHelp : List String → Refusal
  | [] => .help
  | [name] => if name = "help" ∨ (CommandName.ofText? name).isSome then .help else .unknownCommand
  | _ => .unknownCommand

def readOptions (g : Given) : List String → Except Refusal (Given × Option Command)
  | [] => .ok (g, none)
  | text :: rest =>
    if g.waiting?.isNone && text = "help" then .error (readHelp rest)
    else match (if g.waiting?.isNone then CommandName.ofText? text else none) with
      | some name => do
        let command ← readCommand name false none rest
        .ok (g, some command)
      | none =>
        match Argument.ofText text with
        | .separator =>
          match rest with
          | [] => .ok (g, none)
          | next :: _ =>
            if next = "help" ∨ (CommandName.ofText? next).isSome then .error .unknownArgument
            else .error .unknownCommand
        | .long name value? => do readOptions (← g.long name value?) rest
        | .short letters => do readOptions (← g.short letters) rest
        | .plain =>
          match g.waiting? with
          | some option => readOptions { g with pending := some (option, some text) } rest
          | none => .error .unknownCommand

/-- Takes what the command line leaves out from the environment. A variable for a flag is `true` or
`false`. -/
def complete (g : Given) (e : Environment) : Except Refusal (Given × Bool) := do
  let fromLine := g.verbose || g.allowReject || g.format.isSome || g.config.isSome
  let verbose ← if g.verbose then .ok true else match e.verbose with
    | none | some "false" => .ok false
    | some "true" => .ok true
    | some _ => .error .invalidValue
  let format ← if g.format.isSome then .ok g.format else match e.format with
    | none => .ok none
    | some text => some <$> Given.parseFormat text
  let config := if g.config.isSome then g.config else e.config
  let fromVariables := e.verbose.isSome || e.format.isSome || e.config.isSome
  .ok ({ g with verbose := verbose, format := format, config := config },
    fromLine || fromVariables)

def parse (arguments : List String) (e : Environment) : Except Refusal CommandLine := do
  let (given, command?) ← readOptions .none arguments
  let (given, anything) ← complete (← given.settle) e
  match command? with
  | some command =>
    .ok ⟨given.verbose, given.format, given.config, given.allowReject, command⟩
  | none => .error (if anything then .missingCommand else .nothingGiven)

def adjust (c : CommandLine) (s : Settings) : Settings :=
  s.under ⟨c.format, if c.verbose then some "debug" else none,
    if c.allowReject then some false else none⟩

end CommandLine

end TokenLedger
