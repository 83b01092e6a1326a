import TokenLedger.Command.Line
import TokenLedger.Report
import TokenLedger.Settings.File
import TokenLedger.Wire.Proposal

/-! # Runs

What a command does: the texts it prints, the events it logs, and how it ends. The report is
complete before a rejection makes the command fail.
-/
namespace TokenLedger

/-- What is written in one piece: a text of the report, or the complaint about a failure. -/
inductive Writing
  | report (text : String)
  | complaint (message : String)
  deriving DecidableEq

def Writing.text : Writing → String
  | .report text => text
  | .complaint message => "❌ " ++ message

structure Outcome where
  events : List Event
  printed : List String
  result : Except Failure Unit

namespace Outcome

def failure (f : Failure) : Outcome := ⟨[], [], .error f⟩

def succeeded (o : Outcome) : Bool := o.result.toBool

def errors (o : Outcome) : List String :=
  match o.result with
  | .ok () => []
  | .error f => [f.message]

def exitCode (o : Outcome) : Nat := if o.succeeded then 0 else 1

def output (o : Outcome) : String := String.join (o.printed.map (· ++ "\n"))

def complaint? (o : Outcome) : Option String :=
  match o.result with
  | .ok () => none
  | .error f => some (Writing.complaint f.message).text

/-- All that is written, in its order: a complaint comes when the report is complete. -/
def transcript (o : Outcome) : List Writing :=
  o.printed.map .report ++ o.errors.map .complaint

end Outcome

def reportEvents (index : Nat) : List Verdict → List Event
  | [] => []
  | v :: rest => .ofVerdict index v :: reportEvents (index + 1) rest

/-- The texts of a report. A summary follows the lines of more than one proposal. -/
def reportTexts (format : Format) (proposals : List Proposal) (verdicts : List Verdict) :
    List String :=
  let s := Summary.ofVerdicts verdicts
  match format with
  | .json => [(Report.toJson verdicts s).pretty]
  | .table =>
    Report.linesFrom 0 (proposals.zip verdicts) ++
      if 1 < s.total then [Report.header "Summary", Report.summary s] else []

def reportResult (failOnReject : Bool) (verdicts : List Verdict) : Except Failure Unit :=
  let s := Summary.ofVerdicts verdicts
  if failOnReject && !s.allAccepted then .error (.rejected s.rejectedCount s.total) else .ok ()

def reportOn (settings : Settings) (proposals : List Proposal) (verified : List Event) : Outcome :=
  let verdicts := Batch.verdicts proposals
  ⟨verified ++ reportEvents 0 verdicts, reportTexts settings.format proposals verdicts,
    reportResult settings.failOnReject verdicts⟩

def readProposals {α : Type} (read : String → Json.Read α) (files : Files) (path : String) :
    Except Failure α :=
  match files.read path with
  | .error reason => .error (.proposalUnreadable path reason)
  | .ok text =>
    match read text with
    | .error error => .error (.proposalMalformed path error)
    | .ok value => .ok value

def runVerify (files : Files) (settings : Settings) (path : String) : Outcome :=
  match readProposals Proposal.ofJson files path with
  | .error f => .failure f
  | .ok p => reportOn settings [p] [p.event]

def runBatch (files : Files) (settings : Settings) (path : String) : Outcome :=
  match readProposals Proposal.batchOfJson files path with
  | .error f => .failure f
  | .ok proposals => reportOn settings proposals (Batch.events proposals)

def partyOfKey (publicKey : String) : Except Failure Party :=
  match Hex.decode (Text.utf8 (Text.trim publicKey.toList)) with
  | .error fault => .error (.keyNotHex fault)
  | .ok [] => .error .keyEmpty
  | .ok key => .ok (Party.ofPublicKey key)

def runParty (settings : Settings) (publicKey : String) : Outcome :=
  match partyOfKey publicKey with
  | .error f => .failure f
  | .ok p =>
    let text := match settings.format with
      | .table => p.display
      | .json => (Json.Value.object [("party", p.toJson)]).pretty
    ⟨[], [text], .ok ()⟩

def Command.run (files : Files) (settings : Settings) : Command → Outcome
  | .verify path => runVerify files settings path
  | .batch path => runBatch files settings path
  | .party publicKey => runParty settings publicKey

inductive Refused
  | line (refusal : CommandLine.Refusal)
  | settings (failure : Failure)
  deriving DecidableEq

def Refused.exitCode : Refused → Nat
  | .line refusal => refusal.exitCode
  | .settings _ => 1

def prepare (arguments : List String) (e : Environment) (files : Files) :
    Except Refused (Settings × Command) := do
  let line ← (CommandLine.parse arguments e).mapError .line
  let config ← (Settings.load files e.home line.config).mapError .settings
  .ok (line.adjust (Settings.ofConfig config), line.command)

def run (arguments : List String) (e : Environment) (files : Files) : Except Refused Outcome := do
  let (settings, command) ← prepare arguments e files
  .ok (command.run files settings)

def pathsOf (arguments : List String) (e : Environment) : List String :=
  match CommandLine.parse arguments e with
  | .error _ => []
  | .ok line => line.config.getD (Settings.homeFile e.home) :: line.command.file?.toList

end TokenLedger
