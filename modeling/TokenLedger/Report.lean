import TokenLedger.Batch
import TokenLedger.Text.Utf8
import TokenLedger.Wire.Summary

/-! # Reports

How verdicts are shown: a line for each proposal and a block with the summary of several, or one
JSON document.
-/
namespace TokenLedger.Report

def padded (width : Nat) (s : String) : String :=
  s ++ String.ofList (List.replicate (width - s.length) ' ')

def status : Verdict → String
  | .accepted => "ACCEPTED"
  | .rejected reason => "REJECTED (" ++ reason.name ++ ": " ++ reason.message ++ ")"

/-- The line of a proposal. Its intent is shown as it was proposed. -/
def line (index : Nat) (p : Proposal) (verdict : Verdict) : String :=
  "#" ++ padded 3 (toString index) ++ " " ++ padded 7 p.intent ++
    " in=" ++ toString p.inputs.length ++ " out=" ++ toString p.outputs.length ++
    " signers=" ++ toString p.signers.size ++ "  " ++ status verdict

def linesFrom (index : Nat) : List (Proposal × Verdict) → List String
  | [] => []
  | (p, verdict) :: rest => line index p verdict :: linesFrom (index + 1) rest

/-- The block of a summary: its totals, then a line for each reason that is listed. -/
def summary (s : Summary) : String :=
  s.rejected.toList.foldl
    (fun text entry => text ++ "\n  " ++ entry.1.name ++ ": " ++ toString entry.2)
    ("total: " ++ toString s.total ++ "  accepted: " ++ toString s.accepted ++
      "  rejected: " ++ toString s.rejectedCount)

/-- A title, underlined for every byte of it. -/
def header (title : String) : String :=
  "\n" ++ title ++ "\n" ++ String.ofList (List.replicate (Text.utf8Size title.toList) '=')

def toJson (verdicts : List Verdict) (s : Summary) : Json.Value :=
  .object [("verdicts", .array (verdicts.map Verdict.toJson)), ("summary", s.toJson)]

end TokenLedger.Report
