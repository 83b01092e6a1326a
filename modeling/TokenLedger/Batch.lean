import TokenLedger.Event

/-! # Batches

Many proposals at once. Each is judged on its own: nothing is carried from one to the next, so two
proposals that consume the same record can both be accepted, and telling that they conflict is left
to the host.
-/
namespace TokenLedger.Batch

def verdicts (proposals : List Proposal) : List Verdict := proposals.map Proposal.verdict

def events (proposals : List Proposal) : List Event :=
  let summary := Summary.ofVerdicts (verdicts proposals)
  proposals.map Proposal.event ++
    [.batchVerified summary.total summary.accepted summary.rejectedCount]

end TokenLedger.Batch
