import TokenLedger.Proofs.Command.Outcome
import TokenLedger.Proofs.Judgement.Order
import TokenLedger.Proofs.Judgement.Ruling
import TokenLedger.Wire.Event

/-! # Logs

What the log says of a proposal, as a relation to its verdict: whether it is accepted, and otherwise
that its intent is unknown or which rule it broke first. A judgement logs one event, which is the
one that the relation allows. The log of a run is put together from these.
-/
namespace TokenLedger

open Json

/-- What is seen of an event: its level, its message and its fields. -/
abbrev Entry := Level × String × List (String × Value)

def Event.entry (e : Event) : Entry := (e.level, e.message, e.fields)

/-- What the log calls a rule. -/
inductive Rule.Called : Rule → String → Prop
  | cardinality : Called .cardinality "cardinality"
  | outputPositive : Called .outputPositive "output quantity must be positive"
  | issuerSigns : Called .issuerSigns "issuer must sign"
  | issuerPreserved : Called .issuerPreserved "issuer must be preserved"
  | quantityPreserved : Called .quantityPreserved "quantity must be preserved"
  | holderChanges : Called .holderChanges "holder must change"
  | currentHolderSigns : Called .currentHolderSigns "current holder must sign"
  | holderSigns : Called .holderSigns "holder must sign"

theorem Rule.called_iff {rule : Rule} {text : String} : rule.Called text ↔ rule.name = text := by
  constructor
  · intro h
    cases h <;> rfl
  · rintro rfl
    cases rule <;> constructor

def brokenEntry (tag rule reason : String) : Entry :=
  (.debug, "transaction rejected",
    [("intent", .string tag), ("rule", .string rule), ("reason", .string reason)])

def rejectedEntry (index : Nat) (reason : String) : Entry :=
  (.warn, "proposal rejected", [("index", .ofNat index), ("reason", .string reason)])

/-- What may be logged of the judgement on a proposal. -/
inductive Proposal.Logs (p : Proposal) : Entry → Prop
  | verified {i : Intent} (tag : i.SpelledBy p.intent) (accepted : p.verdict = .accepted) :
    p.Logs (.trace, "transaction verified",
      [("intent", .string i.tag), ("inputs", .ofNat p.inputs.length),
        ("outputs", .ofNat p.outputs.length)])
  | unknownIntent {reason : Rejection} (tag : ∀ i : Intent, ¬ i.SpelledBy p.intent)
    (rejected : p.verdict = .rejected reason) :
    p.Logs (.debug, "transaction rejected: unknown intent",
      [("tag", .string p.intent), ("reason", .string reason.name)])
  | ruleBroken {i : Intent} {rule : Rule} {text : String} {reason : Rejection}
    (tag : i.SpelledBy p.intent) (broken : FirstBroken i p.inputs p.outputs p.signers rule)
    (called : rule.Called text) (rejected : p.verdict = .rejected reason) :
    p.Logs (brokenEntry i.tag text reason.name)

def Verdict.entry (index : Nat) : Verdict → Entry
  | .accepted => (.info, "proposal accepted", [("index", .ofNat index)])
  | .rejected reason => rejectedEntry index reason.name

def acceptedOf (ps : List Proposal) : Nat := ps.countP fun p => p.verdict = .accepted

def batchEntry (ps : List Proposal) : Entry :=
  (.info, "batch verified",
    [("total", .ofNat ps.length), ("accepted", .ofNat (acceptedOf ps)),
      ("rejected", .ofNat (ps.length - acceptedOf ps))])

namespace Proposal
variable {p : Proposal} {i : Intent}

theorem logs_event (p : Proposal) : p.Logs p.event.entry := by
  by_cases ht : ∃ i : Intent, i.SpelledBy p.intent
  · obtain ⟨i, tag⟩ := ht
    have hv := verdict_of_spelledBy tag
    rw [event_of_spelledBy tag]
    cases hb : brokenRule? i p.inputs p.outputs p.signers with
    | none =>
      rw [hb] at hv
      exact .verified tag hv
    | some rule =>
      rw [hb] at hv
      exact .ruleBroken tag (brokenRule?_eq_some_iff.mp hb) (Rule.called_iff.mpr rfl) hv
  · have tag : ∀ i : Intent, ¬ i.SpelledBy p.intent := fun i hi => ht ⟨i, hi⟩
    rw [event_of_unknownIntent tag]
    exact .unknownIntent tag (verdict_of_unknownIntent tag)

/-- The verdict and what was broken first leave no choice. -/
theorem Logs.entry_eq {entry : Entry} (h : p.Logs entry) : p.event.entry = entry := by
  cases h with
  | @verified i tag accepted =>
    have hv := verdict_of_spelledBy tag
    rw [event_of_spelledBy tag]
    cases hb : brokenRule? i p.inputs p.outputs p.signers with
    | none => rfl
    | some rule =>
      rw [hb, accepted] at hv
      cases hv
  | @unknownIntent reason tag rejected =>
    have hv := verdict_of_unknownIntent tag
    rw [rejected] at hv
    obtain rfl := Verdict.rejected.inj hv
    rw [event_of_unknownIntent tag]
    rfl
  | @ruleBroken i rule text reason tag broken called rejected =>
    obtain rfl := Rule.called_iff.mp called
    have hb := brokenRule?_eq_some_iff.mpr broken
    have hv := verdict_of_spelledBy tag
    rw [hb, rejected] at hv
    obtain rfl : reason = rule.rejection i := Verdict.rejected.inj hv
    rw [event_of_spelledBy tag, hb]
    rfl

theorem entry_eq_iff_logs {entry : Entry} : p.event.entry = entry ↔ p.Logs entry := by
  constructor
  · rintro rfl
    exact p.logs_event
  · exact Logs.entry_eq

/-- The three messages tell the three ways apart in which a judgement can end. -/
theorem message_event (p : Proposal) :
    (p.event.message = "transaction verified" ↔ p.verdict = .accepted) ∧
    (p.event.message = "transaction rejected: unknown intent" ↔ p.parsedIntent? = none) ∧
    (p.event.message = "transaction rejected" ↔
      p.verdict ≠ .accepted ∧ p.parsedIntent? ≠ none) := by
  cases hi : p.parsedIntent? with
  | none =>
    have tag := Intent.ofText?_eq_none_iff.mp hi
    rw [event_of_unknownIntent tag, verdict_of_unknownIntent tag]
    simp [Event.message]
  | some i =>
    have tag := Intent.ofText?_eq_some_iff.mp hi
    rw [event_of_spelledBy tag, verdict_of_spelledBy tag]
    cases brokenRule? i p.inputs p.outputs p.signers <;> simp [Event.message]

end Proposal

theorem Event.entry_ofVerdict (index : Nat) (v : Verdict) :
    (Event.ofVerdict index v).entry = v.entry index := by
  cases v <;> rfl

theorem map_entry_reportEvents (ps : List Proposal) (k : Nat) :
    (reportEvents k (Batch.verdicts ps)).map Event.entry =
      ps.mapIdx fun i p => p.verdict.entry (k + i) := by
  induction ps generalizing k with
  | nil => rfl
  | cons p ps ih =>
    rw [Batch.verdicts, List.map_cons, reportEvents, List.map_cons, ← Batch.verdicts, ih,
      Event.entry_ofVerdict, mapIdx_cons_from fun i (p : Proposal) => p.verdict.entry i]

theorem acceptedOf_eq (ps : List Proposal) :
    acceptedOf ps = (Batch.verdicts ps).countP Verdict.isAccepted :=
  countP_verdicts (P := (· = .accepted)) (fun v => by cases v <;> rfl) ps

theorem acceptedOf_add_rejectedOf (ps : List Proposal) :
    acceptedOf ps + rejectedOf ps = ps.length := by
  rw [List.length_eq_countP_add_countP fun p : Proposal => decide (p.verdict = .accepted),
    acceptedOf, rejectedOf]
  simp

/-- A batch logs what its proposals log alone, in their order, and then once its counts. -/
theorem Batch.map_entry_events (ps : List Proposal) :
    (events ps).map Event.entry = (ps.map fun p => p.event.entry) ++ [batchEntry ps] := by
  have hsum := acceptedOf_add_rejectedOf ps
  have hrej : rejectedOf ps = ps.length - acceptedOf ps := by omega
  have hlen : (verdicts ps).length = ps.length := List.length_map _
  have hacc : (Summary.ofVerdicts (verdicts ps)).accepted = acceptedOf ps := by
    rw [Summary.accepted_ofVerdicts, acceptedOf_eq]
  have hcount : (Summary.ofVerdicts (verdicts ps)).rejectedCount = ps.length - acceptedOf ps := by
    rw [Summary.rejectedCount_ofVerdicts, ← rejectedOf_eq, hrej]
  simp only [events, Summary.total_ofVerdicts, hlen, hacc, hcount, List.map_append, List.map_map]
  rfl

theorem map_entry_reportOn (settings : Settings) (ps : List Proposal) (judged : List Event) :
    (reportOn settings ps judged).events.map Event.entry =
      judged.map Event.entry ++ ps.mapIdx fun i p => p.verdict.entry i := by
  have hreport := map_entry_reportEvents ps 0
  simp only [Nat.zero_add] at hreport
  rw [reportOn, List.map_append, hreport]

section
variable {files : Files} {path text : String}

theorem Command.run_verify_eq {p : Proposal} (hr : files.read path = .ok text)
    (hp : Proposal.ofJson text = .ok p) (settings : Settings) :
    (Command.verify path).run files settings = reportOn settings [p] [p.event] := by
  simp only [run, runVerify, readProposals, hr, hp]

theorem Command.run_batch_eq {ps : List Proposal} (hr : files.read path = .ok text)
    (hps : Proposal.batchOfJson text = .ok ps) (settings : Settings) :
    (Command.batch path).run files settings = reportOn settings ps (Batch.events ps) := by
  simp only [run, runBatch, readProposals, hr, hps]

end

/-- A judgement logs the one event that its verdict and the first broken rule allow, and the message
tells which of the three ways it ended. A batch logs these in order and then its counts, and a
command adds one event for each verdict. -/
theorem verdicts_logged :
    (∀ (p : Proposal) (entry : Entry), p.event.entry = entry ↔ p.Logs entry) ∧
    (∀ p : Proposal,
      (p.event.message = "transaction verified" ↔ p.verdict = .accepted) ∧
      (p.event.message = "transaction rejected: unknown intent" ↔ p.parsedIntent? = none) ∧
      (p.event.message = "transaction rejected" ↔
        p.verdict ≠ .accepted ∧ p.parsedIntent? ≠ none)) ∧
    (∀ ps : List Proposal, (Batch.events ps).map Event.entry =
      (ps.map fun p => p.event.entry) ++ [batchEntry ps]) ∧
    ∀ (files : Files) (settings : Settings) (path text : String), files.read path = .ok text →
      (∀ p, Proposal.ofJson text = .ok p →
        ((Command.verify path).run files settings).events.map Event.entry =
          [p.event.entry, p.verdict.entry 0]) ∧
      ∀ ps, Proposal.batchOfJson text = .ok ps →
        ((Command.batch path).run files settings).events.map Event.entry =
          (ps.map fun p => p.event.entry) ++ [batchEntry ps] ++
            ps.mapIdx fun i p => p.verdict.entry i := by
  refine ⟨fun p entry => Proposal.entry_eq_iff_logs, Proposal.message_event, Batch.map_entry_events,
    fun files settings path text hr => ⟨fun p hp => ?alone, fun ps hps => ?batch⟩⟩
  case alone =>
    rw [Command.run_verify_eq hr hp, map_entry_reportOn]
    rfl
  case batch =>
    rw [Command.run_batch_eq hr hps, map_entry_reportOn, Batch.map_entry_events]

/-- A proposal for each rule, that breaks it first, then a lawful one and an unknown intent. -/
def brokenInTurn : List Proposal :=
  let held : Record := ⟨.ofByte 50, .ofByte 51, 5, by decide, by decide⟩
  let empty : Record := ⟨.ofByte 50, .ofByte 51, 0, by decide, by decide⟩
  let foreign : Record := ⟨.ofByte 51, .ofByte 50, 5, by decide, by decide⟩
  let lessened : Record := ⟨.ofByte 50, .ofByte 50, 4, by decide, by decide⟩
  let moved : Record := ⟨.ofByte 50, .ofByte 50, 5, by decide, by decide⟩
  [⟨[held], [], "Issue", .empty⟩, ⟨[], [empty], "issue", .empty⟩, ⟨[], [held], "Issue", .empty⟩,
    ⟨[held], [foreign], "Move", .empty⟩, ⟨[held], [lessened], "Move", .empty⟩,
    ⟨[held], [held], "Move", .empty⟩, ⟨[held], [moved], "MOVE", .ofList [.ofByte 50]⟩,
    ⟨[held], [], "REDEEM", .ofList [.ofByte 50]⟩,
    ⟨[held], [], " redeem\n", .ofList [.ofByte 51, .ofByte 50]⟩, ⟨[held], [], "Burn", .empty⟩]

def brokenFiles : Files :=
  .ofList [("batch", .ok (Value.array (brokenInTurn.map Proposal.toJson)).compact)]

theorem verdicts_logged_in_turn :
    ((Command.batch "batch").run brokenFiles .builtIn).events.map Event.entry =
      [brokenEntry "Issue" "cardinality" "IssueMalformed",
        brokenEntry "Issue" "output quantity must be positive" "UnknownIntentOrInvalidQuantity",
        brokenEntry "Issue" "issuer must sign" "IssueMalformed",
        brokenEntry "Move" "issuer must be preserved" "MoveMalformed",
        brokenEntry "Move" "quantity must be preserved" "MoveMalformed",
        brokenEntry "Move" "holder must change" "MoveMalformed",
        brokenEntry "Move" "current holder must sign" "MoveMalformed",
        brokenEntry "Redeem" "holder must sign" "RedeemMalformed",
        (.trace, "transaction verified",
          [("intent", .string "Redeem"), ("inputs", .ofNat 1), ("outputs", .ofNat 0)]),
        (.debug, "transaction rejected: unknown intent",
          [("tag", .string "Burn"), ("reason", .string "UnknownIntentOrInvalidQuantity")]),
        (.info, "batch verified",
          [("total", .ofNat 10), ("accepted", .ofNat 1), ("rejected", .ofNat 9)]),
        rejectedEntry 0 "IssueMalformed", rejectedEntry 1 "UnknownIntentOrInvalidQuantity",
        rejectedEntry 2 "IssueMalformed", rejectedEntry 3 "MoveMalformed",
        rejectedEntry 4 "MoveMalformed", rejectedEntry 5 "MoveMalformed",
        rejectedEntry 6 "MoveMalformed", rejectedEntry 7 "RedeemMalformed",
        (.info, "proposal accepted", [("index", .ofNat 8)]),
        rejectedEntry 9 "UnknownIntentOrInvalidQuantity"] := by
  have hdecoded :
      Proposal.batchOfJson (Value.array (brokenInTurn.map Proposal.toJson)).compact =
        .ok brokenInTurn :=
    Proposal.batchOfJson_eq
      (List.forall₂_map_right_iff.mpr (List.forall₂_same.mpr fun p _ => p.writtenIn_toJson))
  obtain ⟨_, _, _, hrun⟩ := verdicts_logged
  rw [(hrun brokenFiles .builtIn "batch" _ rfl).2 _ hdecoded]
  rfl

end TokenLedger
