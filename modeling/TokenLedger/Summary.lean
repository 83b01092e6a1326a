import TokenLedger.Verdict

/-! # Summaries

How many verdicts there were, how many of them were acceptances, and how often each reason of
rejection occurred. A reason may be listed with the count zero, which differs from not being
listed.
-/
namespace TokenLedger

structure ReasonCounts where
  issueMalformed : Option Nat
  moveMalformed : Option Nat
  redeemMalformed : Option Nat
  unknownIntentOrInvalidQuantity : Option Nat
  deriving DecidableEq

namespace ReasonCounts

def empty : ReasonCounts := ⟨none, none, none, none⟩

def get? (c : ReasonCounts) : Rejection → Option Nat
  | .issueMalformed => c.issueMalformed
  | .moveMalformed => c.moveMalformed
  | .redeemMalformed => c.redeemMalformed
  | .unknownIntentOrInvalidQuantity => c.unknownIntentOrInvalidQuantity

def set (c : ReasonCounts) (reason : Rejection) (count : Nat) : ReasonCounts :=
  match reason with
  | .issueMalformed => ⟨some count, c.moveMalformed, c.redeemMalformed, c.unknownIntentOrInvalidQuantity⟩
  | .moveMalformed => ⟨c.issueMalformed, some count, c.redeemMalformed, c.unknownIntentOrInvalidQuantity⟩
  | .redeemMalformed => ⟨c.issueMalformed, c.moveMalformed, some count, c.unknownIntentOrInvalidQuantity⟩
  | .unknownIntentOrInvalidQuantity => ⟨c.issueMalformed, c.moveMalformed, c.redeemMalformed, some count⟩

def toList (c : ReasonCounts) : List (Rejection × Nat) :=
  Rejection.all.filterMap fun reason => (c.get? reason).map (reason, ·)

def count (c : ReasonCounts) (reason : Rejection) : Nat := (c.get? reason).getD 0

def total (c : ReasonCounts) : Nat :=
  c.count .issueMalformed + c.count .moveMalformed + c.count .redeemMalformed +
    c.count .unknownIntentOrInvalidQuantity

theorem get?_set (c : ReasonCounts) (reason other : Rejection) (count : Nat) :
    (c.set reason count).get? other = if other = reason then some count else c.get? other := by
  cases reason <;> cases other <;> rfl

theorem ext_get? {c d : ReasonCounts} (h : ∀ reason, c.get? reason = d.get? reason) : c = d := by
  obtain ⟨a₁, a₂, a₃, a₄⟩ := c
  obtain ⟨b₁, b₂, b₃, b₄⟩ := d
  simp only [mk.injEq]
  exact ⟨h .issueMalformed, h .moveMalformed, h .redeemMalformed, h .unknownIntentOrInvalidQuantity⟩

end ReasonCounts

structure Summary where
  total : Nat
  accepted : Nat
  rejected : ReasonCounts
  deriving DecidableEq

namespace Summary

def empty : Summary := ⟨0, 0, .empty⟩

def record (s : Summary) (verdict : Verdict) : Summary :=
  match verdict with
  | .accepted => ⟨s.total + 1, s.accepted + 1, s.rejected⟩
  | .rejected reason =>
    ⟨s.total + 1, s.accepted, s.rejected.set reason (s.rejected.count reason + 1)⟩

def recordAll (s : Summary) (verdicts : List Verdict) : Summary := verdicts.foldl record s

def ofVerdicts (verdicts : List Verdict) : Summary := empty.recordAll verdicts

def rejectedCount (s : Summary) : Nat := s.rejected.total

def allAccepted (s : Summary) : Bool := s.accepted == s.total

end Summary

end TokenLedger
