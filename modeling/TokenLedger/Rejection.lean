/-! # Rejections

Why a proposal is turned down. A rejection is an ordinary outcome that goes back to the proposer.
-/
namespace TokenLedger

inductive Rejection
  | issueMalformed
  | moveMalformed
  | redeemMalformed
  | unknownIntentOrInvalidQuantity
  deriving DecidableEq

namespace Rejection

def all : List Rejection :=
  [.issueMalformed, .moveMalformed, .redeemMalformed, .unknownIntentOrInvalidQuantity]

def name : Rejection → String
  | .issueMalformed => "IssueMalformed"
  | .moveMalformed => "MoveMalformed"
  | .redeemMalformed => "RedeemMalformed"
  | .unknownIntentOrInvalidQuantity => "UnknownIntentOrInvalidQuantity"

def message : Rejection → String
  | .issueMalformed => "Malformed issue transaction"
  | .moveMalformed => "Malformed move transaction"
  | .redeemMalformed => "Malformed redeem transaction"
  | .unknownIntentOrInvalidQuantity => "Unknown intent or invalid output quantity"

theorem mem_all (r : Rejection) : r ∈ all := by cases r <;> decide

theorem name_injective {r s : Rejection} (h : r.name = s.name) : r = s := by
  revert h
  cases r <;> cases s <;> decide

end Rejection

end TokenLedger
