import TokenLedger.Intent

/-! # Rules

The rules that a transaction can break. All but one are rules of its intent, so that breaking them
makes it malformed.
-/
namespace TokenLedger

inductive Rule
  /-- The numbers of inputs and outputs are those of the intent. -/
  | cardinality
  /-- Every output holds a positive quantity. -/
  | outputPositive
  | issuerSigns
  | issuerPreserved
  | quantityPreserved
  | holderChanges
  | currentHolderSigns
  | holderSigns
  deriving DecidableEq

namespace Rule

def name : Rule → String
  | .cardinality => "cardinality"
  | .outputPositive => "output quantity must be positive"
  | .issuerSigns => "issuer must sign"
  | .issuerPreserved => "issuer must be preserved"
  | .quantityPreserved => "quantity must be preserved"
  | .holderChanges => "holder must change"
  | .currentHolderSigns => "current holder must sign"
  | .holderSigns => "holder must sign"

/-- The rejection that breaking the rule earns a transaction of the given intent. -/
def rejection (rule : Rule) (intent : Intent) : Rejection :=
  match rule with
  | .outputPositive => .unknownIntentOrInvalidQuantity
  | _ => intent.malformed

theorem rejection_eq_malformed {rule : Rule} {intent : Intent} (h : rule ≠ .outputPositive) :
    rule.rejection intent = intent.malformed := by
  cases rule with
  | outputPositive => exact absurd rfl h
  | _ => rfl

end Rule

end TokenLedger
