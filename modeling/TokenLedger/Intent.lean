import TokenLedger.Rejection
import TokenLedger.Text.Blank
import TokenLedger.Text.LetterCase

/-! # Intents

What a transaction claims to do. The intent selects the rules that apply and carries nothing else.
-/
namespace TokenLedger

/-- Create a unit, hand it on, or extinguish it. -/
inductive Intent
  | issue
  | move
  | redeem
  deriving DecidableEq

namespace Intent

def all : List Intent := [.issue, .move, .redeem]

def tag : Intent → String
  | .issue => "Issue"
  | .move => "Move"
  | .redeem => "Redeem"

/-- How many records the transaction consumes and how many it produces. -/
def cardinality : Intent → Nat × Nat
  | .issue => (0, 1)
  | .move => (1, 1)
  | .redeem => (1, 0)

def malformed : Intent → Rejection
  | .issue => .issueMalformed
  | .move => .moveMalformed
  | .redeem => .redeemMalformed

def ofText? (text : String) : Option Intent :=
  all.find? fun i => Text.equalsIgnoringCase i.tag.toList (Text.trim text.toList)

theorem mem_all (i : Intent) : i ∈ all := by cases i <;> decide

theorem ofText?_tag (i : Intent) : ofText? i.tag = some i := by cases i <;> decide

end Intent

end TokenLedger
