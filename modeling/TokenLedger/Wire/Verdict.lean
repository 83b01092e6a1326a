import TokenLedger.Json.Value
import TokenLedger.Verdict

/-! # Rejections and verdicts on the wire

A verdict is an object with a status and, if it is a rejection, a reason, in any order and among
any other members; or an array of the two. All of it is taken into memory before its meaning is
looked at, so it must not be nested too deeply.
-/
namespace TokenLedger

open Json

namespace Rejection

def toJson (r : Rejection) : Value := .string r.name

def variants : List (String × Rejection) := all.map fun r => (r.name, r)

def ofNode (n : Node) : Read Rejection := n.readVariant variants

def ofJson (text : String) : Read Rejection := readText ofNode text

def ofValue : Value → Read Rejection
  | .string name => chooseVariant variants name
  | .object [(name, v)] => do
    let reason ← chooseVariant variants name
    match v with
    | .null | .object [] => .ok reason
    | v => refuse (.wrongType v.found "unit")
  | .object _ => refuse (.wrongValue .map "map with a single key")
  | v => refuse (.wrongType v.found "string or map")

end Rejection

namespace Verdict

def toJson : Verdict → Value
  | .accepted => .object [("status", .string "accepted")]
  | .rejected reason => .object [("status", .string "rejected"), ("reason", reason.toJson)]

/-- What a verdict says before a reason is looked for. -/
inductive Status
  | accepted
  | rejected

def Status.ofNode (n : Node) : Read Status := do
  chooseVariant [("accepted", .accepted), ("rejected", .rejected)]
    (← n.readString "variant identifier")

def splitMembers (room : Nat) (status : Option Status) :
    List (StringToken × Node) → Read (Option Status × List (String × Value))
  | [] => .ok (status, [])
  | (key, n) :: rest => do
    let name ← liftText key.value
    if name = "status" then
      match status with
      | some _ => refuse (.duplicateField "status")
      | none => splitMembers room (some (← Status.ofNode n)) rest
    else
      let v ← n.readValue room
      let (status, others) ← splitMembers room status rest
      .ok (status, (name, v) :: others)

def findReason (found : Option Rejection) : List (String × Value) → Read Rejection
  | [] => required "reason" found
  | (name, v) :: rest =>
    if name = "reason" then
      match found with
      | some _ => refuse (.duplicateField "reason")
      | none => do findReason (some (← Rejection.ofValue v)) rest
    else findReason found rest

def ofMembers (status : Status) (others : List (String × Value)) : Read Verdict :=
  match status with
  | .accepted => .ok .accepted
  | .rejected => rejected <$> findReason none others

def ofItems (status : Status) (others : List Value) : Read Verdict :=
  match status, others with
  | .accepted, [] => .ok .accepted
  | .accepted, _ => refuse (.wrongLength others.length "0 elements in sequence")
  | .rejected, [] => refuse (.wrongLength 0 "struct variant Verdict::Rejected with 1 element")
  | .rejected, v :: rest => do
    let reason ← Rejection.ofValue v
    match rest with
    | [] => .ok (.rejected reason)
    | _ => refuse (.wrongLength (1 + rest.length) "1 element in sequence")

def ofNode (n : Node) : Read Verdict :=
  match n with
  | .object members ending => do
    let (status, others) ← splitMembers (depthLimit - 1) none members
    require ending.memberFault?
    ofMembers (← required "status" status) others
  | .array items ending => do
    match ← nextItem items ending with
    | none => refuse (.missingField "status")
    | some (n, rest) => do
      let status ← Status.ofNode n
      let others ← readValues (depthLimit - 1) rest
      require ending.itemFault?
      ofItems status others
  | n => n.refuse "internally tagged enum Verdict"

def ofJson (text : String) : Read Verdict := readText ofNode text

end Verdict

end TokenLedger
