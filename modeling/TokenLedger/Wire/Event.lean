import TokenLedger.Event
import TokenLedger.Json.Value

/-! # Events on the wire

The fields that accompany the message of an event, and its line in a log. Numbers are numbers; all
else is text.
-/
namespace TokenLedger

open Json

def Event.fields : Event → List (String × Value)
  | .verified intent inputs outputs =>
    [("intent", .string intent.tag), ("inputs", .ofNat inputs), ("outputs", .ofNat outputs)]
  | .ruleBroken intent rule reason =>
    [("intent", .string intent.tag), ("rule", .string rule.name), ("reason", .string reason.name)]
  | .unknownIntent tag reason => [("tag", .string tag), ("reason", .string reason.name)]
  | .batchVerified total accepted rejected =>
    [("total", .ofNat total), ("accepted", .ofNat accepted), ("rejected", .ofNat rejected)]
  | .proposalAccepted index => [("index", .ofNat index)]
  | .proposalRejected index reason => [("index", .ofNat index), ("reason", .string reason.name)]

def Event.line (e : Event) : String :=
  e.fields.foldl (fun text field => text ++ " " ++ field.1 ++ "=" ++ field.2.compact)
    (e.level.name.toUpper ++ " " ++ e.message)

end TokenLedger
