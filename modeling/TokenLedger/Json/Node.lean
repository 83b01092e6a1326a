import TokenLedger.Json.Token

/-! # JSON trees

The tree of a text. A text that breaks off or goes wrong has a tree as well: the tree goes as far as
the text can be followed and keeps the fault in its place. A reader who walks it in order therefore
meets faults of the text and misfits of its values in the order in which they are written.

The tree is built by a machine that takes one token at a time and keeps a frame for each array and
object around the present place.
-/
namespace TokenLedger.Json

inductive Break
  /-- The text ends. -/
  | missing
  | stray
  | word (atEnd : Bool)
  | number (atEnd : Bool)
  /-- A key is not followed by a colon; `atEnd` if the text ends there. -/
  | noColon (atEnd : Bool)
  deriving DecidableEq

inductive Ending
  | closed
  /-- The text ends behind the opening bracket or behind an element. -/
  | cut
  /-- An element is followed by neither a comma nor the closing bracket. -/
  | unseparated
  /-- A comma is followed by the closing bracket. -/
  | danglingComma
  /-- The text ends behind a comma. -/
  | cutAfterComma
  /-- Something other than a key stands where a key should. -/
  | noKey
  /-- The last element is broken, so that nothing behind it is known. -/
  | unreached
  deriving DecidableEq

inductive Node
  | null
  | bool (value : Bool)
  | number (value : NumberToken)
  | string (value : StringToken)
  | array (items : List Node) (ending : Ending)
  | object (members : List (StringToken × Node)) (ending : Ending)
  | broken (why : Break)

/-- An array or an object around the present place, with its elements so far, last one first. -/
inductive Frame
  | item (done : List Node)
  | member (done : List (StringToken × Node)) (key : StringToken)

inductive State
  | value (frames : List Frame)
  | firstItem (frames : List Frame)
  | afterItem (done : List Node) (frames : List Frame)
  | nextItem (done : List Node) (frames : List Frame)
  | firstKey (frames : List Frame)
  | colon (done : List (StringToken × Node)) (key : StringToken) (frames : List Frame)
  | afterMember (done : List (StringToken × Node)) (frames : List Frame)
  | nextKey (done : List (StringToken × Node)) (frames : List Frame)
  | complete (node : Node)
  /-- The text goes on behind a complete value. -/
  | trailing (node : Node)
  | failed (node : Node)

def unwind (node : Node) : List Frame → Node
  | [] => node
  | .item done :: frames => unwind (.array (node :: done).reverse .unreached) frames
  | .member done key :: frames =>
    unwind (.object ((key, node) :: done).reverse .unreached) frames

def close (node : Node) : List Frame → State
  | [] => .complete node
  | .item done :: frames => .afterItem (node :: done) frames
  | .member done key :: frames => .afterMember ((key, node) :: done) frames

def fail (node : Node) (frames : List Frame) : State := .failed (unwind node frames)

def beginValue (t : Token) (frames : List Frame) : State :=
  match t with
  | .null => close .null frames
  | .bool b => close (.bool b) frames
  | .number n => close (.number n) frames
  | .string s =>
    if s.ending = .closed then close (.string s) frames else fail (.string s) frames
  | .openArray => .firstItem frames
  | .openObject => .firstKey frames
  | .brokenNumber atEnd => fail (.broken (.number atEnd)) frames
  | .brokenWord atEnd => fail (.broken (.word atEnd)) frames
  | .closeArray | .closeObject | .comma | .colon | .stray => fail (.broken .stray) frames

def beginMember (done : List (StringToken × Node)) (key : StringToken) (frames : List Frame) :
    State :=
  if key.ending = .closed then .colon done key frames
  else fail (.broken .missing) (.member done key :: frames)

def State.step (state : State) (t : Token) : State :=
  match state, t with
  | .value frames, t => beginValue t frames
  | .firstItem frames, .closeArray => close (.array [] .closed) frames
  | .firstItem frames, t => beginValue t (.item [] :: frames)
  | .afterItem done frames, .comma => .nextItem done frames
  | .afterItem done frames, .closeArray => close (.array done.reverse .closed) frames
  | .afterItem done frames, _ => fail (.array done.reverse .unseparated) frames
  | .nextItem done frames, .closeArray => fail (.array done.reverse .danglingComma) frames
  | .nextItem done frames, t => beginValue t (.item done :: frames)
  | .firstKey frames, .closeObject => close (.object [] .closed) frames
  | .firstKey frames, .string key => beginMember [] key frames
  | .firstKey frames, _ => fail (.object [] .noKey) frames
  | .colon done key frames, .colon => .value (.member done key :: frames)
  | .colon done key frames, _ => fail (.broken (.noColon false)) (.member done key :: frames)
  | .afterMember done frames, .comma => .nextKey done frames
  | .afterMember done frames, .closeObject => close (.object done.reverse .closed) frames
  | .afterMember done frames, _ => fail (.object done.reverse .unseparated) frames
  | .nextKey done frames, .string key => beginMember done key frames
  | .nextKey done frames, .closeObject => fail (.object done.reverse .danglingComma) frames
  | .nextKey done frames, _ => fail (.object done.reverse .noKey) frames
  | .complete node, _ => .trailing node
  | .trailing node, _ => .trailing node
  | .failed node, _ => .failed node

def State.node : State → Node
  | .value frames => unwind (.broken .missing) frames
  | .firstItem frames => unwind (.array [] .cut) frames
  | .afterItem done frames => unwind (.array done.reverse .cut) frames
  | .nextItem done frames => unwind (.array done.reverse .cutAfterComma) frames
  | .firstKey frames => unwind (.object [] .cut) frames
  | .colon done key frames => unwind (.broken (.noColon true)) (.member done key :: frames)
  | .afterMember done frames => unwind (.object done.reverse .cut) frames
  | .nextKey done frames => unwind (.object done.reverse .cutAfterComma) frames
  | .complete node => node
  | .trailing node => node
  | .failed node => node

/-- A whole text: its tree, and whether something follows the value. -/
structure Document where
  node : Node
  trailing : Bool

def Document.ofTokens (tokens : List Token) : Document :=
  let state := tokens.foldl State.step (.value [])
  ⟨state.node, match state with | .trailing _ => true | _ => false⟩

def Document.ofText (text : String) : Document := .ofTokens (scan text.toList)

end TokenLedger.Json
