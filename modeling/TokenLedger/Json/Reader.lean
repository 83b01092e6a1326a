import TokenLedger.Json.Node
import TokenLedger.Json.Number

/-! # Reading JSON trees

Readers of strings, numbers, lists, objects and names, for values whose shape is known. A reader
takes the elements of a tree in the order of the text and stops at the first fault or misfit. What
it has no use for it skips, and what is skipped is held to less than what is read.
-/
namespace TokenLedger.Json

abbrev Read := Except Error

def raise {α : Type} (fault : Fault) : Read α := .error (.text fault)

def refuse {α : Type} (misfit : Misfit) : Read α := .error (.misfit misfit)

/-- The fault of a numeric escape that is the first half of a pair and the last element read. -/
def StringEnd.afterHalf : StringEnd → Fault
  | .unclosed => .endInString
  | .badHex => .invalidEscape
  | .closed | .badEscape | .control => .halfSurrogate

def StringEnd.fault? : StringEnd → Option Fault
  | .closed => none
  | .unclosed => some .endInString
  | .badEscape | .badHex => some .invalidEscape
  | .control => some .controlCharacter

def readUnits (ending : StringEnd) : List StringUnit → Except Fault (List Char)
  | [] => match ending.fault? with
    | none => .ok []
    | some fault => .error fault
  | .char c :: rest => (c :: ·) <$> readUnits ending rest
  | .code n :: rest =>
    if 0xDC00 ≤ n ∧ n ≤ 0xDFFF then .error .loneSurrogate
    else if 0xD800 ≤ n ∧ n ≤ 0xDBFF then
      match rest with
      | [] => .error ending.afterHalf
      | .char _ :: _ => .error .halfSurrogate
      | .code m :: rest =>
        if 0xDC00 ≤ m ∧ m ≤ 0xDFFF then
          (Char.ofNat (0x10000 + (n - 0xD800) * 0x400 + (m - 0xDC00)) :: ·) <$> readUnits ending rest
        else .error .loneSurrogate
    else (Char.ofNat n :: ·) <$> readUnits ending rest

def StringToken.value (s : StringToken) : Except Fault String :=
  String.ofList <$> readUnits s.ending s.units

def liftText {α : Type} (r : Except Fault α) : Read α := r.mapError .text

def Break.fault : Break → Fault
  | .missing => .endInValue
  | .stray => .expectedValue
  | .word atEnd => if atEnd then .endInValue else .expectedWord
  | .number atEnd => if atEnd then .endInValue else .invalidNumber
  | .noColon atEnd => if atEnd then .endInObject else .expectedColon

def Break.skipFault : Break → Fault
  | .number _ => .invalidNumber
  | b => b.fault

namespace Ending

def itemFault? : Ending → Option Fault
  | .closed | .unreached => none
  | .cut => some .endInList
  | .danglingComma => some .trailingComma
  | .cutAfterComma => some .endInValue
  | .unseparated | .noKey => some .expectedListEnd

def listFault? : Ending → Option Fault
  | .closed | .unreached => none
  | .cut => some .endInList
  | .danglingComma => some .trailingComma
  | .cutAfterComma | .unseparated | .noKey => some .trailingCharacters

def memberFault? : Ending → Option Fault
  | .closed | .unreached => none
  | .cut => some .endInObject
  | .danglingComma => some .trailingComma
  | .cutAfterComma => some .endInValue
  | .unseparated => some .expectedObjectEnd
  | .noKey => some .keyNotString

def skipListFault? : Ending → Option Fault
  | .danglingComma => some .expectedValue
  | e => e.itemFault?

def skipObjectFault? : Ending → Option Fault
  | .danglingComma => some .keyNotString
  | .cutAfterComma => some .endInObject
  | e => e.memberFault?

end Ending

def require : Option Fault → Read Unit
  | none => .ok ()
  | some fault => raise fault

mutual

def Node.skip : Node → Read Unit
  | .null | .bool _ | .number _ => .ok ()
  | .string s => require s.ending.fault?
  | .array items ending => do skipItems items; require ending.skipListFault?
  | .object members ending => do skipMembers members; require ending.skipObjectFault?
  | .broken why => raise why.skipFault
termination_by structural n => n

def skipItems : List Node → Read Unit
  | [] => .ok ()
  | n :: rest => do n.skip; skipItems rest
termination_by structural n => n

def skipMembers : List (StringToken × Node) → Read Unit
  | [] => .ok ()
  | (key, n) :: rest => do require key.ending.fault?; n.skip; skipMembers rest
termination_by structural n => n

end

/-- Refuses a value of a type that is not expected. A value that cannot be read is a fault of the
text instead. -/
def Node.refuse {α : Type} (n : Node) (expected : String) : Read α :=
  match n with
  | .null => Json.refuse (.wrongType .null expected)
  | .bool b => Json.refuse (.wrongType (.bool b) expected)
  | .number t => do Json.refuse (.wrongType (← liftText t.value).found expected)
  | .string s => do Json.refuse (.wrongType (.string (← liftText s.value)) expected)
  | .array .. => Json.refuse (.wrongType .sequence expected)
  | .object .. => Json.refuse (.wrongType .map expected)
  | .broken why => raise why.fault

def Node.readString (expected : String) : Node → Read String
  | .string s => liftText s.value
  | n => n.refuse expected

def Node.readBool : Node → Read Bool
  | .bool b => .ok b
  | n => n.refuse "a boolean"

def Node.readUnit : Node → Read Unit
  | .null => .ok ()
  | n => n.refuse "unit"

def Node.readInteger (low high : Int) (expected : String) : Node → Read Int
  | .number t => do
    match ← liftText t.value with
    | .integer n =>
      if low ≤ n ∧ n ≤ high then .ok n
      else Json.refuse (.wrongValue (.integer n) expected)
    | x => Json.refuse (.wrongType x.found expected)
  | n => n.refuse expected

def Node.readOptional {α : Type} (read : Node → Read α) : Node → Read (Option α)
  | .null => .ok none
  | n => some <$> read n

def Node.readList {α : Type} (read : Node → Read α) : Node → Read (List α)
  | .array items ending => do
    let values ← items.mapM read
    require ending.itemFault?
    .ok values
  | n => n.refuse "a sequence"

/-- The members of an object, in order. `field` says how a draft takes the value of a key; the
value of a key that it does not know is skipped. -/
def readMembers {σ : Type} (field : σ → String → Option (Node → Read σ)) :
    σ → List (StringToken × Node) → Read σ
  | draft, [] => .ok draft
  | draft, (key, value) :: rest => do
    let name ← liftText key.value
    match field draft name with
    | some read => readMembers field (← read value) rest
    | none => do
      value.skip
      readMembers field draft rest

def readObject {σ : Type} (field : σ → String → Option (Node → Read σ)) (draft : σ)
    (members : List (StringToken × Node)) (ending : Ending) : Read σ := do
  let filled ← readMembers field draft members
  require ending.memberFault?
  .ok filled

def once {σ α : Type} (name : String) (old : Option α) (read : Node → Read α) (set : α → σ)
    (value : Node) : Read σ :=
  match old with
  | some _ => refuse (.duplicateField name)
  | none => set <$> read value

def required {α : Type} (name : String) : Option α → Read α
  | some value => .ok value
  | none => refuse (.missingField name)

def nextItem (items : List Node) (ending : Ending) : Read (Option (Node × List Node)) :=
  match items with
  | n :: rest => .ok (some (n, rest))
  | [] => do
    require ending.itemFault?
    .ok none

def readItem {α : Type} (position : Nat) (shape : String) (read : Node → Read α)
    (items : List Node) (ending : Ending) : Read (α × List Node) := do
  match ← nextItem items ending with
  | some (n, rest) => .ok (← read n, rest)
  | none => refuse (.wrongLength position shape)

def readItemOr {α : Type} (default : α) (read : Node → Read α) (items : List Node)
    (ending : Ending) : Read (α × List Node) := do
  match ← nextItem items ending with
  | some (n, rest) => .ok (← read n, rest)
  | none => .ok (default, [])

def endOfItems (items : List Node) (ending : Ending) : Read Unit :=
  match items with
  | [] => require ending.listFault?
  | _ :: _ => raise .trailingCharacters

def chooseVariant {α : Type} (variants : List (String × α)) (name : String) : Read α :=
  match variants.lookup name with
  | some value => .ok value
  | none => refuse (.unknownVariant name (variants.map (·.1)))

/-- One of several names, or an object with the name as its only key and nothing as its value. -/
def Node.readVariant {α : Type} (variants : List (String × α)) : Node → Read α
  | .string s => do chooseVariant variants (← liftText s.value)
  | .object ((key, value) :: rest) ending => do
    let choice ← chooseVariant variants (← liftText key.value)
    value.readUnit
    match rest, ending with
    | [], .closed => .ok choice
    | [], .cut => raise .endInObject
    | _, _ => raise .expectedValue
  | .object [] .closed => raise .expectedValue
  | .object [] .cut => raise .endInObject
  | .object [] _ => raise .keyNotString
  | .broken .missing => raise .endInValue
  | _ => raise .expectedValue

def readText {α : Type} (read : Node → Read α) (text : String) : Read α := do
  let document := Document.ofText text
  let value ← read document.node
  if document.trailing then raise .trailingCharacters else .ok value

end TokenLedger.Json
