import TokenLedger.Json.Reader

/-! # JSON values

Values of any shape, their compact and their indented text, and the reader that takes any value
into memory as long as it is not nested too deeply.
-/
namespace TokenLedger.Json

/-- The members of an object keep their order, and a key may occur more than once. -/
inductive Value
  | null
  | bool (value : Bool)
  | number (value : Number)
  | string (value : String)
  | array (items : List Value)
  | object (members : List (String × Value))

namespace Value

def ofNat (n : Nat) : Value := .number (.integer n)

def ofInt (n : Int) : Value := .number (.integer n)

def found : Value → Found
  | .null => .null
  | .bool b => .bool b
  | .number n => n.found
  | .string s => .string s
  | .array _ => .sequence
  | .object _ => .map

end Value

/-- The characters that stand for `c` in a string. Only the quote, the backslash and the control
characters are escaped. -/
def escaped (c : Char) : List Char :=
  if c == '"' then ['\\', '"']
  else if c == '\\' then ['\\', '\\']
  else if c == '\x08' then ['\\', 'b']
  else if c == '\x0c' then ['\\', 'f']
  else if c == '\n' then ['\\', 'n']
  else if c == '\r' then ['\\', 'r']
  else if c == '\t' then ['\\', 't']
  else if c.toNat < 0x20 then
    ['\\', 'u', '0', '0', Nat.digitChar (c.toNat / 16), Nat.digitChar (c.toNat % 16)]
  else [c]

def quoted (s : String) : List Char := '"' :: s.toList.flatMap escaped ++ ['"']

def joined (separator : List Char) : List (List Char) → List Char
  | [] => []
  | [s] => s
  | s :: rest => s ++ separator ++ joined separator rest

mutual

def Value.compactChars : Value → List Char
  | .null => "null".toList
  | .bool b => (if b then "true" else "false").toList
  | .number n => n.display.toList
  | .string s => quoted s
  | .array items => '[' :: joined [','] (compactItems items) ++ [']']
  | .object members => '\x7b' :: joined [','] (compactMembers members) ++ ['\x7d']
termination_by structural v => v

def compactItems : List Value → List (List Char)
  | [] => []
  | v :: rest => v.compactChars :: compactItems rest
termination_by structural v => v

def compactMembers : List (String × Value) → List (List Char)
  | [] => []
  | (key, v) :: rest => (quoted key ++ ':' :: v.compactChars) :: compactMembers rest
termination_by structural v => v

end

def Value.compact (v : Value) : String := String.ofList v.compactChars

def newLine (depth : Nat) : List Char := '\n' :: List.replicate (2 * depth) ' '

def block (opening closing : Char) (depth : Nat) (elements : List (List Char)) : List Char :=
  if elements.isEmpty then [opening, closing]
  else opening :: newLine (depth + 1) ++ joined (',' :: newLine (depth + 1)) elements ++
    newLine depth ++ [closing]

def placeMember (key : String) (v : Value) : List (String × Value) → List (String × Value)
  | [] => [(key, v)]
  | (k, w) :: rest =>
    if key < k then (key, v) :: (k, w) :: rest
    else if key = k then (key, v) :: rest
    else (k, w) :: placeMember key v rest

mutual

/-- The value with the members of every object in order of their keys. Of members with the same key
the last one stays. -/
def Value.sorted : Value → Value
  | .array items => .array (sortedItems items)
  | .object members => .object (sortedMembers [] members)
  | v => v
termination_by structural v => v

def sortedItems : List Value → List Value
  | [] => []
  | v :: rest => v.sorted :: sortedItems rest
termination_by structural v => v

def sortedMembers (done : List (String × Value)) : List (String × Value) → List (String × Value)
  | [] => done
  | (key, v) :: rest => sortedMembers (placeMember key v.sorted done) rest
termination_by structural v => v

end

mutual

def Value.prettyChars (depth : Nat) : Value → List Char
  | .array items => block '[' ']' depth (prettyItems (depth + 1) items)
  | .object members => block '\x7b' '\x7d' depth (prettyMembers (depth + 1) members)
  | v => v.compactChars
termination_by structural v => v

def prettyItems (depth : Nat) : List Value → List (List Char)
  | [] => []
  | v :: rest => v.prettyChars depth :: prettyItems depth rest
termination_by structural v => v

def prettyMembers (depth : Nat) : List (String × Value) → List (List Char)
  | [] => []
  | (key, v) :: rest => (quoted key ++ ':' :: ' ' :: v.prettyChars depth) :: prettyMembers depth rest
termination_by structural v => v

end

def Value.pretty (v : Value) : String := String.ofList (v.sorted.prettyChars 0)

/-- How many arrays and objects may be nested in a value that is taken into memory. -/
def depthLimit : Nat := 127

mutual

def Node.readValue (room : Nat) : Node → Read Value
  | .null => .ok .null
  | .bool b => .ok (.bool b)
  | .number t => Value.number <$> liftText t.value
  | .string s => Value.string <$> liftText s.value
  | .array items ending =>
    match room with
    | 0 => raise .tooDeep
    | room + 1 => do
      let values ← readValues room items
      require ending.itemFault?
      .ok (.array values)
  | .object members ending =>
    match room with
    | 0 => raise .tooDeep
    | room + 1 => do
      let values ← readMemberValues room members
      require ending.memberFault?
      .ok (.object values)
  | .broken why => raise why.fault
termination_by structural n => n

def readValues (room : Nat) : List Node → Read (List Value)
  | [] => .ok []
  | n :: rest => do
    let v ← n.readValue room
    let values ← readValues room rest
    .ok (v :: values)
termination_by structural n => n

def readMemberValues (room : Nat) : List (StringToken × Node) → Read (List (String × Value))
  | [] => .ok []
  | (key, n) :: rest => do
    let name ← liftText key.value
    let v ← n.readValue room
    let values ← readMemberValues room rest
    .ok ((name, v) :: values)
termination_by structural n => n

end

end TokenLedger.Json
