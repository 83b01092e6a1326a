import TokenLedger.Toml.Scalar

/-! # TOML expressions

The lines of a document: pairs of a key and a value, and the headers of tables. Arrays and inline
tables can be nested up to a fixed depth.
-/
namespace TokenLedger.Toml

/-- A key path has at least one part; the parts in front of the last one name tables. -/
structure Key where
  path : List String
  last : String

/-- Values nested in a value and parts of a key path stay below this number. -/
def nestingLimit : Nat := 80

def isBareKey (c : Char) : Bool := c.isAlphanum || c == '-' || c == '_'

def simpleKey : Reader String := fun s =>
  match s with
  | '"' :: s => (basicString s s).map fun r => (String.ofList r.1, r.2)
  | '\'' :: s => (literalString s).map fun r => (String.ofList r.1, r.2)
  | s =>
    match s.span isBareKey with
    | ([], _) => none
    | (cs, s) => some (String.ofList cs, s)

def keyParts : Nat → Reader (List String)
  | 0, _ => none
  | fuel + 1, s => do
    let (part, s) ← simpleKey (skipBlanks s)
    match skipBlanks s with
    | '.' :: s => do
      let (parts, s) ← keyParts fuel s
      some (part :: parts, s)
    | s => some ([part], s)

def key : Reader Key := fun s => do
  let (parts, s) ← keyParts (nestingLimit - 1) s
  let last ← parts.getLast?
  some (⟨parts.dropLast, last⟩, s)

/-- A table in the making. A table is `implicit` if it exists only because a path leads through it,
and `dotted` if that path is a key and not a header. -/
inductive Item
  | value (v : Value)
  | table (isImplicit dotted : Bool) (entries : List (String × Item))
  | tables (elements : List (List (String × Item)))

abbrev Entries := List (String × Item)

mutual

def Item.toValue : Item → Value
  | .value v => v
  | .table _ _ entries => .table (entryValues entries)
  | .tables elements => .tables (elementValues elements)
termination_by structural i => i

def entryValues : List (String × Item) → List (String × Value)
  | [] => []
  | (k, i) :: rest => (k, i.toValue) :: entryValues rest
termination_by structural i => i

def elementValues : List (List (String × Item)) → List Value
  | [] => []
  | entries :: rest => .table (entryValues entries) :: elementValues rest
termination_by structural i => i

end

def update (k : String) (f : Option Item → Option Item) : Entries → Option Entries
  | [] => do
    let i ← f none
    some [(k, i)]
  | (k', i) :: rest =>
    if k = k' then do
      let i ← f (some i)
      some ((k, i) :: rest)
    else do
      let rest ← update k f rest
      some ((k', i) :: rest)

def updateLast (f : Entries → Option Entries) : List Entries → Option (List Entries)
  | [] => none
  | [entries] => do
    let entries ← f entries
    some [entries]
  | entries :: rest => do
    let rest ← updateLast f rest
    some (entries :: rest)

/-- Follows a path of tables, which come into being where they are missing, and changes the table
at its end. A dotted path does not enter a table that was defined otherwise. `f` is told whether
the table at the end is a dotted one. -/
def descend (dotted : Bool) (f : Bool → Entries → Option Entries) :
    List String → Bool → Entries → Option Entries
  | [], here, entries => f here entries
  | k :: path, _, entries =>
    entries |> update k fun
      | none => (descend dotted f path dotted []).map (.table true dotted)
      | some (.value _) => none
      | some (.tables elements) =>
        (updateLast (descend dotted f path false) elements).map .tables
      | some (.table isImplicit isDotted inner) =>
        if dotted && !isImplicit then none
        else (descend dotted f path isDotted inner).map (.table isImplicit isDotted)

def insertPair (k : Key) (v : Value) (entries : Entries) : Option Entries :=
  let add (here : Bool) (inner : Entries) : Option Entries :=
    if here == k.path.isEmpty then none
    else inner |> update k.last fun
      | none => some (.value v)
      | some _ => none
  descend true add k.path false entries

def skipSpace : List Char → List Char → List Char
  | [], s => s
  | _ :: bound, s =>
    match skipBlankLines s with
    | '#' :: s =>
      match newLine? (skipComment ('#' :: s)) with
      | some s => skipSpace bound s
      | none => '#' :: s
    | s => s

def arrayItems (value : Reader Value) : List Char → Reader (List Value)
  | [], _ => none
  | _ :: bound, s =>
    match skipSpace s s with
    | ']' :: s => some ([], s)
    | s => do
      let (v, s) ← value s
      match skipSpace s s with
      | ',' :: s => do
        let (vs, s) ← arrayItems value bound s
        some (v :: vs, s)
      | ']' :: s => some ([v], s)
      | _ => none

def inlinePairs (value : Reader Value) : List Char → Entries → Reader Entries
  | [], _, _ => none
  | _ :: bound, entries, s => do
    let (k, s) ← key s
    match s with
    | '=' :: s => do
      let (v, s) ← value (skipBlanks s)
      let entries ← insertPair k v entries
      match skipBlanks s with
      | ',' :: s => inlinePairs value bound entries s
      | '\x7d' :: s => some (entries, s)
      | _ => none
    | _ => none

def value : Nat → Reader Value
  | 0, s => scalar s
  | room + 1, s =>
    match s with
    | '[' :: s => (arrayItems (value room) s s).map fun r => (.array r.1, r.2)
    | '\x7b' :: s =>
      match skipBlanks s with
      | '\x7d' :: s => some (.table [], s)
      | s => (inlinePairs (value room) s [] s).map fun r => (.table (entryValues r.1), r.2)
    | s => scalar s

inductive Expression
  | pair (key : Key) (value : Value)
  | table (key : Key)
  | tables (key : Key)

def endOfLine? (s : List Char) : Option (List Char) :=
  match skipComment (skipBlanks s) with
  | [] => some []
  | s => newLine? s

def expression : Reader Expression := fun s =>
  match s with
  | '[' :: '[' :: s => do
    let (k, s) ← key s
    match s with
    | ']' :: ']' :: s => some (.tables k, s)
    | _ => none
  | '[' :: s => do
    let (k, s) ← key s
    match s with
    | ']' :: s => some (.table k, s)
    | _ => none
  | s => do
    let (k, s) ← key s
    match s with
    | '=' :: s => do
      let (v, s) ← value (nestingLimit - 1) (skipBlanks s)
      some (.pair k v, s)
    | _ => none

end TokenLedger.Toml
