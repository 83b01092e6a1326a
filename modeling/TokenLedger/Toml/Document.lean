import TokenLedger.Toml.Expression

/-! # TOML documents

A document is read line by line into a tree of tables. A header opens the table to which the pairs
after it belong; no table and no key is defined twice.
-/
namespace TokenLedger.Toml

/-- A document as far as it has been read: its tables, and the path of the open one. -/
structure Draft where
  root : Entries
  opened : List String

/-- Opens a table by its header. Only a table that so far was no more than a part of headers' paths
may exist already; it moves to the end. -/
def openTable (k : Key) (root : Entries) : Option Entries :=
  let add (_ : Bool) (inner : Entries) : Option Entries :=
    match inner.lookup k.last with
    | none => some (inner ++ [(k.last, .table false false [])])
    | some (.table true false entries) =>
      some (inner.filter (·.1 ≠ k.last) ++ [(k.last, .table false false entries)])
    | some _ => none
  descend false add k.path false root

def openNext (k : Key) (root : Entries) : Option Entries :=
  let add (_ : Bool) (inner : Entries) : Option Entries :=
    inner |> update k.last fun
      | none => some (.tables [[]])
      | some (.tables elements) => some (.tables (elements ++ [[]]))
      | some _ => none
  descend false add k.path false root

def Draft.add (d : Draft) (e : Expression) : Option Draft :=
  match e with
  | .pair k v => do
    let root ← descend false (fun _ => insertPair k v) d.opened false d.root
    some ⟨root, d.opened⟩
  | .table k => do
    let root ← openTable k d.root
    some ⟨root, k.path ++ [k.last]⟩
  | .tables k => do
    let root ← openNext k d.root
    some ⟨root, k.path ++ [k.last]⟩

def readLines : Nat → Draft → List Char → Option Draft
  | 0, _, _ => none
  | fuel + 1, d, s =>
    match skipBlanks s with
    | [] => some d
    | s =>
      match endOfLine? s with
      | some s => readLines fuel d s
      | none => do
        let (e, s) ← expression s
        let s ← endOfLine? s
        let d ← d.add e
        readLines fuel d s

/-- The entries of a whole document, or nothing if the text is not TOML. A byte order mark in front
of it does not count. -/
def parse (text : String) : Option (List (String × Value)) :=
  let s := match text.toList with
    | '\uFEFF' :: s => s
    | s => s
  (readLines (s.length + 1) ⟨[], []⟩ s).map fun d => entryValues d.root

end TokenLedger.Toml
