import TokenLedger.Files
import TokenLedger.Text.Utf8

/-! # File trees

Files held in memory, seen from a working directory. Paths are followed name by name, and each
name but the last must be that of a directory.
-/
namespace TokenLedger.Files

inductive Entry
  | directory
  | file (content : ByteArray)

/-- Files and explicit directories by the names on the way to them from the root. -/
abbrev Entries := List (List String × Entry)

/-- What is known of the files of a system, and the working directory. -/
structure Tree where
  entries : Entries
  here : List String

namespace Tree

def names (path : String) : List String :=
  ((path.toList.splitOn '/').map String.ofList).filter fun n => n ≠ "" ∧ n ≠ "."

def below (here : List String) (files others : Entries) : Tree :=
  ⟨(here, .directory) :: files.map (fun e => (here ++ e.1, e.2)) ++ others, here⟩

def find? (t : Tree) (place : List String) : Option Entry :=
  match t.entries.lookup place with
  | some e => some e
  | none =>
    if place.isEmpty || t.entries.any fun e => place.isPrefixOf e.1 then some .directory else none

def enter (place : List String) (name : String) : List String :=
  if name = "." then place else if name = ".." then place.dropLast else place ++ [name]

/-- Follows the names of a path; a path that goes on behind a file leads nowhere. -/
def follow (t : Tree) (place : List String) : List String → Except Fault Entry
  | [] =>
    match t.find? place with
    | none => .error .notFound
    | some e => .ok e
  | name :: rest =>
    match t.find? place with
    | none => .error .notFound
    | some (.file _) => .error .notADirectory
    | some .directory =>
      if 255 < Text.utf8Size name.toList then .error .nameTooLong
      else follow t (enter place name) rest

/-- What a path leads to. A slash at its end asks for a directory. -/
def resolve (t : Tree) (path : String) : Except Fault Entry :=
  let names := (path.toList.splitOn '/').map String.ofList
  if path.toList.contains '\x00' then .error .nameWithNul
  else if path = "" then .error .notFound
  else if 4096 ≤ Text.utf8Size path.toList then .error .nameTooLong
  else
    let start := if path.toList.head? = some '/' then [] else t.here
    let asked := names.filter (· ≠ "")
    follow t start (if names.getLast? = some "" then asked ++ ["."] else asked)

def read (t : Tree) (path : String) : Except Fault String :=
  match t.resolve path with
  | .error fault => .error fault
  | .ok .directory => .error .isADirectory
  | .ok (.file content) =>
    match String.fromUTF8? content with
    | some text => .ok text
    | none => .error .notText

def files (t : Tree) : Files where
  present path := (t.resolve path).toOption.isSome
  read := t.read

end Tree

end TokenLedger.Files
