import ExclusiveAudio.Numeric.Binary64

/-!
Values of TOML documents, and the rules by which keys add up to tables.

A table remembers how it came to be, because that decides what may still be added to it: a table
written in braces is closed, one that a header named can be named by no second header, and one
that dotted keys made takes further dotted keys only.
-/

namespace ExclusiveAudio.Toml

/-- How a table came to be. -/
inductive TableKind where
  /-- Written in braces. -/
  | inline
  /-- Named by a header, or the top of the document. -/
  | header
  /-- On the way of a header to a deeper table. -/
  | implied
  /-- On the way of a dotted key. -/
  | dotted
  deriving DecidableEq

inductive Value where
  | text (s : String)
  | integer (n : Int)
  | float (x : Binary64)
  | boolean (b : Bool)
  /-- A date, a time or both. -/
  | moment
  | list (items : List Value)
  | table (kind : TableKind) (entries : List (String × Value))
  /-- The tables that double-bracketed headers of one name have made, in order. -/
  | tables (items : List (List (String × Value)))

abbrev Entries := List (String × Value)

namespace Entries

/-- Changes the value of a key that is present. -/
def replace (key : String) (value : Value) : Entries → Entries
  | [] => []
  | entry :: rest =>
    if entry.1 = key then (key, value) :: rest else entry :: replace key value rest

/-- Adds a key that is not there yet. -/
def insertNew? (key : String) (value : Value) (entries : Entries) : Option Entries :=
  match entries.lookup key with
  | none => some (entries ++ [(key, value)])
  | some _ => none

/-- Goes down a path of keys to a table, making those that are missing, and changes the table
there. Dotted keys do not pass through a table that a header has named, and nothing passes
through a closed one. In an array of tables the way leads into the last. -/
def descend (isDotted : Bool) (change : TableKind → Entries → Option Entries) :
    List String → TableKind → Entries → Option Entries
  | [], kind, entries => change kind entries
  | key :: path, _, entries =>
    match entries.lookup key with
    | none => do
      let kind := if isDotted then TableKind.dotted else .implied
      let made ← descend isDotted change path kind []
      return entries ++ [(key, .table kind made)]
    | some (.table .inline _) => none
    | some (.table kind inner) =>
      if isDotted && kind = .header then none
      else do
        let changed ← descend isDotted change path kind inner
        return replace key (.table kind changed) entries
    | some (.tables items) => do
      let last ← items.getLast?
      let changed ← descend isDotted change path .header last
      return replace key (.tables (items.dropLast ++ [changed])) entries
    | some _ => none

/-- Sets a dotted key, given as the path before its last part and that part, in a table. -/
def setKey? (path : List String) (key : String) (value : Value) (kind : TableKind)
    (entries : Entries) : Option Entries :=
  descend true (fun found inner =>
    if !path.isEmpty && found ≠ .dotted then none else inner.insertNew? key value) path kind entries

/-- Opens the table that a header names. -/
def openTable? (path : List String) (key : String) (entries : Entries) : Option Entries :=
  descend false (fun _ inner =>
    match inner.lookup key with
    | none => some (inner ++ [(key, .table .header [])])
    | some (.table .implied known) => some (replace key (.table .header known) inner)
    | some _ => none) path .header entries

/-- Opens a further table under the name of a double-bracketed header. -/
def openElement? (path : List String) (key : String) (entries : Entries) : Option Entries :=
  descend false (fun _ inner =>
    match inner.lookup key with
    | none => some (inner ++ [(key, .tables [[]])])
    | some (.tables items) => some (replace key (.tables (items ++ [[]])) inner)
    | some _ => none) path .header entries

end Entries

end ExclusiveAudio.Toml
