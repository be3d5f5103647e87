import ExclusiveAudio.Format.Sample
import ExclusiveAudio.Toml.Document

/-!
Records in documents: what the values of a document mean as fields of settings.

A record is a table whose unknown keys mean nothing, or a list that gives the fields in their
order. A field that is not given keeps its default, and one of the wrong kind spoils the record.
A moment has no fields, so as a record it is all defaults.
-/

namespace ExclusiveAudio.Toml

/-- A record: its fields by name, or by position. -/
inductive Record where
  | named (entries : Entries)
  | positional (items : List Value)

namespace Record

def ofValue? : Value → Option Record
  | .table _ entries => some (.named entries)
  | .list items => some (.positional items)
  | .tables items => some (.positional (items.map fun entries => .table .header entries))
  | .moment => some (.named [])
  | _ => none

/-- What is given for the field of a name and position. -/
def given? (r : Record) (name : String) (position : Nat) : Option Value :=
  match r with
  | named entries => entries.lookup name
  | positional items => items[position]?

/-- A field, read in a way of its own; the default if it is not given. -/
def field? {α : Type} (r : Record) (name : String) (position : Nat) (read : Value → Option α)
    (default : α) : Option α :=
  match r.given? name position with
  | none => some default
  | some value => read value

end Record

namespace Value

def text? : Value → Option String
  | text s => some s
  | _ => none

def boolean? : Value → Option Bool
  | boolean b => some b
  | _ => none

/-- A count below a limit. -/
def count? (limit : Nat) : Value → Option Nat
  | integer n => if 0 ≤ n ∧ n < limit then some n.toNat else none
  | _ => none

def word32? (v : Value) : Option UInt32 := (v.count? UInt32.size).map UInt32.ofNat

/-- A number; whole numbers are taken to the nearest one in double precision. -/
def number? : Value → Option Binary64
  | float x => some x
  | integer n => some (.ofInt n)
  | _ => none

def isEmpty : Value → Bool
  | list [] | table _ [] | tables [] => true
  | _ => false

/-- A sample format: its name, or a table in which the name alone has an empty value. -/
def sampleFormat? : Value → Option SampleFormat
  | text name => SampleFormat.ofName? name
  | table _ [(name, value)] => if value.isEmpty then SampleFormat.ofName? name else none
  | _ => none

end Value

end ExclusiveAudio.Toml
