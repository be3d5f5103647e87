import ExclusiveAudio.Json.Number
import ExclusiveAudio.Text.Numeral

/-!
JSON documents as trees.

Only what a reader of records needs is kept: numbers as they are written and the entries of
objects in order. The texts of values are checked and not kept. A text may name half of a
surrogate pair, which stands for no character; a key that does is no text.
-/

namespace ExclusiveAudio.Json

inductive Tree where
  | number (n : Number)
  | list (items : List Tree)
  /-- Entries in order; a key that is no text is `none`. -/
  | object (entries : List (Option String × Tree))
  /-- A text, a truth value, or nothing. -/
  | other

def isBlank (c : Char) : Bool := c = ' ' || c = '\n' || c = '\t' || c = '\r'

def skipBlank (cs : List Char) : List Char := cs.dropWhile isBlank

/-- The code that four hexadecimal digits at the start stand for. -/
def code? : List Char → Option (Nat × List Char)
  | a :: b :: c :: d :: rest =>
    (Numeral.value? Numeral.hexDigit? 16 [a, b, c, d]).map (·, rest)
  | _ => none

/-- A part of a text: a character, or half of a surrogate pair that stands alone. -/
inductive Unit16 where
  | char (c : Char)
  | surrogate
  deriving DecidableEq

/-- The rest of an escape whose first code is known. A first half of a pair has to be followed
by the second half. -/
def pair? (code : Nat) (rest : List Char) : Unit16 × List Char :=
  if code < 0xd800 ∨ 0xe000 ≤ code then (.char (Char.ofNat code), rest)
  else if 0xdc00 ≤ code then (.surrogate, rest)
  else
    match rest with
    | '\\' :: 'u' :: rest' =>
      match code? rest' with
      | some (low, rest') =>
        if 0xdc00 ≤ low ∧ low < 0xe000 then
          (.char (Char.ofNat (0x10000 + (code - 0xd800) * 0x400 + (low - 0xdc00))), rest')
        else (.surrogate, rest)
      | none => (.surrogate, rest)
    | _ => (.surrogate, rest)

/-- The part that an escape stands for, given what follows the backslash. -/
def escaped? : List Char → Option (Unit16 × List Char)
  | '"' :: rest => some (.char '"', rest)
  | '\\' :: rest => some (.char '\\', rest)
  | '/' :: rest => some (.char '/', rest)
  | 'b' :: rest => some (.char '\x08', rest)
  | 'f' :: rest => some (.char '\x0c', rest)
  | 'n' :: rest => some (.char '\n', rest)
  | 'r' :: rest => some (.char '\r', rest)
  | 't' :: rest => some (.char '\t', rest)
  | 'u' :: rest => (code? rest).map fun (code, rest) => pair? code rest
  | _ => none

/-- Reads the parts of a text up to its closing quote, given a bound on their number. -/
def parts? : Nat → List Char → Option (List Unit16 × List Char)
  | 0, _ => none
  | _ + 1, [] => none
  | _ + 1, '"' :: rest => some ([], rest)
  | fuel + 1, '\\' :: rest => do
    let (part, rest) ← escaped? rest
    let (parts, rest) ← parts? fuel rest
    return (part :: parts, rest)
  | fuel + 1, c :: rest =>
    if c < ' ' then none
    else do
      let (parts, rest) ← parts? fuel rest
      return (.char c :: parts, rest)

/-- The text that parts make up, if all of them are characters. -/
def textOf? (parts : List Unit16) : Option String :=
  let chars := parts.mapM fun
    | .char c => some c
    | .surrogate => none
  chars.map String.ofList

/-- Reads a fixed word. -/
def word? (word : String) (cs : List Char) : Option (Tree × List Char) :=
  if word.toList.isPrefixOf cs then some (.other, cs.drop word.length) else none

mutual

/-- Reads a value, given a bound on the readers called. -/
def value? : Nat → List Char → Option (Tree × List Char)
  | 0, _ => none
  | fuel + 1, cs =>
    match skipBlank cs with
    | '\x7b' :: rest =>
      match skipBlank rest with
      | '\x7d' :: rest => some (.object [], rest)
      | rest => do
        let (entries, rest) ← entries? fuel rest
        return (.object entries, rest)
    | '[' :: rest =>
      match skipBlank rest with
      | ']' :: rest => some (.list [], rest)
      | rest => do
        let (items, rest) ← items? fuel rest
        return (.list items, rest)
    | '"' :: rest => (parts? (rest.length + 1) rest).map fun (_, rest) => (.other, rest)
    | 't' :: rest => word? "rue" rest
    | 'f' :: rest => word? "alse" rest
    | 'n' :: rest => word? "ull" rest
    | cs => (Number.read? cs).map fun (n, rest) => (.number n, rest)

/-- Reads the values of a list up to its bracket. -/
def items? : Nat → List Char → Option (List Tree × List Char)
  | 0, _ => none
  | fuel + 1, cs => do
    let (item, rest) ← value? fuel cs
    match skipBlank rest with
    | ',' :: rest => do
      let (items, rest) ← items? fuel rest
      return (item :: items, rest)
    | ']' :: rest => return ([item], rest)
    | _ => none

/-- Reads the entries of an object up to its brace. -/
def entries? : Nat → List Char → Option (List (Option String × Tree) × List Char)
  | 0, _ => none
  | fuel + 1, cs =>
    match skipBlank cs with
    | '"' :: rest => do
      let (parts, rest) ← parts? (rest.length + 1) rest
      match skipBlank rest with
      | ':' :: rest => do
        let key := textOf? parts
        let (value, rest) ← value? fuel rest
        match skipBlank rest with
        | ',' :: rest => do
          let (entries, rest) ← entries? fuel rest
          return ((key, value) :: entries, rest)
        | '\x7d' :: rest => return ([(key, value)], rest)
        | _ => none
      | _ => none
    | _ => none

end

/-- Reads a document, which is one value and nothing else. -/
def document? (text : String) : Option Tree := do
  let cs := text.toList
  let (tree, rest) ← value? (2 * cs.length + 2) cs
  if (skipBlank rest).isEmpty then return tree else none

end ExclusiveAudio.Json
