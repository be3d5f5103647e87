import ExclusiveAudio.Toml.Quoted
import ExclusiveAudio.Toml.Scalar

/-!
Reading TOML documents.

A document is a sequence of lines. Each sets a key of the table that the last header has opened,
or is a header itself. Values nest in brackets and braces, and keys in dots, to less than
`nestingLimit` levels.
-/

namespace ExclusiveAudio.Toml

def nestingLimit : Nat := 80

/-- The characters after a comment, if there is one. -/
def skipComment : List Char → List Char
  | '#' :: rest => rest.dropWhile isTextChar
  | cs => cs

/-- The rest of a line after all that matters on it: spaces, a comment, and the line break or the
end of the document. -/
def lineEnd? (cs : List Char) : Option (List Char) :=
  match skipComment (skipSpaces cs) with
  | [] => some []
  | cs => lineBreak? cs

/-- Skips blank space, line breaks and comments, given a bound on their number. A comment has to
end with its line. -/
def skipTrivia? : Nat → List Char → Option (List Char)
  | 0, cs => some cs
  | fuel + 1, cs =>
    match cs.drop (blankLength cs) with
    | '#' :: rest => do
      let after ← lineBreak? (rest.dropWhile isTextChar)
      skipTrivia? fuel after
    | after => some after

def isBareKeyChar (c : Char) : Bool := c.isAlphanum || c = '_' || c = '-'

/-- Reads a part of a key: quoted, or bare. -/
def keyPart? (cs : List Char) : Option (String × List Char) :=
  match cs with
  | '"' :: _ | '\'' :: _ => lineText? cs
  | _ =>
    let word := cs.takeWhile isBareKeyChar
    if word.isEmpty then none
    else some (String.ofList word, cs.dropWhile isBareKeyChar)

/-- Reads the parts of a dotted key, given a bound on their number. -/
def keyParts? : Nat → List Char → Option (List String × List Char)
  | 0, _ => none
  | fuel + 1, cs => do
    let (part, rest) ← keyPart? (skipSpaces cs)
    match skipSpaces rest with
    | '.' :: rest => do
      let (parts, rest) ← keyParts? fuel rest
      return (part :: parts, rest)
    | rest => return ([part], rest)

/-- Reads a dotted key as the path before its last part and that part. -/
def key? (cs : List Char) : Option ((List String × String) × List Char) := do
  let (parts, rest) ← keyParts? (nestingLimit - 1) cs
  let last ← parts.getLast?
  return ((parts.dropLast, last), rest)

mutual

/-- Reads a value inside `depth` brackets and braces, given a bound on the readers called. -/
def value? : Nat → Nat → List Char → Option (Value × List Char)
  | 0, _, _ => none
  | fuel + 1, depth, cs =>
    match cs with
    | '[' :: rest =>
      if nestingLimit ≤ depth + 1 then none
      else do
        let (items, rest) ← items? fuel (depth + 1) (← skipTrivia? fuel rest)
        return (.list items, rest)
    | '\x7b' :: rest =>
      if nestingLimit ≤ depth + 1 then none
      else
        match skipSpaces rest with
        | '\x7d' :: rest => some (.table .inline [], rest)
        | rest => do
          let (entries, rest) ← pairs? fuel (depth + 1) [] rest
          return (.table .inline entries, rest)
    | '"' :: _ | '\'' :: _ => (quotedText? cs).map fun (text, rest) => (.text text, rest)
    | _ => scalar? cs

/-- Reads the values of a list up to its bracket. A comma may follow the last. -/
def items? : Nat → Nat → List Char → Option (List Value × List Char)
  | 0, _, _ => none
  | fuel + 1, depth, cs =>
    match cs with
    | ']' :: rest => some ([], rest)
    | _ => do
      let (value, rest) ← value? fuel depth cs
      match ← skipTrivia? fuel rest with
      | ',' :: rest => do
        let (items, rest) ← items? fuel depth (← skipTrivia? fuel rest)
        return (value :: items, rest)
      | ']' :: rest => return ([value], rest)
      | _ => none

/-- Reads the keys and values of a table up to its brace, on one line and without a comma after
the last. -/
def pairs? : Nat → Nat → Entries → List Char → Option (Entries × List Char)
  | 0, _, _, _ => none
  | fuel + 1, depth, entries, cs => do
    let ((path, key), rest) ← key? cs
    match rest with
    | '=' :: rest => do
      let (value, rest) ← value? fuel depth (skipSpaces rest)
      let entries ← entries.setKey? path key value .header
      match skipSpaces rest with
      | ',' :: rest => pairs? fuel depth entries rest
      | '\x7d' :: rest => return (entries, rest)
      | _ => none
    | _ => none

end

/-- What a line of a document says. -/
inductive Line where
  | blank
  | setting (path : List String) (key : String) (value : Value)
  | header (path : List String) (key : String)
  | element (path : List String) (key : String)

/-- Reads what stands on a line, apart from the end of the line. -/
def statement? (fuel : Nat) (cs : List Char) : Option (Line × List Char) :=
  match cs with
  | [] | '#' :: _ | '\n' :: _ | '\r' :: _ => some (.blank, cs)
  | '[' :: '[' :: rest => do
    let ((path, key), rest) ← key? rest
    match rest with
    | ']' :: ']' :: rest => return (.element path key, rest)
    | _ => none
  | '[' :: rest => do
    let ((path, key), rest) ← key? rest
    match rest with
    | ']' :: rest => return (.header path key, rest)
    | _ => none
  | _ => do
    let ((path, key), rest) ← key? cs
    match rest with
    | '=' :: rest => do
      let (value, rest) ← value? fuel 0 (skipSpaces rest)
      return (.setting path key value, rest)
    | _ => none

/-- The top of a document while it is read, with the way to the table that is open. -/
structure OpenDocument where
  entries : Entries := []
  opened : List String := []

/-- Takes in a line. -/
def OpenDocument.add? (d : OpenDocument) : Line → Option OpenDocument
  | .blank => some d
  | .setting path key value => do
    let entries ← d.entries.descend false (Entries.setKey? path key value) d.opened .header
    return { d with entries }
  | .header path key => do
    let entries ← d.entries.openTable? path key
    return ⟨entries, path ++ [key]⟩
  | .element path key => do
    let entries ← d.entries.openElement? path key
    return ⟨entries, path ++ [key]⟩

/-- Reads the lines of a document, given a bound on their number. -/
def lines? (valueFuel : Nat) : Nat → OpenDocument → List Char → Option OpenDocument
  | 0, d, cs => if cs.isEmpty then some d else none
  | fuel + 1, d, cs =>
    if cs.isEmpty then some d
    else do
      let (line, rest) ← statement? valueFuel (skipSpaces cs)
      let d ← d.add? line
      lines? valueFuel fuel d (← lineEnd? rest)

/-- The entries of a document at its top. A mark of the byte order may stand before it. -/
def document? (text : String) : Option Entries :=
  let cs := match text.toList with
    | '\ufeff' :: rest => rest
    | cs => cs
  (lines? (2 * cs.length + 2) (cs.length + 1) {} cs).map (·.entries)

end ExclusiveAudio.Toml
