import ExclusiveAudio.Text.Numeral

/-!
Quoted texts of TOML documents: in one line or over several, with escapes or as they stand.

A reader takes the characters that are left and answers what it read together with the
characters after it, or nothing if they are not what it reads.
-/

namespace ExclusiveAudio.Toml

def isSpace (c : Char) : Bool := c = ' ' || c = '\t'

/-- The characters that may stand for themselves in quotes and comments: all but the control
characters other than the tab. -/
def isTextChar (c : Char) : Bool := c = '\t' || (' ' ≤ c && c ≠ '\x7f')

def skipSpaces (cs : List Char) : List Char := cs.dropWhile isSpace

/-- The characters after a line break, if the text starts with one. -/
def lineBreak? : List Char → Option (List Char)
  | '\n' :: rest => some rest
  | '\r' :: '\n' :: rest => some rest
  | _ => none

/-- How many of the first characters are spaces and line breaks. -/
def blankLength : List Char → Nat
  | '\r' :: '\n' :: rest => blankLength rest + 2
  | c :: rest => if isSpace c || c = '\n' then blankLength rest + 1 else 0
  | [] => 0

/-- The character that a number of hexadecimal digits at the start stand for. Surrogates are no
characters. -/
def codePoint? (digits : Nat) (cs : List Char) : Option Char := do
  let text := cs.take digits
  if text.length < digits then none
  let code ← Numeral.value? Numeral.hexDigit? 16 text
  if code.isValidChar then some (Char.ofNat code) else none

/-- The character that an escape stands for and the length of the escape, given what follows the
backslash. -/
def escape? : List Char → Option (Char × Nat)
  | 'b' :: _ => some ('\x08', 1)
  | 't' :: _ => some ('\t', 1)
  | 'n' :: _ => some ('\n', 1)
  | 'f' :: _ => some ('\x0c', 1)
  | 'r' :: _ => some ('\r', 1)
  | '"' :: _ => some ('"', 1)
  | '\\' :: _ => some ('\\', 1)
  | 'u' :: rest => (codePoint? 4 rest).map (·, 5)
  | 'U' :: rest => (codePoint? 8 rest).map (·, 9)
  | _ => none

/-- The length of a line continuation after its backslash: spaces up to a line break, and all
blank space after it. -/
def continuation? (cs : List Char) : Option Nat :=
  let spaces := (cs.takeWhile isSpace).length
  (lineBreak? (cs.drop spaces)).map fun _ => spaces + blankLength (cs.drop spaces)

/-- The two kinds of quotes. -/
structure Quote where
  mark : Char
  /-- Whether a backslash escapes what follows it. -/
  escapes : Bool

def Quote.basic : Quote := ⟨'"', true⟩

def Quote.literal : Quote := ⟨'\'', false⟩

/-- Reads a text in one line up to its closing quote. -/
def Quote.line? (q : Quote) (cs : List Char) : Option (List Char × List Char) :=
  match cs with
  | [] => none
  | c :: rest =>
    if c = q.mark then some ([], rest)
    else if q.escapes && c = '\\' then
      match escape? rest with
      | none => none
      | some (meant, length) => (q.line? (rest.drop length)).map fun (text, after) =>
        (meant :: text, after)
    else if isTextChar c then (q.line? rest).map fun (text, after) => (c :: text, after)
    else none
termination_by cs.length
decreasing_by all_goals simp only [List.length_drop, List.length_cons]; omega

/-- Reads a text over several lines up to its three closing quotes, before which up to two may
belong to the text. Line breaks are single characters in the text, however they are written. -/
def Quote.lines? (q : Quote) (cs : List Char) : Option (List Char × List Char) :=
  match cs with
  | [] => none
  | c :: rest =>
    if c = q.mark then
      let further := (rest.takeWhile (· = q.mark)).length
      let quotes := List.replicate (further + 1) c
      let after := rest.drop further
      if further < 2 then (q.lines? after).map fun (text, tail) =>
        (quotes ++ text, tail)
      else if further < 5 then some (quotes.drop 3, after)
      else none
    else if q.escapes && c = '\\' then
      match continuation? rest with
      | some length => q.lines? (rest.drop length)
      | none =>
        match escape? rest with
        | none => none
        | some (meant, length) => (q.lines? (rest.drop length)).map fun (text, after) =>
          (meant :: text, after)
    else if c = '\r' then
      match rest with
      | '\n' :: rest => (q.lines? rest).map fun (text, after) => ('\n' :: text, after)
      | _ => none
    else if c = '\n' || isTextChar c then
      (q.lines? rest).map fun (text, after) => (c :: text, after)
    else none
termination_by cs.length
decreasing_by all_goals simp only [List.length_drop, List.length_cons]; omega

/-- Reads a text that starts with a quote, in one line only. -/
def lineText? : List Char → Option (String × List Char)
  | '"' :: rest => (Quote.basic.line? rest).map fun (text, after) => (String.ofList text, after)
  | '\'' :: rest => (Quote.literal.line? rest).map fun (text, after) => (String.ofList text, after)
  | _ => none

/-- Reads a text that starts with a quote. A line break right after three quotes is no part of
the text. -/
def quotedText? (cs : List Char) : Option (String × List Char) :=
  let several (q : Quote) (rest : List Char) : Option (String × List Char) :=
    (q.lines? ((lineBreak? rest).getD rest)).map fun (text, after) => (String.ofList text, after)
  match cs with
  | '"' :: '"' :: '"' :: rest => several .basic rest
  | '\'' :: '\'' :: '\'' :: rest => several .literal rest
  | _ => lineText? cs

end ExclusiveAudio.Toml
