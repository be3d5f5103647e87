import ExclusiveAudio.Numeric.Decimal
import ExclusiveAudio.Toml.Value

/-!
Numbers, truth values, dates and times of TOML documents, each a word of the document.

Underscores may stand between digits. Integers have 64 bits and a sign; floats need digits on
both sides of a point.
-/

namespace ExclusiveAudio.Toml

open Numeral

/-- Digits without the underscores between them, if there is a digit at both sides of each
underscore and at least one digit in all. -/
def digits? (isDigit : Char → Bool) : List Char → Option (List Char)
  | [] => none
  | [c] => if isDigit c then some [c] else none
  | c :: '_' :: rest => if isDigit c then (digits? isDigit rest).map (c :: ·) else none
  | c :: rest => if isDigit c then (digits? isDigit rest).map (c :: ·) else none

/-- A sign and what follows it; no sign is a plus. -/
def signed (cs : List Char) : Bool × List Char := Binary64.splitSign cs

/-- Decimal digits that do not start with a zero, other than zero itself. -/
def wholeDigits? (cs : List Char) : Option (List Char) :=
  match cs with
  | '0' :: _ :: _ => none
  | _ => digits? Numeral.isDigit cs

def inSigned64 (n : Int) : Option Int :=
  if -0x8000000000000000 ≤ n ∧ n < 0x8000000000000000 then some n else none

def integer? (word : List Char) : Option Int :=
  let inBase (base : Nat) (rest : List Char) : Option Int := do
    let digitOf (c : Char) : Option Nat := (hexDigit? c).filter (· < base)
    let digits ← digits? (fun c => (digitOf c).isSome) rest
    inSigned64 (← value? digitOf base digits)
  match word with
  | '0' :: 'x' :: rest => inBase 16 rest
  | '0' :: 'o' :: rest => inBase 8 rest
  | '0' :: 'b' :: rest => inBase 2 rest
  | _ => do
    let (negative, rest) := signed word
    let n ← value? digit? 10 (← wholeDigits? rest)
    inSigned64 (if negative then -n else n)

/-- A decimal with a fraction, an exponent or both. One that is too great in size is refused
if it is positive, and infinite if it is negative. -/
def decimal? (word : List Char) : Option Binary64 := do
  let isMark (c : Char) : Bool := c = 'e' || c = 'E'
  let (negative, rest) := signed word
  let mantissa := rest.takeWhile (!isMark ·)
  let exponent ← match rest.dropWhile (!isMark ·) with
    | [] => if mantissa.contains '.' then some 0 else none
    | _ :: power => do
      let (down, power) := signed power
      let n ← value? digit? 10 (← digits? Numeral.isDigit power)
      pure (if down then -(n : Int) else n)
  let whole ← wholeDigits? (mantissa.takeWhile (· ≠ '.'))
  let fraction ← match mantissa.dropWhile (· ≠ '.') with
    | [] => some []
    | _ :: digits => digits? Numeral.isDigit digits
  let digits ← value? digit? 10 (whole ++ fraction)
  let x := Binary64.ofDecimal ⟨negative, digits, exponent - fraction.length⟩
  if x = .infinity false then none else some x

/-- The words for infinity and for what is not a number. -/
def special? (word : List Char) : Option Binary64 :=
  let (negative, rest) := signed word
  if rest = ['i', 'n', 'f'] then some (.infinity negative)
  else if rest = ['n', 'a', 'n'] then some { Binary64.nan with negative }
  else none

def float? (word : List Char) : Option Binary64 := decimal? word <|> special? word

/-- Two digits that stand for a number in a range. -/
def twoDigits? (lo hi : Nat) (a b : Char) : Option Nat :=
  (value? digit? 10 [a, b]).filter fun n => lo ≤ n && n ≤ hi

def daysIn (year month : Nat) : Nat :=
  if month = 2 then
    if year % 4 = 0 ∧ (year % 100 ≠ 0 ∨ year % 400 = 0) then 29 else 28
  else if month = 4 ∨ month = 6 ∨ month = 9 ∨ month = 11 then 30
  else 31

/-- Whether characters are a time zone: `Z`, or a sign with hours and minutes. -/
def isZone : List Char → Bool
  | ['Z'] | ['z'] => true
  | [sign, h, h', ':', m, m'] =>
    (sign = '+' || sign = '-') && (twoDigits? 0 23 h h').isSome && (twoDigits? 0 59 m m').isSome
  | _ => false

/-- Whether characters are a time of day, with a time zone if it may have one. -/
def isTime (zoned : Bool) : List Char → Bool
  | h :: h' :: ':' :: m :: m' :: ':' :: s :: s' :: rest =>
    let afterFraction := match rest with
      | '.' :: tail =>
        if (tail.takeWhile Numeral.isDigit).isEmpty then rest
        else tail.dropWhile Numeral.isDigit
      | _ => rest
    (twoDigits? 0 23 h h').isSome && (twoDigits? 0 59 m m').isSome &&
      (twoDigits? 0 60 s s').isSome &&
      (afterFraction.isEmpty || (zoned && isZone afterFraction))
  | _ => false

/-- What follows a date at the start of a word, if it starts with one. -/
def afterDate? : List Char → Option (List Char)
  | y :: y' :: y'' :: y''' :: '-' :: m :: m' :: '-' :: d :: d' :: rest => do
    let year ← value? digit? 10 [y, y', y'', y''']
    let month ← twoDigits? 1 12 m m'
    let _ ← twoDigits? 1 (daysIn year month) d d'
    return rest
  | _ => none

/-- Whether a word is a date, a time, or both joined by a letter. -/
def isMoment (word : List Char) : Bool :=
  match afterDate? word with
  | some [] => true
  | some (c :: time) => (c = 'T' || c = 't') && isTime true time
  | none => isTime false word

/-- The characters that words other than keys are made of. -/
def isWordChar (c : Char) : Bool :=
  c.isAlphanum || c = '+' || c = '-' || c = '_' || c = '.' || c = ':'

/-- The value of a word. -/
def word? (word : List Char) : Option Value :=
  if word = ['t', 'r', 'u', 'e'] then some (.boolean true)
  else if word = ['f', 'a', 'l', 's', 'e'] then some (.boolean false)
  else if isMoment word then some .moment
  else (float? word).map .float <|> (integer? word).map .integer

/-- Reads a word, and after a date also a time that a space separates from it. -/
def scalar? (cs : List Char) : Option (Value × List Char) := do
  let word := cs.takeWhile isWordChar
  let rest := cs.dropWhile isWordChar
  let value ← word? word
  match afterDate? word, rest with
  | some [], ' ' :: tail =>
    if isTime true (tail.takeWhile isWordChar) then
      return (.moment, tail.dropWhile isWordChar)
    else return (value, rest)
  | _, _ => return (value, rest)

end ExclusiveAudio.Toml
