import ExclusiveAudio.Numeric.Decimal

/-!
Numbers in JSON documents, and their values in double precision.

A numeral is read into a significand of 64 bits: digits are taken while it holds them, and from
the first that it does not hold, only their number counts. The value is the significand times or
divided by one power of ten, so it is near the decimal but not always nearest. Powers above
`10 ^ 308` are divided off in steps; a value out of range is refused.
-/

namespace ExclusiveAudio.Json

/-- A number as it is written, in digits. -/
structure Number where
  negative : Bool
  whole : List Nat
  /-- The digits after the point, if there is one. -/
  fraction : Option (List Nat)
  /-- Whether the exponent is negative and its digits, if there is one. -/
  exponent : Option (Bool × List Nat)
  deriving DecidableEq

namespace Number

open Numeral (digit? isDigit)

/-- The digits at the start of a text, and the text after them. -/
def digits (cs : List Char) : List Nat × List Char :=
  ((cs.takeWhile isDigit).filterMap digit?, cs.dropWhile isDigit)

/-- Digits of which there is at least one. -/
def digits? (cs : List Char) : Option (List Nat × List Char) :=
  let (ds, rest) := digits cs
  if ds.isEmpty then none else some (ds, rest)

/-- Reads a numeral at the start of a text. -/
def read? (cs : List Char) : Option (Number × List Char) := do
  let (negative, rest) := match cs with
    | '-' :: rest => (true, rest)
    | _ => (false, cs)
  let (whole, rest) ← digits? rest
  if whole.length ≠ 1 && whole.head? = some 0 then none
  let (fraction, rest) ← match rest with
    | '.' :: rest => do
      let (ds, rest) ← digits? rest
      pure (some ds, rest)
    | _ => pure (none, rest)
  let (exponent, rest) ← match rest with
    | 'e' :: rest | 'E' :: rest => do
      let (down, rest) := Binary64.splitSign rest
      let (ds, rest) ← digits? rest
      pure (some (down, ds), rest)
    | _ => pure (none, rest)
  return (⟨negative, whole, fraction, exponent⟩, rest)

/-- Takes digits into a significand while it fits 64 bits, and answers it with the digits
that are left. -/
def take (significand : Nat) : List Nat → Nat × List Nat
  | [] => (significand, [])
  | d :: ds =>
    if significand * 10 + d < UInt64.size then take (significand * 10 + d) ds
    else (significand, d :: ds)

/-- The power of ten that an exponent stands for, with those outside of 32 bits brought into them;
`none` if the exponent alone does not fit. -/
def power? (start : Int) (down : Bool) (ds : List Nat) : Option Int :=
  let n : Nat := ds.foldl (fun n d => n * 10 + d) 0
  if 0x80000000 ≤ n then none
  else some (max (-0x80000000) (min 0x7fffffff (if down then start - n else start + n)))

/-- Divides by ten to a power in steps of at most `10 ^ 308`, given a bound on their number. -/
def divide (x : Binary64) : Nat → Nat → Binary64
  | 0, _ => x
  | steps + 1, n =>
    if n ≤ 308 then x.div (.ofNat (Nat.pow 10 n))
    else if x.magnitude = 0 then x
    else divide (x.div (.ofNat (Nat.pow 10 308))) steps (n - 308)

/-- A significand times ten to a power; `none` if it is out of range. -/
def scale? (significand : Nat) (power : Int) : Option Binary64 :=
  let x := Binary64.ofNat significand
  if power < 0 then some (divide x 4 (-power).toNat)
  else if x.magnitude = 0 then some x
  else if 308 < power then none
  else
    let y := x.mul (.ofNat (Nat.pow 10 power.toNat))
    if y.isInfinite then none else some y

/-- Whether a numeral is written as a whole number. -/
def isWhole (n : Number) : Bool := n.fraction.isNone && n.exponent.isNone

/-- The value without its sign. -/
def size? (n : Number) : Option Binary64 :=
  let (significand, unread) := take 0 n.whole
  let (significand, read) := match n.fraction with
    | none => (significand, 0)
    | some ds =>
      let (significand', unread) := take significand ds
      (significand', ds.length - unread.length)
  let start : Int := unread.length - read
  match n.exponent with
  | none => scale? significand start
  | some (down, ds) =>
    match power? start down ds with
    | some power => scale? significand power
    | none => if significand ≠ 0 && !down then none else some (.zero false)

/-- The value in double precision; `none` if it is out of range. -/
def value? (n : Number) : Option Binary64 :=
  n.size?.map fun x => if n.negative then x.neg else x

/-- The count that a numeral without a sign, point and exponent stands for, if it fits a word of
32 bits. -/
def word32? (n : Number) : Option UInt32 :=
  if n.negative || !n.isWhole then none
  else
    let (count, unread) := take 0 n.whole
    if unread.isEmpty && count < UInt32.size then some (UInt32.ofNat count) else none

end Number

end ExclusiveAudio.Json
