import ExclusiveAudio.Numeric.Binary64
import ExclusiveAudio.Text.Numeral

/-!
Decimal texts of numbers in double precision.

Reading rounds the exact value of a decimal once. Writing has two forms: the whole number
nearest to the exact value, and the shortest decimal that reads back, for which the first grid of
powers of ten with a point inside the rounding interval is searched from the coarse end.
-/

namespace ExclusiveAudio.Binary64

/-- A decimal: `digits` times ten to the `exponent`. -/
structure Decimal where
  negative : Bool
  digits : Nat
  exponent : Int

/-- Ten to a power as a quotient of whole numbers. -/
def powerOfTen (e : Int) : Nat × Nat :=
  if 0 ≤ e then (Nat.pow 10 e.toNat, 1) else (1, Nat.pow 10 (-e).toNat)

/-- The number nearest to a decimal. Values of at least `10 ^ 310` are infinite and those below
`10 ^ -330` vanish, which spares the powers that only decide the same. -/
def ofDecimal (d : Decimal) : Binary64 :=
  let leading := (Numeral.decimalDigits d.digits).length + d.exponent
  if d.digits = 0 then zero d.negative
  else if 310 < leading then infinity d.negative
  else if leading < -330 then zero d.negative
  else
    let (num, den) := powerOfTen d.exponent
    nearest d.negative (d.digits * num * one) den

/-- Splits off a sign; no sign is a plus. -/
def splitSign : List Char → Bool × List Char
  | '-' :: rest => (true, rest)
  | '+' :: rest => (false, rest)
  | text => (false, text)

/-- An exponent part: nothing, or `e` with a signed run of digits up to the end of the text. -/
def exponent? : List Char → Option Int
  | [] => some 0
  | c :: rest =>
    if c = 'e' ∨ c = 'E' then
      let (negative, digits) := splitSign rest
      if digits.isEmpty then none
      else (Numeral.value? Numeral.digit? 10 digits).map fun n => if negative then -n else n
    else none

/-- An unsigned decimal: digits with a point before, after or between them, at least one digit in
all, and an exponent part. -/
def decimal? (negative : Bool) (text : List Char) : Option Decimal :=
  let whole := text.takeWhile Numeral.isDigit
  let afterWhole := text.dropWhile Numeral.isDigit
  let (fraction, rest) := match afterWhole with
    | '.' :: tail => (tail.takeWhile Numeral.isDigit, tail.dropWhile Numeral.isDigit)
    | _ => ([], afterWhole)
  let all := whole ++ fraction
  if all.isEmpty then none
  else do
    let digits ← Numeral.value? Numeral.digit? 10 all
    let exponent ← exponent? rest
    return ⟨negative, digits, exponent - fraction.length⟩

/-- The number that a whole text stands for: a signed decimal, or in letters of either case one
of `inf`, `infinity` and `nan`. -/
def ofText? (text : String) : Option Binary64 :=
  let (negative, rest) := splitSign text.toList
  let word := rest.map Char.toLower
  if word = "inf".toList ∨ word = "infinity".toList then some (infinity negative)
  else if word = "nan".toList then some { nan with negative }
  else (decimal? negative rest).map ofDecimal

/-- Decimal text of the nearest whole number, an exact half going to the even one. The sign is
written also before a zero. -/
def wholeText (x : Binary64) : String :=
  if x.isNaN then "NaN"
  else
    let sign := if x.negative then "-" else ""
    sign ++ (if x.isInfinite then "inf" else toString (halfEven x.units one))

/-- A point of the grid of multiples of `10 ^ exponent` between two bounds given in halves of the
least unit, and nearest to the middle value; `none` if no point is between them. -/
def gridPoint? (units lower upper : Nat) (closed : Bool) (exponent : Int) : Option Nat :=
  let (num, den) := powerOfTen exponent
  let step := 2 * num * one
  let below := units * 2 * den / step
  let inside (point : Nat) : Bool :=
    let scaled := point * step
    if closed then lower * den ≤ scaled && scaled ≤ upper * den
    else lower * den < scaled && scaled < upper * den
  let distance (point : Nat) : Nat :=
    max (point * step) (units * 2 * den) - min (point * step) (units * 2 * den)
  match inside below, inside (below + 1) with
  | true, true =>
    if distance below < distance (below + 1) then some below
    else if distance (below + 1) < distance below then some (below + 1)
    else some (if below % 2 = 0 then below else below + 1)
  | true, false => some below
  | false, true => some (below + 1)
  | false, false => none

/-- Searches the grids from `10 ^ exponent` downward for the first that has a point. -/
def firstGridPoint (units lower upper : Nat) (closed : Bool) : Nat → Int → Nat × Int
  | 0, exponent => (0, exponent)
  | steps + 1, exponent =>
    match gridPoint? units lower upper closed exponent with
    | some point => (point, exponent)
    | none => firstGridPoint units lower upper closed steps (exponent - 1)

/-- Digits and exponent of the shortest decimal that reads back as the size of a finite number. -/
def shortest (x : Binary64) : Nat × Int :=
  let lower := unitsOfWord (x.magnitude - 1) + x.units
  let upper := x.units + unitsOfWord (x.magnitude + 1)
  firstGridPoint x.units lower upper (x.magnitude % 2 = 0) 650 309

/-- Where a shortest decimal is written with plain digits, and how it ends. -/
structure Layout where
  /-- The greatest number of digits before the point in plain notation. -/
  wholeDigits : Int
  /-- The greatest number of zeros between the point and the first digit in plain notation. -/
  leadingZeros : Int
  /-- What follows the digits of a whole number. -/
  wholeEnding : String

/-- Digits with a point or a signed exponent where `layout` puts them. -/
def Layout.write (layout : Layout) (digits : Nat) (exponent : Int) : String :=
  let text := Numeral.decimalDigits digits
  let point := text.length + exponent
  let zeros (n : Int) := String.ofList (List.replicate n.toNat '0')
  if 0 ≤ exponent ∧ point ≤ layout.wholeDigits then
    String.ofList text ++ zeros exponent ++ layout.wholeEnding
  else if 0 < point ∧ point ≤ layout.wholeDigits then
    String.ofList (text.take point.toNat) ++ "." ++ String.ofList (text.drop point.toNat)
  else if -layout.leadingZeros ≤ point ∧ point ≤ 0 then
    "0." ++ zeros (-point) ++ String.ofList text
  else
    let tail := text.drop 1
    String.ofList (text.take 1) ++ (if tail.isEmpty then "" else "." ++ String.ofList tail) ++
      (if 0 < point then "e+" else "e") ++ toString (point - 1)

/-- The shortest text that reads back as a finite number. -/
def shortestText (layout : Layout) (x : Binary64) : String :=
  (if x.negative then "-" else "") ++
    if x.magnitude = 0 then "0" ++ layout.wholeEnding
    else
      let (digits, exponent) := x.shortest
      layout.write digits exponent

end ExclusiveAudio.Binary64
