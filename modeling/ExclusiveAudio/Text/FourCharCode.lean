import ExclusiveAudio.Text.Numeral

/-!
Four-character codes: format identifiers, property selectors and status codes are words whose
four bytes, most significant first, are often the characters of a name.
-/

namespace ExclusiveAudio.FourCharCode

/-- The bytes of a word, most significant first. -/
def bytes (w : UInt32) : List UInt8 :=
  [(w >>> 24).toUInt8, (w >>> 16).toUInt8, (w >>> 8).toUInt8, w.toUInt8]

/-- The word of four one-byte characters. -/
def ofChars (a b c d : Char) : UInt32 :=
  (a.val <<< 24) ||| (b.val <<< 16) ||| (c.val <<< 8) ||| d.val

/-- The four characters of a word if all of them can be printed. -/
def text? (w : UInt32) : Option String :=
  if (bytes w).all (fun b => 0x20 ≤ b && b < 0x7f) then
    some (String.ofList ((bytes w).map fun b => Char.ofNat b.toNat))
  else none

/-- The four characters of a word, or else its eight hexadecimal digits. -/
def textOrHex (w : UInt32) : String :=
  (text? w).getD ("0x" ++ Numeral.lowerHex 8 w.toNat)

end ExclusiveAudio.FourCharCode
