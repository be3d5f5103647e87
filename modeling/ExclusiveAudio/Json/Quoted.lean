import ExclusiveAudio.Text.Numeral

/-!
Texts in JSON documents.
-/

namespace ExclusiveAudio.Json

/-- A character as it stands in quotes. Quotes, backslashes and control characters are escaped. -/
def escape (c : Char) : List Char :=
  match c with
  | '"' => ['\\', '"']
  | '\\' => ['\\', '\\']
  | '\x08' => ['\\', 'b']
  | '\t' => ['\\', 't']
  | '\n' => ['\\', 'n']
  | '\x0c' => ['\\', 'f']
  | '\r' => ['\\', 'r']
  | c => if c < ' ' then "\\u".toList ++ (Numeral.lowerHex 4 c.toNat).toList else [c]

/-- A text in quotes. -/
def quote (s : String) : String := String.ofList ('"' :: s.toList.flatMap escape ++ ['"'])

end ExclusiveAudio.Json
