/-!
# Strings in JSON

A string in JSON stands between quotation marks. The quotation mark, the backslash and the
control characters are escaped: those with a short form by it, the others, the controls beyond
ASCII included, by four hexadecimal digits. All other characters stand for themselves.
-/

namespace TagMarkup

namespace JsonString

/-- Whether the character is a control. -/
def isControl (c : Char) : Bool := c.toNat < 0x20 || (0x7F ≤ c.toNat && c.toNat < 0xA0)

/-- The last four hexadecimal digits of a number. -/
def hex4 (n : Nat) : List Char :=
  [Nat.digitChar (n / 4096 % 16), Nat.digitChar (n / 256 % 16), Nat.digitChar (n / 16 % 16),
   Nat.digitChar (n % 16)]

/-- One character of a string. -/
def encodeChar (c : Char) : List Char :=
  match c with
  | '"' => ['\\', '"']
  | '\\' => ['\\', '\\']
  | '\n' => ['\\', 'n']
  | '\r' => ['\\', 'r']
  | '\t' => ['\\', 't']
  | c => if isControl c then '\\' :: 'u' :: hex4 c.toNat else [c]

/-- The characters between the quotation marks. -/
def encode (text : List Char) : List Char := text.flatMap encodeChar

/-- A string with its quotation marks. -/
def text (s : String) : String := String.ofList ('"' :: (encode s.toList ++ ['"']))

end JsonString

end TagMarkup
