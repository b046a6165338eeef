import TagMarkup.Text.Unprintable

/-!
# Quoted text

Text that has to stay on one line and be told apart from its surroundings is written between
quotation marks, with escapes: a short one for the null character, the tab, the two line ends,
the backslash and the quotation mark, and the code point in hexadecimal for every other
character that does not show by itself (`isShownByNumber`). All other characters stand for
themselves.
-/

namespace TagMarkup

namespace Quoted

/-- The escape by code point: `\u` and the hexadecimal digits between braces. -/
def byCode (c : Char) : List Char :=
  '\\' :: 'u' :: '\x7b' :: (Nat.toDigits 16 c.toNat ++ ['\x7d'])

/-- One character of quoted text, where `marks` tells which quotation marks are escaped. -/
def encodeChar (marks : Char → Bool) (c : Char) : List Char :=
  match c with
  | '\x00' => ['\\', '0']
  | '\t' => ['\\', 't']
  | '\n' => ['\\', 'n']
  | '\r' => ['\\', 'r']
  | '\\' => ['\\', '\\']
  | c =>
    if marks c then ['\\', c]
    else if isShownByNumber c then byCode c
    else [c]

/-- Whether the character is one of the two quotation marks. -/
def isMark (c : Char) : Bool := c = '"' || c = '\''

/-- A character as messages show it: both quotation marks are escaped. -/
def shown (c : Char) : String := String.ofList (encodeChar isMark c)

/-- A character between single quotation marks. -/
def character (c : Char) : String :=
  String.ofList ('\'' :: (encodeChar (· = '\'') c ++ ['\'']))

/-- The characters of a text, escaped for double quotation marks. -/
def encode (text : List Char) : List Char := text.flatMap (encodeChar (· = '"'))

/-- A text between double quotation marks. -/
def text (s : String) : String := String.ofList ('"' :: (encode s.toList ++ ['"']))

end Quoted

end TagMarkup
