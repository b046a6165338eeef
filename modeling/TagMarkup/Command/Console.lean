import TagMarkup.Text.Lines
import TagMarkup.Text.Utf8

/-!
# Reading from the console

A document from the console consists of the lines before the first empty line, or of all lines
if none is empty. Every line of the document ends in a line feed, whatever it ended in before.
What is behind the empty line is not looked at.
-/

namespace TagMarkup

namespace Console

/-- The first line of some bytes and what is behind it. -/
def nextLine? (bytes : List UInt8) : Option (List UInt8 × List UInt8) :=
  Lines.next? 0x0A 0x0D bytes

/-- Goes on reading lines behind a part of the document. There is none if a line is no UTF-8. -/
def readFrom? (document : String) (bytes : List UInt8) : Option String :=
  match _h : nextLine? bytes with
  | none => some document
  | some (line, rest) =>
    match decodeUtf8? line with
    | none => none
    | some text =>
      if text.isEmpty then some document else readFrom? (document ++ text ++ "\n") rest
termination_by bytes.length
decreasing_by exact Lines.next?_length (by assumption)

/-- The document on the console, unless one of its lines is no UTF-8. -/
def read? (bytes : List UInt8) : Option String := readFrom? "" bytes

end Console

end TagMarkup
