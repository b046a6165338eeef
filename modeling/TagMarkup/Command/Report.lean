import TagMarkup.Command.Options
import TagMarkup.Markup.Document
import TagMarkup.Markup.Outline
import TagMarkup.Text.JsonString
import TagMarkup.Text.Lines

/-!
# Reports

A report says whether a document is accepted. As a text it starts with the verdict; for a
rejected document the offending line follows, with a caret under the offending character. As
JSON it is one object on one line. Colors are put around parts of a text and never into JSON.
-/

namespace TagMarkup

/-- The form of a report. -/
structure Style where
  format : Format
  colors : Bool
deriving DecidableEq

namespace Report

/-! ## Colors -/

/-- What a part of a report is. -/
inductive Role where
  | verdictOk
  | error
  | gutter
deriving DecidableEq

/-- The sequence that switches to the color of a part. -/
def Role.code : Role → String
  | verdictOk => "\x1b[1;32m"
  | error => "\x1b[1;31m"
  | gutter => "\x1b[1;34m"

/-- The sequence that switches colors off. -/
def resetCode : String := "\x1b[0m"

/-- A part of a report, in color if colors are used. -/
def paint (colors : Bool) (role : Role) (text : String) : String :=
  if colors then role.code ++ text ++ resetCode else text

/-! ## The offending line -/

/-- The line of a text with a number counted from zero, or nothing if there is none. -/
def sourceLine (text : String) (line : Nat) : String :=
  String.ofList ((Lines.all '\n' '\r' text.toList)[line]?.getD [])

/-- What stands in front of the caret: a tab below each tab and a space below all else. -/
def pad (line : String) (column : Nat) : String :=
  String.ofList ((line.toList.take column).map fun c => if c = '\t' then '\t' else ' ')

/-- So many spaces. -/
def blanks (n : Nat) : String := String.ofList (List.replicate n ' ')

/-- The offending line below its number, and a caret below the offending character. -/
def snippet (colors : Bool) (text : String) (e : ParseError) : String :=
  let line := sourceLine text e.position.line
  let number := toString (e.position.line + 1)
  paint colors .gutter ("  " ++ number ++ " |") ++ " " ++ line ++ "\n" ++
    paint colors .gutter ("  " ++ blanks number.length ++ " |") ++ " " ++
      pad line e.position.column ++ paint colors .error "^" ++ "\n"

/-! ## Verdicts -/

/-- The report on an accepted document, with its outline if that is asked for. -/
def accepted (style : Style) (root : Node) (tree : Bool) : String :=
  match style.format with
  | .text => paint style.colors .verdictOk "OK" ++ "\n" ++ if tree then root.outline else ""
  | .json =>
    if tree then "\x7b\"ok\":true,\"tree\":" ++ JsonString.text root.outline ++ "\x7d\n"
    else "\x7b\"ok\":true\x7d\n"

/-- The report on a rejected text. -/
def rejected (style : Style) (text : String) (e : ParseError) : String :=
  match style.format with
  | .text =>
    paint style.colors .error "Failed" ++ " on " ++ e.position.render ++ ": " ++
      e.reason.message ++ "\n" ++ snippet style.colors text e
  | .json =>
    "\x7b\"ok\":false,\"line\":" ++ toString e.position.line ++ ",\"column\":" ++
      toString e.position.column ++ ",\"offset\":" ++ toString e.offset ++ ",\"reason\":" ++
        JsonString.text e.reason.message ++ "\x7d\n"

end Report

end TagMarkup
