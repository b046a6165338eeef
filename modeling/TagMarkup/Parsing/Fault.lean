/-!
# Faults

A fault breaks a run off: a cell has no parser that could be applied, or a counted repetition
asks for more room than there is. It is no failure of a parser, so no alternative is tried
after it.
-/

namespace TagMarkup

/-- What can go wrong with cells and with room. -/
inductive Fault where
  /-- A cell was defined a second time. -/
  | definedTwice (name : String)
  /-- A cell was entered that has no parser, or whose parser is gone. -/
  | unavailable (name : String)
  /-- A cell entered itself again at the same place. -/
  | endless (name : String)
  /-- A counted repetition asked for more room than there is. -/
  | noRoom
deriving DecidableEq

/-- The fault in words. -/
def Fault.message : Fault → String
  | definedTwice name => "deferred parser `" ++ name ++ "` defined twice"
  | unavailable name =>
    "deferred parser `" ++ name ++ "` used before definition or after its grammar was dropped"
  | endless name => "deferred parser `" ++ name ++ "` enters itself without reading"
  | noRoom => "capacity overflow"

end TagMarkup
