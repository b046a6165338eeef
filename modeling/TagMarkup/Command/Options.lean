/-!
# Options

The arguments of the command choose the document and how the verdict on it is written. They are
read from left to right, and the first one that is not allowed is reported. Of several options
of one kind the last one counts; there is at most one document.
-/

namespace TagMarkup

/-- Where the document comes from. -/
inductive Source where
  /-- The lines of standard input up to the first empty one. -/
  | console
  /-- A whole file. -/
  | file (path : String)
deriving DecidableEq

/-- When the output is colored. -/
inductive ColorMode where
  | auto
  | always
  | never
deriving DecidableEq

/-- The form of the output. -/
inductive Format where
  | text
  | json
deriving DecidableEq

/-- What the arguments ask for. -/
structure Options where
  source : Source := .console
  color : ColorMode := .auto
  format : Format := .text
  /-- Whether the tree of an accepted document is shown. -/
  tree : Bool := false
  /-- Whether the usage is to be shown and nothing else done. -/
  help : Bool := false
deriving DecidableEq

/-- What is wrong with an argument. -/
inductive UsageError where
  | unknownOption (argument : String)
  /-- The value of an option is none of the expected ones. -/
  | invalidValue (option value expected : String)
  /-- A second document is named. -/
  | extraArgument (argument : String)
deriving DecidableEq

/-- The error in words. -/
def UsageError.message : UsageError → String
  | unknownOption argument => "unknown option `" ++ argument ++ "`"
  | invalidValue option value expected =>
    "invalid value `" ++ value ++ "` for `" ++ option ++ "` (expected " ++ expected ++ ")"
  | extraArgument argument => "unexpected extra argument `" ++ argument ++ "`"

/-- Whether the output is colored, on a terminal or elsewhere. -/
def ColorMode.resolve (terminal : Bool) : ColorMode → Bool
  | auto => terminal
  | always => true
  | never => false

/-- The color mode of a name. -/
def ColorMode.ofName? (name : String) : Option ColorMode :=
  if name = "auto" then some auto
  else if name = "always" then some always
  else if name = "never" then some never
  else none

/-- The format of a name. -/
def Format.ofName? (name : String) : Option Format :=
  if name = "text" then some text
  else if name = "json" then some json
  else none

/-! ## Single arguments -/

/-- The rest of an argument behind a given beginning. -/
def valueBehind? (beginning argument : String) : Option String :=
  if beginning.toList.isPrefixOf argument.toList then
    some (String.ofList (argument.toList.drop beginning.length))
  else none

/-- What one argument asks for. -/
inductive Request where
  | help
  | tree
  | color (mode : ColorMode)
  | format (format : Format)
  | document (source : Source)
deriving DecidableEq

/-- What an argument asks for, taken by itself. -/
def Request.ofArgument (argument : String) : Except UsageError Request :=
  if argument = "-h" ∨ argument = "--help" then .ok .help
  else if argument = "--tree" then .ok .tree
  else
    match valueBehind? "--color=" argument, valueBehind? "--format=" argument with
    | some value, _ =>
      match ColorMode.ofName? value with
      | some mode => .ok (.color mode)
      | none => .error (.invalidValue "--color" value "auto, always or never")
    | none, some value =>
      match Format.ofName? value with
      | some f => .ok (.format f)
      | none => .error (.invalidValue "--format" value "text or json")
    | none, none =>
      if argument = "-" then .ok (.document .console)
      else if argument.toList.head? = some '-' then .error (.unknownOption argument)
      else .ok (.document (.file argument))

/-! ## Lists of arguments -/

/-- Goes on reading arguments with the options so far; `named` tells whether a document was
named already. -/
def Options.readFrom (o : Options) (named : Bool) : List String → Except UsageError Options
  | [] => .ok o
  | argument :: rest =>
    match Request.ofArgument argument with
    | .error e => .error e
    | .ok .help => readFrom { o with help := true } named rest
    | .ok .tree => readFrom { o with tree := true } named rest
    | .ok (.color mode) => readFrom { o with color := mode } named rest
    | .ok (.format f) => readFrom { o with format := f } named rest
    | .ok (.document source) =>
      if named then .error (.extraArgument argument)
      else readFrom { o with source := source } true rest

/-- The options of the arguments. -/
def Options.ofArguments (arguments : List String) : Except UsageError Options :=
  readFrom {} false arguments

end TagMarkup
