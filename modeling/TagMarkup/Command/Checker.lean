import TagMarkup.Command.Console
import TagMarkup.Command.Directory
import TagMarkup.Command.Report

/-!
# Checking a document

A run of the checker reads the document that the options choose, parses it and reports the
verdict. `Checker.run` is such a run on a given console and directory; `Checker.invoke` is the
whole command, from its arguments to its exit status.

What is read is left open in `Checker.readFrom` and `Checker.invokeOn`: files of any contents, and
files and a console that cannot be read for any reason.
-/

namespace TagMarkup

/-- What the checker finds out about a document. -/
inductive Verdict where
  | accepted
  | rejected
deriving DecidableEq

/-- The exit status of a verdict. -/
def Verdict.exitStatus : Verdict → Nat
  | accepted => 0
  | rejected => 1

/-- What keeps a run from its verdict. -/
inductive RunError where
  | unreadableFile (path : String) (error : ReadError)
  | unreadableConsole (error : ReadError)
  /-- The output takes no more bytes, for a reason in words. -/
  | write (description : String)
deriving DecidableEq

/-- The error in words. -/
def RunError.message : RunError → String
  | unreadableFile path error => "cannot read `" ++ path ++ "`: " ++ error.message
  | unreadableConsole error => "cannot read standard input: " ++ error.message
  | write description => "cannot write output: " ++ description

namespace Checker

/-- The document of a source, where the files have given contents or cannot be read, and neither
can the console if reading from it ends in an error before the document does. -/
def readFrom (console : Except ReadError (List UInt8))
    (files : String → Except ReadError (List UInt8)) : Source → Except RunError String
  | .console =>
    match console with
    | .error e => .error (.unreadableConsole e)
    | .ok bytes =>
      match Console.read? bytes with
      | some text => .ok text
      | none => .error (.unreadableConsole .notUtf8)
  | .file path =>
    match files path with
    | .error e => .error (.unreadableFile path e)
    | .ok bytes =>
      match decodeUtf8? bytes with
      | some text => .ok text
      | none => .error (.unreadableFile path .notUtf8)

/-- The document that a source stands for, on a given console and directory. -/
def readSource (console : List UInt8) (directory : Directory) (source : Source) :
    Except RunError String := readFrom (.ok console) directory.readBytes source

/-- The verdict on a text and the report on it. -/
def check (options : Options) (terminal : Bool) (text : String) : Verdict × String :=
  let style : Style := ⟨options.format, options.color.resolve terminal⟩
  match parseDocument text with
  | .ok root => (.accepted, Report.accepted style root options.tree)
  | .error e => (.rejected, Report.rejected style text e)

/-- What a run comes to: the verdict, or the error that kept it from one, and the output. -/
structure Result where
  verdict : Except RunError Verdict
  output : List UInt8

/-- Reads the document, parses it and reports the verdict. -/
def run (options : Options) (console : List UInt8) (directory : Directory) (terminal : Bool) :
    Result :=
  match readSource console directory options.source with
  | .error e => ⟨.error e, []⟩
  | .ok text =>
    let (verdict, report) := check options terminal text
    ⟨.ok verdict, encodeUtf8 report⟩

/-- The result if the output takes only so many bytes and then refuses. -/
def Result.limit (r : Result) (bytes : Nat) : Result :=
  if r.output.length ≤ bytes then r else ⟨.error (.write "closed"), r.output.take bytes⟩

/-! ## The command -/

/-- How the command is used. -/
def usage : String :=
  "Usage: twine [OPTIONS] [FILE]\n" ++
  "\n" ++
  "Check a markup document. Without FILE (or with `-`), lines are read from\n" ++
  "standard input until the first empty line.\n" ++
  "\n" ++
  "Options:\n" ++
  "  --color=<when>     Colorize output: auto, always, never (default: auto)\n" ++
  "  --format=<format>  Output format: text, json (default: text)\n" ++
  "  --tree             Print the parsed tree of an accepted document\n" ++
  "  -h, --help         Print this help\n"

/-- What is left behind by the command: its exit status and what it wrote. -/
structure Exit where
  status : Nat
  stdout : String
  stderr : String
deriving DecidableEq

/-- The exit status of everything that is no verdict. -/
def errorStatus : Nat := 2

/-- The exit after wrong arguments. -/
def usageExit (e : UsageError) : Exit :=
  ⟨errorStatus, "", "error: " ++ e.message ++ "\n\n" ++ usage⟩

/-- The exit after an error of a run. -/
def errorExit (e : RunError) : Exit := ⟨errorStatus, "", "error: " ++ e.message ++ "\n"⟩

/-- The options of the arguments, unless the command ends without reading a document. -/
def begin (arguments : List String) : Except Exit Options :=
  match Options.ofArguments arguments with
  | .error e => .error (usageExit e)
  | .ok options => if options.help then .error ⟨0, usage, ""⟩ else .ok options

/-- The end of the command, once the document is read or cannot be. -/
def finish (options : Options) (terminal : Bool) (document : Except RunError String) : Exit :=
  match document with
  | .error e => errorExit e
  | .ok text =>
    let (verdict, report) := check options terminal text
    ⟨verdict.exitStatus, report, ""⟩

/-- The command on a console and on files, with its output going to a terminal or not. -/
def invokeOn (arguments : List String) (console : Except ReadError (List UInt8))
    (files : String → Except ReadError (List UInt8)) (terminal : Bool) : Exit :=
  match begin arguments with
  | .error exit => exit
  | .ok options => finish options terminal (readFrom console files options.source)

/-- The command on a given console and directory, with its output going to no terminal. -/
def invoke (arguments : List String) (console : List UInt8) (directory : Directory) : Exit :=
  invokeOn arguments (.ok console) directory.readBytes false

end Checker

end TagMarkup
