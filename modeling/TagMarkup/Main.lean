import TagMarkup.Command.Checker

/-!
# The command

Reads the document that the arguments choose, writes the verdict on it and exits with a status.
-/

namespace TagMarkup

namespace Main

/-- The system's own words for an error, and its number. -/
def systemMessage : IO.Error → String
  | .alreadyExists _ code details | .interrupted _ code details
  | .invalidArgument _ code details | .permissionDenied _ code details
  | .resourceExhausted _ code details | .inappropriateType _ code details
  | .noSuchThing _ code details | .noFileOrDirectory _ code details
  | .otherError code details | .resourceBusy code details | .resourceVanished code details
  | .unsupportedOperation code details | .hardwareFault code details
  | .unsatisfiedConstraints code details | .illegalOperation code details
  | .protocolError code details | .timeExpired code details =>
    details ++ " (os error " ++ toString code ++ ")"
  | .unexpectedEof => "unexpected end of file"
  | .userError message => message

/-- Why the system refuses to read a file. -/
def readError : IO.Error → ReadError
  | .noFileOrDirectory .. => .notFound
  | .inappropriateType _ 20 _ => .notADirectory
  | .inappropriateType _ 21 _ => .isADirectory
  | .invalidArgument _ 36 _ => .nameTooLong
  | e => .other (systemMessage e)

/-- Reads the bytes of a file. -/
def readFile (path : String) : IO (Except ReadError (List UInt8)) := do
  if '\x00' ∈ path.toList then return .error .nullInPath
  try
    let file ← IO.FS.Handle.mk path .read
    return .ok (← file.readBinToEnd).toList
  catch e => return .error (readError e)

/-- Reads the bytes of a stream up to the end or to an empty line; `before` are the bytes of the
lines so far and `begun` those of the line that was begun. -/
partial def readLines (stream : IO.FS.Stream) (before begun : ByteArray) : IO ByteArray := do
  let bytes ← stream.read 1
  match bytes[0]? with
  | none => return before ++ begun
  | some byte =>
    let begun := begun.push byte
    if byte != 0x0A then readLines stream before begun
    else if begun.size = 1 || (begun.size = 2 && begun[0]? == some 0x0D) then
      return before ++ begun
    else readLines stream (before ++ begun) ByteArray.empty

/-- Reads the bytes of the console as far as a document goes. -/
def readConsole : IO (Except ReadError (List UInt8)) := do
  try
    return .ok (← readLines (← IO.getStdin) ByteArray.empty ByteArray.empty).toList
  catch e => return .error (readError e)

/-- Reads the document that a source stands for, and nothing else. -/
def readSource : Source → IO (Except RunError String)
  | .file path => do
    let bytes ← readFile path
    return Checker.readFrom (.ok []) (fun _ => bytes) (.file path)
  | .console => do
    let bytes ← readConsole
    return Checker.readFrom bytes (fun _ => .error .notFound) .console

/-- Writes what the command leaves behind. -/
def leave (exit : Checker.Exit) : IO UInt32 := do
  try
    IO.print exit.stdout
    (← IO.getStdout).flush
    IO.eprint exit.stderr
    return exit.status.toUInt32
  catch e =>
    IO.eprint (Checker.errorExit (.write (systemMessage e))).stderr
    return Checker.errorStatus.toUInt32

/-- Runs the command on its arguments. -/
def run (arguments : List String) : IO UInt32 := do
  match Checker.begin arguments with
  | .error exit => leave exit
  | .ok options =>
    let document ← readSource options.source
    let terminal ← (← IO.getStdout).isTty
    leave (Checker.finish options terminal document)

end Main

end TagMarkup

/-- The command. -/
def main (arguments : List String) : IO UInt32 := TagMarkup.Main.run arguments
