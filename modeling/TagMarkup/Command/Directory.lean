import TagMarkup.Text.Utf8

/-!
# Files in a directory

The working directory as far as reading documents from it goes: files with names and contents.
A path is followed part by part. Outside of the directory nothing is known but the directories
above it. The length of a path and of each of its parts is limited.
-/

namespace TagMarkup

/-- Why a file cannot be read as a text. -/
inductive ReadError where
  | notFound
  | notADirectory
  | isADirectory
  /-- The path or one of its parts is too long. -/
  | nameTooLong
  /-- The path contains the null character. -/
  | nullInPath
  /-- The bytes are no UTF-8. -/
  | notUtf8
  /-- The system refuses for another reason. -/
  | other (description : String)
deriving DecidableEq

/-- The error in words. -/
def ReadError.message : ReadError → String
  | notFound => "No such file or directory (os error 2)"
  | notADirectory => "Not a directory (os error 20)"
  | isADirectory => "Is a directory (os error 21)"
  | nameTooLong => "File name too long (os error 36)"
  | nullInPath => "file name contained an unexpected NUL byte"
  | notUtf8 => "stream did not contain valid UTF-8"
  | other description => description

/-- The files of a directory by their names. -/
structure Directory where
  files : List (String × List UInt8)

namespace Directory

/-- The largest number of bytes in a part of a path. -/
def longestName : Nat := 255

/-- The largest number of bytes in a path. -/
def longestPath : Nat := 4095

/-- Follows the parts of a path; `inside` tells whether it has not left the directory so far. -/
def follow (d : Directory) (inside : Bool) : List String → Except ReadError (List UInt8)
  | [] => .error .isADirectory
  | part :: rest =>
    if part = "" ∨ part = "." then d.follow inside rest
    else if part = ".." then d.follow false rest
    else if longestName < part.utf8ByteSize then .error .nameTooLong
    else
      match if inside then d.files.lookup part else none with
      | some bytes => if rest.isEmpty then .ok bytes else .error .notADirectory
      | none => .error .notFound

/-- The bytes of the file at a path. -/
def readBytes (d : Directory) (path : String) : Except ReadError (List UInt8) :=
  if '\x00' ∈ path.toList then .error .nullInPath
  else if path = "" then .error .notFound
  else if longestPath < path.utf8ByteSize then .error .nameTooLong
  else d.follow (path.toList.head? != some '/') (path.splitOn "/")

end Directory

end TagMarkup
