import TemplateFill.Text.Utf8

/-! Names of files, which are sequences of octets and need not be text, and the
reasons why a file is not read or written. -/
namespace TemplateFill

abbrev FileName := List UInt8

namespace FileName

def display (name : FileName) : String := Text.Utf8.decodeLossy name

def slash : UInt8 := 0x2f

def dot : FileName := [0x2e]

def dotDot : FileName := [0x2e, 0x2e]

/-- The pieces of a name between its slashes; `piece` is read so far, last octet first. -/
def pieces (piece : FileName) : List UInt8 → List FileName
  | [] => [piece.reverse]
  | b :: rest => if b = slash then piece.reverse :: pieces [] rest else pieces (b :: piece) rest

/-- The longest name of a file, and the bound on a whole name, in octets. -/
def maxPiece : Nat := 255

def bound : Nat := 4096

end FileName

inductive FileError where
  | notFound
  | permissionDenied
  | notDirectory
  | isDirectory
  | nameTooLong
  | nulInName
  | notUtf8
  | other (reason : String)
  deriving DecidableEq, Repr

def FileError.message : FileError → String
  | .notFound => "No such file or directory (os error 2)"
  | .permissionDenied => "Permission denied (os error 13)"
  | .notDirectory => "Not a directory (os error 20)"
  | .isDirectory => "Is a directory (os error 21)"
  | .nameTooLong => "File name too long (os error 36)"
  | .nulInName => "file name contained an unexpected NUL byte"
  | .notUtf8 => "stream did not contain valid UTF-8"
  | .other reason => reason

end TemplateFill
