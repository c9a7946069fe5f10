import TemplateFill.Json.Basic
import TemplateFill.Placeholder.Kind

/-! Warnings about placeholders that stay as they are written. -/
namespace TemplateFill

/-- Why a placeholder was left alone. A reason is the message of the error met. -/
inductive Cause where
  | unknownKind (name : String)
  | malformed
  | invalidLength (reason : String)
  | invalidPath (reason : String)
  | traversal (reason : String)
  | notAString (found : NodeType)
  deriving DecidableEq, Repr

/-- A warning, with the text that it is about. -/
structure Diagnostic where
  cause : Cause
  raw : String
  deriving DecidableEq, Repr

def Cause.message (raw : String) : Cause → String
  | .unknownKind name =>
    s!"unknown template type '{name}' in {raw}, supported types are {Kind.validNames}"
  | .malformed =>
    s!"found template string {raw} but it does not match \x7b\x7bkind:argument\x7d\x7d"
  | .invalidLength reason => s!"invalid length in {raw}: {reason}"
  | .invalidPath reason => s!"invalid path in {raw}: {reason}"
  | .traversal reason => s!"cannot resolve {raw}: {reason}"
  | .notAString found => s!"cannot resolve {raw}: target is {found.name}, expected a string"

def Diagnostic.message (d : Diagnostic) : String :=
  s!"{d.cause.message d.raw}; leaving it unmodified"

end TemplateFill
