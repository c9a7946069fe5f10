import TemplateFill.Json.Basic

/-! Paths into a document: keys of objects and indices into arrays, from the root
inwards. A path is written with its components between commas, keys in single
quotes and indices in decimal. -/
namespace TemplateFill

inductive Component where
  | key (name : String)
  | index (position : Nat)
  deriving DecidableEq, Repr

abbrev Path := List Component

def Component.chars : Component → List Char
  | .key name => '\'' :: name.toList ++ ['\'']
  | .index position => Nat.toDigits 10 position

namespace Path

def chars : Path → List Char
  | [] => []
  | [c] => c.chars
  | c :: rest => c.chars ++ ',' :: chars rest

def display (path : Path) : String := String.ofList path.chars

/-- The node that a path leads to, as a message names it. -/
def location (path : Path) : String :=
  if path.isEmpty then "document root" else s!"[{display path}]"

end Path

end TemplateFill
