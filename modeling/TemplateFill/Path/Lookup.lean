import TemplateFill.Path.Basic

/-! Following a path from the root of a document. A step needs a node of the right
type that has the key or the index; the first step that fails is reported with
the place it starts from. -/
namespace TemplateFill

/-- Why a step cannot be taken from a node. -/
inductive StepError where
  | missingKey (key : String)
  | indexOutOfRange (index length : Nat)
  | expectedObject (key : String) (found : NodeType)
  | expectedArray (index : Nat) (found : NodeType)
  deriving DecidableEq, Repr

structure LookupError where
  reason : StepError
  location : String
  deriving DecidableEq, Repr

def LookupError.message : LookupError → String
  | ⟨.missingKey key, location⟩ => s!"key '{key}' not found at {location}"
  | ⟨.indexOutOfRange index length, location⟩ =>
    s!"index {index} out of range at {location} (length {length})"
  | ⟨.expectedObject key found, location⟩ =>
    s!"cannot look up key '{key}' at {location}: found {found.name}, expected an object"
  | ⟨.expectedArray index found, location⟩ =>
    s!"cannot look up index {index} at {location}: found {found.name}, expected an array"

namespace Json

/-- The node one step inside another. -/
def step (node : Json) : Component → Except StepError Json
  | .key name => match node with
    | .object members => match Members.get? members name with
      | some child => .ok child
      | none => .error (.missingKey name)
    | other => .error (.expectedObject name other.nodeType)
  | .index position => match node with
    | .array items => match items[position]? with
      | some child => .ok child
      | none => .error (.indexOutOfRange position items.length)
    | other => .error (.expectedArray position other.nodeType)

/-- Follows a path from a node that lies at `walked`. -/
def lookupFrom (walked : Path) (node : Json) : Path → Except LookupError Json
  | [] => .ok node
  | c :: rest => match node.step c with
    | .error reason => .error ⟨reason, Path.location walked⟩
    | .ok child => lookupFrom (walked ++ [c]) child rest

def lookup (root : Json) (path : Path) : Except LookupError Json := lookupFrom [] root path

end Json

end TemplateFill
