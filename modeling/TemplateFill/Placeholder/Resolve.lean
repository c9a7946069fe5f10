import TemplateFill.Path.Parser
import TemplateFill.Path.Lookup
import TemplateFill.Placeholder.Diagnostic
import TemplateFill.Placeholder.Length
import TemplateFill.Placeholder.Template
import TemplateFill.Random.Text

/-! Resolving one placeholder. Random kinds and variables get their values in the
generative mode, references in the reference mode. What cannot be resolved stays
as it is, with one warning in the mode of its kind; a name of no kind is warned of
in the generative mode. -/
namespace TemplateFill

/-- What values are taken from, the document apart: the variables of the
environment, and random words. -/
structure Supply where
  env : String → Option String
  random : Random.Generator

/-- What becomes of a placeholder. -/
inductive Resolution where
  | value (text : String)
  | unmodified (diagnostic : Option Diagnostic)
  deriving DecidableEq, Repr

/-- The string that a reference leads to. -/
def resolveReference (argument : String) (root : Json) : Except Cause String :=
  match Path.parse argument with
  | .error e => .error (.invalidPath e.message)
  | .ok path => match root.lookup path with
    | .error e => .error (.traversal e.message)
    | .ok (.string text) => .ok text
    | .ok node => .error (.notAString node.nodeType)

namespace Supply

/-- A random text of the length that an argument names. -/
def randomText (supply : Supply) (alphabet : Random.Alphabet) (argument : String)
    (position : Nat) : Except Cause (String × Nat) :=
  match parseLength argument with
  | .error e => .error (.invalidLength e.message)
  | .ok length => .ok (supply.random.text alphabet length position)

def randomBase64 (supply : Supply) (argument : String) (position : Nat) :
    Except Cause (String × Nat) :=
  match parseLength argument with
  | .error e => .error (.invalidLength e.message)
  | .ok count => .ok (supply.random.base64 count position)

/-- The value of a placeholder of a known kind. A variable that is not set is empty. -/
def fulfil (supply : Supply) (root : Json) (kind : Kind) (argument : String) (position : Nat) :
    Except Cause (String × Nat) :=
  match kind with
  | .alnum => supply.randomText .alnum argument position
  | .alpha => supply.randomText .alpha argument position
  | .digit => supply.randomText .digit argument position
  | .b64 => supply.randomBase64 argument position
  | .env => .ok ((supply.env argument).getD "", position)
  | .ref => (resolveReference argument root).map fun text => (text, position)

/-- Resolves a placeholder with the random words from `position` on, and gives the
position reached. -/
def resolve (supply : Supply) (mode : Mode) (root : Json) (placeholder : Placeholder)
    (position : Nat) : Resolution × Nat :=
  match Kind.ofName? placeholder.kind with
  | none =>
    let warning : Diagnostic := ⟨.unknownKind placeholder.kind, placeholder.raw⟩
    (.unmodified (if mode = .generative then some warning else none), position)
  | some kind =>
    if kind.mode ≠ mode then (.unmodified none, position)
    else match supply.fulfil root kind placeholder.argument position with
      | .ok (text, position) => (.value text, position)
      | .error cause => (.unmodified (some ⟨cause, placeholder.raw⟩), position)

end Supply

end TemplateFill
