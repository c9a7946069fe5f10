import TemplateFill.Placeholder.Resolve

/-! Substitution in one text: each placeholder gives way to its value or stays as
it is. A text without placeholders stays as it is, and in the generative mode one
that looks as if it were meant to hold a placeholder is warned of as a whole. -/
namespace TemplateFill

/-- A result, the warnings met on the way to it in their order, and the position
reached in the random words. -/
structure Outcome (α : Type) where
  result : α
  diagnostics : List Diagnostic
  position : Nat

/-- The text that takes a placeholder's place. -/
def Resolution.textFor (placeholder : Placeholder) : Resolution → String
  | .value text => text
  | .unmodified _ => placeholder.raw

def Resolution.diagnostics : Resolution → List Diagnostic
  | .value _ => []
  | .unmodified diagnostic => diagnostic.toList

namespace Supply

/-- Fills segments one after the other; `tail` follows the last of them. -/
def fillSegments (supply : Supply) (mode : Mode) (root : Json) (tail : String) :
    List (String × Placeholder) → Nat → Outcome String
  | [], position => ⟨tail, [], position⟩
  | (before, placeholder) :: rest, position =>
    let (resolution, position) := supply.resolve mode root placeholder position
    let others := supply.fillSegments mode root tail rest position
    ⟨before ++ resolution.textFor placeholder ++ others.result,
      resolution.diagnostics ++ others.diagnostics, others.position⟩

def substitute (supply : Supply) (mode : Mode) (root : Json) (text : String) (position : Nat) :
    Outcome String :=
  let template := Template.ofText text
  if template.segments.isEmpty then
    let suspect := mode = .generative ∧ Template.looksLikeOne false text.toList
    ⟨text, if suspect then [⟨.malformed, text⟩] else [], position⟩
  else supply.fillSegments mode root template.tail template.segments position

end Supply

end TemplateFill
