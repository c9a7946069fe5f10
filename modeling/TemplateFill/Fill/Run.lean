import TemplateFill.Fill.Sweep

/-! Filling a document takes five passes. A pass sweeps the document in the
generative mode and then the result in the reference mode, with the result itself
as the root that paths start from; so references see the values generated in the
same pass, and each pass doubles how far along a chain of references a text can
come. The warnings of the last pass are those that matter. -/
namespace TemplateFill

def passCount : Nat := 5

/-- Where filling stands: the document, the warnings of the last pass without
repetitions, how many of them each pass had, and the position in the random words. -/
structure Report where
  document : Json
  diagnostics : List Diagnostic
  warningCounts : List Nat
  position : Nat

namespace Supply

def pass (supply : Supply) (document : Json) (position : Nat) : Outcome Json :=
  let generated := supply.sweep .generative document document position
  let resolved := supply.sweep .reference generated.result generated.result generated.position
  ⟨resolved.result, (generated.diagnostics ++ resolved.diagnostics).eraseDups, resolved.position⟩

def advance (supply : Supply) (report : Report) : Report :=
  let outcome := supply.pass report.document report.position
  ⟨outcome.result, outcome.diagnostics,
    report.warningCounts ++ [outcome.diagnostics.length], outcome.position⟩

/-- Fills a document with the random words from `position` on. -/
def fill (supply : Supply) (document : Json) (position : Nat) : Report :=
  Nat.repeat supply.advance passCount ⟨document, [], [], position⟩

end Supply

end TemplateFill
