import TemplateFill.Placeholder.Substitute

/-! A sweep substitutes in every text of a document, keys as well as strings. Items
and members are visited in their order, a key before its value. A key may become
equal to an earlier one; then the later value stands in the earlier place. -/
namespace TemplateFill.Supply

mutual

def sweep (supply : Supply) (mode : Mode) (root : Json) : Json → Nat → Outcome Json
  | .string text, position =>
    let filled := supply.substitute mode root text position
    ⟨.string filled.result, filled.diagnostics, filled.position⟩
  | .array items, position =>
    let swept := supply.sweepItems mode root items position
    ⟨.array swept.result, swept.diagnostics, swept.position⟩
  | .object members, position =>
    let swept := supply.sweepMembers mode root members position
    ⟨.object (Members.ofList swept.result), swept.diagnostics, swept.position⟩
  | .null, position => ⟨.null, [], position⟩
  | .bool value, position => ⟨.bool value, [], position⟩
  | .number value, position => ⟨.number value, [], position⟩
termination_by structural node => node

def sweepItems (supply : Supply) (mode : Mode) (root : Json) :
    List Json → Nat → Outcome (List Json)
  | [], position => ⟨[], [], position⟩
  | item :: rest, position =>
    let first := supply.sweep mode root item position
    let others := supply.sweepItems mode root rest first.position
    ⟨first.result :: others.result, first.diagnostics ++ others.diagnostics, others.position⟩
termination_by structural items => items

/-- The members with their keys and values swept, before keys are merged. -/
def sweepMembers (supply : Supply) (mode : Mode) (root : Json) :
    List (String × Json) → Nat → Outcome (List (String × Json))
  | [], position => ⟨[], [], position⟩
  | (key, value) :: rest, position =>
    let name := supply.substitute mode root key position
    let first := supply.sweep mode root value name.position
    let others := supply.sweepMembers mode root rest first.position
    ⟨(name.result, first.result) :: others.result,
      name.diagnostics ++ first.diagnostics ++ others.diagnostics, others.position⟩
termination_by structural members => members

end

end TemplateFill.Supply
