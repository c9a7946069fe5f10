import TemplateFill.Proofs.Fill.Warnings

/-! # Members whose keys become equal

A sweep visits the members of an object one after the other, each key before its value. Of
the pairs that it makes of them, those with equal keys become one member, at the place of
the first and with the value of the last. -/
namespace TemplateFill

/-- Members stand in the order in which their keys were first given. -/
theorem Members.firstSeen_keys_ofList {κ α : Type} [DecidableEq κ] (pairs : List (κ × α)) :
    FirstSeen (keys pairs) (keys (ofList pairs)) := by
  induction pairs using List.reverseRecOn with
  | nil => exact ⟨List.nodup_nil, by simp [ofList, keys], List.Pairwise.nil⟩
  | append_singleton pairs q ih =>
    rw [keys_snoc, ofList_snoc, keys_insert]
    simp only [ih.mem_iff q.1]
    exact ih.snoc q.1

namespace Supply

/-- What a sweep makes of one member: of its key, and then of its value. -/
structure Visit where
  name : Outcome String
  value : Outcome Json

namespace Visit

def pair (visit : Visit) : String × Json := (visit.name.result, visit.value.result)

def diagnostics (visit : Visit) : List Diagnostic :=
  visit.name.diagnostics ++ visit.value.diagnostics

end Visit

/-- Visits to members, one after the other. A key is substituted from the position that the
member before it reached, and its value is swept from the position that the key reached. -/
inductive Visits (supply : Supply) (mode : Mode) (root : Json) :
    Nat → List (String × Json) → List Visit → Nat → Prop
  | nil (position : Nat) : Visits supply mode root position [] [] position
  | cons {position after : Nat} {key : String} {value : Json} {rest : List (String × Json)}
      {visit : Visit} {others : List Visit}
      (hname : visit.name = supply.substitute mode root key position)
      (hvalue : visit.value = supply.sweep mode root value visit.name.position)
      (hrest : Visits supply mode root visit.value.position rest others after) :
      Visits supply mode root position ((key, value) :: rest) (visit :: others) after

variable (supply : Supply) (mode : Mode) (root : Json)

variable {supply mode root} in
theorem Visits.length_eq {position after : Nat} {members : List (String × Json)}
    {visits : List Visit} (h : supply.Visits mode root position members visits after) :
    visits.length = members.length := by
  induction h with
  | nil => rfl
  | cons _ _ _ ih => simp only [List.length_cons, ih]

/-- Every member is visited, whatever becomes of its pair. -/
theorem exists_visits (members : List (String × Json)) (position : Nat) :
    let swept := supply.sweepMembers mode root members position
    ∃ visits, supply.Visits mode root position members visits swept.position ∧
      swept.result = visits.map Visit.pair ∧
      swept.diagnostics = visits.flatMap Visit.diagnostics := by
  induction members generalizing position with
  | nil => exact ⟨[], .nil position, rfl, rfl⟩
  | cons m rest ih =>
    obtain ⟨key, value⟩ := m
    let name := supply.substitute mode root key position
    let first := supply.sweep mode root value name.position
    obtain ⟨others, hvisits, hpairs, hwarned⟩ := ih first.position
    refine ⟨⟨name, first⟩ :: others, .cons rfl rfl hvisits, ?_, ?_⟩
    · rw [sweepMembers, hpairs]
      rfl
    · rw [sweepMembers, hwarned]
      rfl

/-- Every member of an object is visited, with all that this draws and warns of. Pairs with
equal keys become one member, at the place of the first and with the value of the last. So
an object keeps all its members, in their order, if and only if their keys stay distinct,
and no document that a sweep or a run gives has a key twice in an object. -/
theorem sweep_merges_keys (members : List (String × Json)) (position : Nat) :
    let swept := supply.sweep mode root (.object members) position
    (∃ visits merged, supply.Visits mode root position members visits swept.position ∧
      swept.diagnostics = visits.flatMap Visit.diagnostics ∧ swept.result = .object merged ∧
      let pairs := visits.map Visit.pair
      FirstSeen (Members.keys pairs) (Members.keys merged) ∧
      (∀ m, m ∈ merged ↔ Members.LastGiven pairs m) ∧
      (merged = pairs ↔ (Members.keys pairs).Nodup) ∧
      (merged.length = members.length ↔ (Members.keys pairs).Nodup)) ∧
    (∀ mode root document position,
      (supply.sweep mode root document position).result.WellFormed) ∧
    ∀ document position, (supply.fill document position).document.WellFormed := by
  intro swept
  obtain ⟨visits, hvisits, hpairs, hwarned⟩ := supply.exists_visits mode root members position
  have hseen := Members.firstSeen_keys_ofList (visits.map Visit.pair)
  have hnodup := Members.nodup_keys_ofList (visits.map Visit.pair)
  have hlength : (Members.keys (visits.map Visit.pair)).length = members.length := by
    rw [Members.keys, List.length_map, List.length_map, hvisits.length_eq]
  refine ⟨⟨visits, Members.ofList (visits.map Visit.pair), hvisits, hwarned, ?_, hseen,
    fun m => Members.mem_ofList_iff, ⟨fun h => ?_, Members.ofList_eq_self⟩, fun h => ?_,
    fun h => ?_⟩, supply.sweep_wellFormed, fun document position => supply.sweep_wellFormed ..⟩
  · show Json.object (Members.ofList _) = _
    rw [hpairs]
  · rwa [h] at hnodup
  · refine hseen.nodup_of_length_eq ?_
    rw [hlength, ← h, Members.keys, List.length_map]
  · rw [Members.ofList_eq_self h, List.length_map, hvisits.length_eq]

end Supply

end TemplateFill
