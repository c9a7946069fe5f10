import TemplateFill.Path.Lookup
import TemplateFill.Proofs.Json.Texts
import TemplateFill.Proofs.Members

/-! # Where a path leads

A step leads to the node one component further in, or is blocked for a reason that is in
the node. A path leads to the node that lies there, whose texts are texts of the document.
Changing the strings of a document changes the node that a path leads to in the same way,
and no failure. -/
namespace TemplateFill.Json

/-- The node lies in the document at the path. -/
inductive At : Json → Path → Json → Prop
  | here (node : Json) : At node [] node
  | key {members : List (String × Json)} {name : String} {child node : Json} {path : Path}
      (hmember : (name, child) ∈ members) (hrest : At child path node) :
      At (.object members) (.key name :: path) node
  | index {items : List Json} {i : Nat} {child node : Json} {path : Path}
      (hitem : items[i]? = some child) (hrest : At child path node) :
      At (.array items) (.index i :: path) node

theorem WellFormed.of_mem {members : List (String × Json)} (h : (Json.object members).WellFormed)
    {m : String × Json} (hm : m ∈ members) : m.2.WellFormed := by
  cases h with
  | object _ hvalues => exact hvalues m hm

theorem WellFormed.of_getElem? {items : List Json} (h : (Json.array items).WellFormed) {i : Nat}
    {item : Json} (hi : items[i]? = some item) : item.WellFormed := by
  cases h with
  | array hitems => exact hitems item (List.mem_of_getElem? hi)

theorem At.lookupFrom_eq {root node : Json} {path : Path} (h : At root path node)
    (hw : root.WellFormed) (walked : Path) : root.lookupFrom walked path = .ok node := by
  induction h generalizing walked with
  | here node => rfl
  | @key members name child node path hmember hrest ih =>
    have hget : Members.get? members name = some child := by
      cases hw with
      | object hkeys _ => exact Members.get?_of_mem hkeys hmember
    simp only [lookupFrom, step, hget]
    exact ih (hw.of_mem hmember) _
  | index hitem hrest ih =>
    simp only [lookupFrom, step, hitem]
    exact ih (hw.of_getElem? hitem) _

/-- An index on the way to a node is below the length of some array of the document. -/
theorem At.exists_array {root node : Json} {path : Path} (h : At root path node) {i : Nat}
    (hi : .index i ∈ path) : ∃ before items, root.At before (.array items) ∧ i < items.length := by
  induction h with
  | here node => cases hi
  | key hmember hrest ih =>
    obtain ⟨before, items, hat, hlt⟩ := ih (by simpa using hi)
    exact ⟨_, items, .key hmember hat, hlt⟩
  | @index items j child node path hitem hrest ih =>
    rcases List.mem_cons.mp hi with he | hi
    · cases he
      exact ⟨[], items, .here _, (List.getElem?_eq_some_iff.mp hitem).1⟩
    · obtain ⟨before, items', hat, hlt⟩ := ih hi
      exact ⟨_, items', .index hitem hat, hlt⟩

theorem At.append {root node target : Json} {path rest : Path} (h : root.At path node)
    (hrest : node.At rest target) : root.At (path ++ rest) target := by
  induction h with
  | here node => exact hrest
  | key hmember _ ih => exact .key hmember (ih hrest)
  | index hitem _ ih => exact .index hitem (ih hrest)

/-- The texts of a node are texts of the document in which it lies. -/
theorem At.texts_subset {root node : Json} {path : Path} (h : root.At path node)
    {e : Role × String} (he : e ∈ node.texts) : e ∈ root.texts := by
  induction h with
  | here node => exact he
  | key hmember _ ih => exact mem_texts_value hmember (ih he)
  | index hitem _ ih => exact mem_texts_item (List.mem_of_getElem? hitem) (ih he)

/-! ## One step and all of them -/

/-- The component cannot be followed from the node, for this reason. -/
inductive Blocks : Json → Component → StepError → Prop
  | missingKey {members : List (String × Json)} {name : String}
      (h : name ∉ Members.keys members) :
      Blocks (.object members) (.key name) (.missingKey name)
  | indexOutOfRange {items : List Json} {i : Nat} (h : items.length ≤ i) :
      Blocks (.array items) (.index i) (.indexOutOfRange i items.length)
  | expectedObject {node : Json} {name : String} (h : node.nodeType ≠ .object) :
      Blocks node (.key name) (.expectedObject name node.nodeType)
  | expectedArray {node : Json} {i : Nat} (h : node.nodeType ≠ .array) :
      Blocks node (.index i) (.expectedArray i node.nodeType)

theorem at_of_step {node child : Json} {c : Component} (h : node.step c = .ok child) :
    node.At [c] child := by
  cases c with
  | key name =>
    cases node with
    | object members =>
      simp only [step] at h
      split at h
      · next hget =>
        cases h
        exact .key (Members.mem_of_get? hget) (.here _)
      · cases h
    | null | bool | number | string | array => cases h
  | index i =>
    cases node with
    | array items =>
      simp only [step] at h
      split at h
      · next hi =>
        cases h
        exact .index hi (.here _)
      · cases h
    | null | bool | number | string | object => cases h

theorem blocks_of_step {node : Json} {c : Component} {reason : StepError}
    (h : node.step c = .error reason) : node.Blocks c reason := by
  cases c with
  | key name =>
    cases node with
    | object members =>
      simp only [step] at h
      split at h
      · cases h
      · next hnone =>
        cases h
        exact .missingKey (Members.get?_eq_none_iff.mp hnone)
    | null | bool | number | string | array =>
      cases h
      exact .expectedObject (by simp [nodeType])
  | index i =>
    cases node with
    | array items =>
      simp only [step] at h
      split at h
      · cases h
      · next hnone =>
        cases h
        exact .indexOutOfRange (List.getElem?_eq_none_iff.mp hnone)
    | null | bool | number | string | object =>
      cases h
      exact .expectedArray (by simp [nodeType])

theorem Blocks.step_eq {node : Json} {c : Component} {reason : StepError}
    (h : node.Blocks c reason) : node.step c = .error reason := by
  cases h with
  | missingKey h => simp only [step, Members.get?_eq_none_iff.mpr h]
  | indexOutOfRange h => simp only [step, List.getElem?_eq_none_iff.mpr h]
  | expectedObject h =>
    cases node with
    | object members => exact absurd rfl h
    | null | bool | number | string | array => rfl
  | expectedArray h =>
    cases node with
    | array items => exact absurd rfl h
    | null | bool | number | string | object => rfl

theorem step_error_iff {node : Json} {c : Component} {reason : StepError} :
    node.step c = .error reason ↔ node.Blocks c reason :=
  ⟨blocks_of_step, Blocks.step_eq⟩

theorem at_of_lookupFrom {target : Json} :
    ∀ {path walked : Path} {node : Json}, node.lookupFrom walked path = .ok target →
      node.At path target
  | [], _, _, h => by
    cases h
    exact .here _
  | c :: rest, walked, node, h => by
    simp only [lookupFrom] at h
    split at h
    · cases h
    · next child hstep => exact (at_of_step hstep).append (at_of_lookupFrom h)

/-! ## Changed strings -/

theorem get?_mapValues (f : String → Json → Json) (name : String) :
    ∀ members : List (String × Json),
      Members.get? (members.map fun m => (m.1, f m.1 m.2)) name =
        (Members.get? members name).map (f name)
  | [] => rfl
  | (k, v) :: rest => by
    have ih := get?_mapValues f name rest
    simp only [Members.get?, List.map_cons, List.lookup_cons] at ih ⊢
    split
    · next hk =>
      rw [eq_of_beq hk]
      rfl
    · exact ih

theorem step_mapStrings (f : String → String) (node : Json) (c : Component) :
    (node.mapStrings f).step c = (node.step c).map (mapStrings f) := by
  cases c with
  | key name =>
    cases node with
    | object members =>
      simp only [mapStrings_object, step, get?_mapValues fun _ => mapStrings f]
      cases Members.get? members name <;> rfl
    | null | bool | number | string | array => rfl
  | index i =>
    cases node with
    | array items =>
      simp only [mapStrings_array, step, List.getElem?_map, List.length_map]
      cases items[i]? <;> rfl
    | null | bool | number | string | object => rfl

theorem lookupFrom_mapStrings (f : String → String) :
    ∀ (path walked : Path) (node : Json),
      (node.mapStrings f).lookupFrom walked path =
        (node.lookupFrom walked path).map (mapStrings f)
  | [], _, _ => rfl
  | c :: rest, walked, node => by
    simp only [lookupFrom, step_mapStrings]
    cases node.step c with
    | error reason => rfl
    | ok child => exact lookupFrom_mapStrings f rest (walked ++ [c]) child

theorem lookup_mapStrings (f : String → String) (root : Json) (path : Path) :
    (root.mapStrings f).lookup path = (root.lookup path).map (mapStrings f) :=
  lookupFrom_mapStrings f path [] root

theorem mem_texts_of_step {node child : Json} {c : Component} (h : node.step c = .ok child)
    {e : Role × String} (he : e ∈ child.texts) : e ∈ node.texts :=
  (at_of_step h).texts_subset he

/-- A string that a path leads to is a string of the document. -/
theorem mem_texts_of_lookup {root : Json} {path : Path} {target : String}
    (h : root.lookup path = .ok (.string target)) : (.value, target) ∈ root.texts :=
  (at_of_lookupFrom h).texts_subset (by simp [texts])

end TemplateFill.Json
