import Mathlib.Data.List.FinRange
import Mathlib.Data.List.NodupEquivFin
import Mathlib.Data.List.Perm.Basic
import TemplateFill.Placeholder.Resolve
import TemplateFill.Proofs.Path.Lookup

/-! # Documents with their members in another order

An `Order` says how the members of each object are to be arranged, object by object as
paths lead to them. A document whose members stand in another order, at any depths, is
the document rearranged. The texts are the same but for their order, and so is what a
path leads to, or why it leads nowhere. -/
namespace TemplateFill

namespace Members

/-! ## Arranged members -/

variable {α β : Type} (σ : (n : Nat) → Equiv.Perm (Fin n))

/-- The entries of a list in a new order, one for each length of list. -/
def arrange (xs : List α) : List α := List.ofFn fun i => xs.get (σ xs.length i)

theorem arrange_perm (xs : List α) : (arrange σ xs).Perm xs := by
  have h := (σ xs.length).ofFn_comp_perm xs.get
  rwa [List.ofFn_get] at h

theorem arrange_eq {n : Nat} (xs : List α) (h : n = xs.length) :
    arrange σ xs = List.ofFn fun i : Fin n => xs.get ((σ n i).cast h) := by
  subst h
  rfl

theorem map_arrange (f : α → β) (xs : List α) :
    (arrange σ xs).map f = arrange σ (xs.map f) := by
  rw [arrange_eq σ (xs.map f) (xs.length_map f).symm, arrange, List.map_ofFn]
  congr 1
  funext i
  simp

/-- A list without repetitions that has the entries of another is that one arranged. -/
theorem exists_arrange {xs ys : List α} (h : xs.Perm ys) (hnodup : xs.Nodup) :
    ∃ σ : (n : Nat) → Equiv.Perm (Fin n), ys = arrange σ xs := by
  classical
  let across : {x // x ∈ ys} ≃ {x // x ∈ xs} := Equiv.subtypeEquivRight fun x => h.mem_iff.symm
  let place : Fin ys.length ≃ Fin xs.length :=
    (List.Nodup.getEquiv ys (h.nodup hnodup)).trans
      (across.trans (List.Nodup.getEquiv xs hnodup).symm)
  have hplace : ∀ i, xs.get (place i) = ys.get i := by
    intro i
    have hi := (List.Nodup.getEquiv xs hnodup).apply_symm_apply
      (across (List.Nodup.getEquiv ys (h.nodup hnodup) i))
    exact congrArg Subtype.val hi
  let σ (n : Nat) : Equiv.Perm (Fin n) :=
    if hn : n = ys.length then
      (finCongr hn).trans (place.trans (finCongr (h.length_eq.trans hn.symm)))
    else Equiv.refl _
  refine ⟨σ, ?_⟩
  rw [arrange_eq σ xs h.length_eq.symm]
  refine List.ext_get (by simp) fun i hi hi' => ?_
  simpa [σ] using (hplace ⟨i, hi⟩).symm

end Members

namespace Json

/-! ## Rearranged documents -/

/-- How the members of the object that a path leads to are arranged. -/
abbrev Order := Path → (n : Nat) → Equiv.Perm (Fin n)

namespace Order

/-- The order below a step. -/
def inside (order : Order) (c : Component) : Order := fun path => order (c :: path)

/-- An order given by what it is at the root and below each step. -/
def node (here : (n : Nat) → Equiv.Perm (Fin n)) (below : Component → Order) : Order
  | [] => here
  | c :: path => below c path

/-- Everything stays in its place. -/
def id : Order := fun _ _ => Equiv.refl _

/-- The orders below the steps into an array. -/
def inItems (orders : Nat → Order) : Component → Order
  | .index i => orders i
  | .key _ => id

/-- The orders below the steps into an object. -/
def inMembers (orders : String → Order) : Component → Order
  | .key key => orders key
  | .index _ => id

end Order

mutual

def reorder (order : Order) : Json → Json
  | .string text => .string text
  | .array items => .array (reorderItems order 0 items)
  | .object members => .object (Members.arrange (order []) (reorderValues order members))
  | .null => .null
  | .bool value => .bool value
  | .number value => .number value
termination_by structural document => document

/-- The items from a place on. -/
def reorderItems (order : Order) (place : Nat) : List Json → List Json
  | [] => []
  | item :: rest =>
    reorder (order.inside (.index place)) item :: reorderItems order (place + 1) rest
termination_by structural items => items

/-- The members where they are, with their values rearranged. -/
def reorderValues (order : Order) : List (String × Json) → List (String × Json)
  | [] => []
  | (key, value) :: rest =>
    (key, reorder (order.inside (.key key)) value) :: reorderValues order rest
termination_by structural members => members

end

/-- A member with its value rearranged. -/
def reorderMember (order : Order) (m : String × Json) : String × Json :=
  (m.1, m.2.reorder (order.inside (.key m.1)))

theorem keys_reorderMember (order : Order) (members : List (String × Json)) :
    Members.keys (members.map (reorderMember order)) = Members.keys members := by
  simp [Members.keys, reorderMember, Function.comp_def]

theorem reorder_object (order : Order) (members : List (String × Json)) :
    (object members).reorder order =
      .object (Members.arrange (order []) (members.map (reorderMember order))) := by
  have hvalues : ∀ ms : List (String × Json),
      reorderValues order ms = ms.map (reorderMember order) := by
    intro ms
    induction ms with
    | nil => rfl
    | cons m rest ih => rw [reorderValues, ih]; rfl
  rw [reorder, hvalues]

theorem reorder_array (order : Order) (items : List Json) :
    (array items).reorder order =
      .array (items.mapIdx fun i item => item.reorder (order.inside (.index i))) := by
  have hitems : ∀ (xs : List Json) (place : Nat), reorderItems order place xs =
      xs.mapIdx fun i item => item.reorder (order.inside (.index (place + i))) := by
    intro xs
    induction xs with
    | nil => exact fun _ => rfl
    | cons item rest ih =>
      intro place
      rw [reorderItems, ih, List.mapIdx_cons]
      simp only [Nat.add_zero, Nat.add_assoc, Nat.add_comm 1]
  rw [reorder, hitems]
  simp only [Nat.zero_add]

/-- The second document is the first with the members of its objects, at any depths, in
another order. -/
inductive Reordered : Json → Json → Prop
  | null : Reordered .null .null
  | bool (value : Bool) : Reordered (.bool value) (.bool value)
  | number (value : Number) : Reordered (.number value) (.number value)
  | string (text : String) : Reordered (.string text) (.string text)
  | array {items items' : List Json} (hlength : items'.length = items.length)
      (hitems : ∀ i (h : i < items.length) (h' : i < items'.length),
        Reordered items[i] items'[i]) :
      Reordered (.array items) (.array items')
  | object {members between members' : List (String × Json)}
      (hkeys : Members.keys between = Members.keys members)
      (hvalues : ∀ i (h : i < members.length) (h' : i < between.length),
        Reordered members[i].2 between[i].2)
      (hperm : between.Perm members') : Reordered (.object members) (.object members')

theorem reordered_reorder (order : Order) (document : Json) :
    Reordered document (document.reorder order) := by
  induction document using Json.induction generalizing order with
  | null => exact .null
  | bool value => exact .bool value
  | number value => exact .number value
  | string text => exact .string text
  | array items ih =>
    rw [reorder_array]
    refine .array (by simp) fun i h h' => ?_
    rw [List.getElem_mapIdx]
    exact ih items[i] (List.getElem_mem h) _
  | object members ih =>
    rw [reorder_object]
    refine .object (keys_reorderMember order members) (fun i h h' => ?_)
      (Members.arrange_perm _ _).symm
    rw [List.getElem_map]
    exact ih members[i] (List.getElem_mem h) _

/-- A document whose members stand in another order is the document rearranged. -/
theorem Reordered.exists_order {d d' : Json} (h : Reordered d d') (hw : d.WellFormed) :
    ∃ order, d' = d.reorder order := by
  induction h with
  | null => exact ⟨Order.id, rfl⟩
  | bool value => exact ⟨Order.id, rfl⟩
  | number value => exact ⟨Order.id, rfl⟩
  | string text => exact ⟨Order.id, rfl⟩
  | @array items items' hlength hitems ih =>
    cases hw with
    | array hw =>
      have hinside : ∀ i, ∃ order, ∀ (h : i < items.length) (h' : i < items'.length),
          items'[i] = items[i].reorder order := by
        intro i
        by_cases h : i < items.length
        · obtain ⟨order, ho⟩ := ih i h (by omega) (hw _ (List.getElem_mem h))
          exact ⟨order, fun _ _ => ho⟩
        · exact ⟨Order.id, fun h' => absurd h' h⟩
      choose inside hinside using hinside
      refine ⟨.node (Order.id []) (Order.inItems inside), ?_⟩
      rw [reorder_array]
      congr 1
      refine List.ext_getElem (by simp [hlength]) fun i h h' => ?_
      rw [List.getElem_mapIdx]
      exact hinside i (by omega) h
  | @object members between members' hkeys hvalues hperm ih =>
    cases hw with
    | object hnodup hw =>
      have hlength := Members.length_eq_of_keys_eq hkeys
      have hinside : ∀ key, ∃ order, ∀ i (h : i < members.length) (h' : i < between.length),
          members[i].1 = key → between[i].2 = members[i].2.reorder order := by
        intro key
        by_cases hkey : ∃ i, ∃ h : i < members.length, members[i].1 = key
        · obtain ⟨i, h, rfl⟩ := hkey
          obtain ⟨order, ho⟩ := ih i h (by omega) (hw _ (List.getElem_mem h))
          refine ⟨order, fun j hj hj' he => ?_⟩
          obtain rfl := Members.eq_of_fst_getElem_eq hnodup hj h he
          exact ho
        · exact ⟨Order.id, fun i h _ he => absurd ⟨i, h, he⟩ hkey⟩
      choose inside hinside using hinside
      have hbetween : (Members.keys between).Nodup := by rwa [hkeys]
      obtain ⟨σ, hσ⟩ := Members.exists_arrange hperm (List.Nodup.of_map Prod.fst hbetween)
      refine ⟨.node σ (Order.inMembers inside), ?_⟩
      rw [reorder_object, hσ]
      congr 2
      refine List.ext_getElem (by simp [hlength]) fun i h h' => ?_
      have hi : i < members.length := by omega
      rw [List.getElem_map]
      exact Prod.ext (Members.fst_getElem_of_keys_eq hkeys hi h) (hinside _ i hi h rfl)

/-! ## What rearranging keeps -/

theorem reorder_mapStrings (f : String → String) (order : Order) (document : Json) :
    (document.mapStrings f).reorder order = (document.reorder order).mapStrings f := by
  induction document using Json.induction generalizing order with
  | null => rfl
  | bool value => rfl
  | number value => rfl
  | string text => rfl
  | array items ih =>
    rw [mapStrings_array, reorder_array, reorder_array, mapStrings_array]
    congr 1
    refine List.ext_getElem (by simp) fun i h h' => ?_
    simp only [List.getElem_mapIdx, List.getElem_map]
    exact ih _ (List.getElem_mem _) _
  | object members ih =>
    rw [mapStrings_object, reorder_object, reorder_object, mapStrings_object,
      Members.map_arrange, List.map_map, List.map_map]
    congr 2
    refine List.map_congr_left fun m hm => ?_
    exact Prod.ext rfl (ih m hm _)

/-- The same texts are met, in another order. -/
theorem texts_reorder (order : Order) (document : Json) :
    (document.reorder order).texts.Perm document.texts := by
  induction document using Json.induction generalizing order with
  | null => exact .refl _
  | bool value => exact .refl _
  | number value => exact .refl _
  | string text => exact .refl _
  | array items ih =>
    have hplaces : items.flatMap texts = items.zipIdx.flatMap fun p => p.1.texts := by
      rw [← List.flatMap_map Prod.fst, List.zipIdx_map_fst]
    rw [reorder_array, texts_array, texts_array, hplaces, List.mapIdx_eq_zipIdx_map,
      List.flatMap_map]
    exact .flatMap_left _ fun p hp => ih p.1 (List.fst_mem_of_mem_zipIdx hp) _
  | object members ih =>
    rw [reorder_object, texts_object, texts_object]
    refine ((Members.arrange_perm _ _).flatMap_right _).trans ?_
    rw [List.flatMap_map]
    exact .flatMap_left _ fun m hm => (ih m hm _).cons _

theorem WellFormed.reorder {document : Json} (h : document.WellFormed) (order : Order) :
    (document.reorder order).WellFormed := by
  induction h generalizing order with
  | null => exact .null
  | bool value => exact .bool value
  | number value => exact .number value
  | string text => exact .string text
  | array hitems ih =>
    rw [reorder_array]
    refine .array fun item hi => ?_
    obtain ⟨i, h, rfl⟩ := List.mem_mapIdx.mp hi
    exact ih _ (List.getElem_mem h) _
  | @object members hkeys hvalues ih =>
    rw [reorder_object]
    have hperm := Members.arrange_perm (order []) (members.map (reorderMember order))
    have hnodup : (Members.keys (members.map (reorderMember order))).Nodup := by
      rwa [keys_reorderMember]
    refine .object ((hperm.map Prod.fst).nodup_iff.mpr hnodup) fun m hm => ?_
    obtain ⟨m, hmem, rfl⟩ := List.mem_map.mp (hperm.mem_iff.mp hm)
    exact ih m hmem _

theorem step_reorder {node : Json} (hw : node.WellFormed) (order : Order) (c : Component) :
    (node.reorder order).step c = (node.step c).map (Json.reorder (order.inside c)) := by
  cases c with
  | key name =>
    cases hw with
    | @object members hkeys hvalues =>
      have hget : Members.get? (Members.arrange (order []) (members.map (reorderMember order)))
          name = (Members.get? members name).map (Json.reorder (order.inside (.key name))) := by
        rw [Members.get?_perm (Members.arrange_perm _ _) (by rwa [keys_reorderMember])]
        exact get?_mapValues (fun key => Json.reorder (order.inside (.key key))) name members
      simp only [reorder_object, step, hget]
      cases Members.get? members name <;> rfl
    | null | bool | number | string | array => rfl
  | index i =>
    cases hw with
    | @array items hitems =>
      simp only [reorder_array, step, List.getElem?_mapIdx, List.length_mapIdx]
      cases items[i]? <;> rfl
    | null | bool | number | string | object => rfl

theorem WellFormed.of_step {node child : Json} (hw : node.WellFormed) {c : Component}
    (h : node.step c = .ok child) : child.WellFormed := by
  cases at_of_step h with
  | key hmember hrest =>
    cases hrest
    exact hw.of_mem hmember
  | index hitem hrest =>
    cases hrest
    exact hw.of_getElem? hitem

/-- A path leads to the same node, rearranged, or nowhere for the same reason. -/
theorem lookupFrom_reorder {path walked : Path} {node : Json} (hw : node.WellFormed)
    (order : Order) :
    (node.reorder order).lookupFrom walked path =
      (node.lookupFrom walked path).map (Json.reorder fun rest => order (path ++ rest)) := by
  induction path generalizing walked node order with
  | nil => rfl
  | cons c rest ih =>
    simp only [lookupFrom, step_reorder hw]
    cases hstep : node.step c with
    | error reason => rfl
    | ok child => exact ih (hw.of_step hstep) (order.inside c)

end Json

/-- A reference leads to the same string in the rearranged document, or fails for the
same reason. -/
theorem resolveReference_reorder {root : Json} (hw : root.WellFormed) (order : Json.Order)
    (argument : String) :
    resolveReference argument (root.reorder order) = resolveReference argument root := by
  unfold resolveReference
  split
  · rfl
  · next path hpath =>
    rw [Json.lookup, Json.lookupFrom_reorder hw, ← Json.lookup]
    cases root.lookup path with
    | error e => rfl
    | ok node => cases node <;> rfl

end TemplateFill
