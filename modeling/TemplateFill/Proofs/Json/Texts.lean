import Mathlib.Data.List.Basic
import TemplateFill.Json.Basic

/-! # The texts of a document

A document is visited from the root inwards, items and members in their order and a
key before its value. `Json.texts` lists the texts met, `Json.mapStrings` changes the
strings among them and leaves the keys alone. -/
namespace TemplateFill

/-- Where a text of a document stands: as a key of an object or as a value. -/
inductive Role where
  | key
  | value
  deriving DecidableEq, Repr

namespace Json

/-- Arrays and objects are reached from their items and values. -/
@[elab_as_elim]
theorem induction {P : Json → Prop} (null : P .null) (bool : ∀ value, P (.bool value))
    (number : ∀ value, P (.number value)) (string : ∀ text, P (.string text))
    (array : ∀ items, (∀ item ∈ items, P item) → P (.array items))
    (object : ∀ members : List (String × Json), (∀ m ∈ members, P m.2) → P (.object members)) :
    ∀ document, P document
  | .null => null
  | .bool value => bool value
  | .number value => number value
  | .string text => string text
  | .array items => array items fun item _ =>
    induction null bool number string array object item
  | .object members => object members fun m _ =>
    induction null bool number string array object m.2
termination_by document => sizeOf document
decreasing_by
  · decreasing_tactic
  · next hm =>
    have hlt := List.sizeOf_lt_of_mem hm
    have hpair : sizeOf m = 1 + sizeOf m.1 + sizeOf m.2 := by cases m; rfl
    simp only [Json.object.sizeOf_spec]
    omega

mutual

/-- The texts of a document in the order of a visit. -/
def texts : Json → List (Role × String)
  | .string text => [(.value, text)]
  | .array items => itemTexts items
  | .object members => memberTexts members
  | .null => []
  | .bool _ => []
  | .number _ => []
termination_by structural document => document

def itemTexts : List Json → List (Role × String)
  | [] => []
  | item :: rest => texts item ++ itemTexts rest
termination_by structural items => items

def memberTexts : List (String × Json) → List (Role × String)
  | [] => []
  | (key, value) :: rest => (.key, key) :: texts value ++ memberTexts rest
termination_by structural members => members

end

@[simp] theorem texts_array (items : List Json) : (array items).texts = items.flatMap texts := by
  rw [texts]
  induction items with
  | nil => rfl
  | cons item rest ih => rw [itemTexts, ih, List.flatMap_cons]

@[simp] theorem texts_object (members : List (String × Json)) :
    (object members).texts = members.flatMap fun m => (.key, m.1) :: m.2.texts := by
  rw [texts]
  induction members with
  | nil => rfl
  | cons m rest ih => rw [memberTexts, ih, List.flatMap_cons]

theorem texts_array_cons (item : Json) (rest : List Json) :
    (array (item :: rest)).texts = item.texts ++ (array rest).texts := by
  rw [texts_array, texts_array, List.flatMap_cons]

theorem texts_object_cons (key : String) (value : Json) (rest : List (String × Json)) :
    (object ((key, value) :: rest)).texts =
      (.key, key) :: value.texts ++ (object rest).texts := by
  rw [texts_object, texts_object, List.flatMap_cons]

theorem mem_texts_item {items : List Json} {item : Json} (h : item ∈ items) {e : Role × String}
    (he : e ∈ item.texts) : e ∈ (array items).texts := by
  rw [texts_array]
  exact List.mem_flatMap.mpr ⟨item, h, he⟩

theorem mem_texts_key {members : List (String × Json)} {m : String × Json} (h : m ∈ members) :
    (.key, m.1) ∈ (object members).texts := by
  rw [texts_object]
  exact List.mem_flatMap.mpr ⟨m, h, List.mem_cons_self⟩

theorem mem_texts_value {members : List (String × Json)} {m : String × Json} (h : m ∈ members)
    {e : Role × String} (he : e ∈ m.2.texts) : e ∈ (object members).texts := by
  rw [texts_object]
  exact List.mem_flatMap.mpr ⟨m, h, List.mem_cons_of_mem _ he⟩

mutual

/-- The document with each of its strings changed. -/
def mapStrings (f : String → String) : Json → Json
  | .string text => .string (f text)
  | .array items => .array (mapItems f items)
  | .object members => .object (mapMembers f members)
  | .null => .null
  | .bool value => .bool value
  | .number value => .number value
termination_by structural document => document

def mapItems (f : String → String) : List Json → List Json
  | [] => []
  | item :: rest => mapStrings f item :: mapItems f rest
termination_by structural items => items

def mapMembers (f : String → String) : List (String × Json) → List (String × Json)
  | [] => []
  | (key, value) :: rest => (key, mapStrings f value) :: mapMembers f rest
termination_by structural members => members

end

@[simp] theorem mapStrings_array (f : String → String) (items : List Json) :
    (array items).mapStrings f = .array (items.map (mapStrings f)) := by
  rw [mapStrings]
  congr 1
  induction items with
  | nil => rfl
  | cons item rest ih => rw [mapItems, ih, List.map_cons]

@[simp] theorem mapStrings_object (f : String → String) (members : List (String × Json)) :
    (object members).mapStrings f = .object (members.map fun m => (m.1, m.2.mapStrings f)) := by
  rw [mapStrings]
  congr 1
  induction members with
  | nil => rfl
  | cons m rest ih => rw [mapMembers, ih, List.map_cons]

theorem mapStrings_congr {f g : String → String} {document : Json}
    (h : ∀ text, (.value, text) ∈ document.texts → f text = g text) :
    document.mapStrings f = document.mapStrings g := by
  induction document using Json.induction with
  | null => rfl
  | bool value => rfl
  | number value => rfl
  | string text => rw [mapStrings, mapStrings, h text (by simp [texts])]
  | array items ih =>
    rw [mapStrings_array, mapStrings_array]
    congr 1
    exact List.map_congr_left fun item hi => ih item hi fun text ht => h text (mem_texts_item hi ht)
  | object members ih =>
    rw [mapStrings_object, mapStrings_object]
    congr 1
    refine List.map_congr_left fun m hm => ?_
    rw [ih m hm fun text ht => h text (mem_texts_value hm ht)]

theorem mapStrings_id (document : Json) : (document.mapStrings fun text => text) = document := by
  induction document using Json.induction with
  | null => rfl
  | bool value => rfl
  | number value => rfl
  | string text => rfl
  | array items ih =>
    rw [mapStrings_array, List.map_congr_left ih, List.map_id']
  | object members ih =>
    have hself : ∀ m ∈ members, (m.1, m.2.mapStrings fun text => text) = m := by
      intro m hm
      rw [ih m hm]
    rw [mapStrings_object, List.map_congr_left hself, List.map_id']

theorem mapStrings_mapStrings (f g : String → String) (document : Json) :
    (document.mapStrings f).mapStrings g = document.mapStrings fun text => g (f text) := by
  induction document using Json.induction with
  | null => rfl
  | bool value => rfl
  | number value => rfl
  | string text => rfl
  | array items ih =>
    simp only [mapStrings_array, List.map_map]
    congr 1
    exact List.map_congr_left ih
  | object members ih =>
    simp only [mapStrings_object, List.map_map]
    congr 1
    refine List.map_congr_left fun m hm => ?_
    exact Prod.ext rfl (ih m hm)

/-- What changing the strings makes of a text of the document. -/
def mapText (f : String → String) : Role × String → Role × String
  | (.key, key) => (.key, key)
  | (.value, text) => (.value, f text)

theorem texts_mapStrings (f : String → String) (document : Json) :
    (document.mapStrings f).texts = document.texts.map (mapText f) := by
  induction document using Json.induction with
  | null => rfl
  | bool value => rfl
  | number value => rfl
  | string text => rfl
  | array items ih =>
    simp only [mapStrings_array, texts_array, List.flatMap_map, List.map_flatMap]
    exact List.flatMap_congr ih
  | object members ih =>
    simp only [mapStrings_object, texts_object, List.flatMap_map, List.map_flatMap]
    refine List.flatMap_congr fun m hm => ?_
    rw [ih m hm]
    rfl

theorem key_mem_texts_mapStrings {f : String → String} {document : Json} {key : String} :
    (.key, key) ∈ (document.mapStrings f).texts ↔ (.key, key) ∈ document.texts := by
  rw [texts_mapStrings, List.mem_map]
  constructor
  · rintro ⟨⟨role, text⟩, ht, he⟩
    cases role with
    | key =>
      cases he
      exact ht
    | value => cases he
  · exact fun hk => ⟨(.key, key), hk, rfl⟩

theorem forall_mem_texts_mapStrings {f : String → String} {document : Json} {P : String → Prop}
    (hkeys : ∀ key, (.key, key) ∈ document.texts → P key)
    (hvalues : ∀ text, (.value, text) ∈ document.texts → P (f text)) :
    ∀ e ∈ (document.mapStrings f).texts, P e.2 := by
  intro e he
  rw [texts_mapStrings] at he
  obtain ⟨⟨role, text⟩, ht, rfl⟩ := List.mem_map.mp he
  cases role with
  | key => exact hkeys text ht
  | value => exact hvalues text ht

/-- No object of the document has two members of one key. All documents that are read,
and all that a sweep gives, are so. -/
inductive WellFormed : Json → Prop
  | null : WellFormed .null
  | bool (value : Bool) : WellFormed (.bool value)
  | number (value : Number) : WellFormed (.number value)
  | string (text : String) : WellFormed (.string text)
  | array {items : List Json} (hitems : ∀ item ∈ items, WellFormed item) :
      WellFormed (.array items)
  | object {members : List (String × Json)} (hkeys : (Members.keys members).Nodup)
      (hvalues : ∀ m ∈ members, WellFormed m.2) : WellFormed (.object members)

theorem WellFormed.mapStrings {document : Json} (h : document.WellFormed) (f : String → String) :
    (document.mapStrings f).WellFormed := by
  induction h with
  | null => exact .null
  | bool value => exact .bool value
  | number value => exact .number value
  | string text => exact .string _
  | array hitems ih =>
    rw [mapStrings_array]
    refine .array fun item hi => ?_
    obtain ⟨item, hmem, rfl⟩ := List.mem_map.mp hi
    exact ih item hmem
  | object hkeys hvalues ih =>
    rw [mapStrings_object]
    refine .object (by simpa [Members.keys, Function.comp_def] using hkeys) fun m hm => ?_
    obtain ⟨m, hmem, rfl⟩ := List.mem_map.mp hm
    exact ih m hmem

end Json

end TemplateFill
