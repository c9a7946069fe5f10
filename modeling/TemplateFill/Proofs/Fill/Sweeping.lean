import Mathlib.Data.List.Forall2
import TemplateFill.Fill.Run
import TemplateFill.Proofs.Json.Texts
import TemplateFill.Proofs.Members

/-! # What a sweep makes of a document

Each item and each member of the result is the sweep of the one at its place, from
some position; only equal keys are merged. Where substitution uses no random words
and leaves the keys as they are, a sweep is a map over the strings of the document.
What every sweep keeps, filling keeps. -/
namespace TemplateFill.Supply

/-- Of two lists related place by place, each entry of the second has one of the first. -/
theorem exists_of_mem_right {α β : Type} {R : α → β → Prop} {xs : List α} {ys : List β}
    (h : List.Forall₂ R xs ys) {y : β} (hy : y ∈ ys) : ∃ x ∈ xs, R x y := by
  induction h with
  | nil => cases hy
  | @cons x y' xs ys hr _ ih =>
    rcases List.mem_cons.mp hy with rfl | hy
    · exact ⟨x, List.mem_cons_self, hr⟩
    · obtain ⟨x', hx', hr'⟩ := ih hy
      exact ⟨x', List.mem_cons_of_mem _ hx', hr'⟩

variable (supply : Supply) (mode : Mode) (root : Json)

theorem sweepItems_forall₂ : ∀ (items : List Json) (position : Nat),
    List.Forall₂ (fun item swept => ∃ position, swept = (supply.sweep mode root item position).result)
      items (supply.sweepItems mode root items position).result
  | [], _ => .nil
  | item :: rest, position =>
    .cons ⟨position, rfl⟩ (sweepItems_forall₂ rest (supply.sweep mode root item position).position)

theorem sweepMembers_forall₂ : ∀ (members : List (String × Json)) (position : Nat),
    List.Forall₂ (fun m swept =>
        (∃ position, swept.1 = (supply.substitute mode root m.1 position).result) ∧
        ∃ position, swept.2 = (supply.sweep mode root m.2 position).result)
      members (supply.sweepMembers mode root members position).result
  | [], _ => .nil
  | (key, value) :: rest, position =>
    .cons ⟨⟨position, rfl⟩, ⟨(supply.substitute mode root key position).position, rfl⟩⟩
      (sweepMembers_forall₂ rest
        (supply.sweep mode root value (supply.substitute mode root key position).position).position)

/-- A swept document has no two members of one key in an object. -/
theorem sweep_wellFormed (document : Json) :
    ∀ position, (supply.sweep mode root document position).result.WellFormed := by
  induction document using Json.induction with
  | null => exact fun _ => .null
  | bool value => exact fun _ => .bool value
  | number value => exact fun _ => .number value
  | string text => exact fun _ => .string _
  | array items ih =>
    intro position
    refine .array fun swept hs => ?_
    obtain ⟨item, hi, position', rfl⟩ :=
      exists_of_mem_right (supply.sweepItems_forall₂ mode root items position) hs
    exact ih item hi position'
  | object members ih =>
    intro position
    refine .object (Members.nodup_keys_ofList _) fun swept hs => ?_
    obtain ⟨m, hm, -, position', he⟩ :=
      exists_of_mem_right (supply.sweepMembers_forall₂ mode root members position)
        (Members.mem_of_mem_ofList hs)
    rw [he]
    exact ih m hm position'

/-- Substitution in these texts uses no random words: a text `t` becomes `f t` and is
warned of by `g t`, from every position. -/
def Steady (texts : List (Role × String)) (f : String → String) (g : String → List Diagnostic) :
    Prop :=
  ∀ e ∈ texts, ∀ position, supply.substitute mode root e.2 position = ⟨f e.2, g e.2, position⟩

variable {supply mode root} {f : String → String} {g : String → List Diagnostic}

theorem sweepItems_eq {result : Json → Json} {warnings : Json → List Diagnostic}
    {items : List Json} (h : ∀ item ∈ items, ∀ position,
      supply.sweep mode root item position = ⟨result item, warnings item, position⟩)
    (position : Nat) :
    supply.sweepItems mode root items position =
      ⟨items.map result, items.flatMap warnings, position⟩ := by
  induction items with
  | nil => rfl
  | cons item rest ih =>
    have hrest := ih fun i hi => h i (List.mem_cons_of_mem _ hi)
    simp only [sweepItems, h item List.mem_cons_self, hrest, List.map_cons, List.flatMap_cons]

theorem sweepMembers_eq {name : String × Json → String} {result : String × Json → Json}
    {nameWarnings warnings : String × Json → List Diagnostic} {members : List (String × Json)}
    (hkey : ∀ m ∈ members, ∀ position,
      supply.substitute mode root m.1 position = ⟨name m, nameWarnings m, position⟩)
    (hvalue : ∀ m ∈ members, ∀ position,
      supply.sweep mode root m.2 position = ⟨result m, warnings m, position⟩)
    (position : Nat) :
    supply.sweepMembers mode root members position =
      ⟨members.map fun m => (name m, result m),
        members.flatMap fun m => nameWarnings m ++ warnings m, position⟩ := by
  induction members with
  | nil => rfl
  | cons m rest ih =>
    have hrest := ih (fun m hm => hkey m (List.mem_cons_of_mem _ hm))
      fun m hm => hvalue m (List.mem_cons_of_mem _ hm)
    simp only [sweepMembers, hkey m List.mem_cons_self, hvalue m List.mem_cons_self, hrest,
      List.map_cons, List.flatMap_cons]

/-- Where substitution is steady and fixes the keys, a sweep is a map over the strings,
and it warns of the texts in the order of a visit. -/
theorem sweep_eq_mapStrings {document : Json} (hw : document.WellFormed)
    (hsteady : Steady supply mode root document.texts f g)
    (hkeys : ∀ key, (.key, key) ∈ document.texts → f key = key) (position : Nat) :
    supply.sweep mode root document position =
      ⟨document.mapStrings f, document.texts.flatMap fun e => g e.2, position⟩ := by
  induction hw generalizing position with
  | null => rfl
  | bool value => rfl
  | number value => rfl
  | string text =>
    have ht := hsteady (.value, text) (by simp [Json.texts]) position
    simp only at ht
    simp [sweep, ht, Json.texts, Json.mapStrings]
  | @array items hitems ih =>
    have hi : ∀ item ∈ items, ∀ position, supply.sweep mode root item position =
        ⟨item.mapStrings f, item.texts.flatMap fun e => g e.2, position⟩ :=
      fun item hi => ih item hi (fun e he => hsteady e (Json.mem_texts_item hi he))
        fun key hk => hkeys key (Json.mem_texts_item hi hk)
    simp only [sweep, sweepItems_eq hi, Json.mapStrings_array, Json.texts_array,
      List.flatMap_assoc]
  | @object members hnodup hvalues ih =>
    have hkey : ∀ m ∈ members, ∀ position,
        supply.substitute mode root m.1 position = ⟨f m.1, g m.1, position⟩ :=
      fun m hm => hsteady (.key, m.1) (Json.mem_texts_key hm)
    have hvalue : ∀ m ∈ members, ∀ position, supply.sweep mode root m.2 position =
        ⟨m.2.mapStrings f, m.2.texts.flatMap fun e => g e.2, position⟩ :=
      fun m hm => ih m hm (fun e he => hsteady e (Json.mem_texts_value hm he))
        fun key hk => hkeys key (Json.mem_texts_value hm hk)
    have hmap : (members.map fun m => (f m.1, m.2.mapStrings f)) =
        members.map fun m => (m.1, m.2.mapStrings f) :=
      List.map_congr_left fun m hm => by rw [hkeys m.1 (Json.mem_texts_key hm)]
    have hself : Members.ofList (members.map fun m => (m.1, m.2.mapStrings f)) =
        members.map fun m => (m.1, m.2.mapStrings f) := by
      refine Members.ofList_eq_self ?_
      simpa [Members.keys, Function.comp_def] using hnodup
    simp only [sweep, sweepMembers_eq hkey hvalue, hmap, hself, Json.mapStrings_object,
      Json.texts_object, List.flatMap_assoc, List.flatMap_cons]

/-- A sweep that takes strings changed in one way to strings changed in another, warns of
nothing and fixes the keys, takes the whole document from the one to the other. -/
theorem sweep_mapStrings {document : Json} (hw : document.WellFormed)
    {before after : String → String}
    (hkeys : ∀ key, (.key, key) ∈ document.texts → ∀ position,
      supply.substitute mode root key position = ⟨key, [], position⟩)
    (hvalues : ∀ text, (.value, text) ∈ document.texts → ∀ position,
      supply.substitute mode root (before text) position = ⟨after text, [], position⟩)
    (position : Nat) :
    supply.sweep mode root (document.mapStrings before) position =
      ⟨document.mapStrings after, [], position⟩ := by
  let swept (text : String) : String := (supply.substitute mode root text 0).result
  have hsteady : Steady supply mode root (document.mapStrings before).texts swept fun _ => [] := by
    refine Json.forall_mem_texts_mapStrings
      (P := fun text => ∀ position,
        supply.substitute mode root text position = ⟨swept text, [], position⟩)
      (fun key hk position => ?_) fun text ht position => ?_
    · simp only [swept, hkeys key hk]
    · simp only [swept, hvalues text ht]
  have hfixed : ∀ key, (.key, key) ∈ (document.mapStrings before).texts → swept key = key := by
    intro key hk
    simp only [swept, hkeys key (Json.key_mem_texts_mapStrings.mp hk)]
  have hstrings : document.mapStrings (fun text => swept (before text)) =
      document.mapStrings after :=
    Json.mapStrings_congr fun text ht => by simp only [swept, hvalues text ht]
  rw [sweep_eq_mapStrings (hw.mapStrings before) hsteady hfixed, Json.mapStrings_mapStrings,
    hstrings, List.flatMap_eq_nil_iff.mpr fun _ _ => rfl]

/-! ## Passes -/

variable (supply)

/-- What every sweep keeps of a document, any number of passes keep. -/
theorem repeat_advance_induction {I : Json → Prop}
    (hsweep : ∀ mode root document position, I document →
      I (supply.sweep mode root document position).result)
    (report : Report) (h : I report.document) (n : Nat) :
    I (Nat.repeat supply.advance n report).document := by
  induction n with
  | zero => exact h
  | succ n ih => exact hsweep _ _ _ _ (hsweep _ _ _ _ ih)

/-- What every sweep keeps of a document, filling keeps. -/
theorem fill_induction {I : Json → Prop}
    (hsweep : ∀ mode root document position, I document →
      I (supply.sweep mode root document position).result)
    {document : Json} (h : I document) (position : Nat) :
    I (supply.fill document position).document :=
  supply.repeat_advance_induction hsweep ⟨document, [], [], position⟩ h passCount

/-- Where a second pass gives what the first gave, so does every further one. -/
theorem repeat_advance_of_settled {document : Json} {position : Nat} {outcome : Outcome Json}
    (hfirst : supply.pass document position = outcome)
    (hsettled : supply.pass outcome.result outcome.position = outcome) (n : Nat) :
    Nat.repeat supply.advance (n + 1) ⟨document, [], [], position⟩ =
      ⟨outcome.result, outcome.diagnostics,
        List.replicate (n + 1) outcome.diagnostics.length, outcome.position⟩ := by
  induction n with
  | zero =>
    simp only [Nat.repeat, advance, hfirst]
    rfl
  | succ n ih => rw [Nat.repeat, ih, advance, hsettled, List.replicate_succ' (n := n + 1)]

end TemplateFill.Supply
