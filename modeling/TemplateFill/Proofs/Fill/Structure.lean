import Mathlib.Data.Fin.Basic
import Mathlib.Data.List.Nodup
import TemplateFill.Proofs.Fill.Sweeping
import TemplateFill.Proofs.Placeholder.Substitution
import TemplateFill.Random.Scripted

/-! # What filling keeps of a document

Filling changes strings that hold placeholders, and nothing else but objects with
placeholders in their keys: those may lose members whose keys become equal, and what
is left of them comes from different members. `Json.Keeps` says so of a whole
document; it holds of each sweep, and of one sweep after another. -/
namespace TemplateFill

open Placeholder (OccursIn)

namespace Json

/-- No key of these members holds a placeholder. -/
def PlainKeys (members : List (String × Json)) : Prop :=
  ∀ key ∈ Members.keys members, ¬ OccursIn key

instance (members : List (String × Json)) : Decidable (PlainKeys members) :=
  inferInstanceAs (Decidable (∀ key ∈ Members.keys members, ¬ OccursIn key))

/-- The second document has the structure of the first and all its static parts. -/
inductive Keeps : Json → Json → Prop
  | null : Keeps .null .null
  | bool (value : Bool) : Keeps (.bool value) (.bool value)
  | number (value : Number) : Keeps (.number value) (.number value)
  | string {text text' : String} (hplain : ¬ OccursIn text → text' = text) :
      Keeps (.string text) (.string text')
  | array {items items' : List Json} (hlength : items'.length = items.length)
      (hitems : ∀ i (h : i < items.length) (h' : i < items'.length), Keeps items[i] items'[i]) :
      Keeps (.array items) (.array items')
  | object {members members' : List (String × Json)} (hplain : PlainKeys members)
      (hkeys : Members.keys members' = Members.keys members)
      (hvalues : ∀ i (h : i < members.length) (h' : i < members'.length),
        Keeps members[i].2 members'[i].2) :
      Keeps (.object members) (.object members')
  | rewritten {members members' : List (String × Json)} (hkey : ¬ PlainKeys members)
      (origin : Fin members'.length → Fin members.length) (hinj : Function.Injective origin)
      (hvalues : ∀ j, Keeps (members.get (origin j)).2 (members'.get j).2) :
      Keeps (.object members) (.object members')

theorem Keeps.refl (document : Json) : Keeps document document := by
  induction document using Json.induction with
  | null => exact .null
  | bool value => exact .bool value
  | number value => exact .number value
  | string text => exact .string fun _ => rfl
  | array items ih => exact .array rfl fun i h _ => ih items[i] (List.getElem_mem h)
  | object members ih =>
    by_cases hplain : PlainKeys members
    · exact .object hplain rfl fun i h _ => ih members[i] (List.getElem_mem h)
    · exact .rewritten hplain id Function.injective_id fun j => ih _ (List.get_mem members j)

theorem Keeps.trans {d d' d'' : Json} (h : Keeps d d') (h' : Keeps d' d'') : Keeps d d'' := by
  induction h generalizing d'' with
  | null => exact h'
  | bool value => exact h'
  | number value => exact h'
  | @string text text' hplain =>
    cases h' with
    | string hplain' =>
      refine .string fun hnone => ?_
      obtain rfl := hplain hnone
      exact hplain' hnone
  | @array items items' hlength hitems ih =>
    cases h' with
    | array hlength' hitems' =>
      refine .array (hlength'.trans hlength) fun i h h'' => ?_
      have hi : i < items'.length := by omega
      exact ih i h hi (hitems' i hi h'')
  | @object members members' hplain hkeys hvalues ih =>
    cases h' with
    | object hplain' hkeys' hvalues' =>
      refine .object hplain (hkeys'.trans hkeys) fun i h h'' => ?_
      have hi : i < members'.length := by
        have := congrArg List.length hkeys
        simp only [Members.keys, List.length_map] at this
        omega
      exact ih i h hi (hvalues' i hi h'')
    | rewritten hkey' =>
      refine absurd ?_ hkey'
      rw [PlainKeys, hkeys]
      exact hplain
  | @rewritten members members' hkey origin hinj hvalues ih =>
    cases h' with
    | @object _ members'' hplain' hkeys' hvalues' =>
      have hlength : members''.length = members'.length := by
        simpa [Members.keys] using congrArg List.length hkeys'
      refine .rewritten hkey (origin ∘ Fin.cast hlength) (hinj.comp (Fin.cast_injective hlength))
        fun j => ih _ ?_
      exact hvalues' j (by omega) j.isLt
    | rewritten hkey' origin' hinj' hvalues' =>
      exact .rewritten hkey (origin ∘ origin') (hinj.comp hinj') fun j => ih _ (hvalues' j)

theorem Keeps.nodeType_eq {d d' : Json} (h : Keeps d d') : d'.nodeType = d.nodeType := by
  cases h <;> rfl

/-! ## Paths -/

/-- No object that a path leads through has a placeholder in a key. -/
def PlainAlong : Json → Path → Prop
  | _, [] => True
  | node, c :: rest =>
    (∀ members, node = .object members → PlainKeys members) ∧
      ∀ child, node.step c = .ok child → PlainAlong child rest

/-- No text of the document holds a placeholder. -/
def Plain (document : Json) : Prop := ∀ e ∈ document.texts, ¬ OccursIn e.2

instance (document : Json) : Decidable (Plain document) :=
  inferInstanceAs (Decidable (∀ e ∈ document.texts, ¬ OccursIn e.2))

theorem get?_of_keys_eq {R : Json → Json → Prop} {name : String} {value : Json} :
    ∀ {members members' : List (String × Json)},
      Members.keys members' = Members.keys members →
      (∀ i (h : i < members.length) (h' : i < members'.length), R members[i].2 members'[i].2) →
      Members.get? members name = some value →
      ∃ value', Members.get? members' name = some value' ∧ R value value'
  | [], _, _, _, h => by cases h
  | (k, v) :: rest, [], hkeys, _, _ => by cases hkeys
  | (k, v) :: rest, (k', v') :: rest', hkeys, hvalues, h => by
    obtain ⟨hk, hrest⟩ := List.cons.inj hkeys
    simp only at hk
    subst hk
    simp only [Members.get?, List.lookup_cons] at h ⊢
    split at h
    · cases h
      exact ⟨v', rfl, hvalues 0 (by simp) (by simp)⟩
    · refine get?_of_keys_eq hrest (fun i hi hi' => ?_) h
      exact hvalues (i + 1) (Nat.succ_lt_succ hi) (Nat.succ_lt_succ hi')

theorem Keeps.step {d d' child : Json} (h : Keeps d d')
    (hplain : ∀ members, d = .object members → PlainKeys members) {c : Component}
    (hstep : d.step c = .ok child) : ∃ child', d'.step c = .ok child' ∧ Keeps child child' := by
  cases h with
  | null | bool | number | string => cases c <;> cases hstep
  | @array items items' hlength hitems =>
    cases c with
    | key name => cases hstep
    | index i =>
      simp only [Json.step] at hstep ⊢
      split at hstep
      · next hi =>
        cases hstep
        obtain ⟨hlt, rfl⟩ := List.getElem?_eq_some_iff.mp hi
        have hlt' : i < items'.length := by omega
        exact ⟨items'[i], by rw [List.getElem?_eq_getElem hlt'], hitems i hlt hlt'⟩
      · cases hstep
  | @object members members' hkeysPlain hkeys hvalues =>
    cases c with
    | index i => cases hstep
    | key name =>
      simp only [Json.step] at hstep ⊢
      split at hstep
      · next hget =>
        cases hstep
        obtain ⟨child', hget', hkept⟩ := get?_of_keys_eq hkeys hvalues hget
        exact ⟨child', by rw [hget'], hkept⟩
      · cases hstep
  | rewritten hkey => exact absurd (hplain _ rfl) hkey

theorem Keeps.lookupFrom {d d' node : Json} {path : Path} (h : Keeps d d')
    (hplain : PlainAlong d path) {walked : Path} (hl : d.lookupFrom walked path = .ok node) :
    ∃ node', d'.lookupFrom walked path = .ok node' ∧ Keeps node node' := by
  induction path generalizing d d' walked with
  | nil =>
    cases hl
    exact ⟨d', rfl, h⟩
  | cons c rest ih =>
    simp only [Json.lookupFrom] at hl ⊢
    split at hl
    · cases hl
    · next child hstep =>
      obtain ⟨child', hstep', hkept⟩ := h.step hplain.1 hstep
      rw [hstep']
      exact ih hkept (hplain.2 child hstep) hl

/-- A document without placeholders is kept only by itself. -/
theorem Keeps.eq_of_plain {d d' : Json} (h : Keeps d d') (hplain : Plain d) : d' = d := by
  induction h with
  | null => rfl
  | bool value => rfl
  | number value => rfl
  | string hsame => rw [hsame (hplain (.value, _) (by simp [texts]))]
  | @array items items' hlength hitems ih =>
    congr 1
    refine List.ext_getElem hlength fun i hi' hi => ?_
    exact ih i hi hi' fun e he => hplain e (mem_texts_item (List.getElem_mem hi) he)
  | @object members members' hkeysPlain hkeys hvalues ih =>
    have hlength : members'.length = members.length := by
      simpa [Members.keys] using congrArg List.length hkeys
    congr 1
    refine List.ext_getElem hlength fun i hi' hi => Prod.ext ?_ ?_
    · have hkey : (Members.keys members')[i]? = (Members.keys members)[i]? := by rw [hkeys]
      simpa [Members.keys, hi, hi'] using hkey
    · exact ih i hi hi' fun e he => hplain e (mem_texts_value (List.getElem_mem hi) he)
  | @rewritten members members' hkey =>
    refine absurd (fun key hk => ?_) hkey
    obtain ⟨m, hm, rfl⟩ := List.mem_map.mp hk
    exact hplain (.key, m.1) (mem_texts_key hm)

end Json

namespace Supply

variable (supply : Supply) (mode : Mode) (root : Json)

theorem substitute_result_of_not_occursIn {text : String} (h : ¬ OccursIn text) (position : Nat) :
    (supply.substitute mode root text position).result = text := by
  rw [substitute_of_not_occursIn supply mode root h]

theorem keys_sweepMembers {members : List (String × Json)} (h : Json.PlainKeys members)
    (position : Nat) :
    Members.keys (supply.sweepMembers mode root members position).result =
      Members.keys members := by
  induction members generalizing position with
  | nil => rfl
  | cons m rest ih =>
    have hm : ¬ OccursIn m.1 := h m.1 (by simp [Members.keys])
    have hrest : Json.PlainKeys rest := fun key hk => h key (List.mem_cons_of_mem _ hk)
    simp only [Members.keys] at ih
    simp only [sweepMembers, Members.keys, List.map_cons, ih hrest,
      substitute_result_of_not_occursIn supply mode root hm]

/-- Members that are pairs of a list, no key twice, come from different places of it. -/
theorem exists_origin {members pairs kept : List (String × Json)}
    {R : String × Json → String × Json → Prop} (hpairs : List.Forall₂ R members pairs)
    (hkept : ∀ m ∈ kept, m ∈ pairs) (hnodup : (Members.keys kept).Nodup) :
    ∃ origin : Fin kept.length → Fin members.length, Function.Injective origin ∧
      ∀ j, R (members.get (origin j)) (kept.get j) := by
  have hfrom : ∀ j : Fin kept.length, ∃ i : Fin members.length,
      R (members.get i) (kept.get j) ∧ pairs.get (i.cast hpairs.length_eq) = kept.get j := by
    intro j
    obtain ⟨i, hi⟩ := List.get_of_mem (hkept _ (List.get_mem kept j))
    have hlt : i.val < members.length := by
      rw [hpairs.length_eq]
      exact i.isLt
    refine ⟨⟨i, hlt⟩, ?_, hi⟩
    rw [← hi]
    exact hpairs.get hlt i.isLt
  choose origin hR hget using hfrom
  refine ⟨origin, fun j j' he => ?_, hR⟩
  refine (List.Nodup.of_map Prod.fst hnodup).injective_get ?_
  rw [← hget j, he, hget j']

theorem sweep_keeps {document : Json} (hw : document.WellFormed) (position : Nat) :
    Json.Keeps document (supply.sweep mode root document position).result := by
  induction hw generalizing position with
  | null => exact .null
  | bool value => exact .bool value
  | number value => exact .number value
  | string text =>
    exact .string fun h => substitute_result_of_not_occursIn supply mode root h position
  | @array items hitems ih =>
    have hswept := supply.sweepItems_forall₂ mode root items position
    refine .array hswept.length_eq.symm fun i h h' => ?_
    obtain ⟨position', he⟩ := hswept.get h h'
    rw [List.get_eq_getElem, List.get_eq_getElem] at he
    rw [he]
    exact ih items[i] (List.getElem_mem h) position'
  | @object members hnodup hvalues ih =>
    have hswept := supply.sweepMembers_forall₂ mode root members position
    by_cases hplain : Json.PlainKeys members
    · have hkeys := supply.keys_sweepMembers mode root hplain position
      have hself := Members.ofList_eq_self (by rw [hkeys]; exact hnodup)
      simp only [sweep, hself]
      refine .object hplain hkeys fun i h h' => ?_
      obtain ⟨-, position', he⟩ := hswept.get h h'
      rw [List.get_eq_getElem, List.get_eq_getElem] at he
      rw [he]
      exact ih members[i] (List.getElem_mem h) position'
    · obtain ⟨origin, hinj, hvalues⟩ := exists_origin hswept
        (fun m hm => Members.mem_of_mem_ofList hm) (Members.nodup_keys_ofList _)
      refine .rewritten hplain origin hinj fun j => ?_
      obtain ⟨-, position', he⟩ := hvalues j
      rw [he]
      exact ih _ (List.get_mem members _) position'

/-- Filling keeps the structure of a document and its static parts, and leaves alone
what no placeholder stands in and no rewritten key leads to. -/
theorem fill_keeps {document : Json} (hw : document.WellFormed) (position : Nat) :
    let filled := (supply.fill document position).document
    Json.Keeps document filled ∧
    ∀ path node, document.PlainAlong path → document.lookup path = .ok node →
      ∃ node', filled.lookup path = .ok node' ∧ Json.Keeps node node' ∧
        node'.nodeType = node.nodeType ∧ (node.Plain → node' = node) := by
  have hkept : Json.Keeps document (supply.fill document position).document :=
    (supply.fill_induction (I := fun d => Json.Keeps document d ∧ d.WellFormed)
      (fun mode root d position h =>
        ⟨h.1.trans (supply.sweep_keeps mode root h.2 position),
          supply.sweep_wellFormed mode root d position⟩)
      ⟨.refl document, hw⟩ position).1
  refine ⟨hkept, fun path node hplain hl => ?_⟩
  obtain ⟨node', hl', hnode⟩ := hkept.lookupFrom hplain hl
  exact ⟨node', hl', hnode, hnode.nodeType_eq, hnode.eq_of_plain⟩

/-- A string beside a placeholder and beside an object whose keys become equal. -/
theorem fill_keeps_beside_placeholders :
    let supply : Supply := ⟨fun _ => none, Random.Source.scripted #[] 0⟩
    let document : Json := .object
      [("a", .array [.string "\x7b\x7bdigit:2\x7d\x7d", .string "x"]),
        ("b", .object [("\x7b\x7benv:A\x7d\x7d", .null), ("\x7b\x7benv:B\x7d\x7d", .bool true)])]
    let filled := (supply.fill document 0).document
    document.WellFormed ∧ Json.Keeps document filled ∧
    filled.lookup [.key "a", .index 1] = .ok (.string "x") := by
  intro supply document filled
  have hw : document.WellFormed := by
    refine .object (by decide) fun m hm => ?_
    rcases List.mem_cons.mp hm with rfl | hm
    · exact .array (by simp [Json.WellFormed.string])
    · obtain rfl := List.mem_singleton.mp hm
      exact .object (by decide) (by simp [Json.WellFormed.null, Json.WellFormed.bool])
  have hkeys : Json.PlainKeys [("a", .array [.string "\x7b\x7bdigit:2\x7d\x7d", .string "x"]),
      ("b", .object [("\x7b\x7benv:A\x7d\x7d", .null), ("\x7b\x7benv:B\x7d\x7d", .bool true)])] := by
    decide +kernel
  have hplain : document.PlainAlong [.key "a", .index 1] := by
    refine ⟨fun members hm => ?_, fun child hc => ⟨fun members hm => ?_, fun _ _ => trivial⟩⟩
    · obtain rfl := Json.object.inj hm
      exact hkeys
    · cases hc
      cases hm
  obtain ⟨hkept, hpaths⟩ := supply.fill_keeps hw 0
  obtain ⟨node, hl, -, -, hsame⟩ := hpaths _ (.string "x") hplain rfl
  have hx : (Json.string "x").Plain := by decide +kernel
  rw [hsame hx] at hl
  exact ⟨hw, hkept, hl⟩

end Supply

end TemplateFill
