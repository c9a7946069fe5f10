import Mathlib.Data.List.Induction
import Mathlib.Data.List.Perm.Subperm
import TemplateFill.Proofs.Fill.Failures

/-! # Which warnings a report has

What a text is warned of depends on the document that its references go into, and on
nothing else of the supply or of what was drawn before. So a sweep warns of the texts of a
document in the order of a visit, and a report has the warnings of the last pass, each
where it was first met. -/
namespace TemplateFill

/-! ## Each entry where it was first seen -/

section FirstSeen

variable {α : Type} [BEq α] [LawfulBEq α]

/-- The second list has each entry of the first once, in the order in which they first
occur there. -/
structure FirstSeen (seen kept : List α) : Prop where
  nodup : kept.Nodup
  mem_iff : ∀ x, x ∈ kept ↔ x ∈ seen
  ordered : kept.Pairwise fun x y => seen.idxOf x < seen.idxOf y

omit [LawfulBEq α] in
theorem FirstSeen.unique {seen kept kept' : List α} (h : FirstSeen seen kept)
    (h' : FirstSeen seen kept') : kept' = kept := by
  have hperm : kept'.Perm kept :=
    (List.perm_ext_iff_of_nodup h'.nodup h.nodup).mpr fun x => by rw [h.mem_iff, h'.mem_iff]
  refine hperm.eq_of_pairwise (fun x y _ _ hxy hyx => ?_) h'.ordered h.ordered
  omega

omit [LawfulBEq α] in
/-- Where no entry was dropped, none was seen twice. -/
theorem FirstSeen.nodup_of_length_eq {seen kept : List α} (h : FirstSeen seen kept)
    (hlength : kept.length = seen.length) : seen.Nodup := by
  have hsubset : kept ⊆ seen := fun x hx => (h.mem_iff x).mp hx
  have hperm := (List.subperm_of_subset h.nodup hsubset).perm_of_length_le hlength.ge
  exact hperm.nodup_iff.mp h.nodup

/-- One entry more: it is kept unless it was seen before. -/
theorem FirstSeen.snoc {seen kept : List α} (h : FirstSeen seen kept) (x : α) :
    FirstSeen (seen ++ [x]) (if x ∈ seen then kept else kept ++ [x]) := by
  have hearlier : kept.Pairwise fun y z => (seen ++ [x]).idxOf y < (seen ++ [x]).idxOf z := by
    refine h.ordered.imp_of_mem fun hy hz hlt => ?_
    rwa [List.idxOf_append_of_mem ((h.mem_iff _).mp hy),
      List.idxOf_append_of_mem ((h.mem_iff _).mp hz)]
  split
  · next hx => exact ⟨h.nodup, fun y => by simp [h.mem_iff]; grind, hearlier⟩
  · next hx =>
    have hnew : x ∉ kept := fun hk => hx ((h.mem_iff x).mp hk)
    refine ⟨?_, fun y => by simp [h.mem_iff], ?_⟩
    · rw [List.nodup_append]
      exact ⟨h.nodup, by simp, fun y hy z hz he => hnew (by simp_all)⟩
    · refine List.pairwise_append.mpr ⟨hearlier, List.pairwise_singleton _ _, fun y hy z hz => ?_⟩
      obtain rfl := List.mem_singleton.mp hz
      have hmem := (h.mem_iff y).mp hy
      rw [List.idxOf_append_of_mem hmem, List.idxOf_append_of_notMem hx]
      have := List.idxOf_lt_length_of_mem hmem
      omega

theorem eraseDups_snoc (xs : List α) (x : α) :
    (xs ++ [x]).eraseDups = if x ∈ xs then xs.eraseDups else xs.eraseDups ++ [x] := by
  rw [List.eraseDups_append]
  by_cases h : x ∈ xs <;> simp [List.removeAll, List.eraseDups_cons, h]

theorem firstSeen_eraseDups (xs : List α) : FirstSeen xs xs.eraseDups := by
  induction xs using List.reverseRecOn with
  | nil => exact ⟨by simp, by simp, by simp⟩
  | append_singleton xs x ih =>
    rw [eraseDups_snoc]
    exact ih.snoc x

end FirstSeen

open Placeholder (OccursIn)

namespace Supply

variable (supply : Supply) (mode : Mode) (root : Json)

/-! ## The warnings of a sweep -/

/-- A placeholder without a fault is not warned of. -/
theorem resolve_diagnostics_of_no_fault {p : Placeholder} (h : p.fault? root = none)
    (position : Nat) : (supply.resolve mode root p position).1.diagnostics = [] := by
  rcases supply.resolve_cases root mode p position with
    ⟨text, after, -, he⟩ | ⟨cause, hfails, -⟩ | he
  · rw [he]
    rfl
  · rw [hfails.fault?_eq] at h
    cases h
  · rw [he]
    rfl

/-- What a placeholder is warned of hangs on nothing but the document. -/
theorem resolve_diagnostics (p : Placeholder) (position : Nat) :
    (supply.resolve mode root p position).1.diagnostics = (p.warning? root mode).toList := by
  cases hfault : p.fault? root with
  | none =>
    rw [supply.resolve_diagnostics_of_no_fault mode root hfault]
    simp [Placeholder.warning?, hfault]
  | some fault =>
    rw [supply.resolve_of_fault mode root (by rw [hfault]; rfl)]
    rfl

theorem resolveEach_diagnostics (ps : List Placeholder) (position : Nat) :
    (supply.resolveEach mode root ps position).1.flatMap Resolution.diagnostics =
      ps.filterMap (·.warning? root mode) := by
  induction ps generalizing position with
  | nil => rfl
  | cons p rest ih =>
    simp only [resolveEach, List.flatMap_cons, ih, resolve_diagnostics]
    rw [List.filterMap_cons]
    cases p.warning? root mode <;> rfl

theorem substitute_diagnostics (text : String) (position : Nat) :
    (supply.substitute mode root text position).diagnostics = textWarnings root mode text := by
  by_cases h : OccursIn text
  · rw [substitute_of_occursIn supply mode root h, textWarnings, if_pos h]
    exact supply.resolveEach_diagnostics mode root _ position
  · rw [substitute_of_not_occursIn supply mode root h, textWarnings, if_neg h]

variable {mode root} in
theorem sweepItems_diagnostics {warnings : Json → List Diagnostic} {items : List Json}
    (h : ∀ item ∈ items, ∀ position,
      (supply.sweep mode root item position).diagnostics = warnings item) (position : Nat) :
    (supply.sweepItems mode root items position).diagnostics = items.flatMap warnings := by
  induction items generalizing position with
  | nil => rfl
  | cons item rest ih =>
    obtain ⟨hitem, hrest⟩ := List.forall_mem_cons.mp h
    simp only [sweepItems, hitem, ih hrest, List.flatMap_cons]

variable {mode root} in
theorem sweepMembers_diagnostics {warnings : String × Json → List Diagnostic}
    {members : List (String × Json)}
    (h : ∀ m ∈ members, ∀ position,
      (supply.sweep mode root m.2 position).diagnostics = warnings m) (position : Nat) :
    (supply.sweepMembers mode root members position).diagnostics =
      members.flatMap fun m => textWarnings root mode m.1 ++ warnings m := by
  induction members generalizing position with
  | nil => rfl
  | cons m rest ih =>
    obtain ⟨hvalue, hrest⟩ := List.forall_mem_cons.mp h
    simp only [sweepMembers, substitute_diagnostics, hvalue, ih hrest, List.flatMap_cons]

/-- A sweep warns of the texts of a document in the order of a visit, those under keys
that become equal included. -/
theorem sweep_diagnostics (document : Json) (position : Nat) :
    (supply.sweep mode root document position).diagnostics =
      document.texts.flatMap fun e => textWarnings root mode e.2 := by
  induction document using Json.induction generalizing position with
  | null | bool | number => rfl
  | string text => simp [sweep, substitute_diagnostics, Json.texts]
  | array items ih =>
    simp only [sweep, supply.sweepItems_diagnostics ih, Json.texts_array, List.flatMap_assoc]
  | object members ih =>
    simp only [sweep, supply.sweepMembers_diagnostics ih, Json.texts_object, List.flatMap_assoc,
      List.flatMap_cons]

/-! ## The warnings of a report -/

/-- Where filling stands after `n` passes. -/
def after (document : Json) (position n : Nat) : Report :=
  Nat.repeat supply.advance n ⟨document, [], [], position⟩

/-- The document that the first sweep of the next pass gives. -/
def generated (report : Report) : Json :=
  (supply.sweep .generative report.document report.document report.position).result

/-- What the texts that the next pass meets are warned of, in the order in which it meets
them: those of the document, and then those of the document generated from it. -/
def warnings (report : Report) : List Diagnostic :=
  documentWarnings report.document .generative ++
    documentWarnings (supply.generated report) .reference

theorem pass_diagnostics (report : Report) :
    (supply.pass report.document report.position).diagnostics =
      (supply.warnings report).eraseDups := by
  simp only [pass, sweep_diagnostics]
  rfl

theorem warningCounts_after (document : Json) (position n : Nat) :
    (supply.after document position n).warningCounts =
      (List.range n).map fun i =>
        (supply.warnings (supply.after document position i)).eraseDups.length := by
  induction n with
  | zero => rfl
  | succ n ih =>
    rw [List.range_succ, List.map_append, ← ih, List.map_singleton, ← pass_diagnostics]
    rfl

/-- A report has the warnings of the last pass: what the matcher says of each text, in the
order of a visit, each warning where it is first met. What only earlier passes warned of
is gone, and each pass is counted with as many warnings as it had in this sense. -/
theorem fill_diagnostics (document : Json) (position : Nat) :
    let report := supply.fill document position
    let raised (n : Nat) := supply.warnings (supply.after document position n)
    let kept (n : Nat) := (raised n).eraseDups
    (∀ mode root text position,
      (supply.substitute mode root text position).diagnostics = textWarnings root mode text) ∧
    (∀ n, FirstSeen (raised n) (kept n)) ∧
    report.diagnostics = kept (passCount - 1) ∧
    (∀ n < passCount - 1, ∀ d ∈ raised n, d ∉ raised (passCount - 1) → d ∉ report.diagnostics) ∧
    report.warningCounts = (List.range passCount).map fun n => (kept n).length := by
  intro report raised kept
  have hlast : report.diagnostics = kept (passCount - 1) :=
    supply.pass_diagnostics (supply.after document position (passCount - 1))
  refine ⟨supply.substitute_diagnostics, fun n => firstSeen_eraseDups _, hlast,
    fun n _ d _ hnot hd => ?_, supply.warningCounts_after document position passCount⟩
  rw [hlast, (firstSeen_eraseDups _).mem_iff] at hd
  exact hnot hd

/-- A key that a reference makes is there from the second pass on, and what the first
warned of is gone. -/
example :
    let supply : Supply := ⟨fun _ => none, Random.Source.scripted #[] 0⟩
    let document : Json := .object [("\x7b\x7bref:'n'\x7d\x7d", .null), ("n", .string "k"),
      ("a", .string "\x7b\x7bref:'k',0\x7d\x7d")]
    let report := supply.fill document 0
    (supply.after document 0 1).diagnostics.map Diagnostic.cause =
      [.traversal "key 'k' not found at document root"] ∧
    report.diagnostics.map Diagnostic.cause =
      [.traversal "cannot look up index 0 at ['k']: found null, expected an array"] ∧
    report.warningCounts = [1, 1, 1, 1, 1] := by decide +kernel

end Supply

end TemplateFill
