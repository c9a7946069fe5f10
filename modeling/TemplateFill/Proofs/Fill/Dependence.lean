import TemplateFill.Fill.Run
import TemplateFill.Proofs.Json.Texts
import TemplateFill.Proofs.Placeholder.Substitution
import TemplateFill.Proofs.Random.Comparison

/-! # What filling may depend on

Two supplies are compared placeholder by placeholder, each with its own document to look
into; the comparison passes from placeholders to texts, from texts to sweeps and from
sweeps to passes. So a generative sweep does not look into the document, a reference
sweep uses nothing of its supply, and filling depends on as many random words as it
draws. -/
namespace TemplateFill

open TemplateFill.Random (Comparison)
open Placeholder (OccursIn)

variable {α : Type}

/-- A step that gives an outcome, as an act that gives a result with its warnings. -/
def Outcome.act (step : Nat → Outcome α) (position : Nat) : (α × List Diagnostic) × Nat :=
  (((step position).result, (step position).diagnostics), (step position).position)

theorem Outcome.ext_act {step step' : Nat → Outcome α} {position position' reached : Nat}
    (h : act step' position' = ((act step position).1, reached)) :
    step' position' = { step position with position := reached } := by
  have hresult := congrArg (·.1.1) h
  have hdiagnostics := congrArg (·.1.2) h
  have hposition := congrArg (·.2) h
  simp only [act] at hresult hdiagnostics hposition
  simp only [← hresult, ← hdiagnostics, ← hposition]

/-- Filling from a report on, as an act that gives all of the report reached but its position. -/
def Report.act (run : Nat → Report) (position : Nat) :
    (Json × List Diagnostic × List Nat) × Nat :=
  let report := run position
  ((report.document, report.diagnostics, report.warningCounts), report.position)

theorem Report.ext_act {run run' : Nat → Report} {position position' reached : Nat}
    (h : act run' position' = ((act run position).1, reached)) :
    run' position' = { run position with position := reached } := by
  have hdocument := congrArg (·.1.1) h
  have hdiagnostics := congrArg (·.1.2.1) h
  have hcounts := congrArg (·.1.2.2) h
  have hposition := congrArg (·.2) h
  simp only [act] at hdocument hdiagnostics hcounts hposition
  simp only [← hdocument, ← hdiagnostics, ← hcounts, ← hposition]

namespace Supply

/-! ## From placeholders to sweeps -/

section Sweep

variable (C : Comparison) (supply supply' : Supply) (mode : Mode) (root root' : Json)

/-- Every placeholder is resolved in acts that compare. -/
def Compares : Prop :=
  ∀ p, C.Rel (supply.resolve mode root p) (supply'.resolve mode root' p)

variable {C supply supply' mode root root'}

theorem Compares.resolveEach (h : Compares C supply supply' mode root root')
    (ps : List Placeholder) :
    C.Rel (supply.resolveEach mode root ps) (supply'.resolveEach mode root' ps) := by
  induction ps with
  | nil => exact C.pure []
  | cons p rest ih => exact C.bind (h p) fun r => C.map ih (r :: ·)

theorem Compares.substitute (h : Compares C supply supply' mode root root') (text : String) :
    C.Rel (Outcome.act (supply.substitute mode root text))
      (Outcome.act (supply'.substitute mode root' text)) := by
  by_cases hoccurs : OccursIn text
  · have heq (supply : Supply) (root : Json) :=
      funext (substitute_of_occursIn supply mode root hoccurs)
    rw [heq supply root, heq supply' root']
    exact C.map (h.resolveEach (Template.ofText text).placeholders) fun resolutions =>
      ((Template.ofText text).write resolutions, resolutions.flatMap Resolution.diagnostics)
  · have heq (supply : Supply) (root : Json) :=
      funext (substitute_of_not_occursIn supply mode root hoccurs)
    rw [heq supply root, heq supply' root']
    exact C.pure (text, _)

theorem sweepItems_compare {items : List Json}
    (h : ∀ item ∈ items, C.Rel (Outcome.act (supply.sweep mode root item))
      (Outcome.act (supply'.sweep mode root' item))) :
    C.Rel (Outcome.act (supply.sweepItems mode root items))
      (Outcome.act (supply'.sweepItems mode root' items)) := by
  induction items with
  | nil => exact C.pure ([], [])
  | cons item rest ih =>
    obtain ⟨hitem, hrest⟩ := List.forall_mem_cons.mp h
    exact C.bind hitem fun first => C.map (ih hrest) fun others =>
      (first.1 :: others.1, first.2 ++ others.2)

theorem Compares.sweepMembers (h : Compares C supply supply' mode root root')
    {members : List (String × Json)}
    (hvalues : ∀ m ∈ members, C.Rel (Outcome.act (supply.sweep mode root m.2))
      (Outcome.act (supply'.sweep mode root' m.2))) :
    C.Rel (Outcome.act (supply.sweepMembers mode root members))
      (Outcome.act (supply'.sweepMembers mode root' members)) := by
  induction members with
  | nil => exact C.pure ([], [])
  | cons m rest ih =>
    obtain ⟨hvalue, hrest⟩ := List.forall_mem_cons.mp hvalues
    exact C.bind (h.substitute m.1) fun name => C.bind hvalue fun first =>
      C.map (ih hrest) fun others =>
        ((name.1, first.1) :: others.1, name.2 ++ first.2 ++ others.2)

theorem Compares.sweep (h : Compares C supply supply' mode root root') (node : Json) :
    C.Rel (Outcome.act (supply.sweep mode root node))
      (Outcome.act (supply'.sweep mode root' node)) := by
  induction node using Json.induction with
  | null => exact C.pure (Json.null, [])
  | bool value => exact C.pure (Json.bool value, [])
  | number value => exact C.pure (Json.number value, [])
  | string text => exact C.map (h.substitute text) fun filled => (Json.string filled.1, filled.2)
  | array items ih => exact C.map (sweepItems_compare ih) fun swept => (Json.array swept.1, swept.2)
  | object members ih =>
    exact C.map (h.sweepMembers ih) fun swept => (Json.object (Members.ofList swept.1), swept.2)

end Sweep

/-! ## From sweeps to reports -/

section Fill

variable {C : Comparison} {supply supply' : Supply}

theorem pass_compare (h : ∀ mode root, Compares C supply supply' mode root root)
    (document : Json) :
    C.Rel (Outcome.act (supply.pass document)) (Outcome.act (supply'.pass document)) :=
  C.bind ((h .generative document).sweep document) fun generated =>
    C.map ((h .reference generated.1).sweep generated.1) fun resolved =>
      (resolved.1, (generated.2 ++ resolved.2).eraseDups)

theorem fill_compare (h : ∀ mode root, Compares C supply supply' mode root root)
    (document : Json) :
    C.Rel (Report.act (supply.fill document)) (Report.act (supply'.fill document)) := by
  have hrepeat (n : Nat) :
      C.Rel (Report.act fun position => Nat.repeat supply.advance n ⟨document, [], [], position⟩)
        (Report.act fun position => Nat.repeat supply'.advance n ⟨document, [], [], position⟩) := by
    induction n with
    | zero => exact C.pure (document, [], [])
    | succ n ih =>
      exact C.bind ih fun report => C.map (pass_compare h report.1) fun passed =>
        (passed.1, passed.2, report.2.2 ++ [passed.2.length])
  exact hrepeat passCount

end Fill

/-! ## What a placeholder is resolved from -/

/-- A document is consulted for references only, and they are resolved in their mode. -/
theorem compares_same (supply : Supply) {mode : Mode} {root root' : Json}
    (h : mode = .reference →
      ∀ argument, resolveReference argument root' = resolveReference argument root) :
    Compares Comparison.same supply supply mode root root' := by
  intro p
  show supply.resolve mode root' p = supply.resolve mode root p
  funext position
  unfold resolve
  cases hkind : Kind.ofName? p.kind with
  | none => rfl
  | some kind =>
    by_cases hmode : kind.mode = mode
    · cases kind with
      | ref => simp only [fulfil, h hmode.symm]
      | alnum | alpha | digit | b64 | env => rfl
    · simp only [if_pos hmode]

/-- References are looked up, and nothing else is done. -/
theorem compares_still (supply supply' : Supply) (root : Json) :
    Compares Comparison.still supply supply' .reference root root := by
  intro p position position'
  unfold resolve
  cases hkind : Kind.ofName? p.kind with
  | none => exact ⟨rfl, rfl⟩
  | some kind =>
    cases kind with
    | alnum | alpha | digit | b64 | env => exact ⟨rfl, rfl⟩
    | ref =>
      simp only [fulfil, Kind.mode]
      cases resolveReference p.argument root with
      | error cause => exact ⟨rfl, rfl⟩
      | ok text => exact ⟨rfl, rfl⟩

/-- Random values are drawn from the words that stand there, and all else draws none. -/
theorem compares_sameWords (env : String → Option String) (random random' : Random.Generator)
    (mode : Mode) (root : Json) :
    Compares (.sameWords random.toWords random'.toWords) ⟨env, random⟩ ⟨env, random'⟩ mode root
      root := by
  intro p
  unfold resolve
  cases hkind : Kind.ofName? p.kind with
  | none => exact Comparison.pure _ _
  | some kind =>
    by_cases hmode : kind.mode ≠ mode
    · simp only [if_pos hmode]
      exact Comparison.pure _ _
    simp only [if_neg hmode]
    cases kind with
    | env => exact Comparison.pure _ _
    | ref =>
      simp only [fulfil]
      cases resolveReference p.argument root with
      | error cause => exact Comparison.pure _ _
      | ok text => exact Comparison.pure _ _
    | alnum | alpha | digit =>
      simp only [fulfil, randomText]
      cases parseLength p.argument with
      | error e => exact Comparison.pure _ _
      | ok n => exact Comparison.map _ (random.textFrom_sameWords _ _ _ n) Resolution.value
    | b64 =>
      simp only [fulfil, randomBase64]
      cases parseLength p.argument with
      | error e => exact Comparison.pure _ _
      | ok n => exact Comparison.map _ (random.base64_sameWords _ n) Resolution.value

/-- A generative sweep does not look into the document; a reference sweep uses neither the
environment nor random words. Filling depends on the words that it draws and on no
others: where the same words stand ahead in another generator, it draws as many and gives
the same report. So where it draws none, the report is the same for every generator and
from every position. -/
theorem fill_of_words (env : String → Option String) (random random' : Random.Generator) :
    let supply : Supply := ⟨env, random⟩
    let other : Supply := ⟨env, random'⟩
    (∀ root root' node position,
      supply.sweep .generative root' node position =
        supply.sweep .generative root node position) ∧
    (∀ (supply' : Supply) root node position position',
      let swept := supply.sweep .reference root node position
      swept.position = position ∧
      supply'.sweep .reference root node position' = { swept with position := position' }) ∧
    (∀ document position count position',
      let report := supply.fill document position
      report.position = position + count → random.Agree random'.toWords position position' count →
      other.fill document position' = { report with position := position' + count }) ∧
    ∀ document position position',
      let report := supply.fill document position
      report.position = position →
      other.fill document position' = { report with position := position' } := by
  intro supply other
  have hfill : ∀ document position count position',
      (supply.fill document position).position = position + count →
      random.Agree random'.toWords position position' count →
      other.fill document position' =
        { supply.fill document position with position := position' + count } := by
    intro document position count position' hcount hagree
    have hwords := fill_compare (compares_sameWords env random random') document
    obtain ⟨drawn, hdrawn, hsame⟩ := hwords position
    obtain rfl : drawn = count := Nat.add_left_cancel (hdrawn.symm.trans hcount)
    exact Report.ext_act (hsame position' hagree)
  refine ⟨fun root root' node position => ?_, fun supply' root node position position' => ?_,
    hfill, fun document position position' hnone => ?_⟩
  · have hsame : Outcome.act (supply.sweep .generative root' node) =
        Outcome.act (supply.sweep .generative root node) :=
      (supply.compares_same fun hmode => by cases hmode).sweep node
    exact Outcome.ext_act (congrFun hsame position)
  · obtain ⟨hposition, hsame⟩ :=
      (compares_still supply supply' root).sweep node position position'
    exact ⟨hposition, Outcome.ext_act hsame⟩
  · exact hfill document position 0 position' hnone fun i hi => absurd hi (Nat.not_lt_zero i)

/-- A placeholder that a variable brings in is copied before it draws, so four words are
drawn; another generator gives them one position later. -/
theorem fill_of_words_later :
    let env : String → Option String := fun _ => some "\x7b\x7bb64:5\x7d\x7d"
    let random := Random.Source.scripted #[7, 9, 2, 5] 0
    let random' := Random.Source.scripted #[1, 7, 9, 2, 5] 3
    let document : Json := .array [.string "\x7b\x7benv:A\x7d\x7d", .string "\x7b\x7bref:0\x7d\x7d"]
    let report := (⟨env, random⟩ : Supply).fill document 0
    report.position = 4 ∧ random.Agree random'.toWords 0 1 4 ∧
    (⟨env, random'⟩ : Supply).fill document 1 = { report with position := 5 } := by
  intro env random random' document report
  have hposition : report.position = 0 + 4 := by decide +kernel
  have hagree : random.Agree random'.toWords 0 1 4 := by decide +kernel
  obtain ⟨-, -, hfill, -⟩ := fill_of_words env random random'
  exact ⟨hposition, hagree, hfill document 0 4 1 hposition hagree⟩

end Supply

end TemplateFill
