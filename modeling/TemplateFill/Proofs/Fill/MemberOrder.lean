import TemplateFill.Proofs.Fill.Drawing
import TemplateFill.Proofs.Fill.Warnings
import TemplateFill.Proofs.Json.Reordering
import TemplateFill.Random.Scripted

/-! # The order of members does not matter

Where filling draws no word and no key holds a placeholder, the document rearranged is
filled to the filled document rearranged. Two runs go side by side: at each sweep both
make the same substitutions, since references lead to the same strings, and meet the
same texts in another order. So they warn of the same things. -/
namespace TemplateFill

open Placeholder (OccursIn)

/-! ## Warnings without repetitions -/

section EraseDups

variable {α : Type} [BEq α] [LawfulBEq α]

theorem eraseDups_perm {xs ys : List α} (h : xs.Perm ys) : xs.eraseDups.Perm ys.eraseDups := by
  have hnodup := (firstSeen_eraseDups xs).nodup
  have hnodup' := (firstSeen_eraseDups ys).nodup
  refine (List.perm_ext_iff_of_nodup hnodup hnodup').mpr fun x => ?_
  rw [List.mem_eraseDups, List.mem_eraseDups, h.mem_iff]

end EraseDups

namespace Supply

variable {supply : Supply} {mode : Mode} {document : Json} {position : Nat}

/-! ## A sweep of a rearranged document -/

/-- A sweep that draws no word, of a document and of the document rearranged. -/
theorem sweep_reorder (hw : document.WellFormed)
    (hkeys : ∀ key, (.key, key) ∈ document.texts → ¬ OccursIn key)
    (hstill : (supply.sweep mode document document position).position = position)
    (order : Json.Order) :
    let swept := supply.sweep mode document document position
    let swept' := supply.sweep mode (document.reorder order) (document.reorder order) position
    (∀ key, (.key, key) ∈ swept.result.texts → ¬ OccursIn key) ∧
    swept'.result = swept.result.reorder order ∧
    swept'.diagnostics.Perm swept.diagnostics ∧ swept'.position = position := by
  have hperm := document.texts_reorder order
  let f (text : String) := (supply.substitute mode document text position).result
  let g (text : String) := (supply.substitute mode document text position).diagnostics
  have hsteady : Steady supply mode document document.texts f g :=
    supply.steady_of_position_eq mode document hstill
  have hsame : Compares .same supply supply mode document (document.reorder order) :=
    supply.compares_same fun _ => resolveReference_reorder hw order
  have hsteady' : Steady supply mode (document.reorder order) (document.reorder order).texts f g :=
    fun e he other => (Outcome.ext_act (congrFun (hsame.substitute e.2) other)).trans
      (hsteady e (hperm.mem_iff.mp he) other)
  have hfixed : ∀ key, (.key, key) ∈ document.texts → f key = key := by
    intro key hk
    simp only [f, substitute_of_not_occursIn supply mode document (hkeys key hk)]
  have hfixed' : ∀ key, (.key, key) ∈ (document.reorder order).texts → f key = key :=
    fun key hk => hfixed key (hperm.mem_iff.mp hk)
  rw [sweep_eq_mapStrings hw hsteady hfixed,
    sweep_eq_mapStrings (hw.reorder order) hsteady' hfixed']
  refine ⟨fun key hk => hkeys key (Json.key_mem_texts_mapStrings.mp hk), ?_, ?_, rfl⟩
  · exact (Json.reorder_mapStrings f order document).symm
  · exact hperm.flatMap_right _

/-- A pass that draws no word, of a document and of the document rearranged. -/
theorem pass_reorder (hw : document.WellFormed)
    (hkeys : ∀ key, (.key, key) ∈ document.texts → ¬ OccursIn key)
    (hstill : (supply.pass document position).position = position) (order : Json.Order) :
    let passed := supply.pass document position
    let passed' := supply.pass (document.reorder order) position
    passed.result.WellFormed ∧ (∀ key, (.key, key) ∈ passed.result.texts → ¬ OccursIn key) ∧
    passed'.result = passed.result.reorder order ∧
    passed'.diagnostics.Perm passed.diagnostics ∧ passed'.position = position := by
  have hle := supply.le_position_sweep .generative document document position
  have hle' := supply.le_position_sweep .reference
    (supply.sweep .generative document document position).result
    (supply.sweep .generative document document position).result
    (supply.sweep .generative document document position).position
  simp only [pass] at hstill
  have hfirst : (supply.sweep .generative document document position).position = position := by
    omega
  rw [hfirst] at hstill
  obtain ⟨hkeys', hresult, hwarnings, hnext⟩ := sweep_reorder hw hkeys hfirst order
  obtain ⟨hkeys'', hresult', hwarnings', hnext'⟩ :=
    sweep_reorder (supply.sweep_wellFormed .generative document document position) hkeys' hstill
      order
  simp only [pass, hresult, hnext, hfirst]
  exact ⟨supply.sweep_wellFormed .reference _ _ _, hkeys'', hresult',
    eraseDups_perm (hwarnings.append hwarnings'), hnext'⟩

/-! ## Two runs side by side -/

/-- Two runs stand at the same point, one with the document of the other rearranged. -/
structure SideBySide (order : Json.Order) (report report' : Report) : Prop where
  wellFormed : report.document.WellFormed
  keys : ∀ key, (.key, key) ∈ report.document.texts → ¬ OccursIn key
  document_eq : report'.document = report.document.reorder order
  diagnostics_perm : report'.diagnostics.Perm report.diagnostics
  warningCounts_eq : report'.warningCounts = report.warningCounts
  position_eq : report'.position = report.position

/-- A pass that draws no word keeps two runs side by side. -/
theorem SideBySide.advance {order : Json.Order} {report report' : Report}
    (h : SideBySide order report report')
    (hstill : (supply.advance report).position = report.position) :
    SideBySide order (supply.advance report) (supply.advance report') := by
  obtain ⟨hw, hkeys, hresult, hwarnings, hnext⟩ := pass_reorder h.wellFormed h.keys hstill order
  simp only [Supply.advance, h.document_eq, h.position_eq, h.warningCounts_eq]
  refine ⟨hw, hkeys, hresult, hwarnings, ?_, hnext.trans hstill.symm⟩
  rw [hwarnings.length_eq]

theorem sideBySide_repeat {order : Json.Order} {report report' : Report}
    (h : SideBySide order report report') :
    ∀ n, (Nat.repeat supply.advance n report).position = report.position →
      SideBySide order (Nat.repeat supply.advance n report) (Nat.repeat supply.advance n report')
  | 0, _ => h
  | n + 1, hstill => by
    have hle := supply.le_position_repeat report n
    have hle' : (Nat.repeat supply.advance n report).position ≤
        (Nat.repeat supply.advance (n + 1) report).position := supply.le_position_pass _ _
    have hbefore : (Nat.repeat supply.advance n report).position = report.position := by omega
    exact (sideBySide_repeat h n hbefore).advance (hstill.trans hbefore.symm)

/-- Filling two documents that differ in the order of members, where no key holds a
placeholder and no word is drawn: the filled documents differ in the same way, the
warnings are the same but for their order, and each pass has as many. -/
theorem fill_reorder {document : Json} (hw : document.WellFormed)
    (hkeys : ∀ key, (.key, key) ∈ document.texts → ¬ OccursIn key) {position : Nat}
    (hstill : (supply.fill document position).position = position)
    {document' : Json} (h : document.Reordered document') :
    let filled := supply.fill document position
    let filled' := supply.fill document' position
    (∃ order, document' = document.reorder order) ∧
    (∀ order, document' = document.reorder order →
      filled'.document = filled.document.reorder order) ∧
    filled'.position = position ∧
    filled'.diagnostics.Perm filled.diagnostics ∧
    filled'.warningCounts = filled.warningCounts := by
  have hrun : ∀ order, SideBySide order (supply.fill document position)
      (supply.fill (document.reorder order) position) := by
    intro order
    have hstart : SideBySide order ⟨document, [], [], position⟩
        ⟨document.reorder order, [], [], position⟩ := ⟨hw, hkeys, rfl, .refl _, rfl, rfl⟩
    exact sideBySide_repeat hstart passCount hstill
  obtain ⟨order, rfl⟩ := h.exists_order hw
  have hside := hrun order
  refine ⟨⟨order, rfl⟩, fun order' he => ?_, hside.position_eq.trans hstill,
    hside.diagnostics_perm, hside.warningCounts_eq⟩
  rw [he]
  exact (hrun order').document_eq

/-- A reference before its target and after it, beside a text that is warned of. -/
theorem fill_reorder_reference_first :
    let supply : Supply := ⟨fun _ => some "v", Random.Source.scripted #[] 0⟩
    let c : String × Json := ("c", .string "\x7b\x7benv:E\x7d\x7d")
    let d : String × Json := ("d", .string "\x7b\x7bup:1\x7d\x7d")
    let a : String × Json := ("a", .string "\x7b\x7bref:'b','c'\x7d\x7d")
    let before : Json := .object [a, ("b", .object [c, d])]
    let after : Json := .object [("b", .object [d, c]), a]
    let filled := supply.fill before 0
    let filled' := supply.fill after 0
    before.WellFormed ∧ before.Reordered after ∧ filled.position = 0 ∧
    (∃ order, after = before.reorder order ∧
      filled'.document = filled.document.reorder order) ∧
    filled'.position = 0 ∧ filled'.diagnostics.Perm filled.diagnostics ∧
    filled'.warningCounts = [1, 1, 1, 1, 1] := by
  intro supply c d a before after filled filled'
  have hw : before.WellFormed := by
    refine .object (by decide) fun m hm => ?_
    rcases List.mem_cons.mp hm with rfl | hm
    · exact .string _
    · obtain rfl := List.mem_singleton.mp hm
      exact .object (by decide) (by simp [c, d, Json.WellFormed.string])
  have hkeys : ∀ e ∈ before.texts, e.1 = .key → ¬ OccursIn e.2 := by decide +kernel
  have hinner : (Json.object [c, d]).Reordered (.object [d, c]) :=
    .object rfl (fun
      | 0, _, _ => .string _
      | 1, _, _ => .string _) (.swap d c [])
  have hreordered : before.Reordered after :=
    @Json.Reordered.object _ [a, ("b", .object [d, c])] _ rfl (fun
      | 0, _, _ => .string _
      | 1, _, _ => hinner) (.swap _ _ [])
  have hstill : filled.position = 0 := by decide +kernel
  have hcounts : filled.warningCounts = [1, 1, 1, 1, 1] := by decide +kernel
  obtain ⟨⟨order, horder⟩, hdocument, hposition, hwarnings, hsame⟩ :=
    fill_reorder hw (fun key hk => hkeys (.key, key) hk rfl) hstill hreordered
  exact ⟨hw, hreordered, hstill, ⟨order, horder, hdocument order horder⟩, hposition, hwarnings,
    hsame.trans hcounts⟩

end Supply

end TemplateFill
