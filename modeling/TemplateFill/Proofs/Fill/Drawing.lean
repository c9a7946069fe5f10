import TemplateFill.Proofs.Fill.Dependence
import TemplateFill.Proofs.Fill.Sweeping

/-! # When words are drawn

Neither a substitution nor a sweep ever goes back in the random words. A substitution
that draws none is the same from every position; a sweep that draws none makes only such
substitutions, so it is a map over the strings. -/
namespace TemplateFill.Supply

open TemplateFill.Random (Comparison Orderly)

variable (supply : Supply) (mode : Mode) (root : Json)

/-- A supply compares to itself. -/
theorem compares_self :
    Compares (.sameWords supply.random.toWords supply.random.toWords) supply supply mode root
      root :=
  compares_sameWords supply.env supply.random supply.random mode root

theorem substitute_orderly (text : String) :
    Orderly (Outcome.act (supply.substitute mode root text)) :=
  .of_sameWords ((supply.compares_self mode root).substitute text)

theorem sweep_orderly (document : Json) :
    Orderly (Outcome.act (supply.sweep mode root document)) :=
  .of_sameWords ((supply.compares_self mode root).sweep document)

theorem sweepItems_orderly (items : List Json) :
    Orderly (Outcome.act (supply.sweepItems mode root items)) :=
  .of_sameWords (sweepItems_compare fun item _ => (supply.compares_self mode root).sweep item)

theorem substitute_still {text : String} {position : Nat}
    (h : (supply.substitute mode root text position).position = position) (other : Nat) :
    supply.substitute mode root text other =
      { supply.substitute mode root text position with position := other } :=
  Outcome.ext_act ((supply.substitute_orderly mode root text).still position h other)

theorem le_position_sweep (document : Json) (position : Nat) :
    position ≤ (supply.sweep mode root document position).position :=
  (supply.sweep_orderly mode root document).le position

/-- A sweep that draws no word draws none for any of the texts. -/
theorem substitute_position_of_sweep {document : Json} {position : Nat}
    (h : (supply.sweep mode root document position).position = position) :
    ∀ e ∈ document.texts, (supply.substitute mode root e.2 position).position = position := by
  induction document using Json.induction with
  | null | bool | number =>
    intro e he
    cases he
  | string text =>
    intro e he
    obtain rfl := List.mem_singleton.mp he
    exact h
  | array items ih =>
    rw [sweep] at h
    rw [Json.texts_array]
    induction items with
    | nil =>
      intro e he
      cases he
    | cons item rest ihrest =>
      obtain ⟨hfirst, hothers⟩ := (supply.sweep_orderly mode root item).parts
        (fun _ => supply.sweepItems_orderly mode root rest) h
      intro e he
      rcases List.mem_append.mp he with he | he
      · exact ih item List.mem_cons_self hfirst e he
      · exact ihrest (fun i hi => ih i (List.mem_cons_of_mem _ hi)) hothers e he
  | object members ih =>
    rw [sweep] at h
    rw [Json.texts_object]
    induction members with
    | nil =>
      intro e he
      cases he
    | cons m rest ihrest =>
      have hself := supply.compares_self mode root
      have hothers := hself.sweepMembers fun m (_ : m ∈ rest) => hself.sweep m.2
      have hafter := Orderly.of_sameWords (Comparison.bind _ (hself.sweep m.2) fun _ => hothers)
      obtain ⟨hkey, h⟩ := (supply.substitute_orderly mode root m.1).parts (fun _ => hafter) h
      obtain ⟨hvalue, h⟩ := (supply.sweep_orderly mode root m.2).parts
        (fun _ => .of_sameWords hothers) h
      intro e he
      rcases List.mem_append.mp he with he | he
      · rcases List.mem_cons.mp he with rfl | he
        · exact hkey
        · exact ih m List.mem_cons_self hvalue e he
      · exact ihrest (fun m hm => ih m (List.mem_cons_of_mem _ hm)) h e he

/-- A sweep that draws no word makes the same substitutions from every position. -/
theorem steady_of_position_eq {document : Json} {position : Nat}
    (h : (supply.sweep mode root document position).position = position) :
    Steady supply mode root document.texts
      (fun text => (supply.substitute mode root text position).result)
      fun text => (supply.substitute mode root text position).diagnostics :=
  fun e he other =>
    supply.substitute_still mode root (supply.substitute_position_of_sweep mode root h e he) other

theorem le_position_pass (document : Json) (position : Nat) :
    position ≤ (supply.pass document position).position :=
  Nat.le_trans (supply.le_position_sweep .generative document document position)
    (supply.le_position_sweep .reference _ _ _)

theorem le_position_repeat (report : Report) (n : Nat) :
    report.position ≤ (Nat.repeat supply.advance n report).position := by
  induction n with
  | zero => exact Nat.le_refl _
  | succ n ih => exact Nat.le_trans ih (supply.le_position_pass _ _)

end TemplateFill.Supply
