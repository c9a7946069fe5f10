import Mathlib.Data.List.Basic
import TemplateFill.Proofs.Fill.Sweeping
import TemplateFill.Proofs.Placeholder.Reporting
import TemplateFill.Random.Scripted

/-! # Documents in which nothing can be resolved

A placeholder that cannot be resolved is warned of in one mode, with one cause, and
stays as it is. A document of which no placeholder can be resolved stays as it is in
every sweep; so all passes see the same document and warn of the same things. -/
namespace TemplateFill

open Placeholder (OccursIn)

/-- Why a placeholder cannot be resolved in a document, and the mode in which that shows. -/
def Placeholder.fault? (root : Json) (p : Placeholder) : Option (Mode × Cause) :=
  match Kind.ofName? p.kind with
  | none => some (.generative, .unknownKind p.kind)
  | some .alnum | some .alpha | some .digit | some .b64 => match parseLength p.argument with
    | .error e => some (.generative, .invalidLength e.message)
    | .ok _ => none
  | some .env => none
  | some .ref => match Path.parse p.argument with
    | .error e => some (.reference, .invalidPath e.message)
    | .ok path => match root.lookup path with
      | .error e => some (.reference, .traversal e.message)
      | .ok (.string _) => none
      | .ok node => some (.reference, .notAString node.nodeType)

namespace Placeholder

variable {root : Json} {p : Placeholder}

theorem fault?_of_named {making : Random.Making} (h : (p.kind, making) ∈ Random.Making.named) :
    p.fault? root = match parseLength p.argument with
      | .error e => some (.generative, .invalidLength e.message)
      | .ok _ => none := by
  simp only [Random.Making.named, List.mem_cons, Prod.mk.injEq, List.not_mem_nil, or_false] at h
  rcases h with ⟨hkind, -⟩ | ⟨hkind, -⟩ | ⟨hkind, -⟩ | ⟨hkind, -⟩ | ⟨hkind, -⟩ <;>
    · rw [fault?, hkind]
      rfl

theorem Answers.fault?_eq {supply : Supply} {position after : Nat} {text : String}
    (h : p.Answers supply root position text after) : p.fault? root = none := by
  cases h with
  | random hnamed hlength => rw [fault?_of_named hnamed, hlength]
  | environment hkind =>
    rw [fault?, hkind]
    rfl
  | reference hkind hpath hnode =>
    have href : Kind.ofName? p.kind = some .ref := Kind.ofName?_eq_some_iff.mpr (.inl hkind)
    simp only [fault?, href, hpath, hnode]

theorem Fails.fault?_eq {cause : Cause} (h : p.Fails root cause) :
    p.fault? root = some (p.ownMode, cause) := by
  cases h with
  | unknownKind hkind =>
    rw [ownMode_of_unknown hkind]
    simp only [fault?, hkind]
  | invalidLength hnamed hlength => rw [ownMode_of_named hnamed, fault?_of_named hnamed, hlength]
  | invalidPath hkind hpath =>
    rw [ownMode, if_pos hkind, fault?, hkind]
    simp only [hpath]
    rfl
  | traversal hkind hpath hnode =>
    rw [ownMode, if_pos hkind, fault?, hkind]
    simp only [hpath, hnode]
    rfl
  | @notAString path node hkind hpath hnode htype =>
    rw [ownMode, if_pos hkind, fault?, hkind]
    simp only [hpath, hnode]
    cases node with
    | string => exact absurd rfl htype
    | null | bool | number | array | object => rfl

/-- A placeholder is at fault where it fails, in its own mode. -/
theorem fault?_eq_some_iff {mode : Mode} {cause : Cause} :
    p.fault? root = some (mode, cause) ↔ p.Fails root cause ∧ mode = p.ownMode := by
  constructor
  · intro h
    rcases p.answers_or_fails ⟨fun _ => none, Random.Source.scripted #[] 0⟩ root 0 with
      ⟨text, after, hanswers⟩ | ⟨cause, hfails⟩
    · rw [hanswers.fault?_eq] at h
      cases h
    · rw [hfails.fault?_eq] at h
      cases h
      exact ⟨hfails, rfl⟩
  · rintro ⟨hfails, rfl⟩
    exact hfails.fault?_eq

end Placeholder

/-- What a placeholder is warned of in a mode. -/
def Placeholder.warning? (root : Json) (mode : Mode) (p : Placeholder) : Option Diagnostic :=
  match p.fault? root with
  | some (m, cause) => if m = mode then some ⟨cause, p.raw⟩ else none
  | none => none

/-- What a text is warned of in a mode: each of its placeholders, or the whole text if
it has none but is loosely like one. -/
def textWarnings (root : Json) (mode : Mode) (text : String) : List Diagnostic :=
  if OccursIn text then (Template.ofText text).placeholders.filterMap (·.warning? root mode)
  else if mode = .generative ∧ Template.Loose text.toList then [⟨.malformed, text⟩] else []

/-- What a document is warned of in a mode, in the order of a visit. -/
def documentWarnings (document : Json) (mode : Mode) : List Diagnostic :=
  document.texts.flatMap fun e => textWarnings document mode e.2

/-- No placeholder of a text can be resolved in a document. -/
def Unresolvable (root : Json) (text : String) : Prop :=
  ∀ p ∈ (Template.ofText text).placeholders, (p.fault? root).isSome

instance (root : Json) (text : String) : Decidable (Unresolvable root text) :=
  inferInstanceAs (Decidable (∀ p ∈ (Template.ofText text).placeholders, _ = true))

namespace Supply

variable (supply : Supply) (mode : Mode) (root : Json)

theorem resolve_of_fault {p : Placeholder} (h : (p.fault? root).isSome) (position : Nat) :
    supply.resolve mode root p position = (.unmodified (p.warning? root mode), position) := by
  obtain ⟨⟨own, cause⟩, hfault⟩ := Option.isSome_iff_exists.mp h
  obtain ⟨hfails, rfl⟩ := Placeholder.fault?_eq_some_iff.mp hfault
  rw [Placeholder.warning?, hfault]
  by_cases hmode : mode = p.ownMode
  · subst hmode
    simp only [hfails.resolve_eq, if_true]
  · simp only [supply.resolve_other_mode root hmode, if_neg (Ne.symm hmode)]

theorem substitute_of_unresolvable {text : String} (h : Unresolvable root text) (position : Nat) :
    supply.substitute mode root text position =
      ⟨text, textWarnings root mode text, position⟩ := by
  by_cases hoccurs : OccursIn text
  · have heach := resolveEach_eq position fun p hp position =>
      supply.resolve_of_fault mode root (h p hp) position
    have hwrite : (Template.ofText text).write ((Template.ofText text).placeholders.map
        fun p => .unmodified (p.warning? root mode)) = text := by
      rw [← String.toList_inj, Template.toList_write_map]
      exact (Template.cuts_ofText text).joined_eq
    rw [substitute_of_occursIn supply mode root hoccurs]
    simp only [heach, hwrite, textWarnings, if_pos hoccurs, List.filterMap_eq_flatMap_toList,
      List.flatMap_map, Resolution.diagnostics]
  · rw [substitute_of_not_occursIn supply mode root hoccurs, textWarnings, if_neg hoccurs]

theorem sweep_of_unresolvable {document : Json} (hw : document.WellFormed)
    (h : ∀ e ∈ document.texts, Unresolvable document e.2) (position : Nat) :
    supply.sweep mode document document position =
      ⟨document, documentWarnings document mode, position⟩ := by
  have hsteady : Steady supply mode document document.texts (fun text => text)
      (textWarnings document mode) :=
    fun e he position => supply.substitute_of_unresolvable mode document (h e he) position
  rw [sweep_eq_mapStrings hw hsteady (fun _ _ => rfl), Json.mapStrings_id]
  rfl

/-- Filling leaves a document alone in which nothing can be resolved: each pass draws
nothing and warns of the same things, those of the generative mode first, and each once. -/
theorem fill_of_unresolvable {document : Json} (hw : document.WellFormed)
    (h : ∀ e ∈ document.texts, Unresolvable document e.2) (position : Nat) :
    let warnings :=
      (documentWarnings document .generative ++ documentWarnings document .reference).eraseDups
    supply.pass document position = ⟨document, warnings, position⟩ ∧
    (∀ n, Nat.repeat supply.advance (n + 1) ⟨document, [], [], position⟩ =
      ⟨document, warnings, List.replicate (n + 1) warnings.length, position⟩) ∧
    supply.fill document position =
      ⟨document, warnings, List.replicate passCount warnings.length, position⟩ := by
  intro warnings
  have hpass : supply.pass document position = ⟨document, warnings, position⟩ := by
    simp only [pass, supply.sweep_of_unresolvable _ hw h, warnings]
  have hrun : ∀ n, Nat.repeat supply.advance (n + 1) ⟨document, [], [], position⟩ =
      ⟨document, warnings, List.replicate (n + 1) warnings.length, position⟩ := by
    intro n
    induction n with
    | zero => simp only [Nat.repeat, advance, hpass]; rfl
    | succ n ih =>
      rw [Nat.repeat, ih, advance, hpass, List.replicate_succ' (n := n + 1)]
  exact ⟨hpass, hrun, hrun (passCount - 1)⟩

/-- Each cause at once. The placeholder with a bad length stands twice in the document
and is warned of once. -/
theorem fill_of_unresolvable_causes :
    let supply : Supply := ⟨fun _ => none, Random.Source.scripted #[] 0⟩
    let document : Json := .object
      [("\x7b\x7bref:'z'\x7d\x7d", .string "\x7b\x7bup:1\x7d\x7d, \x7b\x7bdigit:x\x7d\x7d"),
        ("a", .array [.string "\x7b\x7bdigit:x\x7d\x7d \x7b\x7bref:x\x7d\x7d",
          .string "\x7b\x7bup\x7d\x7d", .string "\x7b\x7bref:'a'\x7d\x7d"])]
    let warnings : List Diagnostic :=
      [⟨.unknownKind "up", "\x7b\x7bup:1\x7d\x7d"⟩,
        ⟨.invalidLength "'x' is not a non-negative integer", "\x7b\x7bdigit:x\x7d\x7d"⟩,
        ⟨.malformed, "\x7b\x7bup\x7d\x7d"⟩,
        ⟨.traversal "key 'z' not found at document root", "\x7b\x7bref:'z'\x7d\x7d"⟩,
        ⟨.invalidPath "'x' is neither a single-quoted key nor a decimal index",
          "\x7b\x7bref:x\x7d\x7d"⟩,
        ⟨.notAString .array, "\x7b\x7bref:'a'\x7d\x7d"⟩]
    document.WellFormed ∧ (∀ e ∈ document.texts, Unresolvable document e.2) ∧
    supply.fill document 0 = ⟨document, warnings, [6, 6, 6, 6, 6], 0⟩ := by
  intro supply document warnings
  have hw : document.WellFormed := by
    refine .object (by decide) fun m hm => ?_
    rcases List.mem_cons.mp hm with rfl | hm
    · exact .string _
    · obtain rfl := List.mem_singleton.mp hm
      exact .array (by simp [Json.WellFormed.string])
  have h : ∀ e ∈ document.texts, Unresolvable document e.2 := by decide +kernel
  have hwarnings : (documentWarnings document .generative ++
      documentWarnings document .reference).eraseDups = warnings := by decide +kernel
  have hfill := (supply.fill_of_unresolvable hw h 0).2.2
  rw [hwarnings] at hfill
  exact ⟨hw, h, hfill⟩

end Supply

end TemplateFill
