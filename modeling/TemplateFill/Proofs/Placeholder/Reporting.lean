import TemplateFill.Proofs.Placeholder.Requests

/-! # What becomes of a placeholder

Each placeholder has one mode, that of its kind. There it gives way to a value, or it stays
and one warning gives the cause; in the other mode it stays and nothing is said. Only the
value of a random kind takes words. A text without placeholders that is loosely like one is
warned of as a whole, and no other text is. -/
namespace TemplateFill

open TemplateFill.Random (Making)

namespace Placeholder

/-- The mode in which a placeholder is filled or warned of. -/
def ownMode (p : Placeholder) : Mode := if p.kind = "ref" then .reference else .generative

/-- The placeholder has this value, and this is the position after the words it takes. -/
inductive Answers (supply : Supply) (root : Json) (p : Placeholder) (position : Nat) :
    String → Nat → Prop
  | random {making : Making} {length : Nat} (hnamed : (p.kind, making) ∈ Making.named)
      (hlength : parseLength p.argument = .ok length) :
      Answers supply root p position (making.draw supply.random length position).1
        (making.draw supply.random length position).2
  | environment (hkind : p.kind = "env") :
      Answers supply root p position ((supply.env p.argument).getD "") position
  | reference {path : Path} {text : String} (hkind : p.kind = "ref")
      (hpath : Path.parse p.argument = .ok path) (hnode : root.lookup path = .ok (.string text)) :
      Answers supply root p position text position

/-- The placeholder has no value, for this cause. -/
inductive Fails (root : Json) (p : Placeholder) : Cause → Prop
  | unknownKind (hkind : Kind.ofName? p.kind = none) : Fails root p (.unknownKind p.kind)
  | invalidLength {making : Making} {e : LengthError} (hnamed : (p.kind, making) ∈ Making.named)
      (hlength : parseLength p.argument = .error e) : Fails root p (.invalidLength e.message)
  | invalidPath {e : Path.ParseError} (hkind : p.kind = "ref")
      (hpath : Path.parse p.argument = .error e) : Fails root p (.invalidPath e.message)
  | traversal {path : Path} {e : LookupError} (hkind : p.kind = "ref")
      (hpath : Path.parse p.argument = .ok path) (hnode : root.lookup path = .error e) :
      Fails root p (.traversal e.message)
  | notAString {path : Path} {node : Json} (hkind : p.kind = "ref")
      (hpath : Path.parse p.argument = .ok path) (hnode : root.lookup path = .ok node)
      (htype : node.nodeType ≠ .string) : Fails root p (.notAString node.nodeType)

variable {p : Placeholder}

theorem ownMode_of_ofName? {kind : Kind} (h : Kind.ofName? p.kind = some kind) :
    p.ownMode = kind.mode := by
  rcases Kind.ofName?_eq_some_iff.mp h with hname | ⟨hname, rfl⟩
  · rw [ownMode, hname]
    cases kind <;> rfl
  · rw [ownMode, hname]
    rfl

theorem ownMode_of_unknown (h : Kind.ofName? p.kind = none) : p.ownMode = .generative := by
  refine if_neg fun hname => ?_
  rw [hname] at h
  cases h

theorem ne_of_named {name : String} {making : Making} (h : (name, making) ∈ Making.named) :
    name ≠ "env" ∧ name ≠ "ref" := by
  constructor <;>
    · rintro rfl
      simp [Making.named] at h

theorem ownMode_of_named {making : Making} (h : (p.kind, making) ∈ Making.named) :
    p.ownMode = .generative := if_neg (ne_of_named h).2

/-- A known name is that of a random kind, of variables or of references. -/
theorem named_of_ofName? {name : String} {kind : Kind} (h : Kind.ofName? name = some kind) :
    (∃ making, (name, making) ∈ Making.named) ∨ name = "env" ∨ name = "ref" := by
  rcases Kind.ofName?_eq_some_iff.mp h with rfl | ⟨rfl, -⟩
  · cases kind <;> simp [Kind.name, Making.named]
  · simp [Making.named]

/-- A placeholder has a value, or there is a cause for which it has none. -/
theorem answers_or_fails (supply : Supply) (root : Json) (p : Placeholder) (position : Nat) :
    (∃ text after, p.Answers supply root position text after) ∨ ∃ cause, p.Fails root cause := by
  cases hkind : Kind.ofName? p.kind with
  | none => exact .inr ⟨_, .unknownKind hkind⟩
  | some kind =>
    rcases named_of_ofName? hkind with ⟨making, hnamed⟩ | henv | href
    · cases hlength : parseLength p.argument with
      | ok length => exact .inl ⟨_, _, .random hnamed hlength⟩
      | error e => exact .inr ⟨_, .invalidLength hnamed hlength⟩
    · exact .inl ⟨_, _, .environment henv⟩
    · cases hpath : Path.parse p.argument with
      | error e => exact .inr ⟨_, .invalidPath href hpath⟩
      | ok path =>
        cases hnode : root.lookup path with
        | error e => exact .inr ⟨_, .traversal href hpath hnode⟩
        | ok node =>
          cases node with
          | string text => exact .inl ⟨_, _, .reference href hpath hnode⟩
          | null | bool | number | array | object =>
            exact .inr ⟨_, .notAString href hpath hnode (by simp [Json.nodeType])⟩

/-- A reference fails for the cause for which its path cannot be followed to a string. -/
theorem Fails.resolveReference_eq {root : Json} {cause : Cause} (h : p.Fails root cause)
    (hkind : p.kind = "ref") : resolveReference p.argument root = .error cause := by
  cases h with
  | unknownKind hunknown =>
    rw [hkind] at hunknown
    cases hunknown
  | invalidLength hnamed => exact absurd hkind (ne_of_named hnamed).2
  | invalidPath _ hpath => simp only [resolveReference, hpath]
  | traversal _ hpath hnode => simp only [resolveReference, hpath, hnode]
  | @notAString path node _ hpath hnode htype =>
    cases node with
    | string => exact absurd rfl htype
    | null | bool | number | array | object => simp only [resolveReference, hpath, hnode]

end Placeholder

namespace Supply

variable {supply : Supply} {root : Json} {p : Placeholder} {position : Nat}

theorem resolve_ref_error (hkind : p.kind = "ref") {cause : Cause}
    (h : resolveReference p.argument root = .error cause) :
    supply.resolve p.ownMode root p position = (.unmodified (some ⟨cause, p.raw⟩), position) := by
  have href : Kind.ofName? p.kind = some .ref := Kind.ofName?_eq_some_iff.mpr (.inl hkind)
  rw [Placeholder.ownMode_of_ofName? href]
  simp [resolve, href, fulfil, h, Except.map]

end Supply

theorem Placeholder.Answers.resolve_eq {supply : Supply} {root : Json} {p : Placeholder}
    {position after : Nat} {text : String} (h : p.Answers supply root position text after) :
    supply.resolve p.ownMode root p position = (.value text, after) := by
  cases h with
  | random hnamed hlength => rw [ownMode_of_named hnamed, supply.resolve_named hnamed, hlength]
  | environment hkind =>
    have henv : Kind.ofName? p.kind = some .env := Kind.ofName?_eq_some_iff.mpr (.inl hkind)
    rw [ownMode_of_ofName? henv]
    simp [Supply.resolve, henv, Supply.fulfil]
  | reference hkind hpath hnode =>
    have href : Kind.ofName? p.kind = some .ref := Kind.ofName?_eq_some_iff.mpr (.inl hkind)
    rw [ownMode_of_ofName? href]
    exact Supply.resolve_ref href (by simp only [resolveReference, hpath, hnode]) position

theorem Placeholder.Fails.resolve_eq {root : Json} {p : Placeholder} {cause : Cause}
    (h : p.Fails root cause) (supply : Supply) (position : Nat) :
    supply.resolve p.ownMode root p position = (.unmodified (some ⟨cause, p.raw⟩), position) := by
  by_cases href : p.kind = "ref"
  · exact Supply.resolve_ref_error href (h.resolveReference_eq href)
  · cases h with
    | unknownKind hkind =>
      rw [ownMode_of_unknown hkind]
      simp [Supply.resolve, hkind]
    | invalidLength hnamed hlength =>
      rw [ownMode_of_named hnamed, supply.resolve_named hnamed, hlength]
    | invalidPath hkind | traversal hkind | notAString hkind => exact absurd hkind href

theorem Placeholder.Answers.position_eq {supply : Supply} {root : Json} {p : Placeholder}
    {position after : Nat} {text : String} (h : p.Answers supply root position text after)
    (hkind : p.kind = "env" ∨ p.kind = "ref") : after = position := by
  cases h with
  | random hnamed =>
    obtain ⟨hvariable, href⟩ := ne_of_named hnamed
    exact absurd hkind (by simp [hvariable, href])
  | environment => rfl
  | reference => rfl

theorem Placeholder.not_fails_of_env {root : Json} {p : Placeholder} (hkind : p.kind = "env")
    (cause : Cause) : ¬ p.Fails root cause := by
  intro h
  cases h with
  | unknownKind hunknown =>
    rw [hkind] at hunknown
    cases hunknown
  | invalidLength hnamed => exact (ne_of_named hnamed).1 hkind
  | invalidPath href | traversal href | notAString href =>
    rw [hkind] at href
    exact absurd href (by decide)

theorem Placeholder.Fails.ne_malformed {root : Json} {p : Placeholder} {cause : Cause}
    (h : p.Fails root cause) : cause ≠ .malformed := by
  rintro rfl
  cases h

namespace Supply

open Placeholder (OccursIn)

variable (supply : Supply) (root : Json) {p : Placeholder} {position : Nat}

theorem resolve_other_mode {mode : Mode} (h : mode ≠ p.ownMode) (position : Nat) :
    supply.resolve mode root p position = (.unmodified none, position) := by
  cases hkind : Kind.ofName? p.kind with
  | none =>
    rw [Placeholder.ownMode_of_unknown hkind] at h
    simp only [resolve, hkind, if_neg h]
  | some kind =>
    rw [Placeholder.ownMode_of_ofName? hkind] at h
    simp only [resolve, hkind, if_pos h.symm]

/-- All that resolving a placeholder can do. -/
theorem resolve_cases (mode : Mode) (p : Placeholder) (position : Nat) :
    (∃ text after, p.Answers supply root position text after ∧
      supply.resolve mode root p position = (.value text, after)) ∨
    (∃ cause, p.Fails root cause ∧
      supply.resolve mode root p position = (.unmodified (some ⟨cause, p.raw⟩), position)) ∨
    supply.resolve mode root p position = (.unmodified none, position) := by
  by_cases hmode : mode = p.ownMode
  · subst hmode
    rcases p.answers_or_fails supply root position with ⟨text, after, hanswers⟩ | ⟨cause, hfails⟩
    · exact .inl ⟨text, after, hanswers, hanswers.resolve_eq⟩
    · exact .inr (.inl ⟨cause, hfails, hfails.resolve_eq supply position⟩)
  · exact .inr (.inr (supply.resolve_other_mode root hmode position))

theorem resolve_eq_value_iff {text : String} {after : Nat} :
    supply.resolve p.ownMode root p position = (.value text, after) ↔
      p.Answers supply root position text after := by
  refine ⟨fun h => ?_, Placeholder.Answers.resolve_eq⟩
  rcases p.answers_or_fails supply root position with ⟨text', after', hanswers⟩ | ⟨cause, hfails⟩
  · rw [hanswers.resolve_eq] at h
    cases h
    exact hanswers
  · rw [hfails.resolve_eq] at h
    cases h

theorem resolve_eq_unmodified_iff {warning : Option Diagnostic} {after : Nat} :
    supply.resolve p.ownMode root p position = (.unmodified warning, after) ↔
      ∃ cause, p.Fails root cause ∧ warning = some ⟨cause, p.raw⟩ ∧ after = position := by
  constructor
  · intro h
    rcases p.answers_or_fails supply root position with ⟨text, after', hanswers⟩ | ⟨cause, hfails⟩
    · rw [hanswers.resolve_eq] at h
      cases h
    · rw [hfails.resolve_eq] at h
      cases h
      exact ⟨cause, hfails, rfl, rfl⟩
  · rintro ⟨cause, hfails, rfl, rfl⟩
    exact hfails.resolve_eq supply after

/-- **No placeholder fails in silence, and none that fails takes a word.** In its own mode a
placeholder has a value, or it stays with one warning about it, of the one cause that it fails
for; in the other mode it stays without one. Variables never fail. Words are taken for
values of the random kinds only. -/
theorem resolve_answers_or_warns (p : Placeholder) (position : Nat) :
    (∀ text after, supply.resolve p.ownMode root p position = (.value text, after) ↔
      p.Answers supply root position text after) ∧
    (∀ warning after, supply.resolve p.ownMode root p position = (.unmodified warning, after) ↔
      ∃ cause, p.Fails root cause ∧ warning = some ⟨cause, p.raw⟩ ∧ after = position) ∧
    (∀ mode, mode ≠ p.ownMode →
      supply.resolve mode root p position = (.unmodified none, position)) ∧
    (p.kind = "env" → ∀ cause, ¬ p.Fails root cause) ∧
    ∀ mode, ((∃ warning, (supply.resolve mode root p position).1 = .unmodified warning) ∨
        p.kind = "env" ∨ p.kind = "ref") →
      (supply.resolve mode root p position).2 = position := by
  refine ⟨fun text after => supply.resolve_eq_value_iff root,
    fun warning after => supply.resolve_eq_unmodified_iff root,
    fun mode hmode => supply.resolve_other_mode root hmode position,
    Placeholder.not_fails_of_env, fun mode h => ?_⟩
  rcases supply.resolve_cases root mode p position with
    ⟨text, after, hanswers, he⟩ | ⟨cause, -, he⟩ | he
  · rw [he] at h ⊢
    rcases h with ⟨warning, hstays⟩ | hkind
    · cases hstays
    · exact hanswers.position_eq hkind
  · rw [he]
  · rw [he]

/-- A length just over the limit, and a variable that is not set. -/
theorem resolve_answers_or_warns_over_limit :
    let supply : Supply := ⟨fun _ => none, Random.Source.scripted #[] 0⟩
    let p : Placeholder := ⟨"digits", "1048577", "\x7b\x7bdigits:1048577\x7d\x7d"⟩
    let v : Placeholder := ⟨"env", "A", "\x7b\x7benv:A\x7d\x7d"⟩
    let cause : Cause := .invalidLength "1048577 exceeds the maximum of 1048576"
    p.Fails .null cause ∧
    supply.resolve .generative .null p 3 = (.unmodified (some ⟨cause, p.raw⟩), 3) ∧
    .reference ≠ p.ownMode ∧ supply.resolve .reference .null p 3 = (.unmodified none, 3) ∧
    v.kind = "env" ∧ (∀ cause, ¬ v.Fails .null cause) ∧
    (supply.resolve .generative .null v 3).2 = 3 := by
  intro supply p v cause
  have hnamed : (p.kind, .text .digit) ∈ Making.named := by simp [Making.named, p]
  have hlength : parseLength p.argument = .error (.overLimit 1048577) := by decide
  have hfails : p.Fails .null cause := .invalidLength hnamed hlength
  obtain ⟨-, hwarned, hother, -⟩ := supply.resolve_answers_or_warns .null p 3
  obtain ⟨-, -, -, hnever, hstill⟩ := supply.resolve_answers_or_warns .null v 3
  have hmode : .reference ≠ p.ownMode := by decide
  exact ⟨hfails, (hwarned _ 3).mpr ⟨cause, hfails, rfl, rfl⟩, hmode, hother .reference hmode, rfl,
    hnever rfl, hstill .generative (.inr (.inl rfl))⟩

/-! ## Warnings about texts -/

/-- A placeholder is warned of for the cause that it fails for. -/
theorem mem_resolve_diagnostics {mode : Mode} {d : Diagnostic}
    (h : d ∈ (supply.resolve mode root p position).1.diagnostics) :
    p.Fails root d.cause ∧ d.raw = p.raw := by
  rcases supply.resolve_cases root mode p position with
    ⟨text, after, -, he⟩ | ⟨cause, hfails, he⟩ | he
  · rw [he] at h
    cases h
  · rw [he] at h
    obtain rfl := List.mem_singleton.mp h
    exact ⟨hfails, rfl⟩
  · rw [he] at h
    cases h

theorem mem_resolveEach_diagnostics {mode : Mode} {d : Diagnostic} {ps : List Placeholder}
    (h : d ∈ (supply.resolveEach mode root ps position).1.flatMap Resolution.diagnostics) :
    ∃ p ∈ ps, p.Fails root d.cause ∧ d.raw = p.raw := by
  induction ps generalizing position with
  | nil => cases h
  | cons p rest ih =>
    simp only [resolveEach, List.flatMap_cons, List.mem_append] at h
    rcases h with h | h
    · exact ⟨p, List.mem_cons_self, supply.mem_resolve_diagnostics root h⟩
    · obtain ⟨q, hq, hfails⟩ := ih h
      exact ⟨q, List.mem_cons_of_mem _ hq, hfails⟩

/-- A text with placeholders is warned of for those that fail, and not as a whole. -/
theorem mem_substitute_diagnostics {mode : Mode} {text : String} (hoccurs : OccursIn text)
    {d : Diagnostic} (h : d ∈ (supply.substitute mode root text position).diagnostics) :
    ∃ p ∈ (Template.ofText text).placeholders, p.Fails root d.cause ∧ d.raw = p.raw := by
  rw [substitute_of_occursIn supply mode root hoccurs] at h
  exact supply.mem_resolveEach_diagnostics root h

/-- **A text is warned of as a whole exactly where it is due**: it has no placeholder, and in
one of its lines braces open and close. That warning comes alone, and only in the generative
mode; all others are about the placeholders of the text. -/
theorem malformed_iff_loose (text : String) (position : Nat) :
    let outcome := supply.substitute .generative root text position
    ((∃ raw, ⟨.malformed, raw⟩ ∈ outcome.diagnostics) ↔
      ¬ OccursIn text ∧ Template.Loose text.toList) ∧
    (¬ OccursIn text ∧ Template.Loose text.toList →
      outcome = ⟨text, [⟨.malformed, text⟩], position⟩) ∧
    (∀ raw, ⟨.malformed, raw⟩ ∉
      (supply.substitute .reference root text position).diagnostics) ∧
    (outcome.diagnostics = [⟨.malformed, text⟩] ∨
      ∀ t : Template, t.Cuts text.toList → ∀ d ∈ outcome.diagnostics,
        ∃ p ∈ t.placeholders, p.Fails root d.cause ∧ d.raw = p.raw) := by
  intro outcome
  by_cases hoccurs : OccursIn text
  · have hquiet : ∀ mode raw, ⟨.malformed, raw⟩ ∉
        (supply.substitute mode root text position).diagnostics := by
      intro mode raw h
      obtain ⟨p, -, hfails, -⟩ := supply.mem_substitute_diagnostics root hoccurs h
      exact hfails.ne_malformed rfl
    refine ⟨?_, fun h => absurd hoccurs h.1, hquiet .reference, .inr fun t ht d hd => ?_⟩
    · exact ⟨fun ⟨raw, h⟩ => absurd h (hquiet _ raw), fun h => absurd hoccurs h.1⟩
    · rw [← Template.ofText_eq_iff.mpr ht]
      exact supply.mem_substitute_diagnostics root hoccurs hd
  · have hwhole := fun mode => supply.substitute_of_not_occursIn mode root hoccurs position
    have hreference : (supply.substitute .reference root text position).diagnostics = [] := by
      rw [hwhole]
      simp
    have houtcome : outcome = _ := hwhole .generative
    by_cases hloose : Template.Loose text.toList
    · rw [if_pos ⟨rfl, hloose⟩] at houtcome
      rw [houtcome, hreference]
      simp [hoccurs, hloose]
    · rw [if_neg fun h => hloose h.2] at houtcome
      rw [houtcome, hreference]
      simp [hloose]

/-- Braces that open and close in one line but hold no kind, and braces that close only in the
next line. -/
theorem malformed_iff_loose_braces :
    let supply : Supply := ⟨fun _ => none, Random.Source.scripted #[] 0⟩
    let text := "\x7b\x7b\x7d\n\x7d\x7d \x7b\x7b\x7b\x7d\x7d\x7d"
    ¬ OccursIn text ∧ Template.Loose text.toList ∧
    supply.substitute .generative .null text 0 = ⟨text, [⟨.malformed, text⟩], 0⟩ := by
  intro supply text
  have hnone : ¬ OccursIn text := by decide +kernel
  have hloose : Template.Loose text.toList := by decide
  obtain ⟨-, hwhole, -⟩ := supply.malformed_iff_loose .null text 0
  exact ⟨hnone, hloose, hwhole ⟨hnone, hloose⟩⟩

end Supply

end TemplateFill
