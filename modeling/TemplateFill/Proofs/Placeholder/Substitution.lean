import TemplateFill.Placeholder.Substitute
import TemplateFill.Proofs.Placeholder.Cutting
import TemplateFill.Random.Scripted

/-! # What substitution writes

The placeholders of a text are resolved one after the other, each from the position
that the one before it reached, and each gives way to its value or stays as it is
written; the text between them stays. A text without placeholders stays, and the
supply is not used for it. -/
namespace TemplateFill

namespace Template

/-- The pieces of a template with its placeholders resolved. -/
def write (t : Template) (resolutions : List Resolution) : String :=
  (List.zipWith (fun segment r => segment.1 ++ Resolution.textFor segment.2 r)
    t.segments resolutions).foldr (· ++ ·) t.tail

theorem toList_write_map (t : Template) (outcome : Placeholder → Resolution) :
    (t.write (t.placeholders.map outcome)).toList =
      t.filled fun p => ((outcome p).textFor p).toList := by
  obtain ⟨segments, tail⟩ := t
  simp only [write, filled, placeholders, List.map_map, List.zipWith_map_right,
    List.zipWith_self, Function.comp_def]
  induction segments with
  | nil => rfl
  | cons segment rest ih =>
    simp only [List.map_cons, List.foldr_cons, List.flatMap_cons, String.toList_append, ih,
      List.append_assoc]

/-- Two opening braces and, later in the same line, two closing ones. -/
def Loose (s : List Char) : Prop :=
  ∃ before between after, s = before ++ '{' :: '{' :: (between ++ '}' :: '}' :: after) ∧
    '\n' ∉ between

/-- What is left of a line closes braces that were opened before. -/
def Closes (s : List Char) : Prop :=
  ∃ between after, s = between ++ '}' :: '}' :: after ∧ '\n' ∉ between

theorem loose_cons {c : Char} {s : List Char} :
    Loose (c :: s) ↔ (∃ rest, c = '{' ∧ s = '{' :: rest ∧ Closes rest) ∨ Loose s := by
  constructor
  · rintro ⟨before, between, after, hs, hn⟩
    cases before with
    | nil =>
      obtain ⟨hc, hs⟩ := List.cons.inj hs
      exact .inl ⟨_, hc, hs, between, after, rfl, hn⟩
    | cons b before =>
      obtain ⟨-, hs⟩ := List.cons.inj hs
      exact .inr ⟨before, between, after, hs, hn⟩
  · rintro (⟨rest, rfl, rfl, between, after, rfl, hn⟩ | ⟨before, between, after, rfl, hn⟩)
    · exact ⟨[], between, after, rfl, hn⟩
    · exact ⟨c :: before, between, after, rfl, hn⟩

theorem closes_cons {c : Char} {s : List Char} :
    Closes (c :: s) ↔ (∃ rest, c = '}' ∧ s = '}' :: rest) ∨ c ≠ '\n' ∧ Closes s := by
  constructor
  · rintro ⟨between, after, hs, hn⟩
    cases between with
    | nil =>
      obtain ⟨hc, hs⟩ := List.cons.inj hs
      exact .inl ⟨after, hc, hs⟩
    | cons b between =>
      obtain ⟨rfl, htail⟩ := List.cons.inj hs
      simp only [List.mem_cons, not_or] at hn
      exact .inr ⟨Ne.symm hn.1, between, after, htail, hn.2⟩
  · rintro (⟨rest, rfl, rfl⟩ | ⟨hc, between, after, rfl, hn⟩)
    · exact ⟨[], rest, rfl, by simp⟩
    · exact ⟨c :: between, after, rfl, by simp [Ne.symm hc, hn]⟩

/-- A brace that opens may stand before the braces that close. -/
theorem closes_open {s : List Char} (h : ∃ rest, s = '{' :: rest ∧ Closes rest) : Closes s := by
  obtain ⟨rest, rfl, hrest⟩ := h
  exact closes_cons.mpr (.inr ⟨by decide, hrest⟩)

theorem looksLikeOne_iff_or (opened : Bool) (s : List Char) :
    looksLikeOne opened s = true ↔ opened = true ∧ Closes s ∨ Loose s := by
  fun_induction looksLikeOne opened s with
  | case1 opened s ih => simp [ih, loose_cons, closes_cons]
  | case2 s ih =>
    have hopen := closes_open (s := s)
    simp only [ih, loose_cons, List.cons.injEq]
    grind
  | case3 s => simp [closes_cons]
  | case4 opened c s hline hopens hcloses ih =>
    have hopen := closes_open (s := s)
    rw [ih, loose_cons, closes_cons]
    cases opened <;> grind
  | case5 => simp [Loose, Closes]

theorem looksLikeOne_iff {s : List Char} : looksLikeOne false s = true ↔ Loose s := by
  simp [looksLikeOne_iff_or]

theorem not_loose {s : List Char} (h : '{' ∉ s) : ¬ Loose s := by
  rintro ⟨before, between, after, rfl, -⟩
  exact h (by simp)

instance (s : List Char) : Decidable (Loose s) :=
  decidable_of_iff (looksLikeOne false s = true) looksLikeOne_iff

end Template

namespace Supply

open Placeholder (Heads WellFormed OccursIn chars)

variable (supply : Supply) (mode : Mode) (root : Json)

/-- Resolves placeholders one after the other, each from the position that the one
before it reached. -/
def resolveEach : List Placeholder → Nat → List Resolution × Nat
  | [], position => ([], position)
  | p :: rest, position =>
    let (resolution, position) := supply.resolve mode root p position
    let (others, position) := resolveEach rest position
    (resolution :: others, position)

variable {supply mode root} in
/-- Placeholders that are resolved without random words are resolved each by itself. -/
theorem resolveEach_eq {outcome : Placeholder → Resolution} :
    ∀ {ps : List Placeholder} (position : Nat),
      (∀ p ∈ ps, ∀ position, supply.resolve mode root p position = (outcome p, position)) →
      supply.resolveEach mode root ps position = (ps.map outcome, position)
  | [], _, _ => rfl
  | p :: rest, position, h => by
    have hrest := resolveEach_eq position fun q hq => h q (List.mem_cons_of_mem _ hq)
    simp only [resolveEach, h p List.mem_cons_self, hrest, List.map_cons]

theorem fillSegments_eq (tail : String) :
    ∀ (segments : List (String × Placeholder)) (position : Nat),
      supply.fillSegments mode root tail segments position =
        let t : Template := ⟨segments, tail⟩
        let (resolutions, position) := supply.resolveEach mode root t.placeholders position
        ⟨t.write resolutions, resolutions.flatMap Resolution.diagnostics, position⟩
  | [], _ => rfl
  | (before, p) :: rest, position => by
    have ih := fillSegments_eq tail rest (supply.resolve mode root p position).2
    simp only [Template.placeholders] at ih
    simp only [fillSegments, ih, Template.placeholders, Template.write, resolveEach,
      List.map_cons, List.zipWith_cons_cons, List.foldr_cons, List.flatMap_cons]

theorem substitute_of_occursIn {text : String} (h : OccursIn text) (position : Nat) :
    supply.substitute mode root text position =
      let t := Template.ofText text
      let (resolutions, position) := supply.resolveEach mode root t.placeholders position
      ⟨t.write resolutions, resolutions.flatMap Resolution.diagnostics, position⟩ := by
  have hne : (Template.ofText text).segments.isEmpty = false := by
    rw [List.isEmpty_eq_false_iff]
    exact fun hnil => Template.segments_eq_nil_iff.mp hnil h
  simp only [substitute, hne, Bool.false_eq_true, if_false]
  exact fillSegments_eq ..

theorem substitute_of_not_occursIn {text : String} (h : ¬ OccursIn text) (position : Nat) :
    supply.substitute mode root text position =
      ⟨text, if mode = .generative ∧ Template.Loose text.toList then [⟨.malformed, text⟩] else [],
        position⟩ := by
  have hnil := Template.segments_eq_nil_iff.mpr h
  simp only [substitute, hnil, List.isEmpty_nil, if_true, Template.looksLikeOne_iff]

theorem substitute_literal {text : String} (h : '{' ∉ text.toList) (position : Nat) :
    supply.substitute mode root text position = ⟨text, [], position⟩ := by
  rw [substitute_of_not_occursIn supply mode root (Placeholder.not_occursIn h),
    if_neg fun hsuspect => Template.not_loose h hsuspect.2]

variable {supply root} in
/-- A reference to a string gives the string. -/
theorem resolve_ref {p : Placeholder} (hkind : Kind.ofName? p.kind = some .ref)
    {target : String} (h : resolveReference p.argument root = .ok target) (position : Nat) :
    supply.resolve .reference root p position = (.value target, position) := by
  simp [resolve, hkind, Kind.mode, fulfil, h, Except.map]

/-- A text is cut in one way, and its placeholders, found from left to right, are
resolved in that order and replaced where they stand. -/
theorem substitute_exact (text : String) (position : Nat) :
    (∃! t : Template, t.Cuts text.toList) ∧
    (∀ i kind argument rest kind' argument' rest',
      WellFormed kind argument → text.toList.drop i = chars kind argument ++ rest →
      WellFormed kind' argument' → text.toList.drop i = chars kind' argument' ++ rest' →
      kind = kind' ∧ argument = argument') ∧
    ∀ t : Template, t.Cuts text.toList →
      let (resolutions, after) := supply.resolveEach mode root t.placeholders position
      let outcome := supply.substitute mode root text position
      t.joined = text.toList ∧
      (t.placeholders = [] ↔ ¬ OccursIn text) ∧
      outcome.result = t.write resolutions ∧
      outcome.position = after ∧
      (t.placeholders ≠ [] → outcome.diagnostics = resolutions.flatMap Resolution.diagnostics) ∧
      (t.placeholders = [] → outcome.result = text ∧ outcome.position = position) := by
  refine ⟨⟨Template.ofText text, Template.cuts_ofText text,
    fun t ht => (Template.cuts_ofText text).unique ht⟩, ?_, ?_⟩
  · intro i kind argument rest kind' argument' rest' hform hs hform' hs'
    obtain ⟨hk, ha, -⟩ := Placeholder.chars_append_inj hform hform' (hs.symm.trans hs')
    exact ⟨hk, ha⟩
  · intro t ht
    have hjoined := ht.joined_eq
    obtain rfl := Template.ofText_eq_iff.mpr ht
    have hnil : (Template.ofText text).placeholders = [] ↔ ¬ OccursIn text := by
      simp [Template.placeholders, Template.segments_eq_nil_iff]
    refine ⟨hjoined, hnil, ?_⟩
    by_cases h : OccursIn text
    · have hne : (Template.ofText text).placeholders ≠ [] := fun he => hnil.mp he h
      rw [substitute_of_occursIn supply mode root h]
      exact ⟨rfl, rfl, fun _ => rfl, fun he => absurd he hne⟩
    · have hseg := Template.segments_eq_nil_iff.mpr h
      have htail := ht.tail_eq hseg
      rw [substitute_of_not_occursIn supply mode root h, hnil.mpr h]
      refine ⟨?_, rfl, fun hne => absurd rfl hne, fun _ => ⟨rfl, rfl⟩⟩
      simp [resolveEach, Template.write, hseg, htail]

/-- Of three opening braces the first starts no placeholder, and stays. -/
theorem substitute_exact_three_braces :
    let supply : Supply := ⟨fun _ => some "v", Random.Source.scripted #[] 0⟩
    let text := "\x7b\x7b\x7benv:A\x7d\x7d"
    let t : Template := ⟨[("\x7b", .ofParts ['e', 'n', 'v'] ['A'])], ""⟩
    let outcome := supply.substitute .generative .null text 0
    t.Cuts text.toList ∧
    outcome.result = "\x7bv" ∧ outcome.diagnostics = [] ∧ outcome.position = 0 := by
  intro supply text t outcome
  have hcuts : t.Cuts text.toList := Template.ofText_eq_iff.mp (by decide +kernel)
  have heach : supply.resolveEach .generative .null t.placeholders 0 = ([.value "v"], 0) := rfl
  obtain ⟨-, -, hall⟩ := supply.substitute_exact .generative .null text 0
  have hfilled := hall t hcuts
  rw [heach] at hfilled
  obtain ⟨-, -, hresult, hposition, hdiagnostics, -⟩ := hfilled
  exact ⟨hcuts, hresult, hdiagnostics (by decide), hposition⟩

end Supply

end TemplateFill
