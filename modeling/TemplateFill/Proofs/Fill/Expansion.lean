import Mathlib.Algebra.Group.Nat.Defs
import TemplateFill.Proofs.Fill.Sweeping
import TemplateFill.Proofs.Path.Lookup
import TemplateFill.Proofs.Placeholder.Substitution
import TemplateFill.Random.Scripted

/-! # How far references are followed

Where every string of a document is made of literal text and references to strings of
the document, a text can be expanded to a depth: at depth 0 it stays, and at each
further depth its references give way to their targets expanded to the depth before.
Following the references of texts expanded to depth `k`, in a document of such texts,
leads to depth `2 * k + 1`. So a pass takes depth `2 ^ p - 1` to `2 ^ (p + 1) - 1`. -/
namespace TemplateFill

open Placeholder (OccursIn)

/-! ## Pieces -/

/-- A piece of a text: characters that stand for themselves, or a reference, with the
string that it leads to. -/
inductive Piece where
  | literal (text : List Char)
  | reference (argument : List Char) (target : String)

namespace Piece

/-- The name of the references' kind. -/
def refName : List Char := Kind.ref.name.toList

/-- How a piece is written. -/
def chars : Piece → List Char
  | .literal text => text
  | .reference argument _ => Placeholder.chars refName argument

/-- What stands for a piece whose reference has been followed. -/
def value : Piece → List Char
  | .literal text => text
  | .reference _ target => target.toList

/-- The piece with its target changed. -/
def retarget (f : String → String) : Piece → Piece
  | .literal text => .literal text
  | .reference argument target => .reference argument (f target)

/-- A literal opens no brace, and a reference closes none and leads to its target. -/
inductive Sound (root : Json) : Piece → Prop
  | literal {text : List Char} (hopen : '{' ∉ text) : Sound root (.literal text)
  | reference {argument : List Char} {target : String} {path : Path} (hclose : '}' ∉ argument)
      (hparse : Path.parse (String.ofList argument) = .ok path)
      (hlookup : root.lookup path = .ok (.string target)) : Sound root (.reference argument target)

theorem chars_retarget (f : String → String) (p : Piece) : (p.retarget f).chars = p.chars := by
  cases p <;> rfl

theorem Sound.retarget {root : Json} {p : Piece} (h : p.Sound root) (f : String → String) :
    (p.retarget f).Sound (root.mapStrings f) := by
  cases h with
  | literal hopen => exact .literal hopen
  | reference hclose hparse hlookup =>
    refine .reference hclose hparse ?_
    rw [Json.lookup_mapStrings, hlookup]
    rfl

/-- The argument of a reference is not empty, since the empty text is no path. -/
theorem wellFormed_of_parse {argument : List Char} {path : Path} (hclose : '}' ∉ argument)
    (hparse : Path.parse (String.ofList argument) = .ok path) :
    Placeholder.WellFormed refName argument where
  kind_ne := by decide
  kind_word := List.all_eq_true.mp rfl
  argument_ne := by
    rintro rfl
    cases hparse
  argument_open := hclose

/-- The template of a text made of these pieces. -/
def template : List Piece → Template
  | [] => ⟨[], ""⟩
  | .literal text :: rest => (template rest).prepend text
  | .reference argument _ :: rest =>
    ⟨("", .ofParts refName argument) :: (template rest).segments, (template rest).tail⟩

theorem cuts_template {root : Json} :
    ∀ {pieces : List Piece}, (∀ p ∈ pieces, p.Sound root) →
      (template pieces).Cuts (pieces.flatMap chars)
  | [], _ => .tail fun i hi => Placeholder.not_heads_nil (by simpa using hi)
  | p :: rest, h => by
    have hrest := cuts_template fun q hq => h q (List.mem_cons_of_mem _ hq)
    cases h p List.mem_cons_self with
    | literal hopen => exact hrest.prepend hopen
    | reference hclose hparse _ =>
      exact .head (wellFormed_of_parse hclose hparse) hrest

/-- The placeholder that a piece is. -/
def placeholder? : Piece → Option Placeholder
  | .literal _ => none
  | .reference argument _ => some (.ofParts refName argument)

theorem exists_reference {pieces : List Piece} {p : Placeholder}
    (h : p ∈ pieces.filterMap placeholder?) :
    ∃ argument target, .reference argument target ∈ pieces ∧ p = .ofParts refName argument := by
  obtain ⟨piece, hmem, hpiece⟩ := List.mem_filterMap.mp h
  cases piece with
  | literal text => cases hpiece
  | reference argument target =>
    cases hpiece
    exact ⟨argument, target, hmem, rfl⟩

theorem placeholders_template :
    ∀ pieces : List Piece, (template pieces).placeholders = pieces.filterMap placeholder?
  | [] => rfl
  | .literal text :: rest => by
    rw [template, Template.placeholders_prepend, placeholders_template rest]
    rfl
  | .reference argument target :: rest => by
    have ih := placeholders_template rest
    simp only [Template.placeholders] at ih
    simp only [template, Template.placeholders, List.map_cons, ih]
    rfl

/-- A text made of pieces, with a text for each placeholder. -/
theorem filled_template (value : Placeholder → List Char) :
    ∀ pieces : List Piece, (template pieces).filled value = pieces.flatMap fun p =>
      match p.placeholder? with
      | some placeholder => value placeholder
      | none => p.chars
  | [] => rfl
  | .literal text :: rest => by
    rw [template, Template.filled_prepend, filled_template value rest]
    rfl
  | .reference argument target :: rest => by
    have ih := filled_template value rest
    simp only [Template.filled] at ih
    simp only [template, Template.filled, List.flatMap_cons, List.append_assoc, ih]
    rfl

theorem brace_notMem {root : Json} {pieces : List Piece} (h : ∀ p ∈ pieces, p.Sound root)
    (hnone : pieces.filterMap placeholder? = []) : '{' ∉ pieces.flatMap chars := by
  intro hmem
  obtain ⟨p, hp, hbrace⟩ := List.mem_flatMap.mp hmem
  have hliteral := List.filterMap_eq_nil_iff.mp hnone p hp
  cases h p hp with
  | literal hopen => exact hopen hbrace
  | reference => cases hliteral

end Piece

namespace Supply

open Piece (placeholder? refName)

variable {supply : Supply} {mode : Mode} {root : Json}

/-- In a text of sound pieces each placeholder is one of the pieces, and the rest is
literal; so only placeholders are ever warned of. -/
theorem substitute_pieces {pieces : List Piece} (hsound : ∀ p ∈ pieces, p.Sound root)
    {text : String} (htext : pieces.flatMap Piece.chars = text.toList)
    {outcome : Placeholder → Resolution}
    (hresolve : ∀ p ∈ pieces.filterMap placeholder?, ∀ position,
      supply.resolve mode root p position = (outcome p, position))
    (hsilent : ∀ p ∈ pieces.filterMap placeholder?, (outcome p).diagnostics = [])
    (position : Nat) :
    supply.substitute mode root text position =
      ⟨String.ofList ((Piece.template pieces).filled fun p => ((outcome p).textFor p).toList), [],
        position⟩ := by
  have hcuts := Piece.cuts_template hsound
  rw [htext] at hcuts
  have htemplate := Template.ofText_eq_iff.mpr hcuts
  by_cases hoccurs : OccursIn text
  · have heach := resolveEach_eq position hresolve
    have hquiet : ((pieces.filterMap placeholder?).map outcome).flatMap
        Resolution.diagnostics = [] := by
      rw [List.flatMap_map]
      exact List.flatMap_eq_nil_iff.mpr hsilent
    rw [substitute_of_occursIn supply mode root hoccurs]
    rw [← Template.toList_write_map, String.ofList_toList]
    simp only [htemplate, Piece.placeholders_template, heach, hquiet]
  · have hsegments : (Piece.template pieces).segments = [] := by
      rw [← htemplate]
      exact Template.segments_eq_nil_iff.mpr hoccurs
    have hnone : pieces.filterMap placeholder? = [] := by
      rw [← Piece.placeholders_template, Template.placeholders, hsegments, List.map_nil]
    have hloose : ¬ Template.Loose text.toList := by
      rw [← htext]
      exact Template.not_loose (Piece.brace_notMem hsound hnone)
    have htail := hcuts.tail_eq hsegments
    rw [substitute_of_not_occursIn supply mode root hoccurs, if_neg fun h => hloose h.2]
    simp [Template.filled, hsegments, htail]

/-- Generating values leaves references and literal text alone. -/
theorem substitute_generative_pieces {pieces : List Piece} (hsound : ∀ p ∈ pieces, p.Sound root)
    {text : String} (htext : pieces.flatMap Piece.chars = text.toList) (position : Nat) :
    supply.substitute .generative root text position = ⟨text, [], position⟩ := by
  have hresolve : ∀ p ∈ pieces.filterMap placeholder?, ∀ position,
      supply.resolve .generative root p position = (.unmodified none, position) := by
    intro p hp position
    obtain ⟨argument, target, -, rfl⟩ := Piece.exists_reference hp
    rfl
  rw [substitute_pieces hsound htext hresolve fun _ _ => rfl]
  have hcuts := Piece.cuts_template hsound
  rw [htext] at hcuts
  have hjoined := hcuts.joined_eq
  simp only [Template.joined] at hjoined
  simp only [Resolution.textFor, hjoined, String.ofList_toList]

theorem resolveReference_of_sound {argument : List Char} {target : String}
    (h : (Piece.reference argument target).Sound root) :
    resolveReference (String.ofList argument) root = .ok target := by
  cases h with
  | reference hclose hparse hlookup => simp only [resolveReference, hparse, hlookup]

theorem resolve_reference {argument : List Char} {target : String}
    (h : resolveReference (String.ofList argument) root = .ok target) (position : Nat) :
    supply.resolve .reference root (.ofParts refName argument) position =
      (.value target, position) := by
  have hkind : Kind.ofName? (Placeholder.ofParts refName argument).kind = some .ref := rfl
  exact resolve_ref hkind h position

/-- What becomes of a reference where its argument leads to a string. -/
def followed (root : Json) (p : Placeholder) : Resolution :=
  match resolveReference p.argument root with
  | .ok target => .value target
  | .error _ => .unmodified none

theorem followed_of_sound {argument : List Char} {target : String}
    (h : (Piece.reference argument target).Sound root) :
    followed root (.ofParts refName argument) = .value target := by
  have hargument : (Placeholder.ofParts refName argument).argument = String.ofList argument := rfl
  rw [followed, hargument, resolveReference_of_sound h]

/-- Following references puts their targets in their places. -/
theorem substitute_reference_pieces {pieces : List Piece} (hsound : ∀ p ∈ pieces, p.Sound root)
    {text : String} (htext : pieces.flatMap Piece.chars = text.toList) (position : Nat) :
    supply.substitute .reference root text position =
      ⟨String.ofList (pieces.flatMap Piece.value), [], position⟩ := by
  have hresolve : ∀ p ∈ pieces.filterMap placeholder?, ∀ position,
      supply.resolve .reference root p position = (followed root p, position) := by
    intro p hp position
    obtain ⟨argument, target, hmem, rfl⟩ := Piece.exists_reference hp
    rw [followed_of_sound (hsound _ hmem)]
    exact resolve_reference (resolveReference_of_sound (hsound _ hmem)) position
  have hsilent : ∀ p ∈ pieces.filterMap placeholder?, (followed root p).diagnostics = [] := by
    intro p hp
    obtain ⟨argument, target, hmem, rfl⟩ := Piece.exists_reference hp
    rw [followed_of_sound (hsound _ hmem)]
    rfl
  rw [substitute_pieces hsound htext hresolve hsilent, Piece.filled_template]
  congr 2
  refine List.flatMap_congr fun piece hmem => ?_
  cases piece with
  | literal text => rfl
  | reference argument target =>
    simp only [placeholder?, followed_of_sound (hsound _ hmem)]
    rfl

end Supply

/-! ## Expansion -/

/-- The text with its references replaced by their targets, to a depth. -/
def expand (reading : String → List Piece) : Nat → String → String
  | 0, text => text
  | depth + 1, text => String.ofList ((reading text).flatMap fun
    | .literal chars => chars
    | .reference _ target => (expand reading depth target).toList)

/-- The pieces of a text expanded to a depth. -/
def unfolded (reading : String → List Piece) : Nat → String → List Piece
  | 0, text => reading text
  | depth + 1, text => (reading text).flatMap fun
    | .literal chars => [.literal chars]
    | .reference _ target => unfolded reading depth target

/-- Every string of the document is made of sound pieces, those that the reading gives,
and no key has an opening brace. -/
structure Reads (root : Json) (reading : String → List Piece) : Prop where
  keys : ∀ key, (.key, key) ∈ root.texts → '{' ∉ key.toList
  chars : ∀ text, (.value, text) ∈ root.texts →
    (reading text).flatMap Piece.chars = text.toList
  sound : ∀ text, (.value, text) ∈ root.texts → ∀ p ∈ reading text, p.Sound root

namespace Reads

variable {root : Json} {reading : String → List Piece} (h : Reads root reading)
include h

theorem target_mem {text target : String} (ht : (.value, text) ∈ root.texts)
    {argument : List Char} (hp : .reference argument target ∈ reading text) :
    (.value, target) ∈ root.texts := by
  cases h.sound text ht _ hp with
  | reference hclose hparse hlookup => exact Json.mem_texts_of_lookup hlookup

theorem chars_unfolded (depth : Nat) {text : String} (ht : (.value, text) ∈ root.texts) :
    (unfolded reading depth text).flatMap Piece.chars = (expand reading depth text).toList := by
  induction depth generalizing text with
  | zero => exact h.chars text ht
  | succ depth ih =>
    rw [unfolded, expand, String.toList_ofList, List.flatMap_assoc]
    refine List.flatMap_congr fun p hp => ?_
    cases p with
    | literal chars => exact List.flatMap_singleton ..
    | reference argument target => exact ih (h.target_mem ht hp)

theorem sound_unfolded (depth : Nat) {text : String} (ht : (.value, text) ∈ root.texts) :
    ∀ p ∈ unfolded reading depth text, p.Sound root := by
  induction depth generalizing text with
  | zero => exact h.sound text ht
  | succ depth ih =>
    intro q hq
    rw [unfolded] at hq
    obtain ⟨p, hp, hq⟩ := List.mem_flatMap.mp hq
    cases p with
    | literal chars =>
      rw [List.mem_singleton.mp hq]
      exact h.sound text ht _ hp
    | reference argument target => exact ih (h.target_mem ht hp) q hq

/-- Targets expanded to one depth, put into a text expanded to another, lead one level
deeper than both depths together. -/
theorem value_unfolded (depth more : Nat) {text : String} (ht : (.value, text) ∈ root.texts) :
    (unfolded reading depth text).flatMap (fun p => (p.retarget (expand reading more)).value) =
      (expand reading (depth + more + 1) text).toList := by
  induction depth generalizing text with
  | zero =>
    rw [unfolded, Nat.zero_add, expand, String.toList_ofList]
    refine List.flatMap_congr fun p _ => ?_
    cases p <;> rfl
  | succ depth ih =>
    rw [unfolded, Nat.succ_add, expand, String.toList_ofList, List.flatMap_assoc]
    refine List.flatMap_congr fun p hp => ?_
    cases p with
    | literal chars => exact List.flatMap_singleton ..
    | reference argument target => exact ih (h.target_mem ht hp)

/-- The pieces of an expanded text, with the targets that they have where all texts are
expanded. -/
def spelled (reading : String → List Piece) (depth : Nat) (text : String) : List Piece :=
  (unfolded reading depth text).map (Piece.retarget (expand reading depth))

theorem chars_spelled (depth : Nat) {text : String} (ht : (.value, text) ∈ root.texts) :
    (spelled reading depth text).flatMap Piece.chars = (expand reading depth text).toList := by
  rw [spelled, List.flatMap_map, ← h.chars_unfolded depth ht]
  exact List.flatMap_congr fun p _ => p.chars_retarget _

theorem sound_spelled (depth : Nat) {text : String} (ht : (.value, text) ∈ root.texts) :
    ∀ p ∈ spelled reading depth text, p.Sound (root.mapStrings (expand reading depth)) := by
  intro q hq
  obtain ⟨p, hp, rfl⟩ := List.mem_map.mp hq
  exact (h.sound_unfolded depth ht p hp).retarget _

theorem value_spelled (depth : Nat) {text : String} (ht : (.value, text) ∈ root.texts) :
    String.ofList ((spelled reading depth text).flatMap Piece.value) =
      expand reading (depth + depth + 1) text := by
  rw [spelled, List.flatMap_map, h.value_unfolded depth depth ht, String.ofList_toList]

/-- Text without an opening brace is the same at every depth. -/
theorem expand_literal {text : String} (ht : (.value, text) ∈ root.texts)
    (hbrace : '{' ∉ text.toList) : ∀ depth, expand reading depth text = text
  | 0 => rfl
  | depth + 1 => by
    have hvalue : ∀ p ∈ reading text, (p.retarget (expand reading depth)).value = p.chars := by
      intro p hp
      cases p with
      | literal chars => rfl
      | reference argument target =>
        refine absurd ?_ hbrace
        rw [← h.chars text ht]
        exact List.mem_flatMap.mpr ⟨_, hp, List.mem_cons_self⟩
    have hdeep := h.value_unfolded 0 depth ht
    rw [unfolded, List.flatMap_congr hvalue, h.chars text ht, Nat.zero_add] at hdeep
    exact String.toList_inj.mp hdeep.symm

variable (supply : Supply) (hw : root.WellFormed)
include hw

theorem sweep_generative (depth position : Nat) :
    let document := root.mapStrings (expand reading depth)
    supply.sweep .generative document document position = ⟨document, [], position⟩ :=
  Supply.sweep_mapStrings hw
    (fun key hk position => supply.substitute_literal _ _ (h.keys key hk) position)
    (fun _ ht position => Supply.substitute_generative_pieces (h.sound_spelled depth ht)
      (h.chars_spelled depth ht) position) position

theorem sweep_reference (depth position : Nat) :
    let document := root.mapStrings (expand reading depth)
    supply.sweep .reference document document position =
      ⟨root.mapStrings (expand reading (depth + depth + 1)), [], position⟩ := by
  refine Supply.sweep_mapStrings hw
    (fun key hk position => supply.substitute_literal _ _ (h.keys key hk) position)
    (fun text ht position => ?_) position
  rw [← h.value_spelled depth ht]
  exact Supply.substitute_reference_pieces (h.sound_spelled depth ht) (h.chars_spelled depth ht)
    position

/-- A pass takes every text to more than twice its depth. -/
theorem pass_eq (depth position : Nat) :
    supply.pass (root.mapStrings (expand reading depth)) position =
      ⟨root.mapStrings (expand reading (depth + depth + 1)), [], position⟩ := by
  simp only [Supply.pass, h.sweep_generative supply hw, h.sweep_reference supply hw]
  rfl

end Reads

/-- So many texts, each a single reference to the next, lead from one text to another. -/
inductive Leads (reading : String → List Piece) : Nat → String → String → Prop
  | here (text : String) : Leads reading 0 text text
  | next {text target final : String} {argument : List Char} {count : Nat}
      (hread : reading text = [.reference argument target])
      (hrest : Leads reading count target final) : Leads reading (count + 1) text final

theorem expand_of_leads {reading : String → List Piece} {count : Nat} {text final : String}
    (h : Leads reading count text final) (more : Nat) :
    expand reading (count + more) text = expand reading more final := by
  induction h with
  | here text => rw [Nat.zero_add]
  | @next text target final argument count hread hrest ih =>
    rw [Nat.succ_add, expand, hread, ← ih]
    simp

theorem Reads.mem_of_leads {root : Json} {reading : String → List Piece} (h : Reads root reading)
    {count : Nat} {text final : String} (hl : Leads reading count text final)
    (ht : (.value, text) ∈ root.texts) : (.value, final) ∈ root.texts := by
  induction hl with
  | here text => exact ht
  | next hread hrest ih => exact ih (h.target_mem ht (by rw [hread]; exact List.mem_cons_self))

namespace Supply

variable (supply : Supply)

/-- From the first pass on, the texts are those generated at first, expanded to a depth
one less than a power of two. -/
theorem repeat_advance_expand {document : Json} {position : Nat} {reading : String → List Piece}
    (h : Reads (supply.sweep .generative document document position).result reading) :
    ∀ n, let generated := supply.sweep .generative document document position
      let report := Nat.repeat supply.advance (n + 1) ⟨document, [], [], position⟩
      report.document = generated.result.mapStrings (expand reading (2 ^ (n + 1) - 1)) ∧
      report.position = generated.position ∧ (0 < n → report.diagnostics = []) := by
  have hw := supply.sweep_wellFormed .generative document document position
  intro n
  induction n with
  | zero =>
    have hfirst := h.sweep_reference supply hw 0
      (supply.sweep .generative document document position).position
    have hself : (supply.sweep .generative document document position).result.mapStrings
        (expand reading 0) = (supply.sweep .generative document document position).result :=
      Json.mapStrings_id _
    rw [hself] at hfirst
    simp only [Nat.repeat, advance, pass, hfirst]
    simp
  | succ n ih =>
    obtain ⟨hdocument, hposition, -⟩ := ih
    have hdepth : 2 ^ (n + 1) - 1 + (2 ^ (n + 1) - 1) + 1 = 2 ^ (n + 2) - 1 := by
      have := Nat.two_pow_pos n
      rw [Nat.pow_succ, Nat.pow_succ]
      omega
    rw [Nat.repeat]
    simp only [advance, hdocument, hposition, h.pass_eq supply hw, hdepth]
    simp

/-- Filling expands every string that is generated at first to depth 31, and neither
warns nor draws after that. A chain of texts that are single references thus ends 31
texts further on, in the reference to the next, or at the text that ends it sooner. -/
theorem fill_eq_expand (document : Json) (position : Nat) {reading : String → List Piece}
    (h : Reads (supply.sweep .generative document document position).result reading) :
    let generated := supply.sweep .generative document document position
    let report := supply.fill document position
    let depth := 2 ^ passCount - 1
    report.document = generated.result.mapStrings (expand reading depth) ∧ depth = 31 ∧
    report.diagnostics = [] ∧ report.position = generated.position ∧
    ∀ text final count, (.value, text) ∈ generated.result.texts →
      Leads reading count text final →
      (count = depth → expand reading depth text = final) ∧
      (count ≤ depth → '{' ∉ final.toList → expand reading depth text = final) := by
  obtain ⟨hdocument, hposition, hsilent⟩ := supply.repeat_advance_expand h (passCount - 1)
  refine ⟨hdocument, rfl, hsilent (by decide), hposition, ?_⟩
  intro text final count ht hl
  refine ⟨fun he => ?_, fun hle hbrace => ?_⟩
  · have hdeep := expand_of_leads hl 0
    rwa [Nat.add_zero, he] at hdeep
  · have hdeep := expand_of_leads hl (2 ^ passCount - 1 - count)
    rwa [Nat.add_sub_cancel' hle, h.expand_literal (h.mem_of_leads hl ht) hbrace] at hdeep

/-- Two strings that refer to each other, one of them with a full stop at its end: each
goes 31 times around, ends in its own reference, and has half of the full stops. -/
theorem fill_eq_expand_cycle :
    let supply : Supply := ⟨fun _ => none, Random.Source.scripted #[] 0⟩
    let document : Json := .object [("a", .string "\x7b\x7bref:'b'\x7d\x7d."),
      ("b", .string "\x7b\x7bref:'a'\x7d\x7d")]
    let reading (text : String) : List Piece :=
      if text = "\x7b\x7bref:'a'\x7d\x7d"
      then [.reference ['\'', 'a', '\''] "\x7b\x7bref:'b'\x7d\x7d."]
      else [.reference ['\'', 'b', '\''] "\x7b\x7bref:'a'\x7d\x7d", .literal ['.']]
    let report := supply.fill document 0
    Reads (supply.sweep .generative document document 0).result reading ∧
    report.document = .object [("a", .string "\x7b\x7bref:'a'\x7d\x7d................"),
      ("b", .string "\x7b\x7bref:'b'\x7d\x7d................")] ∧
    report.diagnostics = [] ∧ report.position = 0 := by
  intro supply document reading report
  have hw : document.WellFormed := .object (by decide) (by simp [Json.WellFormed.string])
  have hkeys : ∀ e ∈ document.texts, e.1 = .key → '{' ∉ e.2.toList := by decide +kernel
  have hchars : ∀ e ∈ document.texts, e.1 = .value →
      (reading e.2).flatMap Piece.chars = e.2.toList := by decide +kernel
  have hsound : ∀ text, ∀ p ∈ reading text, p.Sound document := by
    intro text p hp
    simp only [reading] at hp
    split at hp
    · obtain rfl := List.mem_singleton.mp hp
      exact .reference (by decide) (show Path.parse _ = .ok [.key "a"] by decide +kernel) rfl
    · rcases List.mem_cons.mp hp with rfl | hp
      · exact .reference (by decide) (show Path.parse _ = .ok [.key "b"] by decide +kernel) rfl
      · obtain rfl := List.mem_singleton.mp hp
        exact .literal (by decide)
  have hreads : Reads document reading :=
    ⟨fun key hk => hkeys (.key, key) hk rfl, fun text ht => hchars (.value, text) ht rfl,
      fun text _ => hsound text⟩
  have hgenerated : supply.sweep .generative document document 0 = ⟨document, [], 0⟩ := by
    have hself : document.mapStrings (expand reading 0) = document := Json.mapStrings_id _
    have hsweep := hreads.sweep_generative supply hw 0 0
    rwa [hself] at hsweep
  have hfirst : Reads (supply.sweep .generative document document 0).result reading := by
    rw [hgenerated]
    exact hreads
  obtain ⟨hdocument, -, hsilent, hposition, -⟩ := supply.fill_eq_expand document 0 hfirst
  rw [hgenerated] at hdocument hposition
  refine ⟨hfirst, ?_, hsilent, hposition⟩
  have ha : ∀ depth, expand reading (depth + 1) "\x7b\x7bref:'b'\x7d\x7d." =
      expand reading depth "\x7b\x7bref:'a'\x7d\x7d" ++ "." := by
    intro depth
    rw [← String.toList_inj]
    simp [expand, reading]
  have hb : ∀ depth, expand reading (depth + 1) "\x7b\x7bref:'a'\x7d\x7d" =
      expand reading depth "\x7b\x7bref:'b'\x7d\x7d." := by
    intro depth
    simp [expand, reading]
  have hdepth : 2 ^ passCount - 1 = 31 := rfl
  have hzero : ∀ text, expand reading 0 text = text := fun _ => rfl
  rw [hdocument, hdepth]
  simp only [document, Json.mapStrings, Json.mapMembers, ha, hb, hzero]
  rfl

end Supply

end TemplateFill
