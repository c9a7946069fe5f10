import TemplateFill.Placeholder.Template
import TemplateFill.Proofs.Text.Run

/-! # Where a text is cut

A placeholder has one form: a run of word characters and a run of characters other
than a closing brace, neither empty, between double braces with a colon between them.
`Template.Cuts` says what it is to cut a text at the placeholders found from left to
right, without saying how; the reader of texts gives that template and no other. -/
namespace TemplateFill

namespace Placeholder

/-- What may stand between the braces. -/
structure WellFormed (kind argument : List Char) : Prop where
  kind_ne : kind ≠ []
  kind_word : ∀ c ∈ kind, Text.isWord c = true
  argument_ne : argument ≠ []
  argument_open : '}' ∉ argument

/-- A placeholder starts at the head of a text. -/
def Heads (s : List Char) : Prop :=
  ∃ kind argument rest, WellFormed kind argument ∧ s = chars kind argument ++ rest

/-- Some place of a text starts a placeholder. -/
def OccursIn (text : String) : Prop := ∃ i, Heads (text.toList.drop i)

theorem chars_append (kind argument rest : List Char) :
    chars kind argument ++ rest =
      '{' :: '{' :: (kind ++ ':' :: (argument ++ '}' :: '}' :: rest)) := by
  simp [chars]

theorem not_isWord_colon : Text.isWord ':' = false := by decide +kernel

theorem WellFormed.argument_ne_brace {kind argument : List Char} (h : WellFormed kind argument) :
    ∀ c ∈ argument, (c != '}') = true :=
  Text.bne_of_notMem h.argument_open

theorem parts?_wellFormed {kind argument : List Char} (h : WellFormed kind argument)
    (rest : List Char) :
    parts? (kind ++ ':' :: (argument ++ '}' :: '}' :: rest)) = some (kind, argument, rest) := by
  have hcolon : ∀ c ∈ (':' :: (argument ++ '}' :: '}' :: rest)).head?, Text.isWord c = false := by
    rintro c ⟨⟩
    exact not_isWord_colon
  have hopen := h.argument_ne_brace
  have hclose : ∀ c ∈ ('}' :: '}' :: rest).head?, (c != '}') = false := by
    rintro c ⟨⟩
    rfl
  unfold parts?
  rw [Text.dropWhile_run h.kind_word hcolon, Text.takeWhile_run h.kind_word hcolon]
  simp only [Text.takeWhile_run hopen hclose, Text.dropWhile_run hopen hclose]
  simp [h.kind_ne, h.argument_ne]

theorem first?_chars {kind argument : List Char} (h : WellFormed kind argument)
    (rest : List Char) :
    first? (chars kind argument ++ rest) = some (ofParts kind argument, rest) := by
  rw [chars_append, first?, parts?_wellFormed h]
  rfl

theorem wellFormed_of_parts? {s kind argument rest : List Char}
    (h : parts? s = some (kind, argument, rest)) :
    WellFormed kind argument ∧ s = kind ++ ':' :: (argument ++ '}' :: '}' :: rest) := by
  unfold parts? at h
  split at h
  · next body hb =>
    split at h
    · next after hr =>
      simp only at h
      split at h
      · cases h
      · next hne =>
        have hs := List.takeWhile_append_dropWhile (p := Text.isWord) (l := s)
        have hbody := List.takeWhile_append_dropWhile (p := (· != '}')) (l := body)
        cases h
        simp only [Bool.or_eq_true, List.isEmpty_iff, not_or] at hne
        refine ⟨⟨hne.1, fun c hc => List.mem_takeWhile_imp hc, hne.2, fun hc => ?_⟩, ?_⟩
        · simpa using List.mem_takeWhile_imp hc
        · rw [hb] at hs
          rw [hr] at hbody
          rw [hbody, hs]
    · cases h
  · cases h

theorem wellFormed_of_first? {s rest : List Char} {p : Placeholder}
    (h : first? s = some (p, rest)) :
    ∃ kind argument, WellFormed kind argument ∧ p = ofParts kind argument ∧
      s = chars kind argument ++ rest := by
  unfold first? at h
  split at h
  · obtain ⟨⟨kind, argument, after⟩, hp, he⟩ := Option.map_eq_some_iff.mp h
    obtain ⟨hw, hs⟩ := wellFormed_of_parts? hp
    cases he
    exact ⟨kind, argument, hw, rfl, by rw [chars_append, hs]⟩
  · cases h

theorem not_heads_of_first?_eq_none {s : List Char} (h : first? s = none) : ¬ Heads s := by
  rintro ⟨kind, argument, rest, hw, rfl⟩
  rw [first?_chars hw] at h
  cases h

/-- One place starts one placeholder at most. -/
theorem chars_append_inj {kind kind' argument argument' rest rest' : List Char}
    (h : WellFormed kind argument) (h' : WellFormed kind' argument')
    (he : chars kind argument ++ rest = chars kind' argument' ++ rest') :
    kind = kind' ∧ argument = argument' ∧ rest = rest' := by
  have hp := parts?_wellFormed h rest
  simp only [chars_append, List.cons.injEq, true_and] at he
  rw [he, parts?_wellFormed h'] at hp
  cases hp
  exact ⟨rfl, rfl, rfl⟩

theorem not_heads_of_ne_brace {c : Char} (hc : c ≠ '{') (s : List Char) : ¬ Heads (c :: s) := by
  rintro ⟨kind, argument, rest, -, he⟩
  rw [chars_append] at he
  exact hc (List.cons.inj he).1

/-- Where a text has no opening brace, no placeholder starts. -/
theorem not_heads_drop {before : List Char} (h : '{' ∉ before) (rest : List Char) {i : Nat}
    (hi : i < before.length) : ¬ Heads ((before ++ rest).drop i) := by
  rw [List.drop_append_of_le_length (Nat.le_of_lt hi), List.drop_eq_getElem_cons hi,
    List.cons_append]
  exact not_heads_of_ne_brace (fun he => h (he ▸ List.getElem_mem hi)) _

theorem not_heads_nil : ¬ Heads [] := by
  rintro ⟨kind, argument, rest, -, he⟩
  rw [chars_append] at he
  cases he

theorem not_occursIn {text : String} (h : '{' ∉ text.toList) : ¬ OccursIn text := by
  rintro ⟨i, hi⟩
  by_cases hlt : i < text.toList.length
  · refine not_heads_drop h [] hlt ?_
    rwa [List.append_nil]
  · rw [List.drop_eq_nil_of_le (by omega)] at hi
    exact not_heads_nil hi

end Placeholder

namespace Template

open Placeholder (Heads WellFormed OccursIn chars ofParts)

/-- The placeholders of a template in their order. -/
def placeholders (t : Template) : List Placeholder := t.segments.map Prod.snd

/-- The pieces of a template, one after the other, with a text for each placeholder. -/
def filled (t : Template) (value : Placeholder → List Char) : List Char :=
  t.segments.flatMap (fun segment => segment.1.toList ++ value segment.2) ++ t.tail.toList

/-- The pieces of a template as they are written. -/
def joined (t : Template) : List Char := t.filled fun p => p.raw.toList

/-- The template is what cutting the text from left to right gives: up to each
placeholder, and after the last, no place starts one. -/
inductive Cuts : Template → List Char → Prop
  | tail {s : List Char} (hnone : ∀ i, ¬ Heads (s.drop i)) : Cuts ⟨[], String.ofList s⟩ s
  | segment {before kind argument rest : List Char} {t : Template}
      (hform : WellFormed kind argument)
      (hfirst : ∀ i < before.length, ¬ Heads ((before ++ (chars kind argument ++ rest)).drop i))
      (hrest : Cuts t rest) :
      Cuts ⟨(String.ofList before, ofParts kind argument) :: t.segments, t.tail⟩
        (before ++ (chars kind argument ++ rest))

theorem Cuts.joined_eq {t : Template} {s : List Char} (h : t.Cuts s) : t.joined = s := by
  induction h with
  | tail => simp [joined, filled]
  | @segment before kind argument rest t hform hfirst hrest ih =>
    simp only [joined, filled] at ih
    simp [joined, filled, ofParts, ih]

theorem Cuts.tail_eq {t : Template} {text : String} (h : t.Cuts text.toList)
    (hnil : t.segments = []) : t.tail = text := by
  have hjoined := h.joined_eq
  rw [joined, filled, hnil] at hjoined
  exact String.toList_inj.mp hjoined

/-- Of two templates of one text none has its first placeholder later. -/
theorem length_before_le {before before' kind argument rest s : List Char}
    (hform : WellFormed kind argument) (hs : before ++ (chars kind argument ++ rest) = s)
    (hfirst : ∀ i < before'.length, ¬ Heads (s.drop i)) : before'.length ≤ before.length := by
  by_contra hlt
  refine hfirst before.length (by omega) ⟨kind, argument, rest, hform, ?_⟩
  rw [← hs, List.drop_left]

theorem Cuts.unique {t t' : Template} {s : List Char} (h : t.Cuts s) (h' : t'.Cuts s) : t' = t := by
  induction h generalizing t' with
  | @tail s hnone =>
    cases h' with
    | tail => rfl
    | @segment before kind argument rest t hform =>
      refine absurd ⟨kind, argument, rest, hform, ?_⟩ (hnone before.length)
      rw [List.drop_left]
  | @segment before kind argument rest t hform hfirst hrest ih =>
    generalize hs : before ++ (chars kind argument ++ rest) = s at h' hfirst
    cases h' with
    | tail hnone =>
      refine absurd ⟨kind, argument, rest, hform, ?_⟩ (hnone before.length)
      rw [← hs, List.drop_left]
    | @segment before' kind' argument' rest' t' hform' hfirst' hrest' =>
      have hle := length_before_le hform hs hfirst'
      have hge := length_before_le hform' rfl hfirst
      obtain ⟨rfl, hchars⟩ := List.append_inj hs (by omega)
      obtain ⟨rfl, rfl, rfl⟩ := Placeholder.chars_append_inj hform hform' hchars
      rw [ih hrest']

theorem cut_nil (found : List (String × Placeholder)) (skipped : List Char) :
    cut found skipped [] = ⟨found.reverse, String.ofList skipped.reverse⟩ := by
  rw [cut]

theorem cut_of_first? {s rest : List Char} {p : Placeholder}
    (hp : Placeholder.first? s = some (p, rest)) (found : List (String × Placeholder))
    (skipped : List Char) :
    cut found skipped s = cut ((String.ofList skipped.reverse, p) :: found) [] rest := by
  cases s with
  | nil => cases hp
  | cons c s =>
    rw [cut]
    split
    · next hq => rw [hp] at hq; cases hq; rfl
    · next hq => rw [hp] at hq; cases hq

theorem cut_of_first?_eq_none {c : Char} {s : List Char}
    (hp : Placeholder.first? (c :: s) = none) (found : List (String × Placeholder))
    (skipped : List Char) : cut found skipped (c :: s) = cut found (c :: skipped) s := by
  rw [cut]
  split
  · next hq => rw [hp] at hq; cases hq
  · rfl

/-- Cutting goes on from `skipped` and `s` as if no segment had been found before,
so long as no place of `skipped` starts a placeholder. -/
theorem cut_eq (found : List (String × Placeholder)) (skipped s : List Char)
    (hskipped : ∀ i < skipped.length, ¬ Heads ((skipped.reverse ++ s).drop i)) :
    ∃ t : Template, t.Cuts (skipped.reverse ++ s) ∧
      cut found skipped s = ⟨found.reverse ++ t.segments, t.tail⟩ := by
  induction found, skipped, s using cut.induct with
  | case1 found skipped =>
    have hnone : ∀ i, ¬ Heads ((skipped.reverse ++ []).drop i) := by
      intro i
      by_cases hi : i < skipped.length
      · exact hskipped i hi
      · rw [List.drop_eq_nil_of_le (by simp; omega)]
        exact Placeholder.not_heads_nil
    exact ⟨_, .tail hnone, by simp [cut_nil]⟩
  | case2 found skipped c s' p rest hp ih =>
    obtain ⟨kind, argument, hform, rfl, hs⟩ := Placeholder.wellFormed_of_first? hp
    obtain ⟨t, ht, he⟩ := ih (by simp)
    rw [cut_of_first? hp]
    rw [hs] at hskipped ⊢
    have hfirst : ∀ i < skipped.reverse.length,
        ¬ Heads ((skipped.reverse ++ (chars kind argument ++ rest)).drop i) := by
      simpa using hskipped
    refine ⟨_, .segment hform hfirst ht, ?_⟩
    simpa using he
  | case3 found skipped c s' hp ih =>
    have hsplit : (c :: skipped).reverse ++ s' = skipped.reverse ++ c :: s' := by simp
    rw [hsplit] at ih
    rw [cut_of_first?_eq_none hp]
    refine ih fun i hi => ?_
    by_cases hlt : i < skipped.length
    · exact hskipped i hlt
    · have hi' : i = skipped.reverse.length := by simp at hi ⊢; omega
      rw [hi', List.drop_left]
      exact Placeholder.not_heads_of_first?_eq_none hp

theorem cuts_ofText (text : String) : (ofText text).Cuts text.toList := by
  obtain ⟨t, ht, he⟩ := cut_eq [] [] text.toList (by simp)
  rw [ofText, he]
  exact ht

/-- Cutting a text gives the one template that cuts it. -/
theorem ofText_eq_iff {text : String} {t : Template} : ofText text = t ↔ t.Cuts text.toList :=
  ⟨fun h => h ▸ cuts_ofText text, fun h => h.unique (cuts_ofText text)⟩

/-- A template without segments is that of a text in which no placeholder occurs. -/
theorem segments_eq_nil_iff {text : String} :
    (ofText text).segments = [] ↔ ¬ OccursIn text := by
  have h := cuts_ofText text
  constructor
  · intro hnil
    unfold OccursIn
    generalize ofText text = t at h hnil
    generalize text.toList = s at h
    cases h with
    | tail hnone => exact fun ⟨i, hi⟩ => hnone i hi
    | segment => cases hnil
  · intro hnone
    have ht : ofText text = ⟨[], String.ofList text.toList⟩ :=
      ofText_eq_iff.mpr (.tail fun i hi => hnone ⟨i, hi⟩)
    rw [ht]

/-- A placeholder at the head of a text has nothing before it. -/
theorem Cuts.head {kind argument rest : List Char} {t : Template}
    (hform : WellFormed kind argument) (hrest : t.Cuts rest) :
    Cuts ⟨("", ofParts kind argument) :: t.segments, t.tail⟩ (chars kind argument ++ rest) :=
  @Cuts.segment [] kind argument rest t hform (by simp) hrest

/-- The template with more text in front. -/
def prepend (before : List Char) : Template → Template
  | ⟨[], tail⟩ => ⟨[], String.ofList before ++ tail⟩
  | ⟨(first, p) :: rest, tail⟩ => ⟨(String.ofList before ++ first, p) :: rest, tail⟩

theorem placeholders_prepend (before : List Char) (t : Template) :
    (t.prepend before).placeholders = t.placeholders := by
  obtain ⟨_ | ⟨first, rest⟩, tail⟩ := t <;> rfl

theorem filled_prepend (before : List Char) (t : Template) (value : Placeholder → List Char) :
    (t.prepend before).filled value = before ++ t.filled value := by
  obtain ⟨_ | ⟨first, rest⟩, tail⟩ := t <;> simp [prepend, filled]

/-- Text without an opening brace goes to the first piece. -/
theorem Cuts.prepend {t : Template} {s : List Char} (h : t.Cuts s) {before : List Char}
    (hb : '{' ∉ before) : (t.prepend before).Cuts (before ++ s) := by
  have hpast : ∀ {rest : List Char} {i : Nat}, ¬ Heads (rest.drop (i - before.length)) →
      ¬ Heads ((before ++ rest).drop i) := by
    intro rest i hrest
    by_cases hi : i < before.length
    · exact Placeholder.not_heads_drop hb rest hi
    · rwa [List.drop_append, List.drop_eq_nil_of_le (by omega), List.nil_append]
  cases h with
  | tail hnone =>
    have ht := Cuts.tail fun i => hpast (hnone (i - before.length))
    rwa [String.ofList_append] at ht
  | @segment first kind argument rest t hform hfirst hrest =>
    have hb' : ∀ i < (before ++ first).length,
        ¬ Heads ((before ++ first ++ (chars kind argument ++ rest)).drop i) := by
      intro i hi
      rw [List.append_assoc]
      by_cases hlt : i - before.length < first.length
      · exact hpast (hfirst _ hlt)
      · rw [List.length_append] at hi
        exact Placeholder.not_heads_drop hb _ (by omega)
    have ht := Cuts.segment hform hb' hrest
    rwa [String.ofList_append, List.append_assoc] at ht

instance (text : String) : Decidable (OccursIn text) :=
  decidable_of_iff ((ofText text).segments ≠ []) (by simp [segments_eq_nil_iff])

end Template

end TemplateFill
