import TemplateFill.Proofs.Path.Grammar

/-! # What is wrong with a text that is no path

A text that spells no path may still start with components in order, each before a comma.
The reader passes these over and reports what is wrong with the text after them, and what
is wrong there depends on that text alone. -/
namespace TemplateFill.Path

open Text (isBlank trim trimStart Gap)

/-- The text starts with `n` components, each before a comma, and goes on with `last`,
which starts with no other. -/
inductive Leading : List Char → Nat → List Char → Prop
  | none {s : List Char} (h : ∀ c rest, ¬ Component.BeforeComma c s rest) : Leading s 0 s
  | more {c : Component} {s rest last : List Char} {n : Nat} (h : c.BeforeComma s rest)
      (hrest : Leading rest n last) : Leading s (n + 1) last

/-! ## Kinds of fault -/

/-- A key is opened and not closed. -/
def Unclosed (s : List Char) : Prop := ∃ body, '\'' ∉ body ∧ s = '\'' :: body

/-- A key is closed, and the next character that is not blank is no comma. -/
def Trailed (s : List Char) : Prop :=
  ∃ key gap c rest, '\'' ∉ key ∧ Gap gap ∧ isBlank c = false ∧ c ≠ ',' ∧
    s = '\'' :: (key ++ '\'' :: (gap ++ c :: rest))

/-- The numeral stands up to a comma or the end, and no index is as large as that. -/
def TooLarge (numeral s : List Char) : Prop :=
  ∃ gap rest, numeral ≠ [] ∧ (∀ c ∈ numeral, c.isDigit = true) ∧
    UInt64.size ≤ Nat.ofDigitChars 10 numeral 0 ∧ Gap gap ∧ AtEnd rest ∧ s = numeral ++ (gap ++ rest)

/-- `e` is the fault of the text `s` in the place of component number `n`. -/
structure FaultAt (n : Nat) (s : List Char) (e : ParseError) : Prop where
  missing : AtEnd s → e = .emptyComponent n
  unclosed : Unclosed s → e = .unterminatedQuote n
  trailed : Trailed s → e = .trailingAfterQuote n
  tooLarge : ∀ numeral, TooLarge numeral s → e = .indexTooLarge (String.ofList numeral)
  other : ¬ AtEnd s → ¬ Unclosed s → ¬ Trailed s → (∀ numeral, ¬ TooLarge numeral s) →
    e = .invalidComponent (String.ofList (trim (s.takeWhile (· != ','))))

theorem FaultAt.ne_empty {n : Nat} {s : List Char} {e : ParseError} (h : FaultAt n s e) :
    e ≠ .empty := by
  rintro rfl
  have hpresent : ¬ AtEnd s := fun he => by cases h.missing he
  have hclosed : ¬ Unclosed s := fun he => by cases h.unclosed he
  have hends : ¬ Trailed s := fun he => by cases h.trailed he
  have hsmall : ∀ numeral, ¬ TooLarge numeral s := fun numeral he => by cases h.tooLarge numeral he
  cases h.other hpresent hclosed hends hsmall

/-! ## The reader at a fault -/

theorem components_of_token_error {n : Nat} {s : List Char} {e : ParseError}
    (h : token n (trimStart s) = .error e) : components n s = .error e := by
  rw [components_eq, h]

theorem token_of_atEnd {s : List Char} (h : AtEnd s) (n : Nat) :
    token n s = .error (.emptyComponent n) := by
  cases s with
  | nil => rfl
  | cons c rest =>
    obtain rfl : c = ',' := h c rfl
    rfl

theorem token_of_unclosed {s : List Char} (h : Unclosed s) (n : Nat) :
    token n s = .error (.unterminatedQuote n) := by
  obtain ⟨body, hbody, rfl⟩ := h
  rw [token]
  simp only [List.dropWhile_eq_nil_iff.mpr (Text.bne_of_notMem hbody)]

theorem components_of_trailed {n : Nat} {s : List Char} (h : Trailed (trimStart s)) :
    components n s = .error (.trailingAfterQuote n) := by
  obtain ⟨key, gap, c, rest, hkey, hgap, hblank, hcomma, hs⟩ := h
  have ht := (Token.Heads.quoted hkey (gap ++ c :: rest)).token_eq n
  have ha : trimStart (gap ++ c :: rest) = c :: rest :=
    Text.trimStart_gap_append hgap (by simp [hblank])
  rw [components_eq, hs, ht]
  simp only [ha, hcomma, if_false]
  rfl

theorem components_of_tooLarge {n : Nat} {s numeral : List Char}
    (h : TooLarge numeral (trimStart s)) :
    components n s = .error (.indexTooLarge (String.ofList numeral)) := by
  obtain ⟨gap, rest, hne, hdigits, hlarge, hgap, hrest, hs⟩ := h
  have ht := (Token.Heads.digits hne hdigits (hrest.not_isDigit_gap_append hgap)).token_eq n
  have hc : (Token.digits numeral).component = .error (.indexTooLarge (String.ofList numeral)) :=
    if_neg (Nat.not_lt_of_le hlarge)
  rw [components_eq, hs, ht]
  simp only [hrest.trimStart_gap_append hgap, hc]
  cases rest with
  | nil => rfl
  | cons c rest =>
    obtain rfl : c = ',' := hrest c rfl
    rfl

theorem atEnd_of_written_eq_nil {s : List Char} (h : written s = [])
    (hstart : ∀ c ∈ s.head?, isBlank c = false) : AtEnd s := by
  have hgap : Gap (s.takeWhile (· != ',')) := Text.gap_of_trim_eq_nil h
  intro c hc
  obtain ⟨rest, rfl⟩ := List.head?_eq_some_iff.mp hc
  by_contra hcomma
  have hblank : isBlank c = true := hgap c (by simp [hcomma])
  rw [hstart c hc] at hblank
  cases hblank

/-- There is no other fault in a token than that there is none, that it is not closed, or
that it is neither a key nor a number. -/
theorem token_error_cases {n : Nat} {s : List Char} {e : ParseError}
    (h : token n s = .error e) (hstart : ∀ c ∈ s.head?, isBlank c = false) :
    AtEnd s ∨ Unclosed s ∨ e = .invalidComponent (String.ofList (written s)) := by
  unfold token at h
  split at h
  · next body =>
    split at h
    · next hnone =>
      refine .inr (.inl ⟨body, fun hq => ?_, rfl⟩)
      simpa using List.dropWhile_eq_nil_iff.mp hnone _ hq
    · cases h
  · split at h
    · split at h
      · next hblank => exact .inl (atEnd_of_written_eq_nil (List.isEmpty_iff.mp hblank) hstart)
      · exact .inr (.inr (Except.error.inj h).symm)
    · cases h

theorem exists_tooLarge {t : Token} {s after : List Char} {e : ParseError} (ht : t.Heads s after)
    (hc : t.component = .error e) (hend : AtEnd (trimStart after)) :
    ∃ numeral, TooLarge numeral s := by
  cases ht with
  | quoted hkey => cases hc
  | digits hne hdigits hafter =>
    simp only [Token.component] at hc
    split at hc
    · cases hc
    · next hlarge =>
      obtain ⟨gap, hgap, ha⟩ := Text.exists_gap after
      refine ⟨_, gap, trimStart after, hne, hdigits, Nat.le_of_not_lt hlarge, hgap, hend, ?_⟩
      rw [← ha]

theorem trailing_cases {t : Token} {s after rest : List Char} {c : Char} (ht : t.Heads s after)
    (ha : trimStart after = c :: rest) (hcomma : c ≠ ',') (n : Nat) :
    Trailed s ∨ t.trailing n s = .invalidComponent (String.ofList (written s)) := by
  cases ht with
  | @quoted key hkey =>
    obtain ⟨gap, hgap, hafter⟩ := Text.exists_gap after
    have hblank := Text.not_isBlank_trimStart after c (by rw [ha]; rfl)
    rw [ha] at hafter
    exact .inl ⟨key, gap, c, rest, hkey, hgap, hblank, hcomma, by rw [← hafter]⟩
  | digits => exact .inr rfl

theorem components_error_other {n : Nat} {s : List Char} {e : ParseError}
    (h : components n s = .error e) (hnone : ∀ c rest, ¬ Component.BeforeComma c s rest)
    (hpresent : ¬ AtEnd (trimStart s)) (hclosed : ¬ Unclosed (trimStart s))
    (hends : ¬ Trailed (trimStart s)) (hsmall : ∀ numeral, ¬ TooLarge numeral (trimStart s)) :
    e = .invalidComponent (String.ofList (written (trimStart s))) := by
  rw [components_eq] at h
  cases ht : token n (trimStart s) with
  | error e' =>
    rw [ht] at h
    cases h
    rcases token_error_cases ht (Text.not_isBlank_trimStart s) with he | he | he
    · exact absurd he hpresent
    · exact absurd he hclosed
    · exact he
  | ok result =>
    obtain ⟨t, after⟩ := result
    rw [ht] at h
    have hheads := heads_of_token ht
    -- a token that ends where it should can only be at fault as a number that is too large
    have hread : AtEnd (trimStart after) → ∃ c, t.component = .ok c := by
      intro hend
      cases hc : t.component with
      | ok c => exact ⟨c, rfl⟩
      | error e' =>
        obtain ⟨numeral, hlarge⟩ := exists_tooLarge hheads hc hend
        exact absurd hlarge (hsmall numeral)
    cases ha : trimStart after with
    | nil =>
      obtain ⟨c, hc⟩ := hread (ha ▸ atEnd_nil)
      simp only [ha, hc] at h
      cases h
    | cons x rest =>
      simp only [ha] at h
      split at h
      · next hcomma =>
        subst hcomma
        obtain ⟨c, hc⟩ := hread (ha ▸ atEnd_comma rest)
        obtain ⟨padded, hpadded, hs⟩ := Component.exists_padded_of_token ht hc
        exact absurd ⟨padded, hpadded, ha ▸ hs⟩ (hnone c rest)
      · next hcomma =>
        obtain rfl := Except.error.inj h
        exact (trailing_cases hheads ha hcomma n).resolve_left hends

/-- A text that starts with no component before a comma has its fault at its head. -/
theorem faultAt_of_components {n : Nat} {s : List Char} {e : ParseError}
    (hnone : ∀ c rest, ¬ Component.BeforeComma c s rest) (h : components n s = .error e) :
    FaultAt n (trimStart s) e where
  missing hend :=
    Except.error.inj (h.symm.trans (components_of_token_error (token_of_atEnd hend n)))
  unclosed hopen :=
    Except.error.inj (h.symm.trans (components_of_token_error (token_of_unclosed hopen n)))
  trailed htrailed := Except.error.inj (h.symm.trans (components_of_trailed htrailed))
  tooLarge _ hlarge := Except.error.inj (h.symm.trans (components_of_tooLarge hlarge))
  other := components_error_other h hnone

/-! ## Passing over the components in order -/

theorem exists_leading (s : List Char) : ∃ n last, Leading s n last := by
  by_cases h : ∃ c rest, Component.BeforeComma c s rest
  · obtain ⟨c, rest, hhead⟩ := h
    have hshorter := hhead.length_lt
    obtain ⟨n, last, hrest⟩ := exists_leading rest
    exact ⟨n + 1, last, .more hhead hrest⟩
  · exact ⟨0, s, .none fun c rest hhead => h ⟨c, rest, hhead⟩⟩
termination_by s.length

theorem Leading.unique {s last last' : List Char} {n n' : Nat} (h : Leading s n last)
    (h' : Leading s n' last') : n' = n ∧ last' = last := by
  induction h generalizing n' with
  | none hnone =>
    cases h' with
    | none => exact ⟨rfl, rfl⟩
    | more hhead => exact absurd hhead (hnone _ _)
  | more hhead hrest ih =>
    cases h' with
    | none hnone => exact absurd hhead (hnone _ _)
    | more hhead' hrest' =>
      obtain rfl := hhead.rest_unique hhead'
      obtain ⟨rfl, rfl⟩ := ih hrest'
      exact ⟨rfl, rfl⟩

theorem Leading.faultAt {s last : List Char} {n k : Nat} {e : ParseError} (h : Leading s n last)
    (he : components k s = .error e) : FaultAt (k + n) (trimStart last) e := by
  induction h generalizing k with
  | none hnone => exact faultAt_of_components hnone he
  | @more c s rest last n hhead hrest ih =>
    rw [hhead.components_eq] at he
    have hnext : components (k + 1) rest = .error e := by
      cases hrest : components (k + 1) rest with
      | error e' => rw [hrest] at he; cases he; rfl
      | ok path => rw [hrest] at he; cases he
    have hfault := ih hnext
    rwa [Nat.add_right_comm] at hfault

/-- **The first component at fault is reported.** A text that is not read is all blank, and
said to be empty, or it starts with some components in order, and the fault is that of the
text after them, at the number that comes next. -/
theorem faultAt_of_parse {text : String} {e : ParseError} (h : parse text = .error e) :
    (e = .empty ↔ Gap text.toList) ∧
    (¬ Gap text.toList →
      ∃ n last, Leading text.toList n last ∧ FaultAt n (trimStart last) e ∧
        ∀ m other, Leading text.toList m other → m = n ∧ other = last) := by
  unfold parse at h
  obtain ⟨n, last, hleading⟩ := exists_leading text.toList
  split at h
  · next hall =>
    have hgap : Gap text.toList := List.all_eq_true.mp hall
    exact ⟨⟨fun _ => hgap, fun _ => (Except.error.inj h).symm⟩, fun hne => absurd hgap hne⟩
  · next hall =>
    have hgap : ¬ Gap text.toList := fun hgap => hall (List.all_eq_true.mpr hgap)
    have hfault := hleading.faultAt h
    rw [Nat.zero_add] at hfault
    exact ⟨⟨fun he => absurd he hfault.ne_empty, fun hg => absurd hg hgap⟩,
      fun _ => ⟨n, last, hleading, hfault, fun m other hother => hleading.unique hother⟩⟩

/-- A key in order and then a number just too large, before a word that is not reached. -/
theorem faultAt_of_parse_large_index :
    let text := "'a' , 18446744073709551616 ,x"
    let last := " 18446744073709551616 ,x".toList
    let e : ParseError := .indexTooLarge "18446744073709551616"
    parse text = .error e ∧ ¬ Gap text.toList ∧ Leading text.toList 1 last ∧
      FaultAt 1 (trimStart last) e := by
  intro text last e
  have hname : Component.Padded (.key "a") "'a' ".toList :=
    @Component.Padded.intro _ [] _ [' '] (by decide) (@Component.Spelled.key ['a'] (by decide))
      (by decide)
  have hhead : Component.BeforeComma (.key "a") text.toList last := ⟨_, hname, by decide⟩
  have hparse : parse text = .error e := by decide +kernel
  have hstop : Leading last 0 last := by
    refine .none fun c rest hnext => ?_
    obtain ⟨padded, hpadded, hs⟩ := hnext
    obtain ⟨t, after, ht, hc, -⟩ := hpadded.exists_token (atEnd_comma rest) 0
    have htoken : token 0 (trimStart last) =
        .ok (.digits "18446744073709551616".toList, " ,x".toList) := by rfl
    have hcomponent : (Token.digits "18446744073709551616".toList).component = .error e := by rfl
    rw [← hs, htoken] at ht
    cases ht
    rw [hcomponent] at hc
    cases hc
  have hgap : ¬ Gap text.toList := by decide
  obtain ⟨-, hfault⟩ := faultAt_of_parse hparse
  obtain ⟨n, rest, hleading, hat, hunique⟩ := hfault hgap
  obtain ⟨rfl, rfl⟩ := hunique 1 last (.more hhead hstop)
  exact ⟨hparse, hgap, hleading, hat⟩

end TemplateFill.Path
