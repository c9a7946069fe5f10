import TemplateFill.Path.Parser
import TemplateFill.Proofs.Text.Run

/-! # How a path may be written

A component is written as a key between quotes or as a decimal numeral, and blanks may
stand around it; a path is written as its components with commas between them.
`Path.Spelled` says so without saying how such a text is read. The reader takes these
texts and no others, and reads each as the one path that it spells. -/
namespace TemplateFill

open Text (isBlank trimStart)

namespace Text

/-- Blanks, or nothing. -/
def Gap (s : List Char) : Prop := ∀ c ∈ s, isBlank c = true

instance (s : List Char) : Decidable (Gap s) :=
  List.decidableBAll (fun c => isBlank c = true) s

theorem trimStart_gap_append {gap s : List Char} (hgap : Gap gap)
    (hs : ∀ c ∈ s.head?, isBlank c = false) : trimStart (gap ++ s) = s :=
  dropWhile_run hgap hs

theorem exists_gap (s : List Char) : ∃ gap, Gap gap ∧ s = gap ++ trimStart s :=
  ⟨s.takeWhile isBlank, fun _ hc => List.mem_takeWhile_imp hc, List.takeWhile_append_dropWhile.symm⟩

theorem not_isBlank_trimStart (s : List Char) : ∀ c ∈ (trimStart s).head?, isBlank c = false :=
  not_head_dropWhile isBlank s

theorem gap_of_trim_eq_nil {s : List Char} (h : trim s = []) : Gap s := by
  obtain ⟨gap, hgap, hs⟩ := exists_gap s
  have hrest : Gap (trimStart s) := by
    intro c hc
    have hnil := List.dropWhile_eq_nil_iff.mp (List.reverse_eq_nil_iff.mp h)
    exact hnil c (List.mem_reverse.mpr hc)
  intro c hc
  rw [hs] at hc
  exact (List.mem_append.mp hc).elim (hgap c) (hrest c)

theorem not_isBlank_of_isDigit {c : Char} (h : c.isDigit = true) : isBlank c = false := by
  simp only [Char.isDigit, Bool.and_eq_true, decide_eq_true_eq, ge_iff_le, UInt32.le_iff_toNat_le]
    at h
  have hlow : 48 ≤ c.toNat := h.1
  have hhigh : c.toNat ≤ 57 := h.2
  simp only [isBlank, Bool.or_eq_false_iff, Bool.and_eq_false_iff, decide_eq_false_iff_not,
    beq_eq_false_iff_ne]
  omega

end Text

open Text (Gap)

/-! ## Ways to write a path -/

/-- The text is one way to write the component. -/
inductive Component.Spelled : Component → List Char → Prop
  | key {name : List Char} (hname : '\'' ∉ name) :
      Spelled (.key (String.ofList name)) ('\'' :: (name ++ ['\'']))
  | index {numeral : List Char} (hne : numeral ≠ []) (hdigits : ∀ c ∈ numeral, c.isDigit = true)
      (hsmall : Nat.ofDigitChars 10 numeral 0 < UInt64.size) :
      Spelled (.index (Nat.ofDigitChars 10 numeral 0)) numeral

/-- The text is the component with blanks around it, or none. -/
inductive Component.Padded (c : Component) : List Char → Prop
  | intro {before text after : List Char} (hbefore : Gap before) (htext : c.Spelled text)
      (hafter : Gap after) : Padded c (before ++ (text ++ after))

/-- The text starts with the component, blanks around it, and a comma; the rest follows. -/
def Component.BeforeComma (c : Component) (s rest : List Char) : Prop :=
  ∃ padded, c.Padded padded ∧ s = padded ++ ',' :: rest

/-- The text is one way to write the path. -/
inductive Path.Spelled : Path → List Char → Prop
  | last {c : Component} {s : List Char} (h : c.Padded s) : Spelled [c] s
  | more {c : Component} {path : Path} {s rest : List Char} (h : c.BeforeComma s rest)
      (hrest : path.Spelled rest) : Spelled (c :: path) s

/-! ## What one step of the reader does -/

namespace Path

/-- The text is over, or goes on with a comma. -/
def AtEnd (rest : List Char) : Prop := ∀ c ∈ rest.head?, c = ','

theorem atEnd_nil : AtEnd [] := by simp [AtEnd]

theorem atEnd_comma (rest : List Char) : AtEnd (',' :: rest) := by simp [AtEnd]

theorem AtEnd.trimStart_gap_append {gap rest : List Char} (h : AtEnd rest) (hgap : Gap gap) :
    trimStart (gap ++ rest) = rest := by
  refine Text.trimStart_gap_append hgap fun c hc => ?_
  rw [h c hc]
  rfl

theorem AtEnd.not_isDigit_gap_append {gap rest : List Char} (h : AtEnd rest) (hgap : Gap gap) :
    ∀ c ∈ (gap ++ rest).head?, c.isDigit = false := by
  intro c hc
  cases gap with
  | nil =>
    rw [h c hc]
    rfl
  | cons d gap =>
    obtain rfl : d = c := by simpa using hc
    by_contra hdigit
    have hblank := hgap d List.mem_cons_self
    rw [Text.not_isBlank_of_isDigit (by simpa using hdigit)] at hblank
    cases hblank

/-- The token stands at the head of the text, and this follows. -/
inductive Token.Heads : Token → List Char → List Char → Prop
  | quoted {key : List Char} (hkey : '\'' ∉ key) (after : List Char) :
      Heads (.quoted key) ('\'' :: (key ++ '\'' :: after)) after
  | digits {numeral after : List Char} (hne : numeral ≠ [])
      (hdigits : ∀ c ∈ numeral, c.isDigit = true) (hafter : ∀ c ∈ after.head?, c.isDigit = false) :
      Heads (.digits numeral) (numeral ++ after) after

theorem heads_of_token {n : Nat} {s after : List Char} {t : Token}
    (h : token n s = .ok (t, after)) : t.Heads s after := by
  unfold token at h
  split at h
  · next body =>
    split at h
    · cases h
    · next quote rest hrest =>
      obtain ⟨rfl, rfl⟩ := Prod.mk.inj (Except.ok.inj h)
      obtain rfl : quote = '\'' := by
        simpa using Text.not_head_dropWhile (· != '\'') body quote (by rw [hrest]; rfl)
      have hbody : body = body.takeWhile (· != '\'') ++ '\'' :: rest := by
        rw [← hrest, List.takeWhile_append_dropWhile]
      have hkey : '\'' ∉ body.takeWhile (· != '\'') := fun hq => by
        simpa using List.mem_takeWhile_imp hq
      have hheads := Token.Heads.quoted hkey rest
      rwa [← hbody] at hheads
  · next hopen =>
    split at h
    · split at h <;> cases h
    · next hne =>
      cases h
      have hheads := Token.Heads.digits hne (fun c hc => List.mem_takeWhile_imp hc)
        (Text.not_head_dropWhile Char.isDigit s)
      rwa [List.takeWhile_append_dropWhile] at hheads

theorem Token.Heads.token_eq {t : Token} {s after : List Char} (h : t.Heads s after) (n : Nat) :
    token n s = .ok (t, after) := by
  cases h with
  | @quoted key hkey =>
    have hopen := Text.bne_of_notMem hkey
    have hclose : ∀ c ∈ ('\'' :: after).head?, (c != '\'') = false := by simp
    rw [token]
    simp only [Text.dropWhile_run hopen hclose, Text.takeWhile_run hopen hclose]
  | digits hne hdigits hafter =>
    obtain ⟨d, rest, rfl⟩ := List.exists_cons_of_ne_nil hne
    unfold token
    split
    · next he =>
      obtain ⟨rfl, -⟩ := List.cons.inj he
      cases hdigits '\'' List.mem_cons_self
    · rw [Text.takeWhile_run hdigits hafter, Text.dropWhile_run hdigits hafter]

/-- The recursion of `components`, without the equations that its termination needs. -/
theorem components_eq (n : Nat) (s : List Char) :
    components n s = match token n (trimStart s) with
      | .error e => .error e
      | .ok (t, after) =>
        match trimStart after with
        | [] => do return [← t.component]
        | c :: rest =>
          if c = ',' then do
            let first ← t.component
            return first :: (← components (n + 1) rest)
          else .error (t.trailing n (trimStart s)) := by
  rw [components]
  split
  · next he => simp only [he]
  · next he =>
    simp only [he]
    split
    · next ha => simp only [ha]
    · next ha => simp only [ha]

end Path

namespace Component

theorem Spelled.exists_token {c : Component} {text : List Char} (h : c.Spelled text) :
    ∃ t : Path.Token, t.component = .ok c ∧
      ∀ after : List Char, (∀ d ∈ after.head?, d.isDigit = false) → t.Heads (text ++ after) after := by
  cases h with
  | @key name hname =>
    refine ⟨.quoted name, rfl, fun after _ => ?_⟩
    have hheads := Path.Token.Heads.quoted hname after
    simpa using hheads
  | index hne hdigits hsmall =>
    refine ⟨.digits text, ?_, fun after hafter => .digits hne hdigits hafter⟩
    exact if_pos hsmall

theorem exists_spelled_of_heads {c : Component} {t : Path.Token} {s after : List Char}
    (h : t.Heads s after) (hc : t.component = .ok c) :
    ∃ text, c.Spelled text ∧ s = text ++ after := by
  cases h with
  | @quoted key hkey =>
    cases hc
    exact ⟨'\'' :: (key ++ ['\'']), .key hkey, by simp⟩
  | digits hne hdigits hafter =>
    simp only [Path.Token.component] at hc
    split at hc
    · next hsmall =>
      cases hc
      exact ⟨_, .index hne hdigits hsmall, rfl⟩
    · cases hc

theorem Spelled.exists_eq_cons {c : Component} {text : List Char} (h : c.Spelled text) :
    ∃ first rest, text = first :: rest ∧ isBlank first = false := by
  cases h with
  | key hname => exact ⟨_, _, rfl, rfl⟩
  | index hne hdigits hsmall =>
    obtain ⟨d, rest, rfl⟩ := List.exists_cons_of_ne_nil hne
    exact ⟨d, rest, rfl, Text.not_isBlank_of_isDigit (hdigits d List.mem_cons_self)⟩

theorem Padded.exists_token {c : Component} {s rest : List Char} (h : c.Padded s)
    (hrest : Path.AtEnd rest) (n : Nat) :
    ∃ t after, Path.token n (trimStart (s ++ rest)) = .ok (t, after) ∧ t.component = .ok c ∧
      trimStart after = rest := by
  obtain @⟨before, text, gap, hbefore, htext, hgap⟩ := h
  obtain ⟨t, hc, hheads⟩ := htext.exists_token
  obtain ⟨first, tail, hfirst, hblank⟩ := htext.exists_eq_cons
  have hstart : trimStart (before ++ (text ++ gap) ++ rest) = text ++ (gap ++ rest) := by
    rw [List.append_assoc, List.append_assoc]
    refine Text.trimStart_gap_append hbefore ?_
    simp [hfirst, hblank]
  refine ⟨t, gap ++ rest, ?_, hc, ?_⟩
  · rw [hstart]
    exact (hheads _ (hrest.not_isDigit_gap_append hgap)).token_eq n
  · exact hrest.trimStart_gap_append hgap

theorem exists_padded_of_token {c : Component} {n : Nat} {s after : List Char} {t : Path.Token}
    (ht : Path.token n (trimStart s) = .ok (t, after)) (hc : t.component = .ok c) :
    ∃ padded, c.Padded padded ∧ s = padded ++ trimStart after := by
  obtain ⟨text, htext, htrimmed⟩ := exists_spelled_of_heads (Path.heads_of_token ht) hc
  obtain ⟨before, hbefore, hs⟩ := Text.exists_gap s
  obtain ⟨gap, hgap, hafter⟩ := Text.exists_gap after
  refine ⟨before ++ (text ++ gap), .intro hbefore htext hgap, ?_⟩
  rw [List.append_assoc, List.append_assoc, ← hafter, ← htrimmed, ← hs]

theorem Padded.not_gap {c : Component} {s : List Char} (h : c.Padded s) : ¬ Gap s := by
  rintro hgap
  obtain ⟨-, htext, -⟩ := h
  obtain ⟨first, tail, rfl, hblank⟩ := htext.exists_eq_cons
  have hfirst := hgap first (by simp)
  rw [hblank] at hfirst
  cases hfirst

theorem BeforeComma.length_lt {c : Component} {s rest : List Char} (h : c.BeforeComma s rest) :
    rest.length < s.length := by
  obtain ⟨padded, -, rfl⟩ := h
  simp only [List.length_append, List.length_cons]
  omega

theorem BeforeComma.rest_unique {c c' : Component} {s rest rest' : List Char}
    (h : c.BeforeComma s rest) (h' : c'.BeforeComma s rest') : rest = rest' := by
  obtain ⟨padded, hpadded, rfl⟩ := h
  obtain ⟨padded', hpadded', hs⟩ := h'
  obtain ⟨t, after, ht, -, ha⟩ := hpadded.exists_token (Path.atEnd_comma rest) 0
  obtain ⟨t', after', ht', -, ha'⟩ := hpadded'.exists_token (Path.atEnd_comma rest') 0
  rw [hs, ht'] at ht
  cases ht
  exact (List.cons.inj (ha.symm.trans ha')).2

theorem Padded.components_eq {c : Component} {s : List Char} (h : c.Padded s) (n : Nat) :
    Path.components n s = .ok [c] := by
  obtain ⟨t, after, ht, hc, ha⟩ := h.exists_token Path.atEnd_nil n
  rw [List.append_nil] at ht
  rw [Path.components_eq, ht]
  simp only [ha, hc]
  rfl

theorem BeforeComma.components_eq {c : Component} {s rest : List Char} (h : c.BeforeComma s rest)
    (n : Nat) : Path.components n s = (Path.components (n + 1) rest).map (c :: ·) := by
  obtain ⟨padded, hpadded, rfl⟩ := h
  obtain ⟨t, after, ht, hc, ha⟩ := hpadded.exists_token (Path.atEnd_comma rest) n
  rw [Path.components_eq, ht]
  simp only [ha, hc, if_true]
  cases Path.components (n + 1) rest <;> rfl

end Component

/-! ## The reader against the grammar -/

namespace Path

theorem Spelled.components_eq {path : Path} {s : List Char} (h : path.Spelled s) (n : Nat) :
    components n s = .ok path := by
  induction h generalizing n with
  | last h => exact h.components_eq n
  | more h hrest ih => rw [h.components_eq, ih]; rfl

theorem spelled_of_components {n : Nat} {s : List Char} {path : Path}
    (h : components n s = .ok path) : path.Spelled s := by
  fun_induction components n s generalizing path with
  | case1 n s e he => cases h
  | case2 n s t after ht ha =>
    -- the text is over after the component
    cases hc : t.component with
    | error e => rw [hc] at h; cases h
    | ok c =>
      rw [hc] at h
      cases h
      obtain ⟨padded, hpadded, hs⟩ := Component.exists_padded_of_token ht hc
      rw [ha, List.append_nil] at hs
      exact .last (hs ▸ hpadded)
  | case3 n s t after ht rest ha ih =>
    -- a comma comes next
    cases hc : t.component with
    | error e => rw [hc] at h; cases h
    | ok c =>
      cases hrest : components (n + 1) rest with
      | error e => rw [hc, hrest] at h; cases h
      | ok others =>
        rw [hc, hrest] at h
        cases h
        obtain ⟨padded, hpadded, hs⟩ := Component.exists_padded_of_token ht hc
        rw [ha] at hs
        exact .more ⟨padded, hpadded, hs⟩ (ih hrest)
  | case4 n s t after ht c rest ha hc => cases h

theorem Spelled.not_gap {path : Path} {s : List Char} (h : path.Spelled s) : ¬ Gap s := by
  intro hgap
  cases h with
  | last h => exact h.not_gap hgap
  | more h hrest =>
    obtain ⟨padded, hpadded, rfl⟩ := h
    exact hpadded.not_gap fun c hc => hgap c (List.mem_append_left _ hc)

theorem parse_of_spelled {path : Path} {text : String} (h : path.Spelled text.toList) :
    parse text = .ok path := by
  have hall : text.toList.all isBlank = false := by
    rw [← Bool.not_eq_true, List.all_eq_true]
    exact h.not_gap
  rw [parse, hall, h.components_eq]
  rfl

theorem spelled_of_parse {path : Path} {text : String} (h : parse text = .ok path) :
    path.Spelled text.toList := by
  unfold parse at h
  split at h
  · cases h
  · exact spelled_of_components h

/-- **What is read is what is spelled.** The reader takes exactly the texts that spell a
path, and gives that path; no text spells two. -/
theorem parse_eq_ok_iff (text : String) :
    (∀ path : Path, parse text = .ok path ↔ path.Spelled text.toList) ∧
    ∀ path other : Path, path.Spelled text.toList → other.Spelled text.toList → path = other := by
  have hiff : ∀ path : Path, parse text = .ok path ↔ path.Spelled text.toList :=
    fun path => ⟨spelled_of_parse, parse_of_spelled⟩
  refine ⟨hiff, fun path other hpath hother => ?_⟩
  have he := ((hiff path).mpr hpath).symm.trans ((hiff other).mpr hother)
  exact Except.ok.inj he

/-- A comma in quotes, zeros before a number, a wide blank, and the empty key. -/
theorem parse_eq_ok_iff_leading_zeros :
    let text := "\u3000'a, b' ,007,''\n"
    let path : Path := [.key "a, b", .index 7, .key ""]
    path.Spelled text.toList ∧ parse text = .ok path ∧
      ∀ other : Path, other.Spelled text.toList → other = path := by
  intro text path
  have hname : Component.Padded (.key "a, b") "\u3000'a, b' ".toList :=
    @Component.Padded.intro _ ['\u3000'] _ [' '] (by decide)
      (@Component.Spelled.key ['a', ',', ' ', 'b'] (by decide)) (by decide)
  have hseven : Component.Padded (.index 7) "007".toList :=
    @Component.Padded.intro _ [] _ [] (by decide)
      (@Component.Spelled.index ['0', '0', '7'] (by decide) (List.all_eq_true.mp rfl) (by decide))
      (by decide)
  have hempty : Component.Padded (.key "") "''\n".toList :=
    @Component.Padded.intro _ [] _ ['\n'] (by decide) (@Component.Spelled.key [] (by decide))
      (by decide)
  have hrest : Path.Spelled [.index 7, .key ""] "007,''\n".toList :=
    .more ⟨_, hseven, by decide⟩ (.last hempty)
  have hspelled : path.Spelled text.toList := .more ⟨_, hname, by decide⟩ hrest
  obtain ⟨hread, hunique⟩ := parse_eq_ok_iff text
  exact ⟨hspelled, (hread path).mpr hspelled, fun other hother =>
    hunique other path hother hspelled⟩

end Path

end TemplateFill
