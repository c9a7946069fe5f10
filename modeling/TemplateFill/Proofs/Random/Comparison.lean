import TemplateFill.Proofs.Random.Text

/-! # Two acts on random words

An act takes a position in the random words and gives a result and the position reached.
Two acts are compared by a relation that holds of acts put together if it holds of their
parts. Three relations are of use: being the same; giving the same result without drawing
a word; and giving the same result wherever the words that the one act draws stand ahead
of the other. The random texts from two sequences of words are related in the third way. -/
namespace TemplateFill.Random

/-- A relation between acts that holds of acts put together if it holds of their parts. -/
structure Comparison where
  Rel : {α : Type} → (Nat → α × Nat) → (Nat → α × Nat) → Prop
  pure {α : Type} (x : α) : Rel (fun position => (x, position)) fun position => (x, position)
  bind {α β : Type} {act act' : Nat → α × Nat} {next next' : α → Nat → β × Nat}
    (h : Rel act act') (hnext : ∀ x, Rel (next x) (next' x)) :
    Rel (fun position => next (act position).1 (act position).2)
      fun position => next' (act' position).1 (act' position).2

namespace Comparison

theorem map (C : Comparison) {α β : Type} {act act' : Nat → α × Nat} (h : C.Rel act act')
    (f : α → β) :
    C.Rel (fun position => (f (act position).1, (act position).2))
      fun position => (f (act' position).1, (act' position).2) :=
  C.bind h fun x => C.pure (f x)

/-- The acts are the same. -/
def same : Comparison where
  Rel act act' := act' = act
  pure _ := rfl
  bind {_ _ act act' next next'} h hnext := by
    obtain rfl := h
    obtain rfl : next' = next := funext hnext
    rfl

/-- The acts draw no word and give the same, each from every position. -/
def still : Comparison where
  Rel act act' := ∀ position position',
    (act position).2 = position ∧ act' position' = ((act position).1, position')
  pure _ _ _ := ⟨rfl, rfl⟩
  bind {_ _ act act' next next'} h hnext := by
    intro position position'
    obtain ⟨hstill, hact⟩ := h position position'
    simp only [hstill, hact]
    exact hnext _ position position'

end Comparison

/-- The second words from `position'` on are the first from `position` on, as far as `count`
of them. -/
def Words.Agree (words words' : Words) (position position' count : Nat) : Prop :=
  ∀ i < count, words'.word (position' + i) = words.word (position + i)

instance (words words' : Words) (position position' count : Nat) :
    Decidable (words.Agree words' position position' count) :=
  inferInstanceAs (Decidable (∀ i < count, _ = _))

namespace Words

variable {words words' : Words} {position position' first others : Nat}

theorem Agree.left (h : words.Agree words' position position' (first + others)) :
    words.Agree words' position position' first :=
  fun i hi => h i (Nat.lt_add_right others hi)

theorem Agree.right (h : words.Agree words' position position' (first + others)) :
    words.Agree words' (position + first) (position' + first) others := by
  intro i hi
  rw [Nat.add_assoc, Nat.add_assoc]
  exact h (first + i) (Nat.add_lt_add_left hi first)

end Words

/-- The first act draws some words; where the same words stand before the second act, it
gives the same and draws as many. -/
def Comparison.sameWords (words words' : Words) : Comparison where
  Rel act act' := ∀ position, ∃ count, (act position).2 = position + count ∧
    ∀ position', words.Agree words' position position' count →
      act' position' = ((act position).1, position' + count)
  pure _ _ := ⟨0, rfl, fun _ _ => rfl⟩
  bind {_ _ act act' next next'} h hnext := by
    intro position
    obtain ⟨first, hposition, hact⟩ := h position
    obtain ⟨others, hposition', hact'⟩ := hnext (act position).1 (position + first)
    refine ⟨first + others, ?_, fun position' hagree => ?_⟩
    · show (next (act position).1 (act position).2).2 = position + (first + others)
      rw [hposition, hposition', Nat.add_assoc]
    · show next' (act' position').1 (act' position').2 =
        ((next (act position).1 (act position).2).1, position' + (first + others))
      rw [hact position' hagree.left, hact' (position' + first) hagree.right, hposition,
        Nat.add_assoc]

/-- An act at a position in the random words never goes back, and where it takes no word
it does the same from every position. -/
structure Orderly {α : Type} (act : Nat → α × Nat) : Prop where
  le : ∀ position, position ≤ (act position).2
  still : ∀ position, (act position).2 = position → ∀ other, act other = ((act position).1, other)

/-- Where two acts put together take no word, neither of them does. -/
theorem Orderly.parts {α β : Type} {act : Nat → α × Nat} {next : α → Nat → β × Nat}
    (h : Orderly act) (hnext : ∀ x, Orderly (next x)) {position : Nat}
    (hstill : (next (act position).1 (act position).2).2 = position) :
    (act position).2 = position ∧ (next (act position).1 position).2 = position := by
  have hle := h.le position
  have hle' := (hnext (act position).1).le (act position).2
  have hfirst : (act position).2 = position := by omega
  rw [hfirst] at hstill
  exact ⟨hfirst, hstill⟩

/-- An act that depends on no words but those it draws is orderly. -/
theorem Orderly.of_sameWords {words : Words} {α : Type} {act : Nat → α × Nat}
    (h : (Comparison.sameWords words words).Rel act act) : Orderly act where
  le position := by
    obtain ⟨count, hcount, -⟩ := h position
    omega
  still position hstill other := by
    obtain ⟨count, hcount, hsame⟩ := h position
    obtain rfl : count = 0 := by omega
    exact hsame other fun i hi => absurd hi (Nat.not_lt_zero i)

namespace Words

section Draw

variable (words words' : Words)

/-- The next accepted word is the first one that is accepted. -/
theorem next_eq_iff {n position : Nat} {h : ∃ i, position ≤ i ∧ Accepted n (words.word i)}
    {i : Nat} :
    words.next n position h = i ↔ position ≤ i ∧ Accepted n (words.word i) ∧
      ∀ j, position ≤ j → j < i → ¬ Accepted n (words.word j) := by
  fun_induction words.next n position h with
  | case1 position h ha =>
    constructor
    · rintro rfl
      exact ⟨Nat.le_refl _, ha, fun j hle hlt => absurd hlt (Nat.not_lt.mpr hle)⟩
    · rintro ⟨hle, -, hnone⟩
      rcases Nat.eq_or_lt_of_le hle with he | hlt
      · exact he
      · exact absurd ha (hnone position (Nat.le_refl _) hlt)
  | case2 position h ha ih =>
    rw [ih]
    constructor
    · rintro ⟨hle, hi, hnone⟩
      refine ⟨by omega, hi, fun j hj hlt => ?_⟩
      by_cases he : j = position
      · rwa [he]
      · exact hnone j (by omega) hlt
    · rintro ⟨hle, hi, hnone⟩
      refine ⟨?_, hi, fun j hj hlt => hnone j (by omega) hlt⟩
      rcases Nat.eq_or_lt_of_le hle with rfl | hlt
      · exact absurd hi ha
      · exact hlt

/-- A choice reads the words up to the first accepted one. -/
theorem choose_sameWords {n : Nat} (h : 0 < n) (fair : words.Fair n) (fair' : words'.Fair n) :
    (Comparison.sameWords words words').Rel (words.choose n h fair)
      (words'.choose n h fair') := by
  intro position
  obtain ⟨i, hi⟩ : ∃ i, words.next n position (fair position) = i := ⟨_, rfl⟩
  obtain ⟨hle, haccepted, hnone⟩ := words.next_eq_iff.mp hi
  refine ⟨i - position + 1, ?_, fun position' hagree => ?_⟩
  · simp only [choose, hi]
    omega
  · have hword : ∀ j ≤ i - position, words'.word (position' + j) = words.word (position + j) :=
      fun j hj => hagree j (by omega)
    have hlast := hword (i - position) (Nat.le_refl _)
    rw [Nat.add_sub_cancel' hle] at hlast
    have hi' : words'.next n position' (fair' position') =
        position' + (i - position) := by
      refine words'.next_eq_iff.mpr ⟨by omega, by rwa [hlast], fun j hj hlt => ?_⟩
      have hearlier := hword (j - position') (by omega)
      rw [Nat.add_sub_cancel' hj] at hearlier
      rw [hearlier]
      exact hnone _ (by omega) (by omega)
    simp only [choose, hi, hi', hlast, Nat.add_assoc]

variable {set : Charset} (fair : words.Fair set.chars.size) (fair' : words'.Fair set.chars.size)

theorem drawChars_sameWords (h : 0 < set.chars.size) (count : Nat) :
    (Comparison.sameWords words words').Rel (words.drawChars set h fair count [])
      (words'.drawChars set h fair' count []) := by
  induction count with
  | zero => exact Comparison.pure _ []
  | succ count ih =>
    have hdraw := (Comparison.sameWords words words').bind
      (words.choose_sameWords words' h fair fair')
      fun i => Comparison.map _ ih (set.chars[i] :: ·)
    have hfirst : words.drawChars set h fair (count + 1) [] = _ :=
      funext fun position => words.drawChars_succ h fair count position
    have hsecond : words'.drawChars set h fair' (count + 1) [] = _ :=
      funext fun position => words'.drawChars_succ h fair' count position
    rw [hfirst, hsecond]
    exact hdraw

theorem textFrom_sameWords (length : Nat) :
    (Comparison.sameWords words words').Rel (words.textFrom set fair length)
      (words'.textFrom set fair' length) := by
  by_cases h : 0 < set.chars.size
  · have hdraw := Comparison.map _ (words.drawChars_sameWords words' fair fair' h length)
      String.ofList
    unfold textFrom
    simp only [dif_pos h]
    exact hdraw
  · unfold textFrom
    simp only [dif_neg h]
    exact Comparison.pure _ ""

theorem base64_sameWords (count : Nat) :
    (Comparison.sameWords words words').Rel (words.base64 count) (words'.base64 count) := by
  intro position
  refine ⟨wordsFor count, rfl, fun position' hagree => ?_⟩
  have hwords : (List.range (wordsFor count)).map (fun i => words'.word (position' + i)) =
      (List.range (wordsFor count)).map fun i => words.word (position + i) :=
    List.map_congr_left fun i hi => hagree i (List.mem_range.mp hi)
  simp only [base64, octets, hwords]

end Draw

end Words

end TemplateFill.Random
