/-! Random words and uniform choice. The words are an endless sequence of 32 bits
each, and what has been used of them is a position in the sequence. A word `w`
chooses number `w * n / 2^32` of `n` things; words for which `w * n` modulo 2^32
falls beyond a zone are rejected, so that all choices are equally likely. Words are
fair among `n` when accepted ones never run out, and then every choice among `n`
ends; a source is words that are fair in every choice. -/
namespace TemplateFill.Random

/-- The largest remainder that is accepted in a choice among `n`: the largest
multiple of `n` by a power of two below 2^32, less one. -/
def zone (n : Nat) : Nat := n <<< (31 - n.log2) - 1

def Accepted (n : Nat) (word : UInt32) : Prop := word.toNat * n % UInt32.size ≤ zone n

instance (n : Nat) (word : UInt32) : Decidable (Accepted n word) :=
  inferInstanceAs (Decidable (_ ≤ _))

def pick (n : Nat) (word : UInt32) : Nat := word.toNat * n / UInt32.size

theorem pick_lt {n : Nat} (h : 0 < n) (word : UInt32) : pick n word < n := by
  have hw : word.toNat < UInt32.size := word.toNat_lt
  exact Nat.div_lt_of_lt_mul (Nat.mul_lt_mul_of_pos_right hw h)

/-- The word zero is accepted in every choice. -/
theorem accepted_zero (n : Nat) : Accepted n 0 := by simp [Accepted]

structure Words where
  word : Nat → UInt32

namespace Words

/-- Accepted words never run out in choices among `n`. -/
def Fair (words : Words) (n : Nat) : Prop :=
  ∀ position, ∃ i, position ≤ i ∧ Accepted n (words.word i)

/-- A position from which on an accepted word is still to come. -/
abbrev Pending (words : Words) (n : Nat) :=
  { position : Nat // ∃ i, position ≤ i ∧ Accepted n (words.word i) }

/-- One position comes after another whose word is rejected. -/
def Later (words : Words) (n : Nat) (q p : words.Pending n) : Prop :=
  q.val = p.val + 1 ∧ ¬ Accepted n (words.word p.val)

theorem later_wellFounded (words : Words) (n : Nat) : WellFounded (words.Later n) := by
  suffices ∀ k i, Accepted n (words.word i) →
      ∀ p : words.Pending n, p.val + k = i → Acc (words.Later n) p by
    refine ⟨fun p => ?_⟩
    obtain ⟨i, hi, ha⟩ := p.property
    exact this (i - p.val) i ha p (by omega)
  intro k i ha
  induction k with
  | zero =>
    intro p hp
    refine ⟨p, fun q hq => absurd ha ?_⟩
    rw [← hp]
    exact hq.2
  | succ k ih =>
    intro p hp
    exact ⟨p, fun q hq => ih q (by rw [hq.1]; omega)⟩

instance (words : Words) (n : Nat) : WellFoundedRelation (words.Pending n) :=
  ⟨words.Later n, words.later_wellFounded n⟩

/-- The first position from `position` on whose word is accepted. -/
def next (words : Words) (n position : Nat)
    (h : ∃ i, position ≤ i ∧ Accepted n (words.word i)) : Nat :=
  if ha : Accepted n (words.word position) then position
  else words.next n (position + 1) (by
    obtain ⟨i, hi, hi'⟩ := h
    exact ⟨i, Nat.lt_of_le_of_ne hi fun e => ha (e ▸ hi'), hi'⟩)
termination_by (⟨position, h⟩ : words.Pending n)
decreasing_by exact ⟨rfl, ha⟩

/-- A number below `n`, and the position after the word that chose it. -/
def choose (words : Words) (n : Nat) (h : 0 < n) (fair : words.Fair n) (position : Nat) :
    Fin n × Nat :=
  let i := words.next n position (fair position)
  (⟨pick n (words.word i), pick_lt h _⟩, i + 1)

end Words

structure Source extends Words where
  fair : ∀ n < UInt32.size, toWords.Fair n

end TemplateFill.Random
