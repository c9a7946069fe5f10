import TemplateFill.Random.Source

/-! Sources given by a list of words, followed by the linear congruential sequence
`s ↦ 1664525 * s + 1013904223` modulo 2^32 from a seed. The sequence runs through
all words again and again, so every such source is fair. -/
namespace TemplateFill.Random

/-- The map `s ↦ factor * s + offset` on words. -/
structure Affine where
  factor : UInt32
  offset : UInt32
  deriving DecidableEq, Repr

namespace Affine

def apply (f : Affine) (s : UInt32) : UInt32 := f.factor * s + f.offset

/-- The map applied twice. -/
def twice (f : Affine) : Affine := ⟨f.factor * f.factor, f.factor * f.offset + f.offset⟩

theorem twice_apply (f : Affine) (s : UInt32) : f.twice.apply s = f.apply (f.apply s) := by
  simp only [apply, twice, UInt32.mul_add, UInt32.mul_assoc, UInt32.add_assoc]

/-- The map applied `n` times, by doubling. -/
def iterate (f : Affine) (n : Nat) (s : UInt32) : UInt32 :=
  if n = 0 then s
  else f.twice.iterate (n / 2) (if n % 2 = 1 then f.apply s else s)
termination_by n

theorem repeat_add (f : UInt32 → UInt32) (m n : Nat) (s : UInt32) :
    Nat.repeat f (m + n) s = Nat.repeat f m (Nat.repeat f n s) := by
  induction m with
  | zero => simp [Nat.repeat]
  | succ m ih => rw [Nat.succ_add, Nat.repeat, Nat.repeat, ih]

theorem repeat_twice (f : Affine) (n : Nat) (s : UInt32) :
    Nat.repeat f.twice.apply n s = Nat.repeat f.apply (2 * n) s := by
  induction n with
  | zero => rfl
  | succ n ih => rw [Nat.repeat, ih, twice_apply, Nat.mul_succ]; rfl

theorem iterate_eq_repeat (f : Affine) (n : Nat) (s : UInt32) :
    f.iterate n s = Nat.repeat f.apply n s := by
  induction n using Nat.strongRecOn generalizing f s with
  | _ n ih =>
    rw [iterate]
    by_cases h : n = 0
    · simp [h, Nat.repeat]
    · rw [if_neg h, ih (n / 2) (by omega), repeat_twice]
      by_cases hn : n % 2 = 1
      · rw [if_pos hn, show f.apply s = Nat.repeat f.apply 1 s from rfl, ← repeat_add]
        congr 1
        omega
      · rw [if_neg hn]
        congr 1
        omega

end Affine

def step : Affine := ⟨1664525, 1013904223⟩

/-- `step` applied `2^j` times. -/
def doubled : Nat → Affine
  | 0 => step
  | j + 1 => (doubled j).twice

theorem one_shiftLeft_succ (j : Nat) : 1 <<< (j + 1) = 1 <<< j * 2 := by
  rw [Nat.shiftLeft_succ, Nat.mul_comm]

theorem doubled_apply (j : Nat) (s : UInt32) :
    (doubled j).apply s = Nat.repeat step.apply (1 <<< j) s := by
  suffices ∀ n, Nat.repeat (doubled j).apply n s = Nat.repeat step.apply (1 <<< j * n) s by
    simpa [Nat.repeat] using this 1
  induction j with
  | zero => intro n; simp [doubled]
  | succ j ih =>
    intro n
    rw [doubled, Affine.repeat_twice, ih, one_shiftLeft_succ, Nat.mul_assoc]

/-- `2^j` steps leave the low `j` bits of a word and flip the next one. -/
theorem doubled_bits : ∀ j < 32, (doubled j).factor.toNat % 2 = 1 ∧
    (doubled j).offset.toNat % (1 <<< j * 2) = 1 <<< j := by decide +kernel

theorem flip_bit {p a c t : Nat} (ha : a % 2 = 1) (hc : c % (p * 2) = p)
    (ht : t % (p * 2) = p) : (a * t + c) % (p * 2) = 0 := by
  have ea := Nat.div_add_mod a 2
  have ec := Nat.div_add_mod c (p * 2)
  have et := Nat.div_add_mod t (p * 2)
  rw [ha] at ea
  rw [hc] at ec
  rw [ht] at et
  generalize a / 2 = k, c / (p * 2) = v, t / (p * 2) = u at *
  subst ea et ec
  rw [show (2 * k + 1) * (p * 2 * u + p) + (p * 2 * v + p) =
    p * 2 * (2 * k * u + u + k + v + 1) by grind]
  exact Nat.mul_mod_right _ _

/-- From every word the sequence comes to a word whose low `j` bits are zero. -/
theorem reaches_low_zero (s : UInt32) :
    ∀ j ≤ 32, ∃ m, (Nat.repeat step.apply m s).toNat % 1 <<< j = 0
  | 0, _ => ⟨0, by simp [Nat.mod_one]⟩
  | j + 1, hj => by
    obtain ⟨m, hm⟩ := reaches_low_zero s j (by omega)
    generalize hw : Nat.repeat step.apply m s = t at hm
    have hdvd : 1 <<< j * 2 ∣ UInt32.size := by
      rw [← one_shiftLeft_succ, Nat.one_shiftLeft]
      exact Nat.pow_dvd_pow 2 hj
    rw [one_shiftLeft_succ]
    by_cases h : t.toNat % (1 <<< j * 2) = 0
    · exact ⟨m, by rw [hw]; exact h⟩
    · have ht : t.toNat % (1 <<< j * 2) = 1 <<< j := by
        rw [Nat.mod_mul, hm] at h ⊢
        have := Nat.mod_two_eq_zero_or_one (t.toNat / 1 <<< j)
        rcases this with e | e <;> simp_all
      obtain ⟨ha, hc⟩ := doubled_bits j (by omega)
      refine ⟨1 <<< j + m, ?_⟩
      rw [Affine.repeat_add, hw, ← doubled_apply, Affine.apply, UInt32.toNat_add, UInt32.toNat_mul,
        Nat.mod_mod_of_dvd _ hdvd, Nat.add_mod, Nat.mod_mod_of_dvd _ hdvd, ← Nat.add_mod]
      exact flip_bit ha hc ht

/-- From every word the sequence comes to the word zero. -/
theorem reaches_zero (s : UInt32) : ∃ m, Nat.repeat step.apply m s = 0 := by
  obtain ⟨m, hm⟩ := reaches_low_zero s 32 (Nat.le_refl _)
  have hlt : (Nat.repeat step.apply m s).toNat < 1 <<< 32 := UInt32.toNat_lt _
  rw [Nat.mod_eq_of_lt hlt] at hm
  exact ⟨m, UInt32.toNat_inj.1 hm⟩

/-- The word at a position: one of those listed, or one of the sequence after the seed. -/
def scriptedWord (words : Array UInt32) (seed : UInt32) (position : Nat) : UInt32 :=
  if h : position < words.size then words[position]
  else step.iterate (position - words.size + 1) seed

theorem scriptedWord_fair (words : Array UInt32) (seed : UInt32) (n position : Nat) :
    ∃ i, position ≤ i ∧ Accepted n (scriptedWord words seed i) := by
  obtain ⟨m, hm⟩ := reaches_zero (Nat.repeat step.apply (position + 1) seed)
  refine ⟨position + words.size + m, by omega, ?_⟩
  rw [scriptedWord, dif_neg (by omega), Affine.iterate_eq_repeat,
    show position + words.size + m - words.size + 1 = m + (position + 1) by omega,
    Affine.repeat_add, hm]
  exact accepted_zero n

def Source.scripted (words : Array UInt32) (seed : UInt32) : Source where
  word := scriptedWord words seed
  fair n _ position := scriptedWord_fair words seed n position

end TemplateFill.Random
