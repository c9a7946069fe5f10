import Mathlib.Algebra.BigOperators.Group.Finset.Basic
import Mathlib.Algebra.Order.Floor.Div
import Mathlib.Data.FinEnum
import Mathlib.Order.Interval.Finset.Nat
import TemplateFill.Proofs.Random.Text

/-! # Choices are equally likely

The words that choose one number of `n` are neighbours, and as many as the power of two
that `leadingZeros` gives, so each number has the same share of the words. Together the
shares are half of all words at least. -/
namespace TemplateFill.Random

/-- How many zeros stand before the first one in the 32 bits of a number. -/
def leadingZeros (n : Nat) : Nat := (BitVec.ofNat 32 n).clz.toNat

/-- How many words choose each number below `n`. -/
def share (n : Nat) : Nat := 2 ^ leadingZeros n

variable {n : Nat}

theorem log2_add_leadingZeros (h : 0 < n ∧ n < UInt32.size) : n.log2 + leadingZeros n = 31 := by
  obtain ⟨bits, hbits⟩ : ∃ bits, BitVec.ofNat 32 n = bits := ⟨_, rfl⟩
  have hn : bits.toNat = n := by
    rw [← hbits, BitVec.toNat_ofNat]
    exact Nat.mod_eq_of_lt h.2
  have hne : bits ≠ 0#32 := by
    rintro rfl
    exact absurd hn.symm h.1.ne'
  have hzeros : bits.clz.toNat < 32 := BitVec.lt_def.mp (BitVec.clz_lt_iff_ne_zero.mpr hne)
  have hlower := BitVec.two_pow_sub_clz_le_toNat_of_ne_zero (by decide) hne
  have hupper : bits.toNat < 2 ^ (32 - bits.clz.toNat) := BitVec.toNat_lt_two_pow_sub_clz
  rw [hn] at hlower hupper
  have hlog : n.log2 = 31 - bits.clz.toNat := by
    refine (Nat.log2_eq_iff h.1.ne').mpr ⟨hlower, ?_⟩
    rwa [show 31 - bits.clz.toNat + 1 = 32 - bits.clz.toNat by omega]
  rw [leadingZeros, hbits]
  omega

theorem zone_eq (h : 0 < n ∧ n < UInt32.size) : zone n = n <<< leadingZeros n - 1 := by
  rw [zone, ← log2_add_leadingZeros h, Nat.add_sub_cancel_left]

theorem accepted_iff_le (h : 0 < n ∧ n < UInt32.size) (word : UInt32) :
    Accepted n word ↔ word.toNat * n % 2 ^ 32 ≤ (n <<< leadingZeros n) - 1 := by
  rw [Accepted, zone_eq h]
  rfl

/-- The shares of all numbers are half of the words at least, and not all of them. -/
theorem mul_share (h : 0 < n ∧ n < UInt32.size) :
    2 ^ 31 ≤ n * share n ∧ n * share n < UInt32.size := by
  have hlower : 2 ^ n.log2 * share n ≤ n * share n :=
    Nat.mul_le_mul_right _ (Nat.log2_self_le h.1.ne')
  have hupper : n * share n < 2 ^ (n.log2 + 1) * share n :=
    Nat.mul_lt_mul_of_pos_right Nat.lt_log2_self (Nat.two_pow_pos _)
  rw [share, ← Nat.pow_add] at hlower hupper
  rw [log2_add_leadingZeros h] at hlower
  rw [Nat.add_right_comm, log2_add_leadingZeros h] at hupper
  exact ⟨hlower, hupper⟩

theorem accepted_iff_lt (h : 0 < n ∧ n < UInt32.size) (word : UInt32) :
    Accepted n word ↔ word.toNat * n % UInt32.size < n * share n := by
  have hpos : 0 < n * share n := Nat.mul_pos h.1 (Nat.two_pow_pos _)
  rw [accepted_iff_le h, Nat.shiftLeft_eq, ← share]
  exact Nat.le_sub_one_iff_lt hpos

/-- The first word that chooses a number. -/
def firstFor (n i : Nat) : Nat := (i * UInt32.size) ⌈/⌉ n

theorem firstFor_le_iff (h : 0 < n) {i v : Nat} : firstFor n i ≤ v ↔ i * UInt32.size ≤ v * n := by
  rw [firstFor, ceilDiv_le_iff_le_mul h, Nat.mul_comm n]

theorem lt_firstFor_add_iff (h : 0 < n) {i v count : Nat} :
    v < firstFor n i + count ↔ v * n < i * UInt32.size + n * count := by
  -- Subtraction of `count` would be cut off at zero, so the numbers below it come first.
  rcases Nat.lt_or_ge v count with hlt | hge
  · have hless : v * n < n * count := by
      rw [Nat.mul_comm]
      exact Nat.mul_lt_mul_of_pos_left hlt h
    exact ⟨fun _ => by omega, fun _ => by omega⟩
  · obtain ⟨w, rfl⟩ := Nat.exists_eq_add_of_le' hge
    rw [Nat.add_lt_add_iff_right, ← not_le, firstFor_le_iff h, Nat.add_mul, Nat.mul_comm count n,
      Nat.add_lt_add_iff_right, not_le]

/-- The words that choose a number are its share from the first one on. -/
theorem accepted_and_pick_iff (h : 0 < n ∧ n < UInt32.size) {word : UInt32} {i : Nat} :
    Accepted n word ∧ pick n word = i ↔
      word.toNat ∈ Finset.Ico (firstFor n i) (firstFor n i + share n) := by
  obtain ⟨-, hshares⟩ := mul_share h
  have hdiv := Nat.div_add_mod' (word.toNat * n) UInt32.size
  rw [accepted_iff_lt h, pick, Finset.mem_Ico, firstFor_le_iff h.1, lt_firstFor_add_iff h.1]
  constructor
  · rintro ⟨haccepted, rfl⟩
    omega
  · rintro ⟨hlower, hupper⟩
    have hpick : word.toNat * n / UInt32.size = i := by
      refine Nat.div_eq_of_lt_le hlower ?_
      rw [Nat.add_mul, Nat.one_mul]
      omega
    rw [hpick] at hdiv
    exact ⟨by omega, hpick⟩

/-- The share of a number below `n` ends before the words do. -/
theorem lt_size_of_mem (h : 0 < n ∧ n < UInt32.size) {i v : Nat} (hi : i < n)
    (hv : v ∈ Finset.Ico (firstFor n i) (firstFor n i + share n)) : v < UInt32.size := by
  have hupper := (lt_firstFor_add_iff h.1).mp (Finset.mem_Ico.mp hv).2
  refine Nat.lt_of_mul_lt_mul_right (a := n) ?_
  calc v * n < i * UInt32.size + n * share n := hupper
    _ ≤ (i + 1) * UInt32.size := by
      rw [Nat.add_mul, Nat.one_mul]
      exact Nat.add_le_add_left (mul_share h).2.le _
    _ ≤ UInt32.size * n := by
      rw [Nat.mul_comm]
      exact Nat.mul_le_mul_left _ hi

/-- Each number below `n` is chosen by its share of the words. -/
theorem card_words (h : 0 < n ∧ n < UInt32.size) {i : Nat} (hi : i < n) :
    Finset.card {word : UInt32 | Accepted n word ∧ pick n word = i} = share n := by
  have hword : ∀ v ∈ Finset.Ico (firstFor n i) (firstFor n i + share n),
      (UInt32.ofNat v).toNat = v :=
    fun v hv => UInt32.toNat_ofNat_of_lt' (lt_size_of_mem h hi hv)
  calc Finset.card {word : UInt32 | Accepted n word ∧ pick n word = i}
      = (Finset.Ico (firstFor n i) (firstFor n i + share n)).card := by
        refine Finset.card_nbij' UInt32.toNat UInt32.ofNat ?_ ?_
          (fun word _ => UInt32.ofNat_toNat) hword
        · intro word hchosen
          exact (accepted_and_pick_iff h).mp ((Finset.mem_filter_univ word).mp hchosen)
        · intro v hv
          refine (Finset.mem_filter_univ _).mpr ((accepted_and_pick_iff h).mpr ?_)
          rwa [hword v hv]
    _ = share n := by rw [Nat.card_Ico, Nat.add_sub_cancel_left]

/-- The accepted words are the shares of all numbers. -/
theorem card_accepted (h : 0 < n ∧ n < UInt32.size) :
    Finset.card {word : UInt32 | Accepted n word} = n * share n := by
  have hpick : ∀ word ∈ ({word | Accepted n word} : Finset UInt32), pick n word ∈ Finset.range n :=
    fun word _ => Finset.mem_range.mpr (pick_lt h.1 word)
  rw [Finset.card_eq_sum_card_fiberwise hpick]
  simp only [Finset.filter_filter]
  rw [Finset.sum_congr rfl fun i hi => card_words h (Finset.mem_range.mp hi), Finset.sum_const,
    Finset.card_range, smul_eq_mul]

/-- A choice takes the first word that is accepted. Of all words, equally many choose each
number below `n`, none chooses any other, and half of them at least are accepted. -/
theorem choice_unbiased (h : 0 < n ∧ n < UInt32.size) :
    (∀ (words : Words) (fair : words.Fair n) (position : Nat),
      let word := words.word position
      words.choose n h.1 fair position =
        if Accepted n word then (⟨pick n word, pick_lt h.1 word⟩, position + 1)
        else words.choose n h.1 fair (position + 1)) ∧
    (∀ word, Accepted n word ↔ word.toNat * n % 2 ^ 32 ≤ (n <<< leadingZeros n) - 1) ∧
    n <<< leadingZeros n < 2 ^ 32 ∧
    (∀ word, pick n word = word.toNat * n / 2 ^ 32 ∧ pick n word < n) ∧
    (∀ i < n,
      Finset.card {word : UInt32 | Accepted n word ∧ pick n word = i} = 2 ^ leadingZeros n) ∧
    Fintype.card UInt32 ≤ 2 * Finset.card {word : UInt32 | Accepted n word} := by
  obtain ⟨hlower, hupper⟩ := mul_share h
  refine ⟨fun words fair position => words.choose_eq h.1 fair position, accepted_iff_le h, ?_,
    fun word => ⟨rfl, pick_lt h.1 word⟩, fun i hi => card_words h hi, ?_⟩
  · rwa [Nat.shiftLeft_eq]
  · have hwords : Fintype.card UInt32 = 2 ^ 32 := FinEnum.card_eq_fintypeCard.symm
    rw [card_accepted h, hwords]
    omega

/-- Each letter and each digit is chosen by 2^26 words. -/
theorem choice_unbiased_alnum :
    Charset.alnum.chars.size = 62 ∧ (0 < 62 ∧ 62 < UInt32.size) ∧
    (∀ word, Accepted 62 word ↔ word.toNat * 62 % 2 ^ 32 ≤ 4160749567) ∧
    (∀ i < 62, Finset.card {word : UInt32 | Accepted 62 word ∧ pick 62 word = i} = 67108864) ∧
    Fintype.card UInt32 ≤ 2 * Finset.card {word : UInt32 | Accepted 62 word} := by
  have hsize : 0 < 62 ∧ 62 < UInt32.size := by decide
  have hzeros : leadingZeros 62 = 26 := by decide
  obtain ⟨-, haccepted, -, -, hequal, hhalf⟩ := choice_unbiased hsize
  rw [hzeros] at haccepted hequal
  exact ⟨by decide, hsize, haccepted, hequal, hhalf⟩

end TemplateFill.Random
