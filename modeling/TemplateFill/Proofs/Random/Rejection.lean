import Mathlib.Data.Nat.Nth
import TemplateFill.Proofs.Random.Comparison
import TemplateFill.Proofs.Random.Uniform
import TemplateFill.Random.Scripted

/-! # Which words make a text

The characters of a random text are those chosen by the accepted words from its position
on, one after the other; rejected words are passed over. Accepted words never run out, so
every text comes to its end, right after the last word that it needs. -/
namespace TemplateFill.Random

namespace Words

variable (words : Words) {n : Nat}

/-- The word at `i` is accepted in a choice among `n`, and not one of those before
`position`. -/
def AcceptedFrom (n position i : Nat) : Prop := position ≤ i ∧ Accepted n (words.word i)

instance (n position : Nat) : DecidablePred (words.AcceptedFrom n position) :=
  fun _ => inferInstanceAs (Decidable (_ ∧ _))

theorem infinite_acceptedFrom (fair : words.Fair n) (position : Nat) :
    {i | words.AcceptedFrom n position i}.Infinite := by
  refine Set.infinite_of_forall_exists_gt fun i => ?_
  obtain ⟨j, hj, haccepted⟩ := fair (max position (i + 1))
  exact ⟨j, ⟨by omega, haccepted⟩, by omega⟩

/-- With `k` accepted words behind it, a choice takes the one that follows. -/
theorem choose_nth (h : 0 < n) (fair : words.Fair n) {position start k : Nat}
    (hstart : position ≤ start)
    (hk : Nat.count (words.AcceptedFrom n position) start = k) :
    let i := Nat.nth (words.AcceptedFrom n position) k
    words.choose n h fair start = (⟨pick n (words.word i), pick_lt h _⟩, i + 1) ∧
      position ≤ i + 1 ∧ Nat.count (words.AcceptedFrom n position) (i + 1) = k + 1 := by
  obtain rfl := hk
  intro i
  have hinfinite := words.infinite_acceptedFrom fair position
  have hmem : words.AcceptedFrom n position i := Nat.nth_mem_of_infinite hinfinite _
  -- No accepted word lies between `start` and `i`, or `i` would not be the one after `k` others.
  have hnext : words.next n start (fair start) = i := by
    refine words.next_eq_iff.mpr ⟨Nat.le_nth_count hinfinite start, hmem.2,
      fun j hj hlt haccepted => ?_⟩
    have hearlier := hlt.trans_eq (Nat.nth_count_eq_sInf _ start)
    exact Nat.notMem_of_lt_sInf hearlier ⟨⟨Nat.le_trans hstart hj, haccepted⟩, hj⟩
  refine ⟨?_, Nat.le_succ_of_le hmem.1, Nat.count_nth_succ_of_infinite hinfinite _⟩
  simp only [choose, hnext]

/-- With `k` accepted words behind them, characters are chosen by those that follow, one
each. -/
theorem drawChars_nth {set : Charset} (h : 0 < set.chars.size)
    (fair : words.Fair set.chars.size) {position : Nat} (count : Nat) :
    ∀ {start k : Nat}, position ≤ start →
      Nat.count (words.AcceptedFrom set.chars.size position) start = k →
      let nth := Nat.nth (words.AcceptedFrom set.chars.size position)
      let drawn := words.drawChars set h fair count [] start
      (∀ j < count, drawn.1[j]? = set.chars[pick set.chars.size (words.word (nth (k + j)))]?) ∧
        drawn.2 = match count with
          | 0 => start
          | last + 1 => nth (k + last) + 1 := by
  induction count with
  | zero => exact fun _ _ => ⟨fun j hj => absurd hj (Nat.not_lt_zero j), rfl⟩
  | succ count ih =>
    intro start k hstart hk nth drawn
    obtain ⟨hchosen, hstart', hk'⟩ := words.choose_nth h fair hstart hk
    obtain ⟨hchars, hend⟩ := ih hstart' hk'
    have hdrawn : drawn = _ := words.drawChars_succ h fair count start
    simp only [hchosen] at hdrawn
    rw [hdrawn]
    refine ⟨fun j hj => ?_, ?_⟩
    · cases j with
      | zero => exact (Array.getElem?_eq_getElem (pick_lt h _)).symm
      | succ j =>
        rw [List.getElem?_cons_succ, hchars j (by omega), Nat.add_right_comm, Nat.add_assoc]
    · show (words.drawChars set h fair count [] (nth k + 1)).2 = nth (k + count) + 1
      rw [hend]
      cases count with
      | zero => rfl
      | succ last =>
        show nth (k + 1 + last) + 1 = nth (k + (last + 1)) + 1
        rw [Nat.add_right_comm, Nat.add_assoc]

/-- A text takes the accepted words from its position on, one for each character. -/
theorem textFrom_nth {set : Charset} (h : 0 < set.chars.size) (fair : words.Fair set.chars.size)
    (length position : Nat) :
    let nth := Nat.nth (words.AcceptedFrom set.chars.size position)
    let drawn := words.textFrom set fair length position
    (∀ j < length, drawn.1.toList[j]? =
        set.chars[pick set.chars.size (words.word (nth j))]?) ∧
      drawn.2 = match length with
        | 0 => position
        | last + 1 => nth last + 1 := by
  have hnone : Nat.count (words.AcceptedFrom set.chars.size position) position = 0 :=
    Nat.count_iff_forall_not.mpr fun i hi haccepted => absurd haccepted.1 (Nat.not_le.mpr hi)
  simpa [textFrom, h] using words.drawChars_nth h fair length (Nat.le_refl position) hnone

end Words

namespace Source

/-- A source of the listed words, after which each word makes the next one, and the seed
the first of them. -/
structure Follows (source : Source) (words : Array UInt32) (seed : UInt32) : Prop where
  listed : ∀ i (h : i < words.size), source.word i = words[i]
  first : source.word words.size = seed * 1664525 + 1013904223
  next : ∀ i, words.size ≤ i → source.word (i + 1) = source.word i * 1664525 + 1013904223

theorem scripted_follows (words : Array UInt32) (seed : UInt32) :
    (scripted words seed).Follows words seed := by
  have hword : ∀ i, words.size ≤ i → (scripted words seed).word i =
      Nat.repeat step.apply (i - words.size + 1) seed := by
    intro i hi
    rw [← Affine.iterate_eq_repeat]
    exact dif_neg (Nat.not_lt.mpr hi)
  refine ⟨fun i h => dif_pos h, ?_, fun i hi => ?_⟩
  · rw [hword _ (Nat.le_refl _), Nat.sub_self, UInt32.mul_comm]
    rfl
  · rw [hword (i + 1) (by omega), hword i hi, Nat.succ_sub hi, UInt32.mul_comm]
    rfl

/-- A text has the length asked for. Its characters are those that the accepted words from
its position on choose, one after the other, and it ends right after the last of these;
accepted words never run out. Nothing is drawn from the empty set. -/
theorem text_of_accepted (words : Array UInt32) (seed : UInt32) (set : Charset)
    (length position : Nat) :
    let source := scripted words seed
    let n := set.chars.size
    let accepted := source.AcceptedFrom n position
    let drawn := source.text set length position
    source.Follows words seed ∧
    (n = 0 → drawn = ("", position)) ∧
    (0 < n →
      (∀ word, Accepted n word ↔ word.toNat * n % 2 ^ 32 ≤ (n <<< leadingZeros n) - 1) ∧
      {i | accepted i}.Infinite ∧ drawn.1.toList.length = length ∧
      (∀ j < length, drawn.1.toList[j]? =
        set.chars[(source.word (Nat.nth accepted j)).toNat * n / 2 ^ 32]?) ∧
      drawn.2 = match length with
        | 0 => position
        | last + 1 => Nat.nth accepted last + 1) := by
  intro source n accepted drawn
  refine ⟨scripted_follows words seed, fun hempty => ?_, fun h => ?_⟩
  · exact dif_neg (Nat.not_lt.mpr hempty.le)
  · have hsize : 0 < n ∧ n < UInt32.size := ⟨h, set.size_lt⟩
    have fair : source.Fair n := source.fair n set.size_lt
    obtain ⟨hlength, -, -⟩ := source.textFrom_spec h fair length position
    obtain ⟨hchars, hend⟩ := source.textFrom_nth h fair length position
    exact ⟨accepted_iff_le hsize, source.infinite_acceptedFrom fair position, hlength, hchars,
      hend⟩

/-- In a choice among three the first of these words is rejected. -/
theorem text_of_accepted_abc :
    let source := scripted #[0xFFFFFFFF, 0, 0x80000000] 7
    let set : Charset := ⟨#['a', 'b', 'c'], by decide⟩
    let drawn := source.text set 2 0
    0 < set.chars.size ∧ drawn.1.toList.length = 2 ∧ drawn.1.toList[0]? = some 'a' ∧
    drawn.1.toList[1]? = some 'b' ∧ drawn.2 = 3 := by
  intro source set drawn
  let accepted := source.AcceptedFrom set.chars.size 0
  have hnth : ∀ i j, accepted i ∧ Nat.count accepted i = j → Nat.nth accepted j = i := by
    rintro i _ ⟨hi, rfl⟩
    exact Nat.nth_count hi
  have hfirst : Nat.nth accepted 0 = 1 := hnth 1 0 (by decide +kernel)
  have hsecond : Nat.nth accepted 1 = 2 := hnth 2 1 (by decide +kernel)
  obtain ⟨-, -, htext⟩ := text_of_accepted #[0xFFFFFFFF, 0, 0x80000000] 7 set 2 0
  obtain ⟨-, -, hlength, hchars, hend⟩ := htext (by decide)
  have ha := hchars 0 (by decide)
  have hb := hchars 1 (by decide)
  rw [hfirst] at ha
  rw [hsecond] at hb
  exact ⟨by decide, hlength, ha.trans (by decide +kernel), hb.trans (by decide +kernel),
    hend.trans (congrArg Nat.succ hsecond)⟩

end Source

end TemplateFill.Random
