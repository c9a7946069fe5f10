import TemplateFill.Proofs.Base64
import TemplateFill.Random.Text

/-! # What random texts are made of

A text of `n` characters from a set takes at least `n` words, and its characters are of
the set; `n` octets take a quarter as many words, rounded up, and are read back from what
base64 makes of them. -/
namespace TemplateFill.Random.Words

variable (words : Words)

theorem le_next {n position : Nat} (h : ∃ i, position ≤ i ∧ Accepted n (words.word i)) :
    position ≤ words.next n position h := by
  fun_induction words.next n position h with
  | case1 => exact Nat.le_refl _
  | case2 position h hrejected ih => omega

/-- A word that is accepted is the choice; one that is not is passed over. -/
theorem choose_eq {n : Nat} (h : 0 < n) (fair : words.Fair n) (position : Nat) :
    words.choose n h fair position =
      if Accepted n (words.word position) then
        (⟨pick n (words.word position), pick_lt h _⟩, position + 1)
      else words.choose n h fair (position + 1) := by
  have hnext := next.eq_1 words n position (fair position)
  split at hnext
  · next ha => simp only [choose, hnext, if_pos ha]
  · next ha => simp only [choose, hnext, if_neg ha]

section Draw

variable {set : Charset} (h : 0 < set.chars.size) (fair : words.Fair set.chars.size)

/-- The characters drawn before stand before those drawn now. -/
theorem drawChars_eq (count : Nat) (drawn : List Char) (position : Nat) :
    words.drawChars set h fair count drawn position =
      (drawn.reverse ++ (words.drawChars set h fair count [] position).1,
        (words.drawChars set h fair count [] position).2) := by
  induction count generalizing drawn position with
  | zero => simp [drawChars]
  | succ count ih =>
    simp only [drawChars]
    rw [ih (_ :: drawn), ih [_]]
    simp

theorem drawChars_succ (count position : Nat) :
    words.drawChars set h fair (count + 1) [] position =
      let chosen := words.choose set.chars.size h fair position
      let others := words.drawChars set h fair count [] chosen.2
      (set.chars[chosen.1] :: others.1, others.2) :=
  words.drawChars_eq h fair count [_] _

theorem drawChars_spec (count position : Nat) :
    let drawn := words.drawChars set h fair count [] position
    drawn.1.length = count ∧ (∀ c ∈ drawn.1, c ∈ set.chars) ∧ position + count ≤ drawn.2 := by
  induction count generalizing position with
  | zero => simp [drawChars]
  | succ count ih =>
    have hnext := words.le_next (fair position)
    obtain ⟨hlength, hmem, hposition⟩ :=
      ih (words.choose set.chars.size h fair position).2
    have hchosen : position + 1 ≤ (words.choose set.chars.size h fair position).2 :=
      Nat.succ_le_succ hnext
    rw [drawChars_succ]
    refine ⟨congrArg Nat.succ hlength, fun c hc => ?_, ?_⟩
    · rcases List.mem_cons.mp hc with rfl | hc
      · exact Array.getElem_mem _
      · exact hmem c hc
    · simp only
      omega

end Draw

/-- A text from a set that is not empty has the length asked for and characters of the
set only. -/
theorem textFrom_spec {set : Charset} (h : 0 < set.chars.size) (fair : words.Fair set.chars.size)
    (length position : Nat) :
    let drawn := words.textFrom set fair length position
    drawn.1.toList.length = length ∧ (∀ c ∈ drawn.1.toList, c ∈ set.chars) ∧
      position + length ≤ drawn.2 := by
  simpa [textFrom, h] using words.drawChars_spec h fair length position

/-- An octet of a word is its value after division, cut to eight bits. -/
theorem octetsOf_eq (word : UInt32) :
    octetsOf word = (List.range 4).map fun i => UInt8.ofNat (word.toNat / 256 ^ i) := by
  have hoctet : ∀ shift : UInt32, (word >>> shift).toUInt8 =
      UInt8.ofNat (word.toNat / 2 ^ (shift.toNat % 32)) := by
    intro shift
    rw [← UInt8.toNat_inj, UInt32.toNat_toUInt8, UInt32.toNat_shiftRight, UInt8.toNat_ofNat',
      Nat.shiftRight_eq_div_pow]
  have hfirst : word.toUInt8 = UInt8.ofNat (word.toNat / 256 ^ 0) := by
    rw [pow_zero, Nat.div_one, ← UInt8.toNat_inj, UInt32.toNat_toUInt8, UInt8.toNat_ofNat']
  rw [octetsOf, hfirst, hoctet, hoctet, hoctet]
  rfl

/-- The octets of words are taken one word after the other, from each of them the least
significant first. -/
theorem flatMap_octetsOf (word : Nat → UInt32) (count : Nat) :
    ((List.range count).map word).flatMap octetsOf =
      (List.range (4 * count)).map fun i => UInt8.ofNat ((word (i / 4)).toNat / 256 ^ (i % 4)) := by
  induction count with
  | zero => rfl
  | succ count ih =>
    have hlast : ∀ i ∈ List.range 4, (4 * count + i) / 4 = count ∧ (4 * count + i) % 4 = i := by
      intro i hi
      have := List.mem_range.mp hi
      omega
    rw [List.range_succ, List.map_append, List.flatMap_append, ih, Nat.mul_succ, List.range_add,
      List.map_append, List.map_map]
    refine congrArg _ ?_
    simp only [List.map_cons, List.map_nil, List.flatMap_cons, List.flatMap_nil, List.append_nil,
      octetsOf_eq]
    refine List.map_congr_left fun i hi => ?_
    obtain ⟨hdiv, hmod⟩ := hlast i hi
    simp only [Function.comp, hdiv, hmod]

theorem octets_eq (count position : Nat) :
    (words.octets count position).1 = (List.range count).map fun i =>
      UInt8.ofNat ((words.word (position + i / 4)).toNat / 256 ^ (i % 4)) := by
  have hsize : count ≤ 4 * wordsFor count := by
    rw [wordsFor]
    omega
  rw [octets, flatMap_octetsOf, ← List.map_take, List.take_range, Nat.min_eq_left hsize]

theorem octets_length (count position : Nat) : (words.octets count position).1.length = count := by
  rw [octets_eq, List.length_map, List.length_range]

/-- Random octets in base64 are read back as the octets of the words drawn for them, a
quarter as many, rounded up. The text is as long as so many octets need; it is digits, which
spell the octets as a number, and padding. Different octets make different texts. -/
theorem base64_reads_back (count position : Nat) :
    let octets := (List.range count).map fun i =>
      UInt8.ofNat ((words.word (position + i / 4)).toNat / 256 ^ (i % 4))
    let drawn := words.base64 count position
    let text := drawn.1.toList
    drawn.2 = position + count ⌈/⌉ 4 ∧ octets.length = count ∧
    text = Base64.encode octets ∧ Base64.decode? text = some octets ∧
    text.length = 4 * (count ⌈/⌉ 3) ∧
    (∃ digits, text = digits ++ List.replicate ((3 - count % 3) % 3) '=' ∧
      (∀ c ∈ digits, c ∈ Base64.alphabet) ∧
      Nat.ofDigits 64 (digits.map Base64.alphabet.idxOf).reverse =
        Nat.ofDigits 256 (octets.map UInt8.toNat).reverse * 4 ^ ((3 - count % 3) % 3)) ∧
    Function.Injective fun octets => String.ofList (Base64.encode octets) := by
  intro octets drawn text
  have hlength : octets.length = count := by rw [List.length_map, List.length_range]
  have htext : text = Base64.encode octets := by
    show (String.ofList (Base64.encode (words.octets count position).1)).toList = _
    rw [String.toList_ofList, octets_eq]
  have hdigits := Base64.exists_digits octets
  rw [hlength] at hdigits
  refine ⟨?_, hlength, htext, ?_, ?_, ?_, ?_⟩
  · show position + wordsFor count = _
    rw [wordsFor, Nat.ceilDiv_eq_add_pred_div]
    rfl
  · exact Base64.decode?_eq_some_iff.mpr htext.symm
  · rw [htext, Base64.length_encode, hlength]
  · rw [htext]
    exact hdigits
  · intro first second h
    exact Base64.encode_injective (String.ofList_inj.mp h)

end TemplateFill.Random.Words
