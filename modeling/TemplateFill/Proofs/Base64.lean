import Mathlib.Algebra.Order.Floor.Div
import Mathlib.Data.Nat.Digits.Defs
import Mathlib.Tactic.Ring
import TemplateFill.Base64

/-! # What base64 writes

The digits of a text are its octets, read as one number; what the last group of three
octets lacks is made up by padding. The octets are read back from the text, so different
octets are written differently. -/
namespace TemplateFill.Base64

/-- The digits in the order of their values. -/
def alphabet : List Char :=
  "ABCDEFGHIJKLMNOPQRSTUVWXYZabcdefghijklmnopqrstuvwxyz0123456789+/".toList

theorem alphabet_eq : alphabet = (List.range 64).map digit := by decide +kernel

theorem digit_mem_alphabet {v : Nat} (h : v < 64) : digit v ∈ alphabet := by
  rw [alphabet_eq]
  exact List.mem_map_of_mem (List.mem_range.mpr h)

theorem idxOf_digit {v : Nat} (h : v < 64) : alphabet.idxOf (digit v) = v := by
  have hnodup : ((List.range 64).map digit).Nodup := by
    refine List.nodup_range.map_on fun v hv w hw heq => ?_
    have hvalue := congrArg digitValue? heq
    rwa [digitValue?_digit v (List.mem_range.mp hv), digitValue?_digit w (List.mem_range.mp hw),
      Option.some.injEq] at hvalue
  have hbound : v < ((List.range 64).map digit).length := by
    rwa [List.length_map, List.length_range]
  have hget : ((List.range 64).map digit)[v] = digit v := by
    rw [List.getElem_map, List.getElem_range]
  rw [alphabet_eq, ← hget, hnodup.idxOf_getElem]

theorem digit_ne {c : Char} (hc : digitValue? c = none) {v : Nat} (h : v < 64) : digit v ≠ c := by
  rintro rfl
  rw [digitValue?_digit v h] at hc
  cases hc

theorem notMem_alphabet {c : Char} (h : digitValue? c = none) : c ∉ alphabet := by
  rw [alphabet_eq, List.mem_map]
  rintro ⟨v, hv, hdigit⟩
  exact digit_ne h (List.mem_range.mp hv) hdigit

theorem digit_ne_pad {v : Nat} (h : v < 64) : digit v ≠ '=' := digit_ne (by decide) h

/-- How many characters fill up the last group. -/
def padding (count : Nat) : Nat := (3 - count % 3) % 3

/-! ## Group by group -/

theorem encodeAfter_eq : ∀ (octets : List UInt8) (done : List Char),
    encodeAfter done octets = done.reverse ++ encode octets
  | [], done => (List.append_nil done.reverse).symm
  | [a], done => List.reverseAux_eq
  | [a, b], done => List.reverseAux_eq
  | a :: b :: c :: rest, done => by
    rw [encode, encodeAfter, encodeAfter, encodeAfter_eq rest, encodeAfter_eq rest]
    simp [head]

theorem encode_one (a : UInt8) :
    encode [a] = [digit (a.toNat / 4), digit (a.toNat % 4 * 16), '=', '='] := rfl

theorem encode_two (a b : UInt8) :
    encode [a, b] = [digit (a.toNat / 4), digit (a.toNat % 4 * 16 + b.toNat / 16),
      digit (b.toNat % 16 * 4), '='] := rfl

/-- A group of three octets is written by four digits. -/
theorem encode_group (a b c : UInt8) (rest : List UInt8) :
    encode (a :: b :: c :: rest) =
      digit (a.toNat / 4) :: digit (a.toNat % 4 * 16 + b.toNat / 16) ::
        digit (b.toNat % 16 * 4 + c.toNat / 64) :: digit (c.toNat % 64) :: encode rest := by
  rw [encode, encodeAfter, encodeAfter_eq]
  rfl

/-! ## The octets as a number -/

/-- The digits of the octets in base64: those of one number, to which each padding
character adds two bits that are zero. -/
structure Spells (values : List Nat) (octets : List UInt8) : Prop where
  lt : ∀ v ∈ values, v < 64
  encode_eq : encode octets = values.map digit ++ List.replicate (padding octets.length) '='
  length : 3 * values.length = 4 * octets.length + padding octets.length
  number : Nat.ofDigits 64 values.reverse =
    Nat.ofDigits 256 (octets.map UInt8.toNat).reverse * 4 ^ padding octets.length

variable {values : List Nat} {octets : List UInt8}

theorem Spells.size (h : Spells values octets) :
    64 ^ values.length = 256 ^ octets.length * 4 ^ padding octets.length := by
  rw [show 64 = 4 ^ 3 from rfl, show 256 = 4 ^ 4 from rfl, ← pow_mul, ← pow_mul, ← pow_add,
    h.length]

theorem padding_add_three (count : Nat) : padding (count + 3) = padding count := by
  rw [padding, Nat.add_mod_right, padding]

theorem ofDigits_reverse_append (base : Nat) (first others : List Nat) :
    Nat.ofDigits base (first ++ others).reverse =
      Nat.ofDigits base others.reverse +
        base ^ others.length * Nat.ofDigits base first.reverse := by
  rw [List.reverse_append, Nat.ofDigits_append, List.length_reverse]

/-- A group of three octets in front puts four digits in front. -/
theorem Spells.group (h : Spells values octets) (a b c : UInt8) :
    Spells ([a.toNat / 4, a.toNat % 4 * 16 + b.toNat / 16, b.toNat % 16 * 4 + c.toNat / 64,
      c.toNat % 64] ++ values) (a :: b :: c :: octets) := by
  have ha := a.toNat_lt
  have hb := b.toNat_lt
  have hc := c.toNat_lt
  have hpadding : padding (a :: b :: c :: octets).length = padding octets.length :=
    padding_add_three octets.length
  refine ⟨?_, ?_, ?_, ?_⟩
  · simp only [List.cons_append, List.nil_append, List.forall_mem_cons]
    exact ⟨by omega, by omega, by omega, by omega, h.lt⟩
  · rw [encode_group, h.encode_eq, hpadding]
    rfl
  · have hlength := h.length
    rw [hpadding]
    show 3 * (values.length + 4) = 4 * (octets.length + 3) + _
    omega
  · -- The group is one number of 24 bits, whichever way they are cut.
    have hgroup : Nat.ofDigits 64 [c.toNat % 64, b.toNat % 16 * 4 + c.toNat / 64,
        a.toNat % 4 * 16 + b.toNat / 16, a.toNat / 4] =
        Nat.ofDigits 256 [c.toNat, b.toNat, a.toNat] := by
      simp only [Nat.ofDigits, Nat.cast_id]
      omega
    have hoctets : (a :: b :: c :: octets).map UInt8.toNat =
        [a.toNat, b.toNat, c.toNat] ++ octets.map UInt8.toNat := rfl
    rw [hpadding, hoctets, ofDigits_reverse_append, ofDigits_reverse_append, h.number, h.size,
      List.length_map]
    show _ + _ * Nat.ofDigits 64 [_, _, _, _] = (_ + _ * Nat.ofDigits 256 [_, _, _]) * _
    rw [hgroup]
    ring

/-- All octets are spelled by digits. -/
theorem exists_spells : ∀ octets : List UInt8, ∃ values, Spells values octets
  | [] => ⟨[], by simp, rfl, rfl, rfl⟩
  | [a] => by
    have ha := a.toNat_lt
    refine ⟨[a.toNat / 4, a.toNat % 4 * 16], ?_, encode_one a, rfl, ?_⟩
    · simp only [List.forall_mem_cons]
      exact ⟨by omega, by omega, by simp⟩
    · show Nat.ofDigits 64 [_, _] = Nat.ofDigits 256 [_] * 4 ^ 2
      simp only [Nat.ofDigits, Nat.cast_id]
      omega
  | [a, b] => by
    have ha := a.toNat_lt
    have hb := b.toNat_lt
    refine ⟨[a.toNat / 4, a.toNat % 4 * 16 + b.toNat / 16, b.toNat % 16 * 4], ?_, encode_two a b,
      rfl, ?_⟩
    · simp only [List.forall_mem_cons]
      exact ⟨by omega, by omega, by omega, by simp⟩
    · show Nat.ofDigits 64 [_, _, _] = Nat.ofDigits 256 [_, _] * 4 ^ 1
      simp only [Nat.ofDigits, Nat.cast_id]
      omega
  | a :: b :: c :: rest => by
    obtain ⟨values, hspells⟩ := exists_spells rest
    exact ⟨_, hspells.group a b c⟩

/-- A text in base64 has four characters for each group of three octets, the last of which
may lack some. -/
theorem length_encode (octets : List UInt8) :
    (encode octets).length = 4 * (octets.length ⌈/⌉ 3) := by
  obtain ⟨values, hspells⟩ := exists_spells octets
  have hlength := hspells.length
  have hpadding := padding.eq_1 octets.length
  rw [hspells.encode_eq, List.length_append, List.length_map, List.length_replicate,
    Nat.ceilDiv_eq_add_pred_div]
  omega

/-- The text is made of digits of the alphabet and, after them, of padding. Their values
are the digits of the octets in base 64. -/
theorem exists_digits (octets : List UInt8) :
    ∃ digits, encode octets = digits ++ List.replicate (padding octets.length) '=' ∧
      (∀ c ∈ digits, c ∈ alphabet) ∧
      Nat.ofDigits 64 (digits.map alphabet.idxOf).reverse =
        Nat.ofDigits 256 (octets.map UInt8.toNat).reverse * 4 ^ padding octets.length := by
  obtain ⟨values, hspells⟩ := exists_spells octets
  have hvalues : (values.map digit).map alphabet.idxOf = values := by
    rw [List.map_map]
    calc values.map (alphabet.idxOf ∘ digit)
        = values.map id := List.map_congr_left fun v hv => idxOf_digit (hspells.lt v hv)
      _ = values := List.map_id values
  refine ⟨values.map digit, hspells.encode_eq, ?_, ?_⟩
  · intro c hc
    obtain ⟨v, hv, rfl⟩ := List.mem_map.mp hc
    exact digit_mem_alphabet (hspells.lt v hv)
  · rw [hvalues, hspells.number]

/-- Base64 has no brace. -/
theorem brace_notMem_encode (octets : List UInt8) : '{' ∉ encode octets := by
  obtain ⟨digits, hencode, hdigits, -⟩ := exists_digits octets
  rw [hencode, List.mem_append]
  rintro (hdigit | hpad)
  · exact notMem_alphabet (by decide) (hdigits _ hdigit)
  · exact absurd (List.eq_of_mem_replicate hpad) (by decide)

/-! ## Reading -/

/-- Four digits are read as three octets. -/
theorem decode?_group {w x y z : Nat} (hw : w < 64) (hx : x < 64) (hy : y < 64) (hz : z < 64)
    (rest : List Char) :
    decode? (digit w :: digit x :: digit y :: digit z :: rest) =
      (decode? rest).map fun octets => UInt8.ofNat (w * 4 + x / 16) ::
        UInt8.ofNat (x % 16 * 16 + y / 4) :: UInt8.ofNat (y % 4 * 64 + z) :: octets := by
  rw [decode?.eq_4 _ _ _ _ _ (fun _ h _ => digit_ne_pad hz h) (fun h _ => digit_ne_pad hz h),
    digitValue?_digit w hw, digitValue?_digit x hx, digitValue?_digit y hy, digitValue?_digit z hz]
  cases decode? rest <;> rfl

theorem ofNat_eq {v : Nat} (octet : UInt8) (h : v = octet.toNat) : UInt8.ofNat v = octet :=
  h ▸ UInt8.ofNat_toNat

/-- What was written is read back. -/
theorem decode?_encode : ∀ octets : List UInt8, decode? (encode octets) = some octets
  | [] => rfl
  | [a] => by
    have ha := a.toNat_lt
    simp only [encode_one, decode?, digitValue?_digit (a.toNat / 4) (by omega),
      digitValue?_digit (a.toNat % 4 * 16) (by omega), Option.bind_eq_bind, Option.bind_some]
    rw [if_pos (by omega), ofNat_eq a (by omega)]
  | [a, b] => by
    have ha := a.toNat_lt
    have hb := b.toNat_lt
    have hlast : b.toNat % 16 * 4 < 64 := by omega
    rw [encode_two, decode?.eq_3 _ _ _ (digit_ne_pad hlast)]
    simp only [digitValue?_digit (a.toNat / 4) (by omega), digitValue?_digit _ hlast,
      digitValue?_digit (a.toNat % 4 * 16 + b.toNat / 16) (by omega), Option.bind_eq_bind,
      Option.bind_some]
    rw [if_pos (by omega), ofNat_eq a (by omega), ofNat_eq b (by omega)]
  | a :: b :: c :: rest => by
    have ha := a.toNat_lt
    have hb := b.toNat_lt
    have hc := c.toNat_lt
    rw [encode_group, decode?_group (by omega) (by omega) (by omega) (by omega),
      decode?_encode rest, Option.map_some, ofNat_eq a (by omega), ofNat_eq b (by omega),
      ofNat_eq c (by omega)]

/-- The characters that have a value are the digits. -/
theorem digitValue?_eq_some_iff {c : Char} {v : Nat} :
    digitValue? c = some v ↔ v < 64 ∧ digit v = c := by
  constructor
  · intro h
    rw [digitValue?] at h
    split at h
    · next hletter =>
      obtain rfl := Option.some.inj h
      obtain ⟨hlower, hupper⟩ : 0x41 ≤ c.toNat ∧ c.toNat ≤ 0x5A := hletter
      refine ⟨by omega, ?_⟩
      rw [digit, if_pos (by omega), show 0x41 + (c.toNat - 0x41) = c.toNat by omega,
        Char.ofNat_toNat]
    split at h
    · next hletter =>
      obtain rfl := Option.some.inj h
      obtain ⟨hlower, hupper⟩ : 0x61 ≤ c.toNat ∧ c.toNat ≤ 0x7A := hletter
      refine ⟨by omega, ?_⟩
      rw [digit, if_neg (by omega), if_pos (by omega),
        show 0x61 + (c.toNat - 0x61 + 26 - 26) = c.toNat by omega, Char.ofNat_toNat]
    split at h
    · next hdigit =>
      obtain rfl := Option.some.inj h
      obtain ⟨hlower, hupper⟩ : 0x30 ≤ c.toNat ∧ c.toNat ≤ 0x39 := hdigit
      refine ⟨by omega, ?_⟩
      rw [digit, if_neg (by omega), if_neg (by omega), if_pos (by omega),
        show 0x30 + (c.toNat - 0x30 + 52 - 52) = c.toNat by omega, Char.ofNat_toNat]
    split at h
    · next hplus =>
      obtain rfl := Option.some.inj h
      exact ⟨by decide, hplus.symm⟩
    split at h
    · next hslash =>
      obtain rfl := Option.some.inj h
      exact ⟨by decide, hslash.symm⟩
    · cases h
  · rintro ⟨hv, rfl⟩
    exact digitValue?_digit v hv

/-- Only what is written by `encode` is read. -/
theorem encode_of_decode? {chars : List Char} {octets : List UInt8}
    (h : decode? chars = some octets) : encode octets = chars := by
  induction chars using decode?.induct generalizing octets with
  | case1 =>
    obtain rfl := Option.some.inj h
    rfl
  | case2 c d =>
    simp only [decode?, Option.bind_eq_bind, Option.bind_eq_some_iff, digitValue?_eq_some_iff] at h
    obtain ⟨w, ⟨hw, rfl⟩, x, ⟨hx, rfl⟩, h⟩ := h
    split at h
    · next hzero =>
      obtain rfl := Option.some.inj h
      -- The bits that are cut off are zero, so the others give the last digit back.
      have hw' : (w * 4 + x / 16) % 2 ^ 8 / 4 = w := by omega
      have hx' : (w * 4 + x / 16) % 2 ^ 8 % 4 * 16 = x := by omega
      rw [encode_one, UInt8.toNat_ofNat', hw', hx']
    · cases h
  | case3 c d e hpad =>
    simp only [decode?.eq_3 _ _ _ hpad, Option.bind_eq_bind, Option.bind_eq_some_iff,
      digitValue?_eq_some_iff] at h
    obtain ⟨w, ⟨hw, rfl⟩, x, ⟨hx, rfl⟩, y, ⟨hy, rfl⟩, h⟩ := h
    split at h
    · next hzero =>
      obtain rfl := Option.some.inj h
      have hw' : (w * 4 + x / 16) % 2 ^ 8 / 4 = w := by omega
      have hx' : (w * 4 + x / 16) % 2 ^ 8 % 4 * 16 + (x % 16 * 16 + y / 4) % 2 ^ 8 / 16 = x := by
        omega
      have hy' : (x % 16 * 16 + y / 4) % 2 ^ 8 % 16 * 4 = y := by omega
      rw [encode_two, UInt8.toNat_ofNat', UInt8.toNat_ofNat', hw', hx', hy']
    · cases h
  | case4 c d e f rest hpad hpad' ih =>
    simp only [decode?.eq_4 _ _ _ _ _ hpad hpad', Option.bind_eq_bind, Option.bind_eq_some_iff,
      digitValue?_eq_some_iff] at h
    obtain ⟨w, ⟨hw, rfl⟩, x, ⟨hx, rfl⟩, y, ⟨hy, rfl⟩, z, ⟨hz, rfl⟩, others, hread, h⟩ := h
    obtain rfl := Option.some.inj h
    have hw' : (w * 4 + x / 16) % 2 ^ 8 / 4 = w := by omega
    have hx' : (w * 4 + x / 16) % 2 ^ 8 % 4 * 16 + (x % 16 * 16 + y / 4) % 2 ^ 8 / 16 = x := by
      omega
    have hy' : (x % 16 * 16 + y / 4) % 2 ^ 8 % 16 * 4 + (y % 4 * 64 + z) % 2 ^ 8 / 64 = y := by
      omega
    have hz' : (y % 4 * 64 + z) % 2 ^ 8 % 64 = z := by omega
    rw [encode_group, UInt8.toNat_ofNat', UInt8.toNat_ofNat', UInt8.toNat_ofNat', ih hread, hw',
      hx', hy', hz']
  | case5 => simp [decode?] at h

/-- A text is read as the octets that it was written for, and as no others. -/
theorem decode?_eq_some_iff {chars : List Char} {octets : List UInt8} :
    decode? chars = some octets ↔ encode octets = chars := by
  refine ⟨encode_of_decode?, ?_⟩
  rintro rfl
  exact decode?_encode octets

/-- Different octets are written differently. -/
theorem encode_injective : Function.Injective encode := by
  intro octets others h
  have hread := congrArg decode? h
  rwa [decode?_encode, decode?_encode, Option.some.injEq] at hread

end TemplateFill.Base64
