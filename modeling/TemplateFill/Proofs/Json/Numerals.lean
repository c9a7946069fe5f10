import TemplateFill.Json.Numeral
import TemplateFill.Json.Printer
import TemplateFill.Proofs.Text.Run

/-! # Integers as they are written

An integer of 64 bits is written so that it is read back. Every number that is read is
such an integer, or a float. -/
namespace TemplateFill

/-- The number is a float, or an integer that is at least -2^63 and below 2^64. -/
def Number.Fits : Number → Prop
  | .int value => -(1 <<< 63) ≤ value ∧ value < UInt64.size
  | .float _ => True

/-- The number is an integer that fits. -/
def Number.Exact : Number → Prop
  | .int value => (Number.int value).Fits
  | .float _ => False

namespace Json.Numeral

/-- What follows a numeral does not belong to it. -/
def Ends (rest : List Char) : Prop :=
  ∀ c ∈ rest.head?, c.isDigit = false ∧ c ≠ '.' ∧ c ≠ 'e' ∧ c ≠ 'E'

/-! ## Digits and bounds -/

theorem le_ofDigitChars (digits : List Char) (n : Nat) : n ≤ Nat.ofDigitChars 10 digits n := by
  induction digits generalizing n with
  | nil => exact Nat.le_refl n
  | cons d rest ih =>
    have hnext : n ≤ Nat.ofDigitChars 10 [d] n := by
      simp only [Nat.ofDigitChars, List.foldl_cons, List.foldl_nil]
      omega
    exact Nat.le_trans hnext (ih _)

/-- Digits all fit where the number that they make stays below the bound. -/
theorem extend_eq {bound : Nat} {digits : List Char} {n : Nat}
    (h : Nat.ofDigitChars 10 digits n < bound) :
    extend bound n digits = (Nat.ofDigitChars 10 digits n, []) := by
  induction digits generalizing n with
  | nil => rfl
  | cons d rest ih =>
    have hlt : Nat.ofDigitChars 10 [d] n < bound := Nat.lt_of_le_of_lt (le_ofDigitChars rest _) h
    simp only [extend, hlt, if_true]
    exact ih h

theorem extend_lt {bound n : Nat} (h : n < bound) (digits : List Char) :
    (extend bound n digits).1 < bound := by
  induction digits generalizing n with
  | nil => exact h
  | cons d rest ih =>
    simp only [extend]
    split
    · next hlt => exact ih hlt
    · exact h

theorem toDigits_ne_zero_cons {n : Nat} (h : 0 < n) (rest : List Char) :
    Nat.toDigits 10 n ≠ '0' :: rest := by
  induction n using Nat.strongRecOn generalizing rest with
  | _ n ih =>
    by_cases hlt : n < 10
    · rw [Nat.toDigits_of_lt_base hlt]
      revert h
      have hdigits : ∀ d < 10, 0 < d → Nat.digitChar d ≠ '0' := by decide
      exact fun hpos he => hdigits n hlt hpos (List.cons.inj he).1
    · rw [Nat.toDigits_of_base_le (by decide) (by omega)]
      obtain ⟨d, tail, hd, -⟩ := Text.exists_toDigits_eq_cons (n / 10)
      rw [hd]
      rintro he
      obtain ⟨rfl, -⟩ := List.cons.inj he
      exact ih (n / 10) (by omega) (by omega) tail hd

/-! ## Reading what is written -/

theorem scanDigits_toDigits (n : Nat) {rest : List Char} (h : Ends rest) :
    scanDigits (Nat.toDigits 10 n ++ rest) = .ok (Nat.toDigits 10 n, rest) := by
  have hdigits := Text.isDigit_toDigits n
  have htake := Text.takeWhile_run hdigits fun c hc => (h c hc).1
  have hdrop := Text.dropWhile_run hdigits fun c hc => (h c hc).1
  obtain ⟨d, tail, hd, hdigit⟩ := Text.exists_toDigits_eq_cons n
  rw [hd] at htake hdrop ⊢
  simp only [List.cons_append, scanDigits, hdigit, if_true] at htake hdrop ⊢
  rw [htake, hdrop]

theorem scanInteger_toDigits (n : Nat) {rest : List Char} (h : Ends rest) :
    scanInteger (Nat.toDigits 10 n ++ rest) = .ok (Nat.toDigits 10 n, rest) := by
  have hdigits := scanDigits_toDigits n h
  by_cases hpos : 0 < n
  · unfold scanInteger
    split
    · next d tail he =>
      obtain ⟨e, tail', hd, -⟩ := Text.exists_toDigits_eq_cons n
      rw [hd] at he
      obtain ⟨rfl, -⟩ := List.cons.inj he
      exact absurd hd (toDigits_ne_zero_cons hpos tail')
    · exact hdigits
  · obtain rfl : n = 0 := by omega
    cases rest with
    | nil => exact hdigits
    | cons d tail =>
      have hd : d.isDigit = false := (h d rfl).1
      simp [Nat.toDigits_zero, scanInteger, hd]

theorem scanFraction_of_ends {rest : List Char} (h : Ends rest) :
    scanFraction rest = .ok ([], rest) := by
  unfold scanFraction
  split
  · exact absurd rfl (h '.' rfl).2.1
  · exact absurd rfl (h '.' rfl).2.1
  · rfl

theorem scanExponent_of_ends {rest : List Char} (h : Ends rest) :
    scanExponent rest = .ok (none, rest) := by
  cases rest with
  | nil => rfl
  | cons c tail =>
    obtain ⟨-, -, he, hE⟩ := h c rfl
    simp [scanExponent, he, hE]

theorem scan_toDigits (n : Nat) {rest : List Char} (h : Ends rest) :
    scan (Nat.toDigits 10 n ++ rest) = .ok (⟨false, Nat.toDigits 10 n, [], none⟩, rest) := by
  obtain ⟨d, tail, hd, hdigit⟩ := Text.exists_toDigits_eq_cons n
  have hinteger := scanInteger_toDigits n h
  rw [hd, List.cons_append] at hinteger ⊢
  unfold scan
  split
  next hsign =>
    split at hsign
    · next he =>
      obtain ⟨rfl, -⟩ := List.cons.inj he
      cases hdigit
    · cases hsign
      simp only [hinteger, scanFraction_of_ends h, scanExponent_of_ends h, bind, Except.bind]
      rfl

theorem scan_neg_toDigits (n : Nat) {rest : List Char} (h : Ends rest) :
    scan ('-' :: Nat.toDigits 10 n ++ rest) = .ok (⟨true, Nat.toDigits 10 n, [], none⟩, rest) := by
  simp only [scan, List.cons_append, scanInteger_toDigits n h, scanFraction_of_ends h,
    scanExponent_of_ends h, bind, Except.bind]
  rfl

theorem extend_toDigits {n : Nat} (hlt : n < UInt64.size) :
    extend UInt64.size 0 (Nat.toDigits 10 n) = (n, []) := by
  have h := @extend_eq UInt64.size (Nat.toDigits 10 n) 0
  rw [Nat.ofDigitChars_ten_toDigits] at h
  exact h hlt

theorem value_toDigits {n : Nat} (hlt : n < UInt64.size) :
    value ⟨false, Nat.toDigits 10 n, [], none⟩ = .ok (.int n) := by
  simp [value, extend_toDigits hlt]

theorem value_neg_toDigits {n : Nat} (hpos : 0 < n) (hle : n ≤ 1 <<< 63) :
    value ⟨true, Nat.toDigits 10 n, [], none⟩ = .ok (.int (-n)) := by
  have hlt : n < UInt64.size := Nat.lt_of_le_of_lt hle (by decide)
  have hbounds : (0 < n && n ≤ 1 <<< 63) = true := by simp only [hpos, hle, decide_true]; rfl
  simp only [value, extend_toDigits hlt, hbounds]
  rfl

/-- An integer of 64 bits is read back. -/
theorem read_chars {number : Number} (hexact : number.Exact) {rest : List Char} (h : Ends rest) :
    read (number.chars ++ rest) = .ok (number, rest) := by
  cases number with
  | float f => exact hexact.elim
  | int v =>
    obtain ⟨hlow, hhigh⟩ := hexact
    cases v with
    | ofNat n =>
      have hlt : n < UInt64.size := Int.ofNat_lt.mp hhigh
      simp only [Number.chars, read, scan_toDigits n h, value_toDigits hlt, bind, Except.bind]
      rfl
    | negSucc n =>
      have hle : n + 1 ≤ 1 <<< 63 := by
        rw [Nat.one_shiftLeft]
        omega
      simp only [Number.chars, read, scan_neg_toDigits (n + 1) h,
        value_neg_toDigits (Nat.succ_pos n) hle, bind, Except.bind]
      rfl

/-! ## What is read -/

theorem fits_of_value {numeral : Numeral} {n : Number} (h : numeral.value = .ok n) : n.Fits := by
  have hlt : (extend UInt64.size 0 numeral.integer).1 < UInt64.size := extend_lt (by decide) _
  simp only [value] at h
  split at h
  · split at h
    · cases h
      exact ⟨by omega, Int.ofNat_lt.mpr hlt⟩
    · split at h
      · next hbounds =>
        simp only [Bool.and_eq_true, decide_eq_true_eq] at hbounds
        have hle := Int.ofNat_le.mpr hbounds.2
        cases h
        exact ⟨Int.neg_le_neg hle, by omega⟩
      · cases h
        trivial
  · cases hfloat : numeral.float
      (extend UInt64.size (extend UInt64.size 0 numeral.integer).1 numeral.fraction).1 _ with
    | error unread => rw [hfloat] at h; cases h
    | ok f =>
      rw [hfloat] at h
      cases h
      trivial

/-- A number that is read fits 64 bits, if it is no float. -/
theorem fits_of_read {s rest : List Char} {n : Number} (h : read s = .ok (n, rest)) : n.Fits := by
  unfold read at h
  cases hscan : scan s with
  | error fault => rw [hscan] at h; cases h
  | ok scanned =>
    obtain ⟨numeral, after⟩ := scanned
    rw [hscan] at h
    simp only [bind, Except.bind] at h
    cases hvalue : numeral.value with
    | error unread => rw [hvalue] at h; cases h
    | ok n =>
      rw [hvalue] at h
      cases h
      exact fits_of_value hvalue

end Json.Numeral

end TemplateFill
