import Mathlib.Data.Nat.Digits.Defs
import TemplateFill.Proofs.Json.Numerals
import TemplateFill.Proofs.Placeholder.Reporting

/-! # Which arguments are lengths

A length is a decimal numeral of any number of digits, zeros in front or not, whose value
is within the limit. Any other argument is refused for one of three reasons, which the form
of the argument and its value decide. So no placeholder is given more than the limit. -/
namespace TemplateFill

namespace Text

/-- The text is a decimal numeral: one ASCII digit or more. -/
def IsDecimal (s : List Char) : Prop := s ≠ [] ∧ ∀ c ∈ s, '0' ≤ c ∧ c ≤ '9'

/-- What a numeral stands for: its last digit counts ones, the one before it tens. -/
def decimalValue (s : List Char) : Nat :=
  Nat.ofDigits 10 (s.reverse.map fun c => c.toNat - '0'.toNat)

/-- The numeral stands for the number, and has no zero in front. -/
structure IsCanonical (s : List Char) (n : Nat) : Prop where
  decimal : IsDecimal s
  value : decimalValue s = n
  zero : s.head? = some '0' → s = ['0']

theorem isDigit_iff {c : Char} : c.isDigit = true ↔ '0' ≤ c ∧ c ≤ '9' := by
  simp [Char.isDigit, Char.le_def]

theorem isDecimal_iff {s : List Char} :
    IsDecimal s ↔ (s.isEmpty || !s.all Char.isDigit) = false := by
  rw [IsDecimal, Bool.or_eq_false_iff, List.isEmpty_eq_false_iff, Bool.not_eq_false',
    List.all_eq_true]
  simp only [isDigit_iff]

instance (s : List Char) : Decidable (IsDecimal s) := decidable_of_iff' _ isDecimal_iff

theorem ofDigitChars_eq (s : List Char) : Nat.ofDigitChars 10 s 0 = decimalValue s := by
  rw [decimalValue, Nat.ofDigits_eq_foldr, List.foldr_map, List.foldr_reverse, Nat.ofDigitChars]
  refine congrArg (fun step => s.foldl step 0) ?_
  funext n c
  exact Nat.add_comm _ _

theorem isCanonical_toDigits (n : Nat) : IsCanonical (Nat.toDigits 10 n) n := by
  obtain ⟨d, rest, hd, -⟩ := exists_toDigits_eq_cons n
  refine ⟨⟨by simp [hd], fun c hc => isDigit_iff.mp (isDigit_toDigits n c hc)⟩, ?_, fun hzero => ?_⟩
  · rw [← ofDigitChars_eq, Nat.ofDigitChars_ten_toDigits]
  · by_cases hpos : 0 < n
    · rw [hd] at hzero
      obtain rfl : d = '0' := by simpa using hzero
      exact absurd hd (Json.Numeral.toDigits_ne_zero_cons hpos rest)
    · obtain rfl : n = 0 := by omega
      exact Nat.toDigits_zero 10

end Text

open Text (IsDecimal IsCanonical decimalValue)
open TemplateFill.Random (Making)

theorem parseLength_of_not_isDecimal {argument : String} (h : ¬ IsDecimal argument.toList) :
    parseLength argument = .error (.notNumeral argument) := by
  rw [Text.isDecimal_iff, Bool.not_eq_false] at h
  simp only [parseLength, h, if_true]

theorem parseLength_of_isDecimal {argument : String} (h : IsDecimal argument.toList) :
    parseLength argument =
      if 2 ^ 64 ≤ decimalValue argument.toList then .error (.tooLarge argument)
      else if maxLength < decimalValue argument.toList then
        .error (.overLimit (decimalValue argument.toList))
      else .ok (decimalValue argument.toList) := by
  rw [Text.isDecimal_iff] at h
  simp only [parseLength, h, Bool.false_eq_true, if_false, Text.ofDigitChars_eq]
  rfl

section Outcomes

variable {argument : String}

theorem maxLength_lt : maxLength < 2 ^ 64 := by decide

theorem parseLength_eq_ok_iff {n : Nat} :
    parseLength argument = .ok n ↔
      IsDecimal argument.toList ∧ n = decimalValue argument.toList ∧ n ≤ maxLength := by
  have hlimit := maxLength_lt
  by_cases h : IsDecimal argument.toList
  · simp only [parseLength_of_isDecimal h, h, true_and]
    split_ifs with hlarge hover
    · simp only [false_iff]
      omega
    · simp only [false_iff]
      omega
    · rw [Except.ok.injEq]
      omega
  · simp [parseLength_of_not_isDecimal h, h]

theorem parseLength_eq_notNumeral_iff :
    parseLength argument = .error (.notNumeral argument) ↔ ¬ IsDecimal argument.toList := by
  refine ⟨fun h hdecimal => ?_, parseLength_of_not_isDecimal⟩
  rw [parseLength_of_isDecimal hdecimal] at h
  split_ifs at h
  · cases h
  · cases h

theorem parseLength_eq_overLimit_iff {n : Nat} :
    parseLength argument = .error (.overLimit n) ↔
      IsDecimal argument.toList ∧ n = decimalValue argument.toList ∧ maxLength < n ∧
        n < 2 ^ 64 := by
  by_cases h : IsDecimal argument.toList
  · simp only [parseLength_of_isDecimal h, h, true_and]
    split_ifs with hlarge hover
    · simp only [Except.error.injEq, reduceCtorEq, false_iff]
      omega
    · rw [Except.error.injEq, LengthError.overLimit.injEq]
      omega
    · simp only [false_iff]
      omega
  · simp [parseLength_of_not_isDecimal h, h]

theorem parseLength_eq_tooLarge_iff :
    parseLength argument = .error (.tooLarge argument) ↔
      IsDecimal argument.toList ∧ 2 ^ 64 ≤ decimalValue argument.toList := by
  by_cases h : IsDecimal argument.toList
  · simp only [parseLength_of_isDecimal h, h, true_and]
    split_ifs with hlarge hover
    · exact ⟨fun _ => hlarge, fun _ => rfl⟩
    · simp only [Except.error.injEq, reduceCtorEq, false_iff]
      exact hlarge
    · simp only [false_iff]
      exact hlarge
  · simp [parseLength_of_not_isDecimal h, h]

end Outcomes

theorem overLimit_message (n : Nat) :
    (LengthError.overLimit n).message =
      String.ofList (Nat.toDigits 10 n) ++ " exceeds the maximum of 1048576" := by
  have hlimit : toString " exceeds the maximum of " ++ toString maxLength =
      " exceeds the maximum of 1048576" := by decide
  rw [LengthError.message, String.append_assoc, hlimit, Nat.toString_eq_ofList_toDigits]

/-- A random value is what its argument, a length, asks for. -/
theorem Supply.promises_of_resolve (supply : Supply) {mode : Mode} {root : Json} {p : Placeholder}
    {making : Making} {position after : Nat} {text : String}
    (hnamed : (p.kind, making) ∈ Making.named)
    (h : supply.resolve mode root p position = (.value text, after)) :
    ∃ n, parseLength p.argument = .ok n ∧ making.Promises n text := by
  have hown := Placeholder.ownMode_of_named hnamed
  by_cases hmode : mode = p.ownMode
  · rw [hmode, hown, supply.resolve_named hnamed] at h
    split at h
    · cases h
    · next n hlength =>
      cases h
      exact ⟨n, hlength, making.draw_promises supply.random n position⟩
  · rw [supply.resolve_other_mode root hmode] at h
    cases h

/-- **Lengths are told exactly.** A decimal numeral is a length up to the limit, is over it up
to 64 bits and too large from there on; no other text is a length. A random value has as many
characters, or octets in base64, as a length says. -/
theorem parseLength_exact :
    maxLength = 2 ^ 20 ∧
    (∀ argument : String,
      let digits := argument.toList
      let value := decimalValue digits
      (∀ n, parseLength argument = .ok n ↔ IsDecimal digits ∧ n = value ∧ n ≤ maxLength) ∧
      (parseLength argument = .error (.notNumeral argument) ↔ ¬ IsDecimal digits) ∧
      (∀ n, parseLength argument = .error (.overLimit n) ↔
        IsDecimal digits ∧ n = value ∧ maxLength < n ∧ n < 2 ^ 64) ∧
      (parseLength argument = .error (.tooLarge argument) ↔
        IsDecimal digits ∧ 2 ^ 64 ≤ value) ∧
      (LengthError.notNumeral argument).message =
        "'" ++ argument ++ "' is not a non-negative integer" ∧
      (LengthError.tooLarge argument).message = "'" ++ argument ++ "' is too large" ∧
      ∃ shown, IsCanonical shown value ∧ (LengthError.overLimit value).message =
        String.ofList shown ++ " exceeds the maximum of 1048576") ∧
    ∀ (supply : Supply) (mode : Mode) (root : Json) (p : Placeholder) (making : Making)
      (position : Nat) (text : String) (after : Nat), (p.kind, making) ∈ Making.named →
      supply.resolve mode root p position = (.value text, after) →
      ∃ n ≤ maxLength, parseLength p.argument = .ok n ∧ making.Promises n text := by
  refine ⟨rfl, fun argument => ?_, ?_⟩
  · refine ⟨fun n => parseLength_eq_ok_iff, parseLength_eq_notNumeral_iff,
      fun n => parseLength_eq_overLimit_iff, parseLength_eq_tooLarge_iff, rfl, rfl, ?_⟩
    exact ⟨_, Text.isCanonical_toDigits _, overLimit_message _⟩
  · intro supply mode root p making position text after hnamed hvalue
    obtain ⟨n, hlength, hpromises⟩ := supply.promises_of_resolve hnamed hvalue
    obtain ⟨-, -, hle⟩ := parseLength_eq_ok_iff.mp hlength
    exact ⟨n, hle, hlength, hpromises⟩

/-- The least number that does not fit 64 bits, with zeros in front, and octets of a length
with zeros in front. -/
theorem parseLength_exact_leading_zeros :
    let supply : Supply := ⟨fun _ => none, Random.Source.scripted #[0x04030201] 0⟩
    let p : Placeholder := ⟨"b64", "003", "\x7b\x7bb64:003\x7d\x7d"⟩
    parseLength "00018446744073709551616" = .error (.tooLarge "00018446744073709551616") ∧
    ("b64", .base64) ∈ Making.named ∧
    supply.resolve .generative .null p 0 = (.value "AQID", 1) ∧
    ∃ n ≤ maxLength, parseLength "003" = .ok n ∧ Making.base64.Promises n "AQID" := by
  intro supply p
  obtain ⟨-, hargument, hrandom⟩ := parseLength_exact
  obtain ⟨-, -, -, htooLarge, -⟩ := hargument "00018446744073709551616"
  have hnamed : ("b64", .base64) ∈ Making.named := by simp [Making.named]
  have hvalue : supply.resolve .generative .null p 0 = (.value "AQID", 1) := by decide +kernel
  have hlarge : IsDecimal "00018446744073709551616".toList ∧
      2 ^ 64 ≤ decimalValue "00018446744073709551616".toList := by decide
  exact ⟨htooLarge.mpr hlarge, hnamed, hvalue,
    hrandom supply .generative .null p .base64 0 "AQID" 1 hnamed hvalue⟩

end TemplateFill
