import TemplateFill.Json.Quoted

/-! # Strings as they are written

What is written for a character, whether as it is or as an escape, is read as that
character; so any string of Unicode characters between quotes is read back. -/
namespace TemplateFill.Json.Quoted

open Text (hexValue?)

theorem hexValue?_hexDigit : ∀ n < 32, hexValue? (hexDigit n) = some (n % 16) := by decide

section Hex

variable {c d : Char} {n value owed : Nat} {lead : Option Nat} (read rest : List Char)

theorem decode_hex (h : hexValue? c = some n) (howed : 1 < owed) :
    decode read (.hex lead owed value) (c :: rest) =
      decode read (.hex lead (owed - 1) (value * 16 + n)) rest := by
  simp only [decode, h, howed, if_true]

theorem decode_lastHex (h : hexValue? c = some n)
    (hunit : unit lead (value * 16 + n) = some (.inl d)) :
    decode read (.hex lead 1 value) (c :: rest) = decode (d :: read) .plain rest := by
  simp only [decode, h, hunit, Nat.lt_irrefl, if_false]

end Hex

/-- Four hexadecimal digits, as they are written for a control character. -/
theorem decode_control {c : Char} (h : c.toNat < 0x20) (read rest : List Char) :
    decode read .plain ('\\' :: 'u' :: '0' :: '0' :: hexDigit (c.toNat / 16) :: hexDigit c.toNat ::
      rest) = decode (c :: read) .plain rest := by
  have hzero : hexValue? '0' = some 0 := by decide
  have hhigh := hexValue?_hexDigit (c.toNat / 16) (by omega)
  have hlow := hexValue?_hexDigit c.toNat h
  have hunit : unit none ((((0 * 16 + 0) * 16 + 0) * 16 + c.toNat / 16 % 16) * 16 +
      c.toNat % 16) = some (.inl c) := by
    have hn : (((0 * 16 + 0) * 16 + 0) * 16 + c.toNat / 16 % 16) * 16 + c.toNat % 16 =
        c.toNat := by omega
    rw [hn, unit, if_pos (.inl (by omega)), Char.ofNat_toNat]
  have hopen : ∀ s, decode read .plain ('\\' :: 'u' :: s) = decode read (.hex none 4 0) s :=
    fun _ => rfl
  rw [hopen, decode_hex _ _ hzero (by decide), decode_hex _ _ hzero (by decide),
    decode_hex _ _ hhigh (by decide)]
  exact decode_lastHex read rest hlow hunit

theorem decode_escape (c : Char) (read rest : List Char) :
    decode read .plain (escape c ++ rest) = decode (c :: read) .plain rest := by
  unfold escape
  split
  · next h => subst h; rfl
  split
  · next h => subst h; rfl
  split
  · next h => subst h; rfl
  split
  · next h => subst h; rfl
  split
  · next h => subst h; rfl
  split
  · next h => subst h; rfl
  split
  · next h => subst h; rfl
  split
  · next h => exact decode_control h read rest
  · next hquote hbackslash _ _ _ _ _ hcontrol =>
    simp [decode, hquote, hbackslash, hcontrol]

/-- A string is read back from its text between quotes. -/
theorem decode_encode (s read rest : List Char) :
    decode read .plain (encode s ++ '"' :: rest) = .ok (read.reverse ++ s, rest) := by
  induction s generalizing read with
  | nil => simp [encode, decode]
  | cons c s ih =>
    have hcons : encode (c :: s) = escape c ++ encode s := rfl
    rw [hcons, List.append_assoc, decode_escape, ih]
    simp

end TemplateFill.Json.Quoted
