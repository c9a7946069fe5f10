/-! What readers of texts share. A reader that takes at least one character gives back a
text that is shorter than its own, and says so in its type; loops over such readers end. -/
namespace TemplateFill.Text

/-- Texts of fewer characters than `n`. -/
abbrev Below (n : Nat) := { s : List Char // s.length < n }

/-- The text after a character. -/
def Below.tail (c : Char) (rest : List Char) : Below (c :: rest).length :=
  ⟨rest, Nat.lt_succ_self _⟩

/-- The value of a hexadecimal digit. -/
def hexValue? (c : Char) : Option Nat :=
  if '0' ≤ c ∧ c ≤ '9' then some (c.toNat - 0x30)
  else if 'a' ≤ c ∧ c ≤ 'f' then some (c.toNat - 0x57)
  else if 'A' ≤ c ∧ c ≤ 'F' then some (c.toNat - 0x37)
  else none

end TemplateFill.Text
