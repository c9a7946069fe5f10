/-! Standard base64 with padding. Three octets make four digits of six bits; one or
two octets at the end make two or three digits, and `=` fills the group. -/
namespace TemplateFill.Base64

/-- The character for a number of six bits. -/
def digit (n : Nat) : Char :=
  if n < 26 then Char.ofNat (0x41 + n)
  else if n < 52 then Char.ofNat (0x61 + (n - 26))
  else if n < 62 then Char.ofNat (0x30 + (n - 52))
  else if n = 62 then '+'
  else '/'

/-- The first two digits of a group, given the bits its second octet adds to them. -/
def head (a : UInt8) (b : Nat) : List Char :=
  [digit (a.toNat / 4), digit (a.toNat % 4 * 16 + b)]

/-- Groups of four characters, after the text in `done`, which stands last first. -/
def encodeAfter (done : List Char) : List UInt8 → List Char
  | [] => done.reverse
  | [a] => done.reverseAux (head a 0 ++ ['=', '='])
  | [a, b] => done.reverseAux (head a (b.toNat / 16) ++ [digit (b.toNat % 16 * 4), '='])
  | a :: b :: c :: rest =>
    encodeAfter (digit (c.toNat % 64) :: digit (b.toNat % 16 * 4 + c.toNat / 64) ::
      (head a (b.toNat / 16)).reverseAux done) rest

def encode (octets : List UInt8) : List Char := encodeAfter [] octets

/-- The number that a base64 character stands for. -/
def digitValue? (c : Char) : Option Nat :=
  if 'A' ≤ c ∧ c ≤ 'Z' then some (c.toNat - 0x41)
  else if 'a' ≤ c ∧ c ≤ 'z' then some (c.toNat - 0x61 + 26)
  else if '0' ≤ c ∧ c ≤ '9' then some (c.toNat - 0x30 + 52)
  else if c = '+' then some 62
  else if c = '/' then some 63
  else none

/-- Reads padded base64. Only texts that `encode` writes are accepted: groups are
full, padding ends the text, and the bits it cuts off are zero. -/
def decode? : List Char → Option (List UInt8)
  | [] => some []
  | [c, d, '=', '='] => do
    let w ← digitValue? c
    let x ← digitValue? d
    if x % 16 = 0 then some [UInt8.ofNat (w * 4 + x / 16)] else none
  | [c, d, e, '='] => do
    let w ← digitValue? c
    let x ← digitValue? d
    let y ← digitValue? e
    if y % 4 = 0 then some [UInt8.ofNat (w * 4 + x / 16), UInt8.ofNat (x % 16 * 16 + y / 4)]
    else none
  | c :: d :: e :: f :: rest => do
    let w ← digitValue? c
    let x ← digitValue? d
    let y ← digitValue? e
    let z ← digitValue? f
    let octets ← decode? rest
    some (UInt8.ofNat (w * 4 + x / 16) :: UInt8.ofNat (x % 16 * 16 + y / 4) ::
      UInt8.ofNat (y % 4 * 64 + z) :: octets)
  | _ => none

/-- The number of six bits that a digit stands for is the one it was made from. -/
theorem digitValue?_digit : ∀ n < 64, digitValue? (digit n) = some n := by decide

example : encode [0x66, 0x6f, 0x6f, 0x62, 0x61] = ['Z', 'm', '9', 'v', 'Y', 'm', 'E', '='] := by
  decide

example : decode? ['Z', 'm', '9', 'v', 'Y', 'g', '=', '='] = some [0x66, 0x6f, 0x6f, 0x62] := by
  decide

end TemplateFill.Base64
