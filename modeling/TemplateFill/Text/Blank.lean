/-! Blank characters, those with Unicode's White_Space property, and texts
without blanks at one end or both. Texts are lists of characters here, as
everywhere in this library where a text is taken apart. -/
namespace TemplateFill.Text

def isBlank (c : Char) : Bool :=
  (0x09 ≤ c.toNat && c.toNat ≤ 0x0d) || c.toNat == 0x20 || c.toNat == 0x85 || c.toNat == 0xa0 ||
  c.toNat == 0x1680 || (0x2000 ≤ c.toNat && c.toNat ≤ 0x200a) || c.toNat == 0x2028 ||
  c.toNat == 0x2029 || c.toNat == 0x202f || c.toNat == 0x205f || c.toNat == 0x3000

def trimStart (s : List Char) : List Char := s.dropWhile isBlank

def trimEnd (s : List Char) : List Char := (s.reverse.dropWhile isBlank).reverse

def trim (s : List Char) : List Char := trimEnd (trimStart s)

theorem trimStart_length_le (s : List Char) : (trimStart s).length ≤ s.length :=
  (List.dropWhile_sublist isBlank).length_le

end TemplateFill.Text
