/-! Reading UTF-8. `decode?` takes well-formed octets only; `decodeLossy` gives U+FFFD for each maximal
run of octets that begins a character without finishing it, and for each octet
that can begin none. The reader goes octet by octet, and between two octets it
stands at the start of a character or inside one. -/
namespace TemplateFill.Text.Utf8

/-- Where the reader stands. Inside a character it is owed further octets, the
next of them between `low` and `high`, and holds the bits read so far. -/
inductive Reading where
  | start
  | inside (owed : Nat) (low high : UInt8) (bits : Nat)
  deriving DecidableEq, Repr

def replacement : Char := '\uFFFD'

/-- A character's first octet: the characters it completes, and where the reader
stands after it. The bounds on the second octet rule out overlong forms,
surrogates and numbers above U+10FFFF. -/
def first (b : UInt8) : List Char × Reading :=
  if b < 0x80 then ([Char.ofNat b.toNat], .start)
  else if 0xc2 ≤ b && b ≤ 0xdf then ([], .inside 1 0x80 0xbf (b.toNat % 32))
  else if b == 0xe0 then ([], .inside 2 0xa0 0xbf 0)
  else if b == 0xed then ([], .inside 2 0x80 0x9f 13)
  else if 0xe1 ≤ b && b ≤ 0xef then ([], .inside 2 0x80 0xbf (b.toNat % 16))
  else if b == 0xf0 then ([], .inside 3 0x90 0xbf 0)
  else if 0xf1 ≤ b && b ≤ 0xf3 then ([], .inside 3 0x80 0xbf (b.toNat % 8))
  else if b == 0xf4 then ([], .inside 3 0x80 0x8f 4)
  else ([replacement], .start)

/-- One octet. One that cannot continue the character begun gives up that
character and is read again as a first octet. -/
def step : Reading → UInt8 → List Char × Reading
  | .start, b => first b
  | .inside owed low high bits, b =>
    if low ≤ b && b ≤ high then
      let bits := bits * 64 + b.toNat % 64
      if owed ≤ 1 then ([Char.ofNat bits], .start) else ([], .inside (owed - 1) 0x80 0xbf bits)
    else
      let (found, next) := first b
      (replacement :: found, next)

/-- The end of the octets gives up a character begun. -/
def finish : Reading → List Char
  | .start => []
  | .inside .. => [replacement]

/-- Characters read from the octets, after those in `found`, which stand last first. -/
def read (found : List Char) (here : Reading) : List UInt8 → List Char
  | [] => found.reverse ++ finish here
  | b :: rest =>
    let (more, next) := step here b
    read (more.reverse ++ found) next rest

def decode? (octets : List UInt8) : Option String := String.fromUTF8? ⟨octets.toArray⟩

def decodeLossy (octets : List UInt8) : String := String.ofList (read [] .start octets)

example : read [] .start [0x61, 0xff, 0x62] = ['a', replacement, 'b'] := by decide +kernel

example : read [] .start [0xe2, 0x82, 0xff, 0xc3, 0xa9, 0xf0, 0x9f, 0x98] =
    [replacement, replacement, 'é', replacement] := by decide +kernel

example : read [] .start [0xed, 0xa0, 0x80, 0xf0, 0x9f, 0x98, 0x80] =
    [replacement, replacement, replacement, '😀'] := by decide +kernel

end TemplateFill.Text.Utf8
