import TemplateFill.Pattern.Basic

/-! Escapes: what may stand after a backslash, in a class and outside. -/
namespace TemplateFill.Pattern

open Text (Below hexValue?)

/-- What a character or an escape stands for. -/
inductive Primitive where
  /-- A character, and whether it was written as an octet, by two digits. -/
  | character (c : Char) (octet : Bool)
  /-- Digits, blanks or word characters, or all others. -/
  | family (others : Bool)
  /-- The characters of a property. -/
  | property
  | wordBoundary
  | textBoundary
  deriving DecidableEq, Repr

/-- Characters with a meaning of their own somewhere in a pattern. -/
def isMeta (c : Char) : Bool := "\\.+*?()|[]\x7b\x7d^$#&-~".toList.contains c

/-- Characters that stand for themselves after a backslash: in ASCII all but letters,
digits and the two that might mean something one day. -/
def isPlainEscape (c : Char) : Bool :=
  isMeta c || (c.toNat < 0x80 && !c.isAlphanum && c != '<' && c != '>')

/-- A number of so many hexadecimal digits; `value` is that of the digits before. -/
def hexDigits? (mode : Mode) : Nat → Nat → List Char → Option (Nat × List Char)
  | 0, value, s => some (value, s)
  | n + 1, value, s => match mode.skip s with
    | [] => none
    | c :: rest => match hexValue? c with
      | none => none
      | some digit => hexDigits? mode n (16 * value + digit) rest

theorem hexDigits?_length_le {mode : Mode} {n value found : Nat} {s rest : List Char}
    (h : hexDigits? mode n value s = some (found, rest)) : rest.length ≤ s.length := by
  induction n generalizing value s with
  | zero => simp only [hexDigits?, Option.some.injEq, Prod.mk.injEq] at h; simp [h.2]
  | succ n ih =>
    simp only [hexDigits?] at h
    split at h
    · cases h
    · next c tail hs =>
      have hle := mode.skip_length_le s
      rw [hs, List.length_cons] at hle
      split at h
      · cases h
      · exact Nat.le_trans (ih h) (by omega)

/-- The letter of a property: other, letter, mark, number, punctuation, symbol or
separator. -/
def isPropertyLetter (c : Char) : Bool := "clmnpsz".toList.contains c.toLower

/-- The control character that a letter stands for. -/
def controlOf? : Char → Option Char
  | 'a' => some '\x07'
  | 'f' => some '\x0c'
  | 't' => some '\t'
  | 'n' => some '\n'
  | 'r' => some '\r'
  | 'v' => some '\x0b'
  | _ => none

/-- How many hexadecimal digits follow a letter. -/
def hexLength? : Char → Option Nat
  | 'x' => some 2
  | 'u' => some 4
  | 'U' => some 8
  | _ => none

/-- What a letter alone stands for. -/
def lone? (c : Char) : Option Primitive :=
  if isPlainEscape c then some (.character c false)
  else match controlOf? c with
    | some control => some (.character control false)
    | none =>
      if c = 'd' || c = 's' || c = 'w' then some (.family false)
      else if c = 'D' || c = 'S' || c = 'W' then some (.family true)
      else if c = 'A' || c = 'z' then some .textBoundary
      else if c = 'b' || c = 'B' || c = '<' || c = '>' then some .wordBoundary
      else none

/-- Reads an escape, whose backslash has been read. -/
def escape? (mode : Mode) (s : List Char) : Option (Primitive × Below s.length) :=
  match s with
  | [] => none
  | c :: rest =>
    if c = 'p' || c = 'P' then
      match hs : mode.skip rest with
      | [] => none
      | letter :: after =>
        have hle : after.length + 1 ≤ rest.length := by
          have := mode.skip_length_le rest
          rwa [hs, List.length_cons] at this
        if isPropertyLetter letter then some (.property, ⟨after, Nat.lt_succ_of_lt hle⟩)
        else none
    else match hexLength? c with
      | some n =>
        match hd : hexDigits? mode n 0 rest with
        | none => none
        | some (value, after) =>
          have hle := hexDigits?_length_le hd
          if value.isValidChar then
            some (.character (Char.ofNat value) (c = 'x'), ⟨after, Nat.lt_succ_of_le hle⟩)
          else none
      | none => (lone? c).map fun primitive => (primitive, .tail c rest)

/-- Whether a primitive may stand outside a class. -/
def Primitive.isAllowed (mode : Mode) : Primitive → Bool
  | .character c octet => mode.unicode || !octet || c.toNat < 0x80
  | .family others => mode.unicode || !others
  | .property => mode.unicode
  | .wordBoundary => !mode.unicode
  | .textBoundary => true

/-- Whether a primitive may stand in a class. -/
def Primitive.isAllowedInClass (mode : Mode) : Primitive → Bool
  | .character c _ => mode.unicode || c.toNat < 0x80
  | .family others => mode.unicode || !others
  | .property => mode.unicode
  | .wordBoundary | .textBoundary => false

end TemplateFill.Pattern
