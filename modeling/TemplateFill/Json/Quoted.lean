import TemplateFill.Json.Fault
import TemplateFill.Text.Reading

/-! Strings as JSON writes them. `Quoted.encode` and `Quoted.decode` go between the
characters of a string and its text between the quotes; only quotes, backslashes
and control characters are escaped when written. The reader takes one character
at a time and remembers in its state what an escape still owes. -/
namespace TemplateFill.Json.Quoted

open Text (hexValue?)

def hexDigit (n : Nat) : Char := Nat.digitChar (n % 16)

def escape (c : Char) : List Char :=
  if c = '"' then ['\\', '"']
  else if c = '\\' then ['\\', '\\']
  else if c = '\x08' then ['\\', 'b']
  else if c = '\x0c' then ['\\', 'f']
  else if c = '\n' then ['\\', 'n']
  else if c = '\r' then ['\\', 'r']
  else if c = '\t' then ['\\', 't']
  else if c.toNat < 0x20 then ['\\', 'u', '0', '0', hexDigit (c.toNat / 16), hexDigit c.toNat]
  else [c]

def encode (s : List Char) : List Char := s.flatMap escape

/-- The character that a one-letter escape stands for. -/
def unescape? : Char → Option Char
  | '"' => some '"'
  | '\\' => some '\\'
  | '/' => some '/'
  | 'b' => some '\x08'
  | 'f' => some '\x0c'
  | 'n' => some '\n'
  | 'r' => some '\r'
  | 't' => some '\t'
  | _ => none

/-- What the reader has just seen: nothing special, a backslash, part of the four
hex digits of an escape, or the leading half of a surrogate pair, after which a
backslash and a `u` are due. `lead` is the leading half before these digits. -/
inductive State where
  | plain
  | escaped
  | hex (lead : Option Nat) (owed : Nat) (value : Nat)
  | backslashDue (lead : Nat)
  | letterDue (lead : Nat)
  deriving DecidableEq, Repr

/-- What four hex digits give: a character, or the first half of one. -/
def unit (lead : Option Nat) (value : Nat) : Option (Char ⊕ Nat) :=
  match lead with
  | some high =>
    if 0xdc00 ≤ value ∧ value ≤ 0xdfff then
      some (.inl (Char.ofNat (0x10000 + (high - 0xd800) * 0x400 + (value - 0xdc00))))
    else none
  | none =>
    if value < 0xd800 ∨ 0xdfff < value then some (.inl (Char.ofNat value))
    else if value < 0xdc00 then some (.inr value)
    else none

/-- The string up to its closing quote, and the text after that. `read` holds the
characters found so far, the last one first. -/
def decode (read : List Char) (state : State) (s : List Char) :
    Except Fault (List Char × List Char) :=
  match s with
  | [] => .error ⟨.endInString, [], 0⟩
  | c :: rest =>
    match state with
    | .plain =>
      if c = '"' then .ok (read.reverse, rest)
      else if c = '\\' then decode read .escaped rest
      else if c.toNat < 0x20 then .error ⟨.controlCharacter, s, 1⟩
      else decode (c :: read) .plain rest
    | .escaped =>
      if c = 'u' then decode read (.hex none 4 0) rest
      else match unescape? c with
        | some d => decode (d :: read) .plain rest
        | none => .error ⟨.escapeInvalid, s, 1⟩
    | .hex lead owed value =>
      match hexValue? c with
      | none =>
        if octets s < owed then .error ⟨.endInString, [], 0⟩
        else .error ⟨.escapeInvalid, s, owed⟩
      | some d =>
        let value := value * 16 + d
        if 1 < owed then decode read (.hex lead (owed - 1) value) rest
        else match unit lead value with
          | some (.inl char) => decode (char :: read) .plain rest
          | some (.inr high) => decode read (.backslashDue high) rest
          | none => .error ⟨.surrogateAlone, rest, 0⟩
    | .backslashDue lead =>
      if c = '\\' then decode read (.letterDue lead) rest
      else .error ⟨.surrogateUnfinished, s, 1⟩
    | .letterDue lead =>
      if c = 'u' then decode read (.hex (some lead) 4 0) rest
      else .error ⟨.surrogateUnfinished, s, 1⟩

theorem decode_length_lt {read : List Char} {state : State} {s found rest : List Char}
    (h : decode read state s = .ok (found, rest)) : rest.length < s.length := by
  induction s generalizing read state with
  | nil => simp [decode] at h
  | cons c tail ih => cases state <;> grind [decode]

end TemplateFill.Json.Quoted
