import TemplateFill.Path.Basic
import TemplateFill.Text.Blank

/-! Reading paths. A path is one component or more, set apart by commas; a component
is a key in single quotes or a decimal index, and blanks may stand around it. The
first component at fault is reported, by its number or by its text. -/
namespace TemplateFill.Path

open TemplateFill.Text (isBlank trim trimStart trimStart_length_le)

/-- What is wrong with a path's text. Components are counted from zero here and
from one in messages. -/
inductive ParseError where
  | empty
  | emptyComponent (n : Nat)
  | unterminatedQuote (n : Nat)
  | trailingAfterQuote (n : Nat)
  | invalidComponent (text : String)
  | indexTooLarge (digits : String)
  deriving DecidableEq, Repr

def ParseError.message : ParseError → String
  | .empty => "path is empty"
  | .emptyComponent n => s!"path component {n + 1} is empty"
  | .unterminatedQuote n => s!"unterminated quote in path component {n + 1}"
  | .trailingAfterQuote n => s!"unexpected characters after closing quote in path component {n + 1}"
  | .invalidComponent text => s!"'{text}' is neither a single-quoted key nor a decimal index"
  | .indexTooLarge digits => s!"index {digits} is too large"

/-- Indices are numbers below this bound. -/
def indexBound : Nat := UInt64.size

/-- A component as it is written. -/
inductive Token where
  | quoted (key : List Char)
  | digits (numeral : List Char)
  deriving DecidableEq, Repr

def Token.component : Token → Except ParseError Component
  | .quoted key => .ok (.key (String.ofList key))
  | .digits numeral =>
    let n := Nat.ofDigitChars 10 numeral 0
    if n < indexBound then .ok (.index n) else .error (.indexTooLarge (String.ofList numeral))

/-- The text of the component at the head of `s`, if commas in quotes are taken
for commas between components. -/
def written (s : List Char) : List Char := trim (s.takeWhile (· != ','))

/-- The token at the head of a text that does not start with a blank, and the
text after it. -/
def token (n : Nat) (s : List Char) : Except ParseError (Token × List Char) :=
  match s with
  | '\'' :: rest =>
    match rest.dropWhile (· != '\'') with
    | [] => .error (.unterminatedQuote n)
    | _ :: after => .ok (.quoted (rest.takeWhile (· != '\'')), after)
  | _ =>
    match s.takeWhile Char.isDigit with
    | [] =>
      if (written s).isEmpty then .error (.emptyComponent n)
      else .error (.invalidComponent (String.ofList (written s)))
    | numeral => .ok (.digits numeral, s.dropWhile Char.isDigit)

/-- The fault of a token followed by something other than a comma. -/
def Token.trailing (n : Nat) (s : List Char) : Token → ParseError
  | .quoted _ => .trailingAfterQuote n
  | .digits _ => .invalidComponent (String.ofList (written s))

theorem token_length_le {n : Nat} {s rest : List Char} {t : Token}
    (h : token n s = .ok (t, rest)) : rest.length ≤ s.length := by
  unfold token at h
  split at h
  · next body =>
    have hd := (List.dropWhile_sublist (· != '\'') (l := body)).length_le
    split at h
    · cases h
    · next ht => cases h; simp only [ht, List.length_cons] at hd ⊢; omega
  · split at h
    · split at h <;> cases h
    · cases h; exact (List.dropWhile_sublist Char.isDigit).length_le

/-- The components from number `n` on. -/
def components (n : Nat) (s : List Char) : Except ParseError Path :=
  match _ht : token n (trimStart s) with
  | .error e => .error e
  | .ok (t, after) =>
    match ha : trimStart after with
    | [] => do return [← t.component]
    | c :: rest =>
      if c = ',' then do
        let first ← t.component
        return first :: (← components (n + 1) rest)
      else .error (t.trailing n (trimStart s))
termination_by s.length
decreasing_by
  have h₁ := token_length_le _ht
  have h₂ := trimStart_length_le s
  have h₃ := trimStart_length_le after
  simp only [ha, List.length_cons] at h₃
  omega

def parse (text : String) : Except ParseError Path :=
  if text.toList.all isBlank then .error .empty else components 0 text.toList

end TemplateFill.Path
