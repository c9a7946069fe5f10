import TemplateFill.Json.Basic
import TemplateFill.Json.Fault

/-! Numbers as JSON writes them. `Numeral.scan` splits a number's text into its
parts, and `Numeral.value` gives the number. Integers are exact while they fit 64
bits. For all others the first digits that fit 64 bits make a significand, and the
float is that significand multiplied or divided by a power of ten. -/
namespace TemplateFill.Json

/-- An exponent as written. -/
structure Exponent where
  negative : Bool
  digits : List Char
  deriving DecidableEq, Repr

/-- A number as written; `fraction` is empty when there is no decimal point. -/
structure Numeral where
  negative : Bool
  integer : List Char
  fraction : List Char
  exponent : Option Exponent
  deriving DecidableEq, Repr

namespace Numeral

/-- One digit or more. Any other character counts as taken when the fault is placed. -/
def scanDigits (s : List Char) : Except Fault (List Char × List Char) :=
  match s with
  | [] => .error ⟨.endInValue, [], 0⟩
  | c :: _ =>
    if c.isDigit then .ok (s.takeWhile Char.isDigit, s.dropWhile Char.isDigit)
    else .error ⟨.numberInvalid, s, 1⟩

/-- A leading zero stands alone. -/
def scanInteger (s : List Char) : Except Fault (List Char × List Char) :=
  match s with
  | '0' :: d :: rest =>
    if d.isDigit then .error ⟨.numberInvalid, d :: rest, 1⟩ else .ok (['0'], d :: rest)
  | _ => scanDigits s

def scanFraction (s : List Char) : Except Fault (List Char × List Char) :=
  match s with
  | '.' :: [] => .error ⟨.endInValue, [], 1⟩
  | '.' :: rest => scanDigits rest
  | _ => .ok ([], s)

/-- The digits of an exponent, whose sign has been read. -/
def scanPower (negative : Bool) (s : List Char) : Except Fault (Option Exponent × List Char) :=
  match scanDigits s with
  | .error fault => .error fault
  | .ok (digits, rest) => .ok (some ⟨negative, digits⟩, rest)

def scanExponent (s : List Char) : Except Fault (Option Exponent × List Char) :=
  match s with
  | [] => .ok (none, [])
  | c :: rest =>
    if c = 'e' ∨ c = 'E' then
      match rest with
      | '+' :: rest' => scanPower false rest'
      | '-' :: rest' => scanPower true rest'
      | _ => scanPower false rest
    else .ok (none, s)

def scan (s : List Char) : Except Fault (Numeral × List Char) := do
  let (negative, s) := match s with
    | '-' :: rest => (true, rest)
    | _ => (false, s)
  let (integer, s) ← scanInteger s
  let (fraction, s) ← scanFraction s
  let (exponent, s) ← scanExponent s
  return (⟨negative, integer, fraction, exponent⟩, s)

/-- Extends a number by digits on its right while it stays below `bound`: the
number reached, and the digits that no longer fit. -/
def extend (bound : Nat) (n : Nat) : List Char → Nat × List Char
  | [] => (n, [])
  | d :: rest =>
    let next := Nat.ofDigitChars 10 [d] n
    if next < bound then extend bound next rest else (n, d :: rest)

/-- Powers of ten from 10⁰ to 10³⁰⁸, the last that a float holds. -/
def powerOfTen (k : Nat) : Float := Float.ofScientific 1 false k

/-- Division by a power of ten, in steps that a float can hold. -/
def scaleDown (f : Float) (k : Nat) : Float :=
  if k ≤ 308 then f / powerOfTen k
  else if f == 0 then f
  else scaleDown (f / powerOfTen 308) (k - 308)
termination_by k

/-- Multiplication by a power of ten, unless the result is too large for a float. -/
def scaleUp (f : Float) (k : Nat) : Option Float :=
  if k ≤ 308 then
    let product := f * powerOfTen k
    if product.isInf then none else some product
  else if f == 0 then some f
  else none

def scale (f : Float) : Int → Option Float
  | .ofNat k => scaleUp f k
  | .negSucc k => some (scaleDown f (k + 1))

def signed (negative : Bool) (f : Float) : Float := if negative then -f else f

/-- The largest exponent that is taken at its word; a larger one counts as infinite. -/
def exponentBound : Nat := 1 <<< 31

/-- The float a number stands for, given its significand and the power of ten
that its digits call for. A number too large is an error, which carries those
digits of the exponent that need not be read to see it. -/
def float (n : Numeral) (significand : Nat) (power : Int) : Except (List Char) Float :=
  let f := significand.toUInt64.toFloat
  let finish (e : Int) : Except (List Char) Float := match scale f e with
    | some g => .ok (signed n.negative g)
    | none => .error []
  match n.exponent with
  | none => finish power
  | some ⟨negative, digits⟩ =>
    match extend exponentBound 0 digits with
    | (e, []) => finish (if negative then power - e else power + e)
    | (_, _ :: unread) =>
      if negative || significand == 0 then .ok (signed n.negative 0) else .error unread

/-- The number a numeral stands for; an error as in `float`. -/
def value (n : Numeral) : Except (List Char) Number :=
  let (whole, excess) := extend UInt64.size 0 n.integer
  let (significand, dropped) := extend UInt64.size whole n.fraction
  let power : Int := excess.length - (n.fraction.length - dropped.length : Nat)
  if excess.isEmpty && n.fraction.isEmpty && n.exponent.isNone then
    if !n.negative then .ok (.int whole)
    else if 0 < whole && whole ≤ 1 <<< 63 then .ok (.int (-whole))
    else .ok (.float (-whole.toUInt64.toFloat))
  else (n.float significand power).map .float

/-- A number at the head of a text. -/
def read (s : List Char) : Except Fault (Number × List Char) := do
  let (numeral, rest) ← scan s
  match numeral.value with
  | .ok n => .ok (n, rest)
  | .error unread => .error ⟨.numberOutOfRange, unread ++ rest, 0⟩

theorem scanDigits_length_lt {s digits rest : List Char}
    (h : scanDigits s = .ok (digits, rest)) : rest.length < s.length := by
  cases s with
  | nil => simp [scanDigits] at h
  | cons c tail =>
    have hd := (List.dropWhile_sublist Char.isDigit (l := tail)).length_le
    simp only [scanDigits] at h
    split at h
    · next hc =>
      cases h
      simp only [List.dropWhile_cons, hc, if_true, List.length_cons]
      omega
    · cases h

theorem scanInteger_length_lt {s digits rest : List Char}
    (h : scanInteger s = .ok (digits, rest)) : rest.length < s.length := by
  unfold scanInteger at h
  split at h
  · split at h
    · cases h
    · cases h; simp
  · exact scanDigits_length_lt h

theorem scanFraction_length_le {s digits rest : List Char}
    (h : scanFraction s = .ok (digits, rest)) : rest.length ≤ s.length := by
  unfold scanFraction at h
  split at h
  · cases h
  · exact Nat.le_succ_of_le (Nat.le_of_lt (scanDigits_length_lt h))
  · cases h; exact Nat.le_refl _

theorem scanPower_length_lt {negative : Bool} {s rest : List Char} {e : Option Exponent}
    (h : scanPower negative s = .ok (e, rest)) : rest.length < s.length := by
  unfold scanPower at h
  split at h
  · cases h
  · next hd => cases h; exact scanDigits_length_lt hd

theorem scanExponent_length_le {s rest : List Char} {e : Option Exponent}
    (h : scanExponent s = .ok (e, rest)) : rest.length ≤ s.length := by
  unfold scanExponent at h
  split at h
  · cases h; exact Nat.le_refl _
  · split at h
    · split at h <;> have := scanPower_length_lt h <;> simp only [List.length_cons] at * <;> omega
    · cases h; exact Nat.le_refl _

theorem scan_length_lt {s rest : List Char} {numeral : Numeral}
    (h : scan s = .ok (numeral, rest)) : rest.length < s.length := by
  unfold scan at h
  simp only [bind, Except.bind, pure, Except.pure] at h
  generalize hs : (match (motive := List Char → Bool × List Char) s with
    | '-' :: tail => (true, tail)
    | _ => (false, s)) = signless at h
  have hle : signless.2.length ≤ s.length := by
    rw [← hs]; split <;> simp
  split at h
  · cases h
  next hi =>
  split at h
  · cases h
  next hf =>
  split at h
  · cases h
  next he =>
  cases h
  have := scanInteger_length_lt hi
  have := scanFraction_length_le hf
  have := scanExponent_length_le he
  omega

theorem read_length_lt {s rest : List Char} {n : Number}
    (h : read s = .ok (n, rest)) : rest.length < s.length := by
  unfold read at h
  simp only [bind, Except.bind] at h
  split at h
  · cases h
  next hs =>
  split at h
  · cases h; exact scan_length_lt hs
  · cases h

end Numeral

end TemplateFill.Json
