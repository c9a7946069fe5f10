import TemplateFill.Json.Basic
import TemplateFill.Json.Quoted
import TemplateFill.Decimal.Shortest

/-! Writing JSON documents, either without any space or with each item of a
container on a line of its own. An empty container is written as its two brackets. -/
namespace TemplateFill

/-- The shape of a float's text. -/
structure FloatLayout where
  /-- The least power of ten of a first digit for which no exponent is written. -/
  plainFrom : Int
  /-- The greatest one. -/
  plainTo : Int

/-- Floats are written without an exponent, and then always with a fraction, from
10⁻⁵ up to 10¹⁶. -/
def Json.floatLayout : FloatLayout := ⟨-5, 15⟩

namespace FloatLayout

/-- Digits around a decimal point, which stands after the first `places + 1` of them. -/
def plain (digits : List Char) (places : Int) : List Char :=
  match places with
  | .ofNat k =>
    let whole := digits.take (k + 1)
    let fraction := digits.drop (k + 1)
    whole ++ List.replicate (k + 1 - whole.length) '0' ++
      '.' :: (if fraction.isEmpty then ['0'] else fraction)
  | .negSucc k => '0' :: '.' :: List.replicate k '0' ++ digits

/-- A digit, a fraction if there are more digits, and an exponent with its sign. -/
def scientific (digits : List Char) (power : Int) : List Char :=
  digits.take 1 ++ (if digits.length ≤ 1 then [] else '.' :: digits.drop 1) ++
    'e' :: (if power < 0 then '-' else '+') :: Nat.toDigits 10 power.natAbs

def chars (layout : FloatLayout) (f : Float) : List Char :=
  let sign := if f.toBits.toNat < 1 <<< 63 then [] else ['-']
  match Decimal.Binary.ofBits? f.toBits with
  | none => sign ++ ['0', '.', '0']
  | some b =>
    let (digits, power) := b.shortest.scientific
    if layout.plainFrom ≤ power ∧ power ≤ layout.plainTo then sign ++ plain digits power
    else sign ++ scientific digits power

end FloatLayout

def Number.chars : Number → List Char
  | .int (.ofNat n) => Nat.toDigits 10 n
  | .int (.negSucc n) => '-' :: Nat.toDigits 10 (n + 1)
  | .float f => Json.floatLayout.chars f

namespace Json

/-- How the parts of a document are set apart. -/
inductive Layout where
  /-- Without spaces. -/
  | compact
  /-- One item a line, indented by so many spaces for each container around it. -/
  | indented (step : Nat)

/-- What stands before an item or a closing bracket at some depth. -/
def Layout.line : Layout → Nat → List Char
  | .compact, _ => []
  | .indented step, depth => '\n' :: List.replicate (step * depth) ' '

def Layout.colon : Layout → List Char
  | .compact => [':']
  | .indented _ => [':', ' ']

def quoted (s : String) : List Char := '"' :: Quoted.encode s.toList ++ ['"']

mutual

def chars (layout : Layout) (depth : Nat) : Json → List Char
  | .null => ['n', 'u', 'l', 'l']
  | .bool true => ['t', 'r', 'u', 'e']
  | .bool false => ['f', 'a', 'l', 's', 'e']
  | .number n => n.chars
  | .string s => quoted s
  | .array [] => ['[', ']']
  | .array (item :: rest) =>
    '[' :: layout.line (depth + 1) ++ chars layout (depth + 1) item ++
      itemChars layout (depth + 1) rest ++ layout.line depth ++ [']']
  | .object [] => ['{', '}']
  | .object ((key, item) :: rest) =>
    '{' :: layout.line (depth + 1) ++ quoted key ++ layout.colon ++
      chars layout (depth + 1) item ++ memberChars layout (depth + 1) rest ++
      layout.line depth ++ ['}']
termination_by structural node => node

/-- The items after the first, a comma before each. -/
def itemChars (layout : Layout) (depth : Nat) : List Json → List Char
  | [] => []
  | item :: rest =>
    ',' :: layout.line depth ++ chars layout depth item ++ itemChars layout depth rest
termination_by structural items => items

def memberChars (layout : Layout) (depth : Nat) : List (String × Json) → List Char
  | [] => []
  | (key, item) :: rest =>
    ',' :: layout.line depth ++ quoted key ++ layout.colon ++ chars layout depth item ++
      memberChars layout depth rest
termination_by structural members => members

end

/-- The text of a document without any space. -/
def compress (document : Json) : String := String.ofList (chars .compact 0 document)

/-- The text of a document as a file holds it: four spaces to a level, and a line
feed at the end. -/
def render (document : Json) : String :=
  String.ofList (chars (.indented 4) 0 document ++ ['\n'])

end Json

end TemplateFill
