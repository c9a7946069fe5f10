/-! Text in styles. A style is a list of codes, each in a control sequence of its own
before the text; a sequence with the code 0 stands after it. Where no styles are
wanted, a text is cut down to what a terminal shows of it as characters: sequences
are left out, and all controls but blanks. -/
namespace TemplateFill.Text

/-- Where a terminal stands between two characters. After an escape character come
sequences of several kinds; `string` and `command` are those whose content has no bound. -/
inductive Terminal where
  | text
  | escape
  | intermediate
  | control
  | string
  | command
  deriving DecidableEq, Repr

namespace Terminal

/-- Controls that a text keeps: tab, line feed, form feed and carriage return. -/
def isKeptControl (c : Char) : Bool := c = '\t' || c = '\n' || c = '\x0c' || c = '\r'

/-- Characters that a text keeps. -/
def isShown (c : Char) : Bool := (' ' ≤ c && c != '\x7f') || isKeptControl c

def isBetween (low high c : Char) : Bool := low ≤ c && c ≤ high

/-- The octet that ends a string, wherever it stands, also inside a character. -/
def stringEnd : UInt8 := 0x9c

/-- Where a character leads that neither starts nor cancels a sequence. -/
def next (here : Terminal) (c : Char) : Terminal :=
  match here with
  | text => text
  | escape =>
    if isBetween ' ' '/' c then intermediate
    else if c = '[' then control
    else if c = ']' then command
    else if c = 'P' || c = 'X' || c = '^' || c = '_' then string
    else if isBetween '0' '~' c then text
    else escape
  | intermediate => if isBetween '0' '~' c then text else intermediate
  | control => if isBetween '@' '~' c then text else control
  | string => if (String.utf8EncodeChar c).contains stringEnd then text else string
  | command => if c = '\x07' then text else command

/-- What is shown of a text. A kept control inside a sequence cuts the sequence short. -/
def shown (here : Terminal) : List Char → List Char
  | [] => []
  | c :: rest =>
    if c = '\x1b' then shown escape rest
    else if c = '\x18' || c = '\x1a' then shown text rest
    else if here = text then
      if isShown c then c :: shown text rest else shown text rest
    else if here != string && here != command && isKeptControl c then c :: shown text rest
    else shown (here.next c) rest

example : shown text "a\x1b[31mb\x1b[0m\x01c\n".toList = "abc\n".toList := by decide +kernel

example : shown text "\x1b]0;x\x07y\x1b(Bz".toList = "yz".toList := by decide +kernel

end Terminal

/-- A text between the sequence of some codes and the one that ends them. -/
def rendered (codes : List Nat) (text : String) : String :=
  if codes.isEmpty then text
  else String.join (codes.map fun n => s!"\x1b[{n}m") ++ text ++ "\x1b[0m"

/-- How a piece of a message stands out. -/
inductive Style where
  | plain
  | fault
  | heading
  | literal
  | offered
  | refused
  deriving DecidableEq, Repr

/-- Bold is 1, underlined 4, red 31, green 32, yellow 33. -/
def Style.codes : Style → List Nat
  | .plain => []
  | .fault => [1, 31]
  | .heading => [1, 4]
  | .literal => [1]
  | .offered => [32]
  | .refused => [33]

/-- Pieces of text, each in a style. -/
abbrev Styled := List (Style × String)

/-- A styled text as it is written, with its styles or without. -/
def Styled.write (pieces : Styled) (styles : Bool) : String :=
  let full := String.join (pieces.map fun (style, text) => rendered style.codes text)
  if styles then full else String.ofList (Terminal.shown .text full.toList)

end TemplateFill.Text
