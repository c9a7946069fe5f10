/-! Why a text is not a JSON document, and where. A reader stops with a `Fault`:
the reason, the text it has not read yet, and how many octets of that text belong
to the fault. `Fault.locate` turns this into a line and a column of the whole text. -/
namespace TemplateFill.Json

inductive Reason where
  | endInValue
  | endInString
  | endInList
  | endInObject
  | valueExpected
  | wordExpected
  | numberInvalid
  | numberOutOfRange
  | controlCharacter
  | escapeInvalid
  | surrogateAlone
  | surrogateUnfinished
  | tooDeep
  | trailingComma
  | listUnseparated
  | objectUnseparated
  | keyNotString
  | colonExpected
  | trailingCharacters
  deriving DecidableEq, Repr

def Reason.message : Reason → String
  | .endInValue => "EOF while parsing a value"
  | .endInString => "EOF while parsing a string"
  | .endInList => "EOF while parsing a list"
  | .endInObject => "EOF while parsing an object"
  | .valueExpected => "expected value"
  | .wordExpected => "expected ident"
  | .numberInvalid => "invalid number"
  | .numberOutOfRange => "number out of range"
  | .controlCharacter => "control character (\\u0000-\\u001F) found while parsing a string"
  | .escapeInvalid => "invalid escape"
  | .surrogateAlone => "lone leading surrogate in hex escape"
  | .surrogateUnfinished => "unexpected end of hex escape"
  | .tooDeep => "recursion limit exceeded"
  | .trailingComma => "trailing comma"
  | .listUnseparated => "expected `,` or `]`"
  | .objectUnseparated => "expected `,` or `\x7d`"
  | .keyNotString => "key must be a string"
  | .colonExpected => "expected `:`"
  | .trailingCharacters => "trailing characters"

structure Fault where
  reason : Reason
  rest : List Char
  ahead : Nat
  deriving DecidableEq, Repr

/-- What a reader of a whole text reports. -/
structure ReadError where
  reason : Reason
  line : Nat
  column : Nat
  deriving DecidableEq, Repr

def ReadError.message (e : ReadError) : String :=
  s!"{e.reason.message} at line {e.line} column {e.column}"

/-- The length of a text in octets of UTF-8. -/
def octets (s : List Char) : Nat := s.foldr (fun c n => c.utf8Size + n) 0

/-- The line and the column that follow the given octets: lines are counted from
one, and the column is the number of octets since the last line feed. -/
def position (seen : List UInt8) : Nat × Nat :=
  (1 + seen.count 0x0a, (seen.reverse.takeWhile (· != 0x0a)).length)

/-- Where in `text` a fault lies. It never lies beyond the end of the text. -/
def Fault.locate (text : String) (fault : Fault) : ReadError :=
  let index := text.utf8ByteSize - octets fault.rest + fault.ahead
  let (line, column) := position (text.toUTF8.toList.take index)
  ⟨fault.reason, line, column⟩

end TemplateFill.Json
