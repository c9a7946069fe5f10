import TemplateFill.CommandLine.Environment
import TemplateFill.Fill.Run
import TemplateFill.Pattern.Parser
import TemplateFill.Text.Alphanumeric
import TemplateFill.Text.Blank
import TemplateFill.Text.Styled

/-! What a run logs: a line for each pass and a line for each warning. A filter
says which lines are shown. It is a list of directives, each a level for the
targets whose names start with some text, perhaps for events with some field only;
the narrowest directive decides. A variable of the environment replaces the filter
that the options ask for. -/
namespace TemplateFill.Log

inductive Level where
  | off
  | error
  | warn
  | info
  | debug
  | trace
  deriving DecidableEq, Repr

namespace Level

def rank : Level → Nat
  | .off => 0
  | .error => 1
  | .warn => 2
  | .info => 3
  | .debug => 4
  | .trace => 5

def all : List Level := [.off, .error, .warn, .info, .debug, .trace]

def name : Level → String
  | .off => "off"
  | .error => "error"
  | .warn => "warn"
  | .info => "info"
  | .debug => "debug"
  | .trace => "trace"

/-- A level by its name in any case, or by its rank. -/
def ofText? (text : List Char) : Option Level :=
  let digits := match text with
    | '+' :: rest => rest
    | _ => text
  if !digits.isEmpty && digits.all Char.isDigit then
    all.find? fun level => level.rank == Nat.ofDigitChars 10 digits 0
  else all.find? fun level => level.name.toList == text.map Char.toLower

end Level

/-- A level for the events of all targets that start with a text, and that have a
field, if one is named; or one for spans, which there are none of here. -/
inductive Directive where
  | events (start : List Char) (field : Option (List Char)) (level : Level)
  | spans
  deriving DecidableEq, Repr

abbrev Filter := List Directive

/-- The level after an equals sign; nothing there stands for the finest one. -/
def Directive.level? (text : List Char) : Option Level :=
  if text.isEmpty then some .trace else Level.ofText? text

/-- What stands in brackets. A name is that of a span, and a value is one that only
spans are asked for; a field in braces alone is one of events too. -/
inductive Bracketed where
  | span
  | field (name : List Char)

/-- Whether a text is a decimal number with a fraction or an exponent, or without. -/
def isDecimal (text : List Char) : Bool :=
  let whole := text.takeWhile Char.isDigit
  let afterWhole := text.drop whole.length
  let fraction := if afterWhole.head? = some '.' then (afterWhole.drop 1).takeWhile Char.isDigit else []
  let exponent :=
    if afterWhole.head? = some '.' then afterWhole.drop (fraction.length + 1) else afterWhole
  !(whole ++ fraction).isEmpty && match exponent with
    | [] => true
    | e :: digits =>
      let digits := if digits.head? = some '+' || digits.head? = some '-' then digits.drop 1 else digits
      (e = 'e' || e = 'E') && !digits.isEmpty && digits.all Char.isDigit

/-- Whether a field can be asked for a value: for a number, or for what matches a
pattern. Only a number with a plus sign is no pattern. -/
def isValue (text : List Char) : Bool :=
  Pattern.isPattern text || match text with
    | '+' :: number =>
      isDecimal number || ["inf", "infinity", "nan"].any (·.toList == number.map Char.toLower)
    | _ => false

/-- The value that a field is asked for: what stands after the first equals sign, up to
the next. -/
def valueOf? (field : List Char) : Option (List Char) :=
  match field.dropWhile (· != '=') with
  | [] => none
  | _ :: rest => some (rest.takeWhile (· != '='))

/-- Reads `inside`, which stands after an opening bracket, and takes the field out of
`whole` at the same places. Gives what is left of both. -/
def Bracketed.read? (whole inside : List Char) : Option (Bracketed × List Char × List Char) :=
  let name := inside.takeWhile fun c => c != ']' && c != '\x7b'
  let whole := whole.drop (name.length + 1)
  match inside.drop name.length with
  | ']' :: rest => some (.span, whole, rest)
  | '\x7b' :: inside =>
    let length := (inside.takeWhile (· != '\x7d')).length
    let field := whole.take length
    match inside.drop length with
    | '\x7d' :: ']' :: rest =>
      let whole := whole.drop (length + 2)
      if length = 0 || (valueOf? field).any (!isValue ·) then none
      else if !name.isEmpty || field.contains '=' then some (.span, whole, rest)
      else some (.field field, whole, rest)
    | _ => none
  | _ => none

def Bracketed.directive (start : List Char) (level : Level) : Bracketed → Directive
  | .span => .spans
  | .field name => .events start (some name) level

/-- A character that a directive may start with. -/
def Directive.isFirst (c : Char) : Bool :=
  c = '[' || c = '-' || c = ':' || c = '_' || Text.isAlphanumeric c

/-- Reads one directive: a level, or a target, something in brackets, or both, with
or without a level. Where these lie is told by the text without blanks at its ends,
but they are taken out of the whole text at the same places. So a level with blanks
beside it is none: alone it is read as a target, after an equals sign it is a fault. -/
def Directive.ofText? (whole : List Char) : Option Directive :=
  let text := Text.trim whole
  let length := (text.takeWhile fun c => c != '=' && c != '[').length
  let start := whole.take length
  if !text.head?.any isFirst then none
  else match text.drop length with
    | [] => some <| match Level.ofText? whole with
      | some level => .events [] none level
      | none => .events whole none .trace
    | '=' :: _ => (level? (whole.drop (length + 1))).map (.events start none)
    | _ :: inside => match Bracketed.read? (whole.drop (length + 1)) inside with
      | some (bracketed, _, []) => some (bracketed.directive start .trace)
      | some (bracketed, whole, '=' :: _) =>
        (level? (whole.drop 1)).map (bracketed.directive start ·)
      | _ => none

/-- Splits a text at its commas; `piece` is read so far, last character first. -/
def splitCommas (piece : List Char) : List Char → List (List Char)
  | [] => [piece.reverse]
  | c :: rest => if c = ',' then piece.reverse :: splitCommas [] rest else splitCommas (c :: piece) rest

namespace Filter

/-- A filter that lets lines of one level and above through. -/
def upTo (level : Level) : Filter := [.events [] none level]

/-- Reads directives between commas. Without any, errors alone are shown. -/
def ofText? (text : String) : Option Filter :=
  match ((splitCommas [] text.toList).filter (!·.isEmpty)).mapM Directive.ofText? with
  | none => none
  | some [] => some (upTo .error)
  | some directives => some directives

/-- How narrow a directive is: first the length of the text that targets start with,
then the field. -/
def isNarrower (a b : Nat × Option (List Char)) : Bool :=
  b.1 < a.1 || a.1 == b.1 && match b.2, a.2 with
    | some f, some g => decide (f < g)
    | none, some _ => true
    | _, none => false

/-- The level that a filter sets for the events of a target that have some fields:
that of the narrowest directive, and of equal ones the last. -/
def levelFor (filter : Filter) (target : List Char) (fields : List String) : Level :=
  let step (best : Option ((Nat × Option (List Char)) × Level)) :
      Directive → Option ((Nat × Option (List Char)) × Level)
    | .spans => best
    | .events start field level =>
      let applies := start.isPrefixOf target &&
        field.all fun name => fields.any fun f => f.toList == name
      let width := (start.length, field)
      if applies && best.all (fun b => !isNarrower b.1 width) then some (width, level) else best
  ((filter.foldl step none).map (·.2)).getD .off

end Filter

/-- One thing logged. -/
inductive Event where
  | passComplete (pass warnings : Nat)
  | warning (message : String)
  deriving DecidableEq, Repr

def Event.level : Event → Level
  | .passComplete .. => .debug
  | .warning _ => .warn

/-- The names of an event's fields. -/
def Event.fields : Event → List String
  | .passComplete .. => ["message", "pass", "warnings"]
  | .warning _ => ["message"]

/-- All that filling a document logs, in order. -/
def events (report : Report) : List Event :=
  ((report.warningCounts.zipIdx 1).map fun (count, pass) => .passComplete pass count) ++
    report.diagnostics.map fun d => .warning d.message

/-- The target of all events. -/
def target : List Char := "vaultfill::core::engine".toList

/-- How the log is shown. -/
structure Settings where
  filter : Filter
  colour : Bool

/-- Warnings are shown, unless the run is quiet or the environment says otherwise. -/
def Settings.ofEnvironment (environment : Environment) (quiet : Bool) : Settings where
  filter := ((environment.strict? "RUST_LOG").bind Filter.ofText?).getD
    (Filter.upTo (if quiet then .error else .warn))
  colour := ((environment.strict? "NO_COLOR").getD "").isEmpty

/-- Control characters of terminals are shown by their numbers. -/
def escape (c : Char) : List Char :=
  match c with
  | '\x1b' => "\\x1b".toList
  | '\x07' => "\\x07".toList
  | '\x08' => "\\x08".toList
  | '\x0c' => "\\x0c".toList
  | '\x7f' => "\\x7f".toList
  | _ =>
    if 0x80 ≤ c.toNat ∧ c.toNat ≤ 0x9f then
      "\\u\x7b".toList ++ Nat.toDigits 16 c.toNat ++ ['\x7d']
    else [c]

/-- A text in some rendition of a terminal. -/
def styled (colour : Bool) (rendition : Nat) (text : String) : String :=
  if colour then Text.rendered [rendition] text else text

/-- A name and a number. -/
def field (colour : Bool) (name : String) (value : Nat) : String :=
  styled colour 3 name ++ styled colour 2 "=" ++ toString value

def Event.line (colour : Bool) : Event → String
  | .warning message =>
    styled colour 33 " WARN" ++ " " ++ String.ofList (message.toList.flatMap escape) ++ "\n"
  | .passComplete pass warnings =>
    styled colour 34 "DEBUG" ++ " pass complete " ++ field colour "pass" pass ++ " " ++
      field colour "warnings" warnings ++ "\n"

/-- The text of the events that a filter lets through. -/
def render (settings : Settings) (events : List Event) : String :=
  let lets (e : Event) := e.level.rank ≤ (settings.filter.levelFor target e.fields).rank
  String.join ((events.filter (lets ·)).map (Event.line settings.colour))

end TemplateFill.Log
