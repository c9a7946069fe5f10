import TemplateFill.CommandLine.FileName
import TemplateFill.Text.Similarity
import TemplateFill.Text.Styled

/-! The arguments of the command: at most one file, and options. Arguments are
read from left to right. A value is taken in when the next option or file is met,
or at the end, so a fault in a later argument's name can be reported before one in
an earlier value. After `--` every argument is a file. -/
namespace TemplateFill

/-- What the command is asked to do. -/
structure Invocation where
  file : Option FileName
  output : Option FileName
  quiet : Bool
  deriving DecidableEq, Repr

namespace Arguments

inductive Parameter where
  | file
  | output
  | quiet
  | help
  | version
  deriving DecidableEq, Repr

namespace Parameter

def options : List Parameter := [.output, .quiet, .help, .version]

def longName : Parameter → String
  | .file => "file"
  | .output => "output"
  | .quiet => "quiet"
  | .help => "help"
  | .version => "version"

/-- A parameter as messages show it. -/
def display : Parameter → String
  | .file => "[FILE]"
  | .output => "--output <OUTPUT>"
  | .quiet => "--quiet"
  | .help => "--help"
  | .version => "--version"

def ofLongName? (name : String) : Option Parameter := options.find? (·.longName == name)

def ofLetter? : Char → Option Parameter
  | 'o' => some .output
  | 'q' => some .quiet
  | 'h' => some .help
  | 'V' => some .version
  | _ => none

end Parameter

/-- Advice about an unexpected argument. -/
inductive Tip where
  | afterDashes (argument : String)
  | similar (parameter : Parameter)
  deriving DecidableEq, Repr

/-- What is wrong with the arguments. `used` are the parameters to show as used; an
option with an unneeded value is `alone` if no parameter was taken in before it. -/
inductive Fault where
  | unexpected (argument : String) (tip : Option Tip) (used : List Parameter)
  | repeated (parameter : Parameter)
  | valueMissing (parameter : Parameter)
  | valueUnneeded (parameter : Parameter) (value : String) (alone : Bool)
  deriving DecidableEq, Repr

/-- Why the arguments do not lead to a run. -/
inductive Stop where
  | help
  | version
  | fault (fault : Fault)
  deriving DecidableEq, Repr

/-- The arguments read so far. `pending` is a parameter that waits for its value,
or whose value has not been taken in; `fileSeen` tells whether a file was met. -/
structure Reading where
  invocation : Invocation
  used : List Parameter
  pending : Option (Parameter × Option FileName)
  fileSeen : Bool

namespace Reading

def start : Reading := ⟨⟨none, none, false⟩, [], none, false⟩

def use (r : Reading) (parameter : Parameter) (invocation : Invocation) : Reading :=
  { r with invocation := invocation, used := r.used ++ [parameter], pending := none }

/-- Takes in the value of a parameter. -/
def store (r : Reading) (parameter : Parameter) (value : FileName) : Except Fault Reading :=
  if parameter = .output ∧ r.invocation.output.isSome then .error (.repeated .output)
  else if value.isEmpty then .error (.valueMissing parameter)
  else if parameter = .output then .ok (r.use .output { r.invocation with output := some value })
  else .ok (r.use .file { r.invocation with file := some value })

/-- Takes in what is pending. -/
def settle (r : Reading) : Except Fault Reading :=
  match r.pending with
  | none => .ok r
  | some (parameter, none) => .error (.valueMissing parameter)
  | some (parameter, some value) => r.store parameter value

/-- The parameters used once what is pending has been met, whether it can be taken
in or not: an empty value counts, and one that repeats an option undoes its first use. -/
def usedAfter (r : Reading) : List Parameter :=
  match r.pending with
  | some (parameter, some _) =>
    if parameter = .output ∧ r.invocation.output.isSome then r.used.erase .output
    else r.used ++ [parameter]
  | _ => r.used

def isWaiting (r : Reading) : Bool :=
  match r.pending with
  | some (_, none) => true
  | _ => false

/-- Waits for the value of `--output`. -/
def await (r : Reading) : Except Fault Reading := do
  return { ← r.settle with pending := some (.output, none) }

/-- An option that takes no value. -/
def flag (r : Reading) (parameter : Parameter) : Except Stop Reading :=
  match r.settle with
  | .error fault => .error (.fault fault)
  | .ok r => match parameter with
    | .help => .error .help
    | .version => .error .version
    | _ =>
      if r.invocation.quiet then .error (.fault (.repeated .quiet))
      else .ok (r.use .quiet { r.invocation with quiet := true })

/-- An option with its value. -/
def assign (r : Reading) (value : FileName) : Except Fault Reading := do
  (← r.settle).store .output value

/-- A file, or the value that an option waits for. -/
def file (r : Reading) (name : FileName) : Except Fault Reading :=
  if r.fileSeen then .error (.unexpected (FileName.display name) none [])
  else do return { ← r.settle with pending := some (.file, some name), fileSeen := true }

end Reading

/-- The parameter that a misspelt option may have meant. -/
def similar? (name : String) : Option Parameter :=
  Text.Similarity.mostAlike? Parameter.longName name Parameter.options

def unknownLong (r : Reading) (name : String) : Fault :=
  let argument := "--" ++ name
  match similar? name with
  | some p => .unexpected argument (some (.similar p)) (r.usedAfter ++ [p])
  | none => .unexpected argument (some (.afterDashes argument)) r.usedAfter

def equals : UInt8 := 0x3d

/-- An argument `--name` or `--name=value`, without the dashes. -/
def long (r : Reading) (body : List UInt8) : Except Stop Reading :=
  let name := body.takeWhile (· != equals)
  let value := (body.drop name.length).drop 1
  let hasValue := name.length < body.length
  match (Text.Utf8.decode? name).bind Parameter.ofLongName? with
  | none => .error (.fault (unknownLong r (Text.Utf8.decodeLossy name)))
  | some .output => (if hasValue then r.assign value else r.await).mapError .fault
  | some parameter =>
    if hasValue then
      let shown := Text.Utf8.decodeLossy value
      .error (.fault (.valueUnneeded parameter shown r.used.isEmpty))
    else r.flag parameter

/-- The first character of well-formed octets. -/
def firstChar? (octets : List UInt8) : Option Char :=
  (List.range 4).findSome? fun n => (Text.Utf8.decode? (octets.take (n + 1))).bind (·.toList.head?)

def unknownShort (argument : String) : Stop :=
  .fault (.unexpected argument (some (.afterDashes argument)) [])

/-- An argument of one-letter options after a dash. The value of `-o` is the rest
of the argument, if any, without an equals sign before it. -/
def short (r : Reading) : List UInt8 → Except Stop Reading
  | [] => .ok r
  | b :: rest =>
    match firstChar? (b :: rest) with
    | none => .error (unknownShort ("-" ++ Text.Utf8.decodeLossy (b :: rest)))
    | some c => match Parameter.ofLetter? c with
      | none => .error (unknownShort ("-" ++ c.toString))
      | some .output =>
        let value := if rest.head? = some equals then rest.drop 1 else rest
        (if rest.isEmpty then r.await else r.assign value).mapError .fault
      | some parameter => do short (← r.flag parameter) rest

def dash : UInt8 := 0x2d

/-- Reads arguments; `onlyFiles` tells whether `--` has been met. -/
def read (r : Reading) (onlyFiles : Bool) : List (List UInt8) → Except Stop Reading
  | [] => r.settle.mapError .fault
  | argument :: rest =>
    if onlyFiles then do read (← (r.file argument).mapError .fault) true rest
    else if argument = [dash, dash] then read r true rest
    else if [dash, dash].isPrefixOf argument then do
      read (← long r (argument.drop 2)) false rest
    else if [dash].isPrefixOf argument && argument != [dash] then do
      read (← short r (argument.drop 1)) false rest
    else if r.isWaiting then
      read { r with pending := some (.output, some argument) } false rest
    else do read (← (r.file argument).mapError .fault) false rest

/-- What a list of arguments asks for. -/
def parse (arguments : List (List UInt8)) : Except Stop Invocation :=
  (read .start false arguments).map (·.invocation)

open Text (Style Styled)

/-- A parameter in a usage line. -/
def Parameter.styled : Parameter → Styled
  | .file => [(.plain, "<FILE>")]
  | .output => [(.literal, "--output"), (.plain, " <OUTPUT>")]
  | parameter => [(.literal, parameter.display)]

/-- What a usage line shows after the command's name. Without parameters to show it
is the general line. A file stands last, whether it was used or not. -/
def usageOf (used : List Parameter) : Styled :=
  if used.isEmpty then [(.plain, " [OPTIONS] [FILE]")]
  else
    let options := (used.filter (· != .file)).eraseDups.flatMap fun p => (.plain, " ") :: p.styled
    options ++ (.plain, " ") :: if used.contains .file then Parameter.file.styled else [(.plain, "[FILE]")]

/-- A usage line, given what it shows after the command's name. -/
def usageLine (rest : Styled) : Styled :=
  [(.heading, "Usage:"), (.plain, " "), (.literal, "vaultfill")] ++ rest

def usage (used : List Parameter) : Styled := usageLine (usageOf used)

/-- The parameters of a run: all but those that ask about the command. -/
def Parameter.ofRun : List Parameter := [.file, .output, .quiet]

/-- The parameters of a run as alternatives. -/
def alternatives : String :=
  let shown (p : Parameter) := if p = .file then "FILE" else p.display
  "<" ++ "|".intercalate (Parameter.ofRun.map shown) ++ ">"

/-- The usage line for an option that was given a value it does not take. After other
parameters those of a run stand together, whichever were used, and this option
stands before them unless it is one of them. -/
def usageBeside (parameter : Parameter) (alone : Bool) : Styled :=
  if alone then usage [parameter]
  else
    let own := if Parameter.ofRun.contains parameter then [] else (.plain, " ") :: parameter.styled
    usageLine (own ++ [(.plain, " " ++ alternatives)])

/-- A text in quotes. -/
def quoted (style : Style) (text : String) : Styled :=
  [(.plain, "'"), (style, text), (.plain, "'")]

def Tip.message (tip : Tip) : Styled :=
  [(.plain, "  "), (.offered, "tip:")] ++ match tip with
  | .afterDashes argument =>
    [(.plain, " to pass ")] ++ quoted .refused argument ++ [(.plain, " as a value, use ")] ++
      quoted .offered ("-- " ++ argument)
  | .similar parameter =>
    [(.plain, " a similar argument exists: ")] ++ quoted .offered ("--" ++ parameter.longName)

/-- What is wrong, in one sentence. -/
def Fault.summary : Fault → Styled
  | .unexpected argument _ _ =>
    [(.plain, " unexpected argument ")] ++ quoted .refused argument ++ [(.plain, " found")]
  | .repeated parameter =>
    [(.plain, " the argument ")] ++ quoted .refused parameter.display ++
      [(.plain, " cannot be used multiple times")]
  | .valueMissing parameter =>
    [(.plain, " a value is required for ")] ++ quoted .refused parameter.display ++
      [(.plain, " but none was supplied")]
  | .valueUnneeded parameter value _ =>
    [(.plain, " unexpected value ")] ++ quoted .refused value ++ [(.plain, " for ")] ++
      quoted .literal parameter.display ++ [(.plain, " found; no more were expected")]

/-- The advice on a fault: a tip, and how the command is used. -/
def Fault.advice : Fault → List Styled
  | .unexpected _ tip used => (tip.map Tip.message).toList ++ [usage used]
  | .repeated _ => [usage []]
  | .valueMissing _ => []
  | .valueUnneeded parameter _ alone => [usageBeside parameter alone]

/-- The message of a fault: paragraphs with blank lines between them. -/
def Fault.message (fault : Fault) : Styled :=
  let first := (.fault, "error:") :: fault.summary
  let last := [(.plain, "For more information, try ")] ++ quoted .literal "--help" ++ [(.plain, ".\n")]
  [(.plain, "\n\n")].intercalate (first :: fault.advice ++ [last])

def versionText : String := "vaultfill 0.1.0\n"

/-- A line of help on an option. -/
def optionHelp (letter name text : String) : Styled :=
  [(.plain, "  "), (.literal, letter), (.plain, ", "), (.literal, name), (.plain, text ++ "\n")]

def helpText : Styled :=
  [(.plain, "Fill placeholder templates in JSON documents — random secrets, env values, cross-references\n\n")] ++
  usage [] ++
  [(.plain, "\n\n"), (.heading, "Arguments:"),
    (.plain, "\n  [FILE]  JSON document to fill (default: read standard input)\n\n"),
    (.heading, "Options:"), (.plain, "\n")] ++
  optionHelp "-o" "--output" " <OUTPUT>  Write the result here instead of standard output" ++
  optionHelp "-q" "--quiet" "            Suppress template warnings" ++
  optionHelp "-h" "--help" "             Print help" ++
  optionHelp "-V" "--version" "          Print version"

end Arguments

end TemplateFill
