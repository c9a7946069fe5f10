import TemplateFill.CommandLine.Arguments
import TemplateFill.Fill.Run
import TemplateFill.Json.Parser
import TemplateFill.Json.Printer

/-! Filling one document: it is read from a file or from standard input, filled,
and written to a file or to standard output. Whatever lies outside the program is
asked of a host, and each request may fail; rendering cannot, as all keys are texts
and all numbers are finite. Nothing is written or printed unless everything before
has succeeded. -/
namespace TemplateFill

/-- What a run asks of the machine that it runs on. -/
structure Host (m : Type → Type) where
  readFile : FileName → m (Except FileError ByteArray)
  readInput : m (Except FileError ByteArray)
  /-- Gives a file new content, or makes it. -/
  writeFile : FileName → ByteArray → m (Except FileError Unit)
  print : ByteArray → m (Except FileError Unit)

/-- Why a document is not filled. -/
inductive Failure where
  | unreadableFile (name : FileName) (error : FileError)
  | unreadableInput (error : FileError)
  | notJson (error : Json.ReadError)
  | emptyDocument
  | unwritableFile (name : FileName) (error : FileError)
  | unwritableOutput (error : FileError)
  deriving DecidableEq, Repr

namespace Failure

/-- Why an input is not read. -/
def ofRead (file : Option FileName) (error : FileError) : Failure :=
  match file with
  | some name => .unreadableFile name error
  | none => .unreadableInput error

def message : Failure → String
  | .unreadableFile name e => s!"cannot open \"{FileName.display name}\": {e.message}"
  | .unreadableInput e => s!"cannot read standard input: {e.message}"
  | .notJson e => s!"JSON parse error: {e.message}"
  | .emptyDocument => "JSON document is empty"
  | .unwritableFile name e => s!"cannot write {FileName.display name}: {e.message}"
  | .unwritableOutput e => s!"cannot write standard output: {e.message}"

/-- The line that ends a run that has failed. -/
def line (failure : Failure) : String := s!"error: {failure.message}\n"

end Failure

/-- Reads a document that has something in it. -/
def parseDocument (text : String) : Except Failure Json :=
  match Json.parse text with
  | .error e => .error (.notJson e)
  | .ok document => if document.isEmpty then .error .emptyDocument else .ok document

/-- The text of an input, given what reading it was answered. -/
def inputText (file : Option FileName) (answer : Except FileError ByteArray) :
    Except Failure String :=
  match answer with
  | .error e => .error (.ofRead file e)
  | .ok octets => match String.fromUTF8? octets with
    | some text => .ok text
    | none => .error (.ofRead file .notUtf8)

def inputDocument (file : Option FileName) (answer : Except FileError ByteArray) :
    Except Failure Json := do
  parseDocument (← inputText file answer)

/-- How a run ends: whether it succeeded, and the report if a document was filled. -/
structure Ending where
  result : Except Failure Unit
  report : Option Report

namespace Host

variable {m : Type → Type} [Monad m] (host : Host m)

def read : Option FileName → m (Except FileError ByteArray)
  | some name => host.readFile name
  | none => host.readInput

/-- Writes a text where it is wanted. -/
def deliver (text : String) : Option FileName → m (Except Failure Unit)
  | some name => return (← host.writeFile name text.toUTF8).mapError (.unwritableFile name)
  | none => return (← host.print text.toUTF8).mapError .unwritableOutput

/-- Fills the document that an invocation names in the way of `fill`. -/
def dispatch (fill : Json → m Report) (invocation : Invocation) : m Ending := do
  match inputDocument invocation.file (← host.read invocation.file) with
  | .error failure => return ⟨.error failure, none⟩
  | .ok document =>
    let report ← fill document
    return ⟨← host.deliver report.document.render invocation.output, some report⟩

end Host

/-- Fills the document that an invocation names with the random words of a supply. -/
def Supply.dispatchOn {m : Type → Type} [Monad m] (supply : Supply) (host : Host m)
    (invocation : Invocation) : m Ending :=
  host.dispatch (fun document => pure (supply.fill document 0)) invocation

end TemplateFill
