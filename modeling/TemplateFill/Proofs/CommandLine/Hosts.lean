import TemplateFill.CommandLine.Dispatch

/-! # Lawful hosts

What can be told of a host at some moment is a view of its state: which file each name
leads to, what the files hold, what standard input holds, and what has been printed. A
lawful host reads, writes and prints as these words are meant. When it fails is left open:
this may depend on permissions, on the room that is left, or on anything else in its
state. That a write fails before it has changed anything is not a law but an assumption
of its own. -/
namespace TemplateFill

/-- What a name leads to, all links followed. -/
inductive Lead (File : Type) where
  | nothing
  | file (file : File)
  | directory
  /-- What can be read and written but keeps no content: a device, a pipe, or what the streams
  of the process have been led to. -/
  | device
  deriving DecidableEq, Repr

structure View (σ : Type) where
  /-- Files as such; one file may have many names. -/
  File : Type
  lead : σ → FileName → Lead File
  content : σ → File → Option ByteArray
  input : σ → ByteArray
  printed : σ → ByteArray

namespace View

variable {σ : Type} (view : View σ)

/-- Names lead where they have led before, and files hold what they have held. -/
structure SameFiles (s s' : σ) : Prop where
  lead : view.lead s' = view.lead s
  content : view.content s' = view.content s

/-- No file has changed, and nothing has been printed. -/
structure Same (s s' : σ) : Prop extends view.SameFiles s s' where
  printed : view.printed s' = view.printed s

/-- No file has changed, and these octets have been printed. -/
structure Printed (octets : ByteArray) (s s' : σ) : Prop extends view.SameFiles s s' where
  printed : view.printed s' = view.printed s ++ octets

/-- The name leads to a file that holds these octets: the one that it has led to before, or
a new one. No other file has changed, nor has any name of one, and nothing has been
printed. -/
structure FileWritten (name : FileName) (octets : ByteArray) (file : view.File) (s s' : σ) :
    Prop where
  before : view.lead s name = .file file ∨
    view.lead s name = .nothing ∧ view.content s file = none
  lead : view.lead s' name = .file file
  content : view.content s' file = some octets
  others : ∀ other, other ≠ file → view.content s' other = view.content s other
  names : ∀ other, view.lead s' other = view.lead s other ∨
    view.lead s other = .nothing ∧ view.lead s' other = .file file
  printed : view.printed s' = view.printed s

/-- These octets have been written under a name. Under one that leads to a device they go
there, and no file has changed. -/
def Written (name : FileName) (octets : ByteArray) (s s' : σ) : Prop :=
  (∃ file, view.FileWritten name octets file s s') ∨
    view.lead s name = .device ∧ view.SameFiles s s'

/-- An input has these octets. Those of a device are only told by reading it. -/
inductive Offers (s : σ) (octets : ByteArray) : Option FileName → Prop
  | input (h : view.input s = octets) : Offers s octets none
  | file {name : FileName} {file : view.File} (hlead : view.lead s name = .file file)
      (h : view.content s file = some octets) : Offers s octets (some name)
  | device {name : FileName} (hlead : view.lead s name = .device) : Offers s octets (some name)

variable {view} {s s₁ s' : σ} {octets : ByteArray}

theorem Same.trans (h : view.Same s s₁) (h' : view.Same s₁ s') : view.Same s s' where
  lead := h'.lead.trans h.lead
  content := h'.content.trans h.content
  printed := h'.printed.trans h.printed

end View

namespace Host

variable {σ : Type} (host : Host (StateM σ)) (view : View σ)

/-- Reading changes nothing and gives what the input has. Writing, where it does not fail,
gives one file the octets as its content. What is printed starts the octets that were to be
printed, and is all of them unless printing fails. -/
structure Lawful : Prop where
  read_same {file : Option FileName} {s s' : σ} {answer : Except FileError ByteArray}
    (h : (host.read file).run s = (answer, s')) : view.Same s s'
  read_offers {file : Option FileName} {s s' : σ} {octets : ByteArray}
    (h : (host.read file).run s = (.ok octets, s')) : view.Offers s octets file
  write_written {name : FileName} {octets : ByteArray} {s s' : σ}
    (h : (host.writeFile name octets).run s = (.ok (), s')) : view.Written name octets s s'
  print_part {octets : ByteArray} {s s' : σ} {answer : Except FileError Unit}
    (h : (host.print octets).run s = (answer, s')) :
    ∃ part rest, part ++ rest = octets ∧ view.Printed part s s' ∧
      (answer = .ok () → part = octets)

/-- A write to a file that fails does so on opening, before it has changed anything. -/
def WritesWhole : Prop :=
  ∀ {name : FileName} {octets : ByteArray} {s s' : σ} {e : FileError},
    (host.writeFile name octets).run s = (.error e, s') → view.Same s s'

end Host

end TemplateFill
