import TemplateFill.Proofs.CommandLine.Files
import TemplateFill.Random.Scripted

/-! # All or nothing

A run reads its input, and then either stops or has a filled document, for which it asks
the host once more: to write it to a file or to print it. So a run that fails has left all
files as they were, and a run that succeeds has changed the one place that was asked for. -/
namespace TemplateFill

/-- Why the answer to reading an input gives no document. -/
inductive InputFails (file : Option FileName) : Except FileError ByteArray → Failure → Prop
  | unreadable (e : FileError) : InputFails file (.error e) (.ofRead file e)
  | notText {octets : ByteArray} (h : String.fromUTF8? octets = none) :
      InputFails file (.ok octets) (.ofRead file .notUtf8)
  | notJson {octets : ByteArray} {text : String} {e : Json.ReadError}
      (htext : String.fromUTF8? octets = some text) (h : Json.parse text = .error e) :
      InputFails file (.ok octets) (.notJson e)
  | empty {octets : ByteArray} {text : String} {document : Json}
      (htext : String.fromUTF8? octets = some text) (hparse : Json.parse text = .ok document)
      (h : document.isEmpty = true) : InputFails file (.ok octets) .emptyDocument

section Run

variable {σ : Type}

/-- Reading the input gives octets that are the text of a document. -/
structure Host.Holds (host : Host (StateM σ)) (file : Option FileName) (s s₁ : σ)
    (octets : ByteArray) (document : Json) : Prop where
  read : (host.read file).run s = (.ok octets, s₁)
  parsed : ∃ text, String.fromUTF8? octets = some text ∧ parseDocument text = .ok document

variable (supply : Supply) (host : Host (StateM σ)) (invocation : Invocation) (s : σ)

/-- What a run writes or prints for a document. -/
def Supply.rendered (document : Json) : ByteArray :=
  (supply.fill document 0).document.render.toUTF8

/-- The failures of a run, each with what it comes from. -/
inductive Fails : Failure → Prop
  | input {answer : Except FileError ByteArray} {failure : Failure} {s₁ : σ}
      (hread : (host.read invocation.file).run s = (answer, s₁))
      (h : InputFails invocation.file answer failure) : Fails failure
  | file {octets : ByteArray} {document : Json} {name : FileName} {e : FileError} {s₁ s' : σ}
      (hdocument : host.Holds invocation.file s s₁ octets document)
      (hname : invocation.output = some name)
      (h : (host.writeFile name (supply.rendered document)).run s₁ = (.error e, s')) :
      Fails (.unwritableFile name e)
  | output {octets : ByteArray} {document : Json} {e : FileError} {s₁ s' : σ}
      (hdocument : host.Holds invocation.file s s₁ octets document)
      (hnone : invocation.output = none)
      (h : (host.print (supply.rendered document)).run s₁ = (.error e, s')) :
      Fails (.unwritableOutput e)

/-- All that a run can do, with how it ends and the state that it leaves. -/
inductive Runs : Ending → σ → Prop
  | unread {answer : Except FileError ByteArray} {failure : Failure} {s₁ : σ}
      (hread : (host.read invocation.file).run s = (answer, s₁))
      (h : InputFails invocation.file answer failure) : Runs ⟨.error failure, none⟩ s₁
  | toFile {octets : ByteArray} {document : Json} {name : FileName}
      {answer : Except FileError Unit} {s₁ s' : σ}
      (hdocument : host.Holds invocation.file s s₁ octets document)
      (hname : invocation.output = some name)
      (h : (host.writeFile name (supply.rendered document)).run s₁ = (answer, s')) :
      Runs ⟨answer.mapError (.unwritableFile name), some (supply.fill document 0)⟩ s'
  | toOutput {octets : ByteArray} {document : Json} {answer : Except FileError Unit} {s₁ s' : σ}
      (hdocument : host.Holds invocation.file s s₁ octets document)
      (hnone : invocation.output = none)
      (h : (host.print (supply.rendered document)).run s₁ = (answer, s')) :
      Runs ⟨answer.mapError .unwritableOutput, some (supply.fill document 0)⟩ s'

variable {supply host invocation s}

theorem mapError_eq_error_iff {α ε ε' : Type} {f : ε → ε'} {answer : Except ε α} {e' : ε'} :
    answer.mapError f = .error e' ↔ ∃ e, answer = .error e ∧ f e = e' := by
  cases answer <;> simp [Except.mapError]

variable {view : View σ}

/-- A run that fails for any other reason than standard output has changed nothing. -/
theorem Runs.same {ending : Ending} {failure : Failure} {s' : σ} (hlawful : host.Lawful view)
    (hwrites : host.WritesWhole view) (h : Runs supply host invocation s ending s')
    (hresult : ending.result = .error failure) (hother : ∀ e, failure ≠ .unwritableOutput e) :
    view.Same s s' := by
  cases h with
  | unread hread _ => exact hlawful.read_same hread
  | toFile hdocument _ h =>
    obtain ⟨e, rfl, rfl⟩ := mapError_eq_error_iff.mp hresult
    exact (hlawful.read_same hdocument.read).trans (hwrites h)
  | toOutput _ _ h =>
    obtain ⟨e, rfl, rfl⟩ := mapError_eq_error_iff.mp hresult
    exact absurd rfl (hother e)

end Run

end TemplateFill
