import TemplateFill.CommandLine.Log
import TemplateFill.CommandLine.Streams

/-! The whole command: its arguments, its environment, and what it leaves behind. -/
namespace TemplateFill

/-- What a process shows when it ends. -/
structure Transcript where
  code : Nat
  output : String
  errors : String

namespace Transcript

/-- The end of a process whose arguments do not lead to a run. -/
def ofStop (styles : Bool) : Arguments.Stop → Transcript
  | .help => ⟨0, Arguments.helpText.write styles, ""⟩
  | .version => ⟨0, Arguments.versionText, ""⟩
  | .fault fault => ⟨2, "", fault.message.write styles⟩

/-- The end of a process, given how its run ended. The log stands before the error. -/
def ofAftermath (settings : Log.Settings) (aftermath : Aftermath) : Transcript :=
  let log := Log.render settings ((aftermath.report.map Log.events).getD [])
  let output := Text.Utf8.decodeLossy aftermath.printed.toList
  match aftermath.result with
  | .ok _ => ⟨0, output, log⟩
  | .error failure => ⟨1, output, log ++ failure.line⟩

/-- Adds what the run has written to files that stand for streams, which it does last. -/
def addWritten (transcript : Transcript) (files : FileSystem) : Transcript :=
  { transcript with
    output := transcript.output ++ Streams.written files Streams.output
    errors := transcript.errors ++ Streams.written files Streams.errors }

end Transcript

/-- A process that takes its random words from `random`, and whose output is no
terminal: what it shows, and the files it leaves. -/
def runProcess (arguments : List (List UInt8)) (environment : Environment)
    (random : Random.Generator) (world : World) : Transcript × FileSystem :=
  match Arguments.parse arguments with
  | .error stop => (.ofStop (environment.wantsStyles false) stop, world.files)
  | .ok invocation =>
    let supply : Supply := ⟨environment.text?, random⟩
    let aftermath := supply.dispatch invocation (Streams.attach world)
    let settings := Log.Settings.ofEnvironment environment invocation.quiet
    let transcript := Transcript.ofAftermath settings aftermath
    (transcript.addWritten aftermath.files, Streams.detach world.files aftermath.files)

end TemplateFill
