import TemplateFill.CommandLine.Program
import TemplateFill.Random.Scripted

/-! The command itself: it gathers what the process is given, has the document
filled on the host that the system is, and shows what failed. Random words come from
the system. How many a document takes is known only once it is filled, so filling
starts over with more words, the first ones the same, whenever there were too few. -/
namespace TemplateFill.Main

/-- The variables of this process, from the octets of its environment block. -/
def environmentOf (block : List UInt8) : Environment :=
  (pieces [] block).filterMap fun entry =>
    let name := entry.takeWhile (· != 0x3d)
    if name.length < entry.length then
      some (Text.Utf8.decodeLossy name, entry.drop (name.length + 1))
    else none
where
  pieces (piece : List UInt8) : List UInt8 → List (List UInt8)
    | [] => []
    | b :: rest => if b = 0 then piece.reverse :: pieces [] rest else pieces (b :: piece) rest

def environment : IO Environment := do
  try return environmentOf (← (← IO.FS.Handle.mk "/proc/self/environ" .read).readBinToEnd).toList
  catch _ => return []

/-- What the system says of an error. -/
def reason : IO.Error → String
  | .noFileOrDirectory _ code details => s!"{details} (os error {code})"
  | .permissionDenied _ code details => s!"{details} (os error {code})"
  | .inappropriateType _ code details => s!"{details} (os error {code})"
  | .invalidArgument _ code details => s!"{details} (os error {code})"
  | .resourceExhausted _ code details => s!"{details} (os error {code})"
  | .resourceVanished code details => s!"{details} (os error {code})"
  | .otherError code details => s!"{details} (os error {code})"
  | e => toString e

def attempt {α : Type} (action : IO α) : IO (Except FileError α) := do
  try return .ok (← action)
  catch e => return .error (.other (reason e))

/-- All octets that are left in a stream. -/
partial def readAll (stream : IO.FS.Stream) (read : ByteArray) : IO ByteArray := do
  let more ← stream.read 65536
  if more.isEmpty then return read else readAll stream (read ++ more)

/-- The system as the host of a run. -/
def host : Host IO where
  readFile name := attempt do (← IO.FS.Handle.mk (FileName.display name) .read).readBinToEnd
  readInput := attempt do readAll (← IO.getStdin) .empty
  writeFile name octets := attempt (IO.FS.writeBinFile (FileName.display name) octets)
  print octets := attempt do
    let output ← IO.getStdout
    output.write octets
    output.flush

/-- Words made of four octets each, after those in `found`. -/
def words (found : Array UInt32) : List UInt8 → Array UInt32
  | a :: b :: c :: d :: rest =>
    words (found.push
      (a.toUInt32 ||| b.toUInt32 <<< 8 ||| c.toUInt32 <<< 16 ||| d.toUInt32 <<< 24)) rest
  | _ => found

/-- Fills a document with random words of the system: those in `drawn`, and `count` more. -/
partial def fill (environment : Environment) (document : Json) (drawn : Array UInt32)
    (count : Nat) : IO Report := do
  let drawn := words drawn (← IO.getRandomBytes (4 * count).toUSize).toList
  let supply : Supply := ⟨environment.text?, Random.Source.scripted drawn 0⟩
  let report := supply.fill document 0
  if report.position ≤ drawn.size then return report
  else
    let needed := report.position + report.position / 16
    fill environment document drawn (needed - drawn.size)

/-- Shows a text, unless the stream takes none. -/
def put (stream : IO.FS.Stream) (text : String) : IO Unit := do
  try stream.putStr text; stream.flush
  catch _ => return ()

/-- Shows why the arguments do not lead to a run. -/
def explain (stop : Arguments.Stop) : IO UInt32 := do
  let stream ← match stop with
    | .fault _ => IO.getStderr
    | _ => IO.getStdout
  let transcript := Transcript.ofStop ((← environment).wantsStyles (← stream.isTty)) stop
  put (← IO.getStderr) transcript.errors
  put (← IO.getStdout) transcript.output
  return transcript.code.toUInt32

/-- Runs, and logs the warnings of a document as soon as it is filled. -/
def perform (invocation : Invocation) : IO UInt32 := do
  let environment ← environment
  let settings := Log.Settings.ofEnvironment environment invocation.quiet
  let fillAndLog (document : Json) : IO Report := do
    let report ← fill environment document #[] 4096
    put (← IO.getStderr) (Log.render settings (Log.events report))
    return report
  match (← host.dispatch fillAndLog invocation).result with
  | .ok _ => return 0
  | .error failure =>
    put (← IO.getStderr) failure.line
    return 1

end TemplateFill.Main

def main (arguments : List String) : IO UInt32 :=
  match TemplateFill.Arguments.parse (arguments.map (·.toUTF8.toList)) with
  | .error stop => TemplateFill.Main.explain stop
  | .ok invocation => TemplateFill.Main.perform invocation
