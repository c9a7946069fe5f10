import TemplateFill.CommandLine.Dispatch
import TemplateFill.CommandLine.FileSystem

/-! A host in which nothing else goes on: files, a standard input that can be read or
not, and a standard output that may fail after some octets. A run in a world gives the
world that it leaves. -/
namespace TemplateFill

/-- Standard input and output. -/
structure Console where
  input : Except FileError ByteArray
  printed : ByteArray
  /-- How many more octets are printed before printing fails, and why it does. -/
  fault : Option (Nat × FileError)

namespace Console

def empty : Console := ⟨.ok .empty, .empty, none⟩

/-- A console that has an input, and prints whatever it is given. -/
def ofInput (input : ByteArray) : Console := { empty with input := .ok input }

/-- Prints as much as there is room for. -/
def print (console : Console) (octets : ByteArray) : Except FileError Unit × Console :=
  match console.fault with
  | none => (.ok (), { console with printed := console.printed ++ octets })
  | some (room, e) =>
    (if octets.size ≤ room then .ok () else .error e,
      { console with
        printed := console.printed ++ octets.extract 0 room
        fault := some (room - octets.size, e) })

end Console

instance : Coe ByteArray Console := ⟨Console.ofInput⟩

structure World where
  files : FileSystem
  console : Console

namespace World

def readInput (world : World) : Except FileError ByteArray × World :=
  let rest := world.console.input.map fun _ => .empty
  (world.console.input, { world with console := { world.console with input := rest } })

def writeFile (name : FileName) (octets : ByteArray) (world : World) :
    Except FileError Unit × World :=
  match world.files.write name octets with
  | .error e => (.error e, world)
  | .ok files => (.ok (), { world with files })

def print (octets : ByteArray) (world : World) : Except FileError Unit × World :=
  let (answer, console) := world.console.print octets
  (answer, { world with console })

def host : Host (StateM World) where
  readFile name := return (← get).files.read name
  readInput := modifyGet readInput
  writeFile name octets := modifyGet (writeFile name octets)
  print octets := modifyGet (print octets)

end World

/-- How a run ends, with the world that it leaves. -/
structure Aftermath extends Ending where
  world : World

namespace Aftermath

def files (aftermath : Aftermath) : FileSystem := aftermath.world.files

def printed (aftermath : Aftermath) : ByteArray := aftermath.world.console.printed

end Aftermath

def Supply.dispatch (supply : Supply) (invocation : Invocation) (world : World) : Aftermath :=
  let (ending, world) := (supply.dispatchOn World.host invocation).run world
  ⟨ending, world⟩

end TemplateFill
