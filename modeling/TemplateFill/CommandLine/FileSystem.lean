import TemplateFill.CommandLine.FileName
import TemplateFill.Members

/-! Files as a program sees them from its working directory. A file name is followed
name by name through directories; `.` stays, `..` goes up, and a link leads on to the
place that it stands for. What lies outside the working directory is empty but for what
has been put there. A place may refuse what is asked of it. Opening a file either fails
and changes nothing, or succeeds. -/
namespace TemplateFill

/-- The names that lead to a place from the working directory. Places above it
start with `..`, and places below the root with a slash. -/
abbrev Location := List FileName

inductive Entry where
  | directory
  | file (content : ByteArray)

/-- What is asked of a place: to look for names in a directory, to make a file there, to
read a file, or to write to it. -/
inductive Access where
  | search
  | make
  | read
  | write
  deriving DecidableEq, Repr

/-- Directories and files by their places, the links to them, and which requests are
refused and why. Two links to one place are two names of one file. -/
structure FileSystem where
  entries : List (Location × Entry)
  links : List (Location × Location)
  refusal : Access → Location → Option FileError

/-- A file name taken apart. -/
structure Route where
  start : Location
  names : List FileName
  /-- The name ends with a slash, so it can only name a directory. -/
  slashAtEnd : Bool

def Route.ofName (name : FileName) : Except FileError Route :=
  if name.isEmpty then .error .notFound
  else if name.contains 0 then .error .nulInName
  else if FileName.bound ≤ name.length then .error .nameTooLong
  else .ok ⟨if name.head? = some FileName.slash then [[FileName.slash]] else [],
    (FileName.pieces [] name).filter (!·.isEmpty), name.getLast? = some FileName.slash⟩

namespace FileSystem

def empty : FileSystem := ⟨[], [], fun _ _ => none⟩

/-- The working directory and all directories above it exist. -/
def isAbove (location : Location) : Bool :=
  location.all fun name => name = FileName.dotDot || name = [FileName.slash]

def get? (files : FileSystem) (location : Location) : Option Entry :=
  if isAbove location then some .directory else Members.get? files.entries location

def put (files : FileSystem) (location : Location) (entry : Entry) : FileSystem :=
  { files with entries := Members.insert files.entries location entry }

def isDirectory (files : FileSystem) (location : Location) : Bool :=
  files.get? location matches some .directory

def parent (location : Location) : Location :=
  match location.getLast? with
  | none => [FileName.dotDot]
  | some name =>
    if name = [FileName.slash] then location
    else if name = FileName.dotDot then location ++ [FileName.dotDot]
    else location.dropLast

def permit (files : FileSystem) (access : Access) (location : Location) : Except FileError Unit :=
  match files.refusal access location with
  | none => .ok ()
  | some e => .error e

def search (files : FileSystem) (location : Location) : Except FileError Unit :=
  if files.isDirectory location then files.permit .search location else .error .notDirectory

/-- Where a name leads from a directory, whether or not something is there. -/
def child (files : FileSystem) (location : Location) (name : FileName) :
    Except FileError Location :=
  if name = FileName.dot then .ok location
  else if name = FileName.dotDot then .ok (parent location)
  else if FileName.maxPiece < name.length then .error .nameTooLong
  else
    let place := location ++ [name]
    .ok ((Members.get? files.links place).getD place)

/-- Follows one name from a directory. -/
def enter (files : FileSystem) (location : Location) (name : FileName) :
    Except FileError Location := do
  files.search location
  let place ← files.child location name
  if (files.get? place).isSome then return place else throw .notFound

def walk (files : FileSystem) (location : Location) (names : List FileName) :
    Except FileError Location :=
  names.foldlM files.enter location

/-- The place that a name leads to. -/
def resolve (files : FileSystem) (name : FileName) : Except FileError Location := do
  let route ← Route.ofName name
  let place ← files.walk route.start route.names
  if route.slashAtEnd && !files.isDirectory place then throw .notDirectory
  return place

/-- The content of a file. -/
def read (files : FileSystem) (name : FileName) : Except FileError ByteArray := do
  let place ← files.resolve name
  match files.get? place with
  | some (.file content) => do
    files.permit .read place
    return content
  | _ => throw .isDirectory

/-- A place takes what is written to it: as a file that is there, or as a new one. -/
def accept (files : FileSystem) (place : Location) : Except FileError Unit :=
  match files.get? place with
  | some .directory => .error .isDirectory
  | some (.file _) => files.permit .write place
  | none =>
    if files.isDirectory place.dropLast then files.permit .make place.dropLast
    else .error .notFound

/-- Where a file of some name is or can be made. -/
def target (files : FileSystem) (name : FileName) : Except FileError Location := do
  let route ← Route.ofName name
  match route.names.getLast? with
  | none => throw .isDirectory
  | some last => do
    let directory ← files.walk route.start route.names.dropLast
    files.search directory
    if route.slashAtEnd then throw .isDirectory
    let place ← files.child directory last
    files.accept place
    return place

/-- Gives a file new content, or makes it. -/
def write (files : FileSystem) (name : FileName) (content : ByteArray) :
    Except FileError FileSystem := do
  return files.put (← files.target name) (.file content)

end FileSystem

end TemplateFill
