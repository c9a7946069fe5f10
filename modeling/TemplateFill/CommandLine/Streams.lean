import TemplateFill.CommandLine.World

/-! Files that stand for the streams of a process, and the one that stays empty. A run
reads and writes them like all others; what it has written to them is then shown
where the streams lead, and the files themselves are not left behind. -/
namespace TemplateFill.Streams

def directory : Location := [[FileName.slash], "dev".toUTF8.toList]

def place (name : String) : Location := directory ++ [name.toUTF8.toList]

def input : Location := place "stdin"

def output : Location := place "stdout"

def errors : Location := place "stderr"

/-- A world with the files that stand for its streams. -/
def attach (world : World) : World :=
  let put (files : FileSystem) (file : Location × ByteArray) := files.put file.1 (.file file.2)
  let (content, refusal) := match world.console.input with
    | .ok octets => (octets, none)
    | .error e => (.empty, some e)
  let streams := [(place "null", .empty), (input, content), (output, .empty), (errors, .empty)]
  let files := streams.foldl put (world.files.put directory .directory)
  { world with files :=
    { files with
      refusal := fun access location =>
        if access = .read ∧ location = input then refusal else files.refusal access location } }

/-- What has been written to a stream. -/
def written (files : FileSystem) (stream : Location) : String :=
  match files.get? stream with
  | some (.file content) => Text.Utf8.decodeLossy content.toList
  | _ => ""

/-- The files that are left behind, where there were others before. -/
def detach (before files : FileSystem) : FileSystem :=
  { before with entries := files.entries.filter fun entry => !directory.isPrefixOf entry.1 }

end TemplateFill.Streams
