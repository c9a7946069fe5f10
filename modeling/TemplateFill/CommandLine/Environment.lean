import TemplateFill.Text.Utf8

/-! The variables of a process: octets under names. A name that cannot stand in an
environment (empty, or with an equals sign or a NUL) is not set there. -/
namespace TemplateFill

abbrev Environment := List (String × List UInt8)

namespace Environment

def octets? (environment : Environment) (name : String) : Option (List UInt8) :=
  if name.isEmpty || name.toList.any (fun c => c = '=' || c = '\x00') then none
  else environment.lookup name

/-- A variable as text, broken UTF-8 replaced. -/
def text? (environment : Environment) (name : String) : Option String :=
  (environment.octets? name).map Text.Utf8.decodeLossy

/-- A variable that is set to well-formed text. -/
def strict? (environment : Environment) (name : String) : Option String :=
  (environment.octets? name).bind Text.Utf8.decode?

/-- Whether a variable is set to something. -/
def isFilled (environment : Environment) (name : String) : Bool :=
  (environment.octets? name).any (!·.isEmpty)

/-- Whether messages about the arguments have styles; `terminal` tells whether they go
to a terminal. They have none elsewhere, unless a variable asks for them. -/
def wantsStyles (environment : Environment) (terminal : Bool) : Bool :=
  let zero : List UInt8 := [0x30]
  let dumb : List UInt8 := [0x64, 0x75, 0x6d, 0x62]
  if environment.isFilled "NO_COLOR" then false
  else if environment.isFilled "CLICOLOR_FORCE" then true
  else terminal && match environment.octets? "CLICOLOR" with
    | some value => value != zero
    | none => (environment.octets? "CI").isSome || (environment.octets? "TERM").any (· != dumb)

end Environment

end TemplateFill
