/-! The kinds of placeholder. Each belongs to one mode of filling: values are
generated first, and references are followed once they are. -/
namespace TemplateFill

inductive Mode where
  | generative
  | reference
  deriving DecidableEq, Repr

inductive Kind where
  | alnum
  | alpha
  | digit
  | b64
  | env
  | ref
  deriving DecidableEq, Repr

namespace Kind

def all : List Kind := [.alnum, .alpha, .digit, .b64, .env, .ref]

def name : Kind → String
  | .alnum => "alnum"
  | .alpha => "alpha"
  | .digit => "digit"
  | .b64 => "b64"
  | .env => "env"
  | .ref => "ref"

/-- The kind of a name; `digits` is a second name of `digit`. -/
def ofName? (name : String) : Option Kind :=
  if name = "digits" then some .digit else all.find? (·.name == name)

def mode : Kind → Mode
  | .ref => .reference
  | _ => .generative

/-- The names as a warning lists them. -/
def validNames : String := String.intercalate ", " (all.map name)

theorem ofName?_name (kind : Kind) : ofName? kind.name = some kind := by
  cases kind <;> decide

/-- A kind has its name, and `digit` the other one too. -/
theorem ofName?_eq_some_iff {name : String} {kind : Kind} :
    ofName? name = some kind ↔ name = kind.name ∨ name = "digits" ∧ kind = .digit := by
  constructor
  · intro h
    unfold ofName? at h
    split at h
    · next hname => exact .inr ⟨hname, (Option.some.inj h).symm⟩
    · have hname := List.find?_some h
      exact .inl (eq_of_beq hname).symm
  · rintro (rfl | ⟨rfl, rfl⟩)
    · exact ofName?_name kind
    · rfl

end Kind

end TemplateFill
