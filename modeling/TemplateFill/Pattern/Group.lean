import TemplateFill.Pattern.Basic
import TemplateFill.Text.Alphanumeric

/-! What follows an opening parenthesis: the name of a group, settings for a group, or
settings for the rest of the group around them. -/
namespace TemplateFill.Pattern

open Text (Below isLetter isAlphanumeric)

inductive Opening where
  | settings (mode : Mode)
  | group (inner : Mode) (name : Option (List Char))

/-- Names start with a letter or an underscore. -/
def isName : List Char → Bool
  | [] => false
  | c :: rest =>
    (c = '_' || isLetter c) &&
      rest.all fun d => d = '_' || d = '.' || d = '[' || d = ']' || isAlphanumeric d

/-- Reads flags up to a colon or a closing parenthesis: the flags, whether a colon ends
them, and the rest. Each stands once at most, also the dash that negates those after
it, which is not the last. `seen` are those before, the last one first. -/
def flags? (seen : List Char) : List Char → Option (List Char × Bool × List Char)
  | [] => none
  | c :: rest =>
    if c = ':' || c = ')' then
      if seen.head? = some '-' then none else some (seen.reverse, c = ':', rest)
    else if "-imsUuRx".toList.contains c && !seen.contains c then flags? (c :: seen) rest
    else none

theorem flags?_length_lt {seen s flags rest : List Char} {colon : Bool}
    (h : flags? seen s = some (flags, colon, rest)) : rest.length < s.length := by
  induction s generalizing seen with
  | nil => cases h
  | cons c tail ih =>
    simp only [flags?] at h
    split at h
    · split at h
      · cases h
      · simp only [Option.some.injEq, Prod.mk.injEq] at h
        simp [h.2.2]
    · split at h
      · exact Nat.lt_succ_of_lt (ih h)
      · cases h

/-- A setting after flags: a flag sets it, or unsets it after a dash. -/
def setting (flags : List Char) (flag : Char) (before : Bool) : Bool :=
  if flags.contains flag then !(flags.takeWhile (· != flag)).contains '-' else before

def Mode.apply (mode : Mode) (flags : List Char) : Mode :=
  ⟨setting flags 'u' mode.unicode, setting flags 'x' mode.spaced⟩

/-- Reads a name up to the angle bracket that closes it. -/
def name? (s : List Char) : Option (List Char × Below (s.length + 1)) :=
  let name := s.takeWhile (· != '>')
  if name.length < s.length && isName name then
    some (name, ⟨s.drop (name.length + 1), by rw [List.length_drop]; omega⟩)
  else none

/-- Reads flags: settings for the rest of a group, or for the group that they open. -/
def settings? (mode : Mode) (s : List Char) : Option (Opening × Below (s.length + 1)) :=
  match h : flags? [] s with
  | none => none
  | some (flags, colon, rest) =>
    let after : Below (s.length + 1) := ⟨rest, Nat.lt_succ_of_lt (flags?_length_lt h)⟩
    if colon then some (.group (mode.apply flags) none, after)
    else if flags.isEmpty then none
    else some (.settings (mode.apply flags), after)

/-- Reads what follows an opening parenthesis. -/
def opening? (mode : Mode) (s : List Char) : Option (Opening × Below (s.length + 1)) :=
  have hskip := mode.skip_length_le s
  match hs : mode.skip s with
  | '?' :: rest =>
    have hle : rest.length + 1 ≤ s.length := by rwa [hs, List.length_cons] at hskip
    let named (t : List Char) (ht : t.length ≤ rest.length) :=
      (name? t).map fun (name, after) =>
        (Opening.group mode (some name),
          (⟨after.val, by have := after.property; omega⟩ : Below (s.length + 1)))
    match hr : rest with
    | 'P' :: '<' :: t => named t (by simp only [hr, List.length_cons]; omega)
    | '<' :: t => named t (by simp only [hr, List.length_cons]; omega)
    | t =>
      (settings? mode t).map fun (opening, after) =>
        (opening, ⟨after.val, by have := after.property; omega⟩)
  | rest => some (.group mode none, ⟨rest, by rw [hs] at hskip; omega⟩)

end TemplateFill.Pattern
