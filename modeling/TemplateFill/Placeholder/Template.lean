import TemplateFill.Text.Word

/-! Texts with placeholders. A placeholder is a kind and an argument between double
braces with a colon between them, the kind a run of word characters and the
argument a run of characters other than `}`. A text is cut at the placeholders
found from left to right; a place where none starts is passed over by one character. -/
namespace TemplateFill

/-- A placeholder, with its whole text in `raw`. -/
structure Placeholder where
  kind : String
  argument : String
  raw : String
  deriving DecidableEq, Repr

namespace Placeholder

/-- How a placeholder is written. -/
def chars (kind argument : List Char) : List Char :=
  '{' :: '{' :: kind ++ ':' :: argument ++ ['}', '}']

def ofParts (kind argument : List Char) : Placeholder :=
  ⟨String.ofList kind, String.ofList argument, String.ofList (chars kind argument)⟩

/-- The kind, the argument and the text after a placeholder whose opening braces
have been read. -/
def parts? (s : List Char) : Option (List Char × List Char × List Char) :=
  match s.dropWhile Text.isWord with
  | ':' :: body =>
    let kind := s.takeWhile Text.isWord
    let argument := body.takeWhile (· != '}')
    match body.dropWhile (· != '}') with
    | '}' :: '}' :: rest =>
      if kind.isEmpty || argument.isEmpty then none else some (kind, argument, rest)
    | _ => none
  | _ => none

/-- The placeholder at the head of a text, and the text after it. -/
def first? : List Char → Option (Placeholder × List Char)
  | '{' :: '{' :: s => (parts? s).map fun (kind, argument, rest) => (ofParts kind argument, rest)
  | _ => none

theorem parts?_length_lt {s kind argument rest : List Char}
    (h : parts? s = some (kind, argument, rest)) : rest.length < s.length := by
  unfold parts? at h
  split at h
  · next body hb =>
    have h₁ := (List.dropWhile_sublist Text.isWord (l := s)).length_le
    have h₂ := (List.dropWhile_sublist (· != '}') (l := body)).length_le
    split at h
    · next hr =>
      simp only at h
      split at h
      · cases h
      · cases h; simp only [hb, hr, List.length_cons] at h₁ h₂; omega
    · cases h
  · cases h

theorem first?_length_lt {s rest : List Char} {p : Placeholder}
    (h : first? s = some (p, rest)) : rest.length < s.length := by
  unfold first? at h
  split at h
  · obtain ⟨⟨kind, argument, rest'⟩, hp, he⟩ := Option.map_eq_some_iff.1 h
    cases he
    exact Nat.lt_succ_of_lt (Nat.lt_succ_of_lt (parts?_length_lt hp))
  · cases h

end Placeholder

/-- A text cut at its placeholders: each with the text between it and the one
before it, and the text after the last. -/
structure Template where
  segments : List (String × Placeholder)
  tail : String
  deriving DecidableEq, Repr

namespace Template

/-- Cuts the text `s`. `found` holds the segments before it and `skipped` the
characters since the last of them, both last first. -/
def cut (found : List (String × Placeholder)) (skipped s : List Char) : Template :=
  match _h : s with
  | [] => ⟨found.reverse, String.ofList skipped.reverse⟩
  | c :: s' =>
    match _hp : Placeholder.first? s with
    | some (p, rest) => cut ((String.ofList skipped.reverse, p) :: found) [] rest
    | none => cut found (c :: skipped) s'
termination_by s.length
decreasing_by
  · subst _h; exact Placeholder.first?_length_lt _hp
  · simp

def ofText (text : String) : Template := cut [] [] text.toList

/-- Whether some line holds two opening braces and, after them, two closing ones.
`opened` tells whether the opening braces of the current line have been passed. -/
def looksLikeOne : (opened : Bool) → List Char → Bool
  | _, '\n' :: s => looksLikeOne false s
  | false, '{' :: '{' :: s => looksLikeOne true s
  | true, '}' :: '}' :: _ => true
  | opened, _ :: s => looksLikeOne opened s
  | _, [] => false

end Template

end TemplateFill
