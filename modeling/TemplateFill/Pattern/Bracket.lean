import TemplateFill.Pattern.Escape

/-! Classes in brackets: characters, ranges, escapes and classes in brackets again, and
operators between them. Without Unicode a class is a set of octets that must lie in
ASCII, so none may be negated there. -/
namespace TemplateFill.Pattern

open Text (Below)

/-- A class whose closing bracket has not been read: how deep its operand before the
last operator nests, and how deep the parts after it do. -/
structure Bracket where
  negated : Bool
  left : Option Nat
  parts : List Nat

namespace Bracket

def add (bracket : Bracket) (depth : Nat) : Bracket :=
  { bracket with parts := depth :: bracket.parts }

/-- How deep all that has been read nests. -/
def content (bracket : Bracket) : Nat :=
  depthOf (bracket.left.toList ++ [depthOf bracket.parts])

/-- Starts the parts after an operator. -/
def operate (bracket : Bracket) : Bracket :=
  { bracket with left := some bracket.content, parts := [] }

/-- How deep the class nests, once its closing bracket has been read. -/
def close? (mode : Mode) (bracket : Bracket) : Option Nat :=
  if !mode.unicode && bracket.negated then none else some (bracket.content + 1)

end Bracket

/-- Dashes at the start of a class are characters; `n` have been read. -/
def leadingDashes (mode : Mode) (n : Nat) (s : List Char) : Nat × List Char :=
  match hs : mode.skip s with
  | '-' :: rest => leadingDashes mode (n + 1) rest
  | rest => (n, rest)
termination_by s.length
decreasing_by
  have := mode.skip_length_le s
  simp only [hs, List.length_cons] at this
  omega

theorem leadingDashes_length_le (mode : Mode) (n : Nat) (s : List Char) :
    (leadingDashes mode n s).2.length ≤ s.length := by
  fun_induction leadingDashes mode n s with
  | case1 n s rest hs ih =>
    have := mode.skip_length_le s
    rw [hs, List.length_cons] at this
    omega
  | case2 n s => exact mode.skip_length_le s

/-- The start of a class, after its opening bracket: a caret negates it, and then
dashes, or else a closing bracket, are characters. -/
def openBracket (mode : Mode) (s : List Char) : Bracket × List Char :=
  let (negated, afterCaret) := match mode.skip s with
    | '^' :: rest => (true, rest)
    | rest => (false, rest)
  match leadingDashes mode 0 afterCaret with
  | (0, ']' :: rest) => (⟨negated, none, [0]⟩, rest)
  | (n, rest) => (⟨negated, none, List.replicate n 0⟩, rest)

theorem openBracket_length_le (mode : Mode) (s : List Char) :
    (openBracket mode s).2.length ≤ s.length := by
  have hskip := mode.skip_length_le s
  unfold openBracket
  split
  next negated afterCaret hcaret =>
    have hle : afterCaret.length ≤ s.length := by
      split at hcaret
      · next rest hs =>
        simp only [Prod.mk.injEq] at hcaret
        rw [hs, List.length_cons] at hskip
        rw [← hcaret.2]
        omega
      · simp only [Prod.mk.injEq] at hcaret
        rw [← hcaret.2]
        exact hskip
    have hdash := leadingDashes_length_le mode 0 afterCaret
    split
    · next rest hd =>
      rw [hd] at hdash
      simp only [List.length_cons] at hdash ⊢
      omega
    · next n rest _ hd =>
      rw [hd] at hdash
      simp only at hdash ⊢
      omega

/-- The names of classes of ASCII characters. -/
def asciiNames : List String :=
  ["alnum", "alpha", "ascii", "blank", "cntrl", "digit", "graph", "lower", "print", "punct",
    "space", "upper", "word", "xdigit"]

/-- Reads a named class, whose opening bracket has been read: whether it is negated. -/
def named? (s : List Char) : Option (Bool × Below s.length) :=
  let body := s.drop 1
  let negated := body.head? = some '^'
  let start := if negated then 2 else 1
  let name := (s.drop start).takeWhile (· != ':')
  if h : s.length = 0 then none
  else if s.head? = some ':' && asciiNames.any (fun n => n.toList == name) &&
      [':', ']'].isPrefixOf (s.drop (start + name.length)) then
    some (negated, ⟨s.drop (start + name.length + 2), by rw [List.length_drop]; omega⟩)
  else none

/-- Reads a character of a class, or an escape. -/
def item? (mode : Mode) (s : List Char) : Option (Primitive × Below s.length) :=
  match s with
  | [] => none
  | c :: rest =>
    if c = '\\' then
      (escape? mode rest).map fun (primitive, after) =>
        (primitive, ⟨after.val, Nat.lt_succ_of_lt after.property⟩)
    else some (.character c false, .tail c rest)

/-- Whether two primitives are the ends of a range. -/
def isRange (mode : Mode) : Primitive → Primitive → Bool
  | .character low x, .character high y =>
    (Primitive.character low x).isAllowedInClass mode &&
      (Primitive.character high y).isAllowedInClass mode && low ≤ high
  | _, _ => false

/-- Reads an item of a class or a range. A dash before a closing bracket or before
another dash does not make a range. -/
def range? (mode : Mode) (s : List Char) : Option (Below s.length) :=
  match item? mode s with
  | none => none
  | some (first, after) =>
    let single : Option (Below s.length) :=
      if first.isAllowedInClass mode then some after else none
    match hs : mode.skip after.val with
    | '-' :: rest =>
      if mode.ahead? rest = some ']' || mode.ahead? rest = some '-' then single
      else match item? mode (mode.skip rest) with
        | none => none
        | some (last, final) =>
          if isRange mode first last then
            some ⟨final.val, by
              have h₁ := after.property
              have h₂ := mode.skip_length_le after.val
              have h₃ := mode.skip_length_le rest
              have h₄ := final.property
              simp only [hs, List.length_cons] at h₂
              omega⟩
          else none
    | _ => single

/-- Reads a class to its closing bracket, and tells how deep it nests. A doubled
ampersand, dash or tilde is an operator. `outer` are the classes around it, the
nearest one first. -/
def readBracket? (mode : Mode) (outer : List Bracket) (bracket : Bracket) (s : List Char) :
    Option (Nat × Below (s.length + 1)) :=
  match hs : mode.skip s with
  | [] => none
  | c :: rest =>
    have hle : rest.length + 1 ≤ s.length := by
      have := mode.skip_length_le s
      rwa [hs, List.length_cons] at this
    let widen (after : Below (s.length)) : Below (s.length + 1) :=
      ⟨after.val, Nat.lt_succ_of_lt after.property⟩
    let further (outer : List Bracket) (bracket : Bracket) (after : Below s.length) :
        Option (Nat × Below (s.length + 1)) :=
      have := after.property
      (readBracket? mode outer bracket after.val).map fun (depth, final) =>
        (depth, ⟨final.val, Nat.lt_of_lt_of_le final.property (Nat.le_succ_of_le after.property)⟩)
    if c = '[' then match named? rest with
      | some (negated, after) =>
        if !mode.unicode && negated then none
        else further outer (bracket.add 0) ⟨after.val, Nat.lt_trans after.property hle⟩
      | none =>
        further (bracket :: outer) (openBracket mode rest).1
          ⟨(openBracket mode rest).2, Nat.lt_of_le_of_lt (openBracket_length_le mode rest) hle⟩
    else if c = ']' then match bracket.close? mode with
      | none => none
      | some depth => match outer with
        | [] => some (depth, widen ⟨rest, hle⟩)
        | next :: outer => further outer (next.add depth) ⟨rest, hle⟩
    else
      let after : Below s.length := ⟨rest.drop 1, Nat.lt_of_le_of_lt (List.drop_sublist 1 rest).length_le hle⟩
      if (c = '&' || c = '-' || c = '~') && rest.head? = some c then
        further outer bracket.operate after
      else match range? mode (c :: rest) with
        | none => none
        | some after =>
          further outer (bracket.add 0) ⟨after.val, Nat.lt_of_lt_of_le after.property hle⟩
termination_by s.length

end TemplateFill.Pattern
