import TemplateFill.Pattern.Bracket
import TemplateFill.Pattern.Group

/-! Reading patterns. A pattern is read from left to right in one pass, and of what has
been read only that is kept on which a fault can depend: the names of groups, the
settings, how deep the parts nest, and what a repetition would repeat. -/
namespace TemplateFill.Pattern

/-- What stands in a branch: settings, which cannot be repeated, or a part. -/
inductive Item where
  | settings
  | part (depth : Nat)

def Item.depth : Item → Nat
  | .settings => 0
  | .part depth => depth

/-- The branches of a group: how deep the finished ones nest, and the items of the one
that is being read, the last one first. -/
structure Branches where
  finished : List Nat
  items : List Item

namespace Branches

def empty : Branches := ⟨[], []⟩

def add (branches : Branches) (item : Item) : Branches :=
  { branches with items := item :: branches.items }

/-- Starts the branch after a bar. -/
def next (branches : Branches) : Branches :=
  ⟨depthOf (branches.items.map Item.depth) :: branches.finished, []⟩

def depth (branches : Branches) : Nat := depthOf branches.next.finished

/-- Repeats the last item, if there is one to repeat. -/
def repeat? (branches : Branches) : Option Branches :=
  match branches.items with
  | .part depth :: items => some { branches with items := .part (depth + 1) :: items }
  | _ => none

end Branches

/-- Reads a pattern to its end, and tells how deep it nests. `names` are those of groups
so far; `outer` are the groups around this place with the modes that hold after them. -/
def read? (names : List (List Char)) (outer : List (Mode × Branches)) (mode : Mode)
    (here : Branches) (s : List Char) : Option Nat :=
  match hs : mode.skip s with
  | [] => if outer.isEmpty then some here.depth else none
  | c :: rest =>
    have hle : rest.length + 1 ≤ s.length := by
      have := mode.skip_length_le s
      rwa [hs, List.length_cons] at this
    let leaf := here.add (.part 0)
    if c = '(' then match opening? mode rest with
      | none => none
      | some (.settings mode, after) =>
        have := after.property
        read? names outer mode (here.add .settings) after.val
      | some (.group inner name, after) =>
        have := after.property
        if name.any names.contains then none
        else read? (name.toList ++ names) ((mode, here) :: outer) inner .empty after.val
    else if c = ')' then match outer with
      | [] => none
      | (mode, around) :: outer =>
        read? names outer mode (around.add (.part (here.depth + 1))) rest
    else if c = '|' then read? names outer mode here.next rest
    else if c = '[' then
      have hopen := openBracket_length_le mode rest
      match readBracket? mode [] (openBracket mode rest).1 (openBracket mode rest).2 with
      | none => none
      | some (depth, after) =>
        have := after.property
        read? names outer mode (here.add (.part depth)) after.val
    else if c = '?' || c = '*' || c = '+' then match here.repeat? with
      | none => none
      | some here =>
        let lazy := if rest.head? = some '?' then 1 else 0
        have : (rest.drop lazy).length ≤ rest.length := by rw [List.length_drop]; omega
        read? names outer mode here (rest.drop lazy)
    else if c = '\\' then match escape? mode rest with
      | none => none
      | some (primitive, after) =>
        have := after.property
        if primitive.isAllowed mode then read? names outer mode leaf after.val else none
    else if c = '.' && !mode.unicode then none
    else if c = '\x7b' then none
    else read? names outer mode leaf rest
termination_by s.length

/-- Whether a text is a pattern. -/
def isPattern (text : List Char) : Bool := (read? [] [] .start .empty text).any (· ≤ maxDepth)

example : isPattern "a(b|c)*[^x-z&&[:alpha:]]+?$".toList = true := by decide +kernel

example : isPattern "(".toList = false ∧ isPattern "*".toList = false ∧
    isPattern "[z-a]".toList = false ∧ isPattern "\\b".toList = false := by decide +kernel

end TemplateFill.Pattern
