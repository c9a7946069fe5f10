import TemplateFill.Text.Blank
import TemplateFill.Text.Reading

/-! Regular expressions. The log's filters are given values as patterns, and all that
matters here is which texts are patterns: a filter with a faulty one is not used. A
pattern must be one for a matcher that looks at each octet once, so word boundaries of
Unicode are faults, and one that matches well-formed UTF-8 only.

No pattern here has a comma or a closing brace in it, because these end a value in a
filter. So all that needs a closing brace, such as counted repetition, is a fault. -/
namespace TemplateFill.Pattern

open Text (isBlank)

/-- What holds at a place in a pattern: whether classes are those of Unicode, and
whether blanks and comments are left out. -/
structure Mode where
  unicode : Bool
  spaced : Bool
  deriving DecidableEq, Repr

def Mode.start : Mode := ⟨true, false⟩

/-- A text after blanks and comments, which go from a number sign to the end of the
line; `comment` tells whether the text starts in one. -/
def unspaced (comment : Bool) : List Char → List Char
  | [] => []
  | c :: rest =>
    if comment then unspaced (c != '\n') rest
    else if isBlank c then unspaced false rest
    else if c = '#' then unspaced true rest
    else c :: rest

theorem unspaced_length_le (comment : Bool) (s : List Char) :
    (unspaced comment s).length ≤ s.length := by
  induction s generalizing comment with
  | nil => simp [unspaced]
  | cons c rest ih =>
    have hf := ih false
    have ht := ih true
    have hn := ih (c != '\n')
    simp only [unspaced]
    split
    · simp only [List.length_cons]; omega
    · split
      · simp only [List.length_cons]; omega
      · split
        · simp only [List.length_cons]; omega
        · exact Nat.le_refl _

namespace Mode

/-- The text from the next character that counts. -/
def skip (mode : Mode) (s : List Char) : List Char :=
  if mode.spaced then unspaced false s else s

theorem skip_length_le (mode : Mode) (s : List Char) : (mode.skip s).length ≤ s.length := by
  unfold skip
  split
  · exact unspaced_length_le false s
  · exact Nat.le_refl _

/-- The character that is seen ahead at the start of a text. Of a comment the first
character that is not blank is seen, and if nothing else is there, a blank. -/
def ahead? (mode : Mode) (s : List Char) : Option Char :=
  if mode.spaced then
    let seen := match s.dropWhile isBlank with
      | '#' :: comment => comment.dropWhile isBlank
      | seen => seen
    seen.head? <|> s.head?
  else s.head?

end Mode

/-- How deep parts nest: parts that stand together count as one level more than the
deepest of them, and a part alone as none. -/
def depthOf : List Nat → Nat
  | [] => 0
  | [depth] => depth
  | depths => depths.foldl max 0 + 1

/-- Patterns nest at most this deep. -/
def maxDepth : Nat := 250

end TemplateFill.Pattern
