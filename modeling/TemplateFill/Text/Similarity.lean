/-! How alike two words are: Jaro's measure, from 0 to 1. Two equal letters match
when they stand close enough; the measure is the mean of the shares of matched
letters in both words and the share of matches that keep their order. Of several
names, the one with the greatest measure is the one that a misspelt word may mean. -/
namespace TemplateFill.Text.Similarity

/-- Marks the first letter of a word that is `c`, not marked yet, and at a place
that is at least `lowest` and less than `limit`. -/
def mark (c : Char) (lowest limit : Nat) : List (Char × Bool) → Option (List (Char × Bool))
  | [] => none
  | (d, marked) :: rest =>
    if limit = 0 then none
    else if lowest = 0 ∧ c = d ∧ !marked then some ((d, true) :: rest)
    else (mark c (lowest - 1) (limit - 1) rest).map ((d, marked) :: ·)

/-- The matched letters of the first word, and the second word with marks. -/
def matched (range : Nat) (place : Nat) (word : List (Char × Bool)) :
    List Char → List Char × List (Char × Bool)
  | [] => ([], word)
  | c :: rest =>
    match mark c (place - range) (place + range + 1) word with
    | none => matched range (place + 1) word rest
    | some word =>
      let (found, word) := matched range (place + 1) word rest
      (c :: found, word)

/-- Letters of `left` and `right` that differ place by place, counted in pairs. -/
def swaps (left right : List Char) : Nat := ((left.zip right).filter fun p => p.1 != p.2).length / 2

/-- The share of `n` in `total`. -/
def share (n total : Nat) : Float := Float.ofNat n / Float.ofNat total

/-- Jaro's measure of two words; 0 if no letters match. The shares are added in this
order, and so rounded: of two words with one exact measure, the rounded ones may
still tell which counts as the more alike. -/
def measure (a b : List Char) : Float :=
  let range := max a.length b.length / 2 - 1
  let (left, marks) := matched range 0 (b.map (·, false)) a
  let right := (marks.filter (·.2)).map (·.1)
  let m := left.length
  if m = 0 then 0
  else (share m a.length + share m b.length + share (m - swaps left right) m) / 3

/-- Two words are alike when their measure is above this. -/
def threshold : Float := 0.7

/-- The better of two rated candidates; of two that are rated the same, the later. -/
def better {α : Type} (best : Option (Float × α)) (candidate : Float × α) : Option (Float × α) :=
  match best with
  | none => some candidate
  | some current => if current.1 > candidate.1 then some current else some candidate

/-- The candidate whose name is most like a word, if one is alike; the last of several. -/
def mostAlike? {α : Type} (name : α → String) (word : String) (candidates : List α) : Option α :=
  let rated := candidates.map fun c => (measure word.toList (name c).toList, c)
  ((rated.filter (·.1 > threshold)).foldl better none).map (·.2)

example : mostAlike? id "outptu" ["output", "quiet"] = some "output" := by decide +kernel

example : mostAlike? id "u" ["output", "quiet"] = some "quiet" := by decide +kernel

example : mostAlike? id "bogus" ["output", "quiet"] = none := by decide +kernel

end TemplateFill.Text.Similarity
