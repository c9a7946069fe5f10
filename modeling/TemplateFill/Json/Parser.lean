import TemplateFill.Json.Numeral
import TemplateFill.Json.Quoted

/-! Reading JSON documents. Every reader gives a value and the text after it, which
is shorter than the text it was given, so the loop over the items of a container
ends. `value room` reads a value in which containers nest at most `room` deep;
both kinds of container share one loop and differ in a record. -/
namespace TemplateFill.Json

open Text (Below)

abbrev Reader (α : Type) := (s : List Char) → Except Fault (α × Below s.length)

def isSpace (c : Char) : Bool := c = ' ' || c = '\t' || c = '\n' || c = '\r'

def skip (s : List Char) : List Char := s.dropWhile isSpace

theorem skip_length_le (s : List Char) : (skip s).length ≤ s.length :=
  (List.dropWhile_sublist isSpace).length_le

/-- The rest of a word whose first letter has been read. -/
def word : (expected s : List Char) → Except Fault (List Char)
  | [], s => .ok s
  | _ :: _, [] => .error ⟨.endInValue, [], 0⟩
  | e :: expected, c :: rest =>
    if c = e then word expected rest else .error ⟨.wordExpected, c :: rest, 1⟩

theorem word_length_le {expected s rest : List Char} (h : word expected s = .ok rest) :
    rest.length ≤ s.length := by
  induction expected generalizing s with
  | nil => cases h; exact Nat.le_refl _
  | cons e expected ih =>
    cases s with
    | nil => cases h
    | cons c tail =>
      simp only [word] at h
      split at h
      · exact Nat.le_succ_of_le (ih h)
      · cases h

/-- How a kind of container ends: its closing bracket, and the reasons to report
when the text ends too early or an item is followed by neither comma nor bracket. -/
structure Container where
  close : Char
  unended : Reason
  unseparated : Reason

def list : Container := ⟨']', .endInList, .listUnseparated⟩

def members : Container := ⟨'}', .endInObject, .objectUnseparated⟩

/-- The items of a container from the next one on; `s` starts with that one. `read`
holds the items found so far, the last one first. -/
def items {α : Type} {limit : Nat} (kind : Container) (item : Reader α) (read : List α)
    (s : List Char) (h : s.length ≤ limit) : Except Fault (List α × Below limit) :=
  match item s with
  | .error fault => .error fault
  | .ok (x, after) =>
    match hs : skip after.val with
    | [] => .error ⟨kind.unended, [], 1⟩
    | c :: rest =>
      have hr : rest.length + 1 ≤ after.val.length := by
        have := skip_length_le after.val
        rwa [hs, List.length_cons] at this
      have hrest : rest.length < limit := Nat.lt_of_lt_of_le (Nat.lt_trans hr after.property) h
      if c = kind.close then .ok ((x :: read).reverse, ⟨rest, hrest⟩)
      else if c = ',' then
        match ht : skip rest with
        | [] => .error ⟨.endInValue, [], 1⟩
        | d :: next =>
          have hn : (d :: next).length ≤ rest.length := ht ▸ skip_length_le rest
          if d = kind.close then .error ⟨.trailingComma, d :: next, 1⟩
          else items kind item (x :: read) (d :: next) (Nat.le_of_lt (Nat.lt_of_le_of_lt hn hrest))
      else .error ⟨kind.unseparated, c :: rest, 1⟩
termination_by s.length
decreasing_by have := after.property; omega

/-- All items of a container whose opening bracket has been read. -/
def content {α : Type} (kind : Container) (item : Reader α) (s : List Char) :
    Except Fault (List α × Below (s.length + 1)) :=
  match hs : skip s with
  | [] => .error ⟨kind.unended, [], 1⟩
  | c :: rest =>
    have hr : (c :: rest).length ≤ s.length := hs ▸ skip_length_le s
    if c = kind.close then .ok ([], ⟨rest, Nat.lt_succ_of_lt hr⟩)
    else items kind item [] (c :: rest) (Nat.le_succ_of_le hr)

/-- A key, a colon and a value. -/
def member (inner : Reader Json) : Reader (String × Json) := fun s =>
  match s with
  | [] => .error ⟨.keyNotString, [], 1⟩
  | c :: rest =>
    if c = '"' then
      match hk : Quoted.decode [] .plain rest with
      | .error fault => .error fault
      | .ok (key, afterKey) =>
        match hc : skip afterKey with
        | [] => .error ⟨.endInObject, [], 1⟩
        | d :: afterColon =>
          if d = ':' then
            match inner (skip afterColon) with
            | .error fault => .error fault
            | .ok (v, after) => .ok ((String.ofList key, v), ⟨after.val, by
                have h₁ := Quoted.decode_length_lt hk
                have h₂ := skip_length_le afterKey
                have h₃ := skip_length_le afterColon
                have h₄ := after.property
                simp only [hc, List.length_cons] at *
                omega⟩)
          else .error ⟨.colonExpected, d :: afterColon, 1⟩
    else .error ⟨.keyNotString, s, 1⟩

/-- A value at the head of a text, given a reader for the values one level down.
Where there is none the containers are nested too deep. -/
def valueWith (inner : Option (Reader Json)) : Reader Json := fun s =>
  match s with
  | [] => .error ⟨.endInValue, [], 1⟩
  | c :: rest =>
    if c = '"' then
      match h : Quoted.decode [] .plain rest with
      | .error fault => .error fault
      | .ok (text, after) =>
        .ok (.string (String.ofList text), ⟨after, Nat.lt_succ_of_lt (Quoted.decode_length_lt h)⟩)
    else if c = '[' then
      match inner with
      | none => .error ⟨.tooDeep, s, 1⟩
      | some inner => match content list inner rest with
        | .error fault => .error fault
        | .ok (elements, after) => .ok (.array elements, after)
    else if c = '{' then
      match inner with
      | none => .error ⟨.tooDeep, s, 1⟩
      | some inner => match content members (member inner) rest with
        | .error fault => .error fault
        | .ok (pairs, after) => .ok (.object (Members.ofList pairs), after)
    else if c = 't' then atom (.bool true) ['r', 'u', 'e'] rest
    else if c = 'f' then atom (.bool false) ['a', 'l', 's', 'e'] rest
    else if c = 'n' then atom .null ['u', 'l', 'l'] rest
    else if c = '-' ∨ c.isDigit then
      match h : Numeral.read (c :: rest) with
      | .error fault => .error fault
      | .ok (n, after) => .ok (.number n, ⟨after, Numeral.read_length_lt h⟩)
    else .error ⟨.valueExpected, c :: rest, 1⟩
where
  atom (v : Json) (expected s : List Char) : Except Fault (Json × Below (s.length + 1)) :=
    match h : word expected s with
    | .error fault => .error fault
    | .ok after => .ok (v, ⟨after, Nat.lt_succ_of_le (word_length_le h)⟩)

/-- A value with containers nested at most `room` deep. -/
def value : (room : Nat) → Reader Json
  | 0 => valueWith none
  | room + 1 => valueWith (some (value room))

/-- How deep containers may nest in a document. -/
def maxDepth : Nat := 127

def document (s : List Char) : Except Fault Json :=
  match value maxDepth (skip s) with
  | .error fault => .error fault
  | .ok (v, after) => match skip after.val with
    | [] => .ok v
    | rest => .error ⟨.trailingCharacters, rest, 1⟩

/-- Reads a text that holds one JSON document and nothing else. -/
def parse (text : String) : Except ReadError Json :=
  (document text.toList).mapError (Fault.locate text)

end TemplateFill.Json
