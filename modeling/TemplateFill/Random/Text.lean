import TemplateFill.Base64
import TemplateFill.Random.Source

/-! Random texts: characters chosen one by one from a set, and octets written in
base64. Both take random words and a position in them, and give the position they
reach. The words of a generator are fair in choices from the alphabets. -/
namespace TemplateFill.Random

/-- Characters to choose from; one that is listed twice is twice as likely. -/
structure Charset where
  chars : Array Char
  size_lt : chars.size < UInt32.size

namespace Charset

def ofList? (chars : List Char) : Option Charset :=
  if h : chars.toArray.size < UInt32.size then some ⟨chars.toArray, h⟩ else none

def alpha : Charset :=
  ⟨"abcdefghijklmnopqrstuvwxyzABCDEFGHIJKLMNOPQRSTUVWXYZ".toList.toArray, by decide⟩

def digit : Charset := ⟨"0123456789".toList.toArray, by decide⟩

def alnum : Charset :=
  ⟨"abcdefghijklmnopqrstuvwxyzABCDEFGHIJKLMNOPQRSTUVWXYZ0123456789".toList.toArray, by decide⟩

end Charset

/-- The sets that placeholders name. -/
inductive Alphabet where
  | alnum
  | alpha
  | digit
  deriving DecidableEq, Repr

def Alphabet.charset : Alphabet → Charset
  | .alnum => .alnum
  | .alpha => .alpha
  | .digit => .digit

namespace Words

/-- `count` characters from a set that is not empty, after those in `drawn`, which
stand last first. -/
def drawChars (words : Words) (set : Charset) (h : 0 < set.chars.size)
    (fair : words.Fair set.chars.size) :
    (count : Nat) → (drawn : List Char) → (position : Nat) → List Char × Nat
  | 0, drawn, position => (drawn.reverse, position)
  | count + 1, drawn, position =>
    let (i, position) := words.choose set.chars.size h fair position
    words.drawChars set h fair count (set.chars[i] :: drawn) position

/-- A text of `length` characters of a set. The empty set gives the empty text,
for which nothing is drawn. -/
def textFrom (words : Words) (set : Charset) (fair : words.Fair set.chars.size)
    (length position : Nat) : String × Nat :=
  if h : 0 < set.chars.size then
    let (chars, position) := words.drawChars set h fair length [] position
    (String.ofList chars, position)
  else ("", position)

/-- The octets of a word, the least significant first. -/
def octetsOf (word : UInt32) : List UInt8 :=
  [word.toUInt8, (word >>> 8).toUInt8, (word >>> 16).toUInt8, (word >>> 24).toUInt8]

/-- How many words `count` octets take; of the last one some octets may be left over. -/
def wordsFor (count : Nat) : Nat := (count + 3) / 4

def octets (words : Words) (count position : Nat) : List UInt8 × Nat :=
  let taken := (List.range (wordsFor count)).map fun i => words.word (position + i)
  ((taken.flatMap octetsOf).take count, position + wordsFor count)

/-- Random octets in base64. -/
def base64 (words : Words) (count position : Nat) : String × Nat :=
  let (octets, position) := words.octets count position
  (String.ofList (Base64.encode octets), position)

end Words

def Source.text (source : Source) (set : Charset) (length position : Nat) : String × Nat :=
  source.textFrom set (source.fair _ set.size_lt) length position

structure Generator extends Words where
  fair : ∀ alphabet : Alphabet, toWords.Fair alphabet.charset.chars.size

def Generator.text (generator : Generator) (alphabet : Alphabet) (length position : Nat) :
    String × Nat :=
  generator.textFrom alphabet.charset (generator.fair alphabet) length position

def Source.generator (source : Source) : Generator :=
  ⟨source.toWords, fun alphabet => source.fair _ alphabet.charset.size_lt⟩

instance : Coe Source Generator := ⟨Source.generator⟩

end TemplateFill.Random
