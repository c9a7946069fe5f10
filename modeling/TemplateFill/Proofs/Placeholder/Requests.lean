import TemplateFill.Proofs.Placeholder.Substitution
import TemplateFill.Proofs.Random.Text

/-! # Requests for random texts

A request is a placeholder that names a random kind and a length within the limit. In a
text made of literal characters and requests, each request is answered by one call of
the generator, from left to right, and the rest stays. What the calls give opens no
brace, so nothing in the text is a placeholder any more. -/
namespace TemplateFill

namespace Random

/-- What a request asks for: characters of a set, or octets in base64. -/
inductive Making where
  | text (alphabet : Alphabet)
  | base64

namespace Making

/-- The names that requests use. -/
def named : List (String × Making) :=
  [("alnum", .text .alnum), ("alpha", .text .alpha), ("digit", .text .digit),
    ("digits", .text .digit), ("b64", .base64)]

/-- One call of the generator. -/
def draw (making : Making) (generator : Generator) (length position : Nat) : String × Nat :=
  match making with
  | .text alphabet => generator.text alphabet length position
  | .base64 => generator.base64 length position

/-- The text has the form asked for. -/
def Promises (making : Making) (length : Nat) (text : String) : Prop :=
  match making with
  | .text alphabet =>
    text.toList.length = length ∧ ∀ c ∈ text.toList, c ∈ alphabet.charset.chars
  | .base64 => ∃ octets : List UInt8, octets.length = length ∧ text.toList = Base64.encode octets

theorem alphabet_chars (alphabet : Alphabet) :
    0 < alphabet.charset.chars.size ∧ '{' ∉ alphabet.charset.chars := by
  cases alphabet <;> exact ⟨by decide, by decide +kernel⟩

theorem draw_promises (making : Making) (generator : Generator) (length position : Nat) :
    making.Promises length (making.draw generator length position).1 := by
  cases making with
  | text alphabet =>
    obtain ⟨hlength, hmem, -⟩ := generator.textFrom_spec (alphabet_chars alphabet).1
      (generator.fair alphabet) length position
    exact ⟨hlength, hmem⟩
  | base64 => exact ⟨_, generator.octets_length length position, String.toList_ofList⟩

theorem Promises.brace_notMem {making : Making} {length : Nat} {text : String}
    (htext : making.Promises length text) : '{' ∉ text.toList := by
  cases making with
  | text alphabet => exact fun hbrace => (alphabet_chars alphabet).2 (htext.2 _ hbrace)
  | base64 =>
    obtain ⟨octets, -, hencoded⟩ := htext
    rw [hencoded]
    exact Base64.brace_notMem_encode octets

end Making

end Random

open TemplateFill.Random (Making Generator)

/-- A name of a random kind and a numeral of a length within the limit. -/
structure Request where
  name : String
  making : Making
  numeral : List Char
  named : (name, making) ∈ Making.named
  numeral_ne : numeral ≠ []
  digits : ∀ c ∈ numeral, c.isDigit = true
  length_le : Nat.ofDigitChars 10 numeral 0 ≤ maxLength

namespace Request

variable (r : Request)

def length : Nat := Nat.ofDigitChars 10 r.numeral 0

/-- How a request is written. -/
def chars : List Char := Placeholder.chars r.name.toList r.numeral

def placeholder : Placeholder := .ofParts r.name.toList r.numeral

/-- The call of the generator that answers a request. -/
def draw (generator : Generator) (position : Nat) : String × Nat :=
  r.making.draw generator r.length position

theorem wellFormed : Placeholder.WellFormed r.name.toList r.numeral := by
  have hnames : ∀ entry ∈ Making.named,
      entry.1.toList ≠ [] ∧ entry.1.toList.all Text.isWord = true := by decide +kernel
  obtain ⟨hne, hword⟩ := hnames _ r.named
  refine ⟨hne, List.all_eq_true.mp hword, r.numeral_ne, fun hbrace => ?_⟩
  cases r.digits _ hbrace

theorem parseLength_eq : parseLength (String.ofList r.numeral) = .ok r.length := by
  have hsize : ¬ UInt64.size ≤ r.length :=
    Nat.not_le_of_lt (Nat.lt_of_le_of_lt r.length_le (by decide))
  have hdigits : r.numeral.all Char.isDigit = true := List.all_eq_true.mpr r.digits
  have hempty : r.numeral.isEmpty = false := List.isEmpty_eq_false_iff.mpr r.numeral_ne
  have hlimit : ¬ maxLength < r.length := Nat.not_lt_of_le r.length_le
  unfold length at hsize hlimit
  simp [parseLength, hdigits, hempty, hsize, hlimit, length]

end Request

namespace Supply

variable (supply : Supply)

/-- The kind that a name of a request stands for makes the call of the request, if the
argument is a length. -/
theorem fulfil_named {name : String} {making : Making} (h : (name, making) ∈ Making.named) :
    ∃ kind, Kind.ofName? name = some kind ∧ kind.mode = .generative ∧
      ∀ root argument position, supply.fulfil root kind argument position =
        match parseLength argument with
        | .error e => .error (.invalidLength e.message)
        | .ok length => .ok (making.draw supply.random length position) := by
  simp only [Making.named, List.mem_cons, Prod.mk.injEq, List.not_mem_nil, or_false] at h
  rcases h with ⟨rfl, rfl⟩ | ⟨rfl, rfl⟩ | ⟨rfl, rfl⟩ | ⟨rfl, rfl⟩ | ⟨rfl, rfl⟩
  · exact ⟨.alnum, rfl, rfl, fun _ _ _ => rfl⟩
  · exact ⟨.alpha, rfl, rfl, fun _ _ _ => rfl⟩
  · exact ⟨.digit, rfl, rfl, fun _ _ _ => rfl⟩
  · exact ⟨.digit, rfl, rfl, fun _ _ _ => rfl⟩
  · exact ⟨.b64, rfl, rfl, fun _ _ _ => rfl⟩

/-- A placeholder of a random kind makes one call, or is warned of and draws nothing. -/
theorem resolve_named {p : Placeholder} {making : Making} (h : (p.kind, making) ∈ Making.named)
    (root : Json) (position : Nat) :
    supply.resolve .generative root p position =
      match parseLength p.argument with
      | .error e => (.unmodified (some ⟨.invalidLength e.message, p.raw⟩), position)
      | .ok length => (.value (making.draw supply.random length position).1,
          (making.draw supply.random length position).2) := by
  obtain ⟨kind, hkind, hmode, hfulfil⟩ := supply.fulfil_named h
  simp only [resolve, hkind, hmode, ne_eq, not_true_eq_false, if_false, hfulfil]
  cases parseLength p.argument <;> rfl

/-- A request is answered by one call. -/
theorem resolve_request (r : Request) (root : Json) (position : Nat) :
    supply.resolve .generative root r.placeholder position =
      (.value (r.draw supply.random position).1, (r.draw supply.random position).2) := by
  have hnamed : (r.placeholder.kind, r.making) ∈ Making.named := by
    rw [Request.placeholder, Placeholder.ofParts, String.ofList_toList]
    exact r.named
  have hlength : parseLength r.placeholder.argument = .ok r.length := r.parseLength_eq
  rw [supply.resolve_named hnamed, hlength]
  rfl

end Supply

/-! ## Texts -/

/-- A part of a text: characters that open no brace, or a request. -/
inductive Part where
  | literal (text : List Char) (hopen : '{' ∉ text)
  | request (r : Request)

/-- How a part is written. -/
def Part.chars : Part → List Char
  | .literal text _ => text
  | .request r => r.chars

def Part.request? : Part → Option Request
  | .literal _ _ => none
  | .request r => some r

/-- Calls of the generator, each from the position that the one before it reached, with
the requests that they answer and the texts that they give. -/
inductive Random.Generator.Calls (generator : Generator) :
    Nat → List (Request × String) → Nat → Prop
  | nil (position : Nat) : Calls generator position [] position
  | cons {position after : Nat} {rest : List (Request × String)} (r : Request)
      (hrest : Calls generator (r.draw generator position).2 rest after) :
      Calls generator position ((r, (r.draw generator position).1) :: rest) after

theorem Random.Generator.Calls.append {generator : Generator} {position middle after : Nat}
    {first others : List (Request × String)} (h : generator.Calls position first middle)
    (h' : generator.Calls middle others after) :
    generator.Calls position (first ++ others) after := by
  induction h with
  | nil => exact h'
  | cons r _ ih => exact .cons r (ih h')

theorem Random.Generator.Calls.promises {generator : Generator} {position after : Nat}
    {calls : List (Request × String)} (h : generator.Calls position calls after) :
    ∀ call ∈ calls, call.1.making.Promises call.1.length call.2 := by
  induction h with
  | nil => exact fun call hcall => nomatch hcall
  | cons r _ ih =>
    exact List.forall_mem_cons.mpr ⟨r.making.draw_promises generator r.length _, ih⟩

/-- The characters are those of the parts, with a text from these calls in the place of
each request. -/
inductive Part.Supplied : List Part → List (Request × String) → List Char → Prop
  | nil : Supplied [] [] []
  | literal {text s : List Char} {hopen : '{' ∉ text} {parts : List Part}
      {calls : List (Request × String)} (hrest : Supplied parts calls s) :
      Supplied (.literal text hopen :: parts) calls (text ++ s)
  | request {r : Request} {text : String} {s : List Char} {parts : List Part}
      {calls : List (Request × String)} (hrest : Supplied parts calls s) :
      Supplied (.request r :: parts) ((r, text) :: calls) (text.toList ++ s)

theorem Part.Supplied.requests_eq {parts : List Part} {calls : List (Request × String)}
    {s : List Char} (h : Supplied parts calls s) :
    calls.map Prod.fst = parts.filterMap Part.request? := by
  induction h with
  | nil => rfl
  | literal _ ih => exact ih
  | request _ ih => exact congrArg (List.cons _) ih

theorem Part.Supplied.brace_notMem {parts : List Part} {calls : List (Request × String)}
    {s : List Char} (h : Supplied parts calls s)
    (hcalls : ∀ call ∈ calls, '{' ∉ call.2.toList) : '{' ∉ s := by
  induction h with
  | nil => simp
  | @literal text s hopen parts calls _ ih =>
    simp only [List.mem_append, not_or]
    exact ⟨hopen, ih hcalls⟩
  | request _ ih =>
    obtain ⟨hfirst, hrest⟩ := List.forall_mem_cons.mp hcalls
    simp only [List.mem_append, not_or]
    exact ⟨hfirst, ih hrest⟩

/-- Calls have led to the outcome, and to no warning. -/
def Outcome.Drawn {α : Type} (outcome : Outcome α) (generator : Generator) (position : Nat)
    (P : List (Request × String) → α → Prop) : Prop :=
  ∃ calls, generator.Calls position calls outcome.position ∧ P calls outcome.result ∧
    outcome.diagnostics = []

namespace Supply

variable (supply : Supply) (root : Json)

theorem fillSegments_prepend (mode : Mode) (before : List Char) (t : Template) (position : Nat) :
    supply.fillSegments mode root (t.prepend before).tail (t.prepend before).segments position =
      let outcome := supply.fillSegments mode root t.tail t.segments position
      ⟨String.ofList before ++ outcome.result, outcome.diagnostics, outcome.position⟩ := by
  obtain ⟨_ | ⟨⟨first, p⟩, rest⟩, tail⟩ := t
  · rfl
  · simp only [Template.prepend, fillSegments, String.append_assoc]

theorem fillSegments_request (r : Request) (t : Template) (position : Nat) :
    supply.fillSegments .generative root t.tail (("", r.placeholder) :: t.segments) position =
      let drawn := r.draw supply.random position
      let others := supply.fillSegments .generative root t.tail t.segments drawn.2
      ⟨drawn.1 ++ others.result, others.diagnostics, others.position⟩ := by
  simp only [fillSegments, resolve_request, Resolution.textFor, Resolution.diagnostics,
    String.empty_append, List.nil_append]

/-- A text of parts is cut at its requests, and filled with what the calls for them give. -/
theorem exists_template (parts : List Part) :
    ∃ t : Template, t.Cuts (parts.flatMap Part.chars) ∧
      (t.segments = [] → '{' ∉ parts.flatMap Part.chars) ∧
      ∀ position, (supply.fillSegments .generative root t.tail t.segments position).Drawn
        supply.random position fun calls result => Part.Supplied parts calls result.toList := by
  induction parts with
  | nil =>
    refine ⟨⟨[], ""⟩, .tail fun i => ?_, by simp, fun position => ⟨[], .nil _, .nil, rfl⟩⟩
    rw [List.drop_nil]
    exact Placeholder.not_heads_nil
  | cons part rest ih =>
    obtain ⟨t, hcuts, hnone, hdrawn⟩ := ih
    cases part with
    | literal text hopen =>
      -- A literal goes to the piece before the first request, or to the tail.
      refine ⟨t.prepend text, hcuts.prepend hopen, fun hnil => ?_, fun position => ?_⟩
      · have hrest : t.placeholders = [] := by
          rw [← Template.placeholders_prepend text, Template.placeholders, hnil, List.map_nil]
        simp only [List.flatMap_cons, List.mem_append, not_or]
        exact ⟨hopen, hnone (List.map_eq_nil_iff.mp hrest)⟩
      · obtain ⟨calls, hcalls, hsupplied, hquiet⟩ := hdrawn position
        rw [fillSegments_prepend]
        refine ⟨calls, hcalls, ?_, hquiet⟩
        simp only [String.toList_append, String.toList_ofList]
        exact .literal hsupplied
    | request r =>
      refine ⟨⟨("", r.placeholder) :: t.segments, t.tail⟩, .head r.wellFormed hcuts,
        fun hnil => (by cases hnil), fun position => ?_⟩
      obtain ⟨calls, hcalls, hsupplied, hquiet⟩ := hdrawn (r.draw supply.random position).2
      simp only [fillSegments_request]
      refine ⟨_, .cons r hcalls, ?_, hquiet⟩
      simp only [String.toList_append]
      exact .request hsupplied

/-- Substitution in a text of parts calls the generator once for each request, and warns of
nothing. -/
theorem substitute_drawn {parts : List Part} {text : String}
    (htext : parts.flatMap Part.chars = text.toList) (position : Nat) :
    (supply.substitute .generative root text position).Drawn supply.random position
      fun calls result => Part.Supplied parts calls result.toList := by
  obtain ⟨t, hcuts, hnone, hdrawn⟩ := supply.exists_template root parts
  rw [htext] at hcuts hnone
  have htemplate := Template.ofText_eq_iff.mpr hcuts
  have hdrawn := hdrawn position
  -- A text without requests is not filled but looked at as a whole; with no brace that opens,
  -- it does not look like a placeholder.
  by_cases hnil : t.segments = []
  · rw [supply.substitute_literal .generative root (hnone hnil)]
    rwa [hnil, fillSegments, hcuts.tail_eq hnil] at hdrawn
  · have hsegments : t.segments.isEmpty = false := List.isEmpty_eq_false_iff.mpr hnil
    simp only [substitute, htemplate, hsegments, Bool.false_eq_true, if_false]
    exact hdrawn

end Supply

end TemplateFill
