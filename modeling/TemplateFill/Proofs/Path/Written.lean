import TemplateFill.Proofs.Path.Grammar

/-! # Paths as they are written

A path can be written down if it has a component, no key has a quote and no index is too
large. The way that it is displayed is then read back as the path. Only such paths are
ever read, and their keys are made of characters of the text. -/
namespace TemplateFill

/-- There is a way to write the component. -/
def Component.Writable : Component → Prop
  | .key name => '\'' ∉ name.toList
  | .index i => i < Path.indexBound

namespace Component

/-! ## Reading what is displayed -/

theorem chars_ne_nil (c : Component) : c.chars ≠ [] := by
  cases c with
  | key name => exact List.cons_ne_nil _ _
  | index i => exact Nat.toDigits_ne_nil

theorem Writable.spelled_chars {c : Component} (h : c.Writable) : c.Spelled c.chars := by
  cases c with
  | key name =>
    have hspelled := Spelled.key h
    rwa [String.ofList_toList] at hspelled
  | index i =>
    have hvalue : Nat.ofDigitChars 10 (Nat.toDigits 10 i) 0 = i := Nat.ofDigitChars_ten_toDigits
    have hspelled := Spelled.index Nat.toDigits_ne_nil (Text.isDigit_toDigits i)
      (by rw [hvalue]; exact h)
    rwa [hvalue] at hspelled

theorem Spelled.padded {c : Component} {text : List Char} (h : c.Spelled text) : c.Padded text := by
  have hnothing : Text.Gap [] := by simp [Text.Gap]
  simpa using Padded.intro hnothing h hnothing

end Component

namespace Path

theorem spelled_chars {path : Path} (hne : path ≠ []) (hw : ∀ c ∈ path, c.Writable) :
    path.Spelled path.chars := by
  induction path with
  | nil => exact absurd rfl hne
  | cons c rest ih =>
    have hc := (hw c List.mem_cons_self).spelled_chars.padded
    cases rest with
    | nil => exact .last hc
    | cons d rest =>
      have hrest := ih (by simp) fun c hc => hw c (List.mem_cons_of_mem _ hc)
      exact .more ⟨c.chars, hc, rfl⟩ hrest

/-- The displayed path is read back. -/
theorem parse_display {path : Path} (hne : path ≠ []) (hw : ∀ c ∈ path, c.Writable) :
    parse path.display = .ok path := by
  refine parse_of_spelled ?_
  rw [display, String.toList_ofList]
  exact spelled_chars hne hw

/-! ## What is read -/

/-- What is said of a component that has been read from a text. -/
structure ReadFrom (s : List Char) (c : Component) : Prop where
  writable : c.Writable
  key_subset : ∀ name, c = .key name → ∀ x ∈ name.toList, x ∈ s

theorem ReadFrom.mono {s s' : List Char} {c : Component} (h : ReadFrom s c)
    (hs : ∀ x ∈ s, x ∈ s') : ReadFrom s' c :=
  ⟨h.writable, fun name he x hx => hs x (h.key_subset name he x hx)⟩

theorem readFrom_of_spelled {c : Component} {text : List Char} (h : c.Spelled text) :
    ReadFrom text c := by
  cases h with
  | @key name hname =>
    refine ⟨by simpa [Component.Writable] using hname, ?_⟩
    rintro key he x hx
    cases he
    rw [String.toList_ofList] at hx
    simp [hx]
  | index hne hdigits hsmall => exact ⟨hsmall, fun key he => by cases he⟩

theorem readFrom_of_padded {c : Component} {s : List Char} (h : c.Padded s) : ReadFrom s c := by
  obtain ⟨-, htext, -⟩ := h
  refine (readFrom_of_spelled htext).mono fun x hx => ?_
  simp [hx]

theorem Spelled.readFrom {path : Path} {s : List Char} (h : path.Spelled s) :
    path ≠ [] ∧ ∀ c ∈ path, ReadFrom s c := by
  refine ⟨by cases h <;> simp, ?_⟩
  induction h with
  | last h =>
    intro d hd
    obtain rfl := List.mem_singleton.mp hd
    exact readFrom_of_padded h
  | more h hrest ih =>
    obtain ⟨padded, hpadded, rfl⟩ := h
    intro d hd
    rcases List.mem_cons.mp hd with rfl | hd
    · exact (readFrom_of_padded hpadded).mono fun x hx => List.mem_append_left _ hx
    · refine (ih d hd).mono fun x hx => ?_
      exact List.mem_append_right _ (List.mem_cons_of_mem _ hx)

/-- A path that has been read can be written, and its keys are of the text. -/
theorem readFrom_of_parse {text : String} {path : Path} (h : parse text = .ok path) :
    path ≠ [] ∧ ∀ c ∈ path, ReadFrom text.toList c :=
  (spelled_of_parse h).readFrom

end Path

end TemplateFill
