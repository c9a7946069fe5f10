import TemplateFill.Proofs.Path.Lookup
import TemplateFill.Proofs.Path.Written
import TemplateFill.Proofs.Placeholder.Substitution
import TemplateFill.Random.Scripted

/-! # Which strings can be referred to

A string of a document can be referred to if it lies below the root and no key on the
way to it has a quote or a closing brace. The displayed path is then an argument for it;
otherwise no argument is. Of all arguments that lead along one path the displayed path is
one, and it leads wherever they do. -/
namespace TemplateFill

open Placeholder (WellFormed)

/-- A reference as it is written. -/
def referenceTo (argument : String) : String := "\x7b\x7bref:" ++ argument ++ "\x7d\x7d"

/-- The reference to this argument is a single placeholder. -/
def IsReference (argument : String) : Prop :=
  Template.Cuts ⟨[("", ⟨"ref", argument, referenceTo argument⟩)], ""⟩
    (referenceTo argument).toList

theorem toList_referenceTo (argument : String) :
    (referenceTo argument).toList = Placeholder.chars ['r', 'e', 'f'] argument.toList := by
  simp [referenceTo, Placeholder.chars]

theorem ofParts_ref (argument : String) :
    Placeholder.ofParts ['r', 'e', 'f'] argument.toList =
      ⟨"ref", argument, referenceTo argument⟩ := by
  rw [Placeholder.ofParts, ← toList_referenceTo, String.ofList_toList, String.ofList_toList]

theorem isReference_iff {argument : String} :
    IsReference argument ↔ argument.toList ≠ [] ∧ '}' ∉ argument.toList := by
  constructor
  · intro h
    unfold IsReference at h
    generalize (referenceTo argument).toList = s at h
    generalize ht : (⟨[("", ⟨"ref", argument, referenceTo argument⟩)], ""⟩ : Template) = t at h
    cases h with
    | tail => cases ht
    | segment hform hfirst hrest =>
      obtain ⟨hsegment, -⟩ := List.cons.inj (Template.mk.inj ht).1
      have hargument := (Placeholder.mk.inj (Prod.mk.inj hsegment).2).2.1
      rw [hargument, String.toList_ofList]
      exact ⟨hform.argument_ne, hform.argument_open⟩
  · rintro ⟨hne, hopen⟩
    have hform : WellFormed ['r', 'e', 'f'] argument.toList :=
      ⟨by decide, List.all_eq_true.mp rfl, hne, hopen⟩
    have hcuts := Template.Cuts.head hform (.tail (s := []) (by simp [Placeholder.not_heads_nil]))
    rwa [ofParts_ref, List.append_nil, ← toList_referenceTo] at hcuts

/-- Some way of writing a reference leads along the path. -/
def Path.Referable (path : Path) : Prop :=
  ∃ argument, IsReference argument ∧ Path.parse argument = .ok path

/-- The path is not empty, and no key on it has a quote or a closing brace. -/
def Path.Unobstructed (path : Path) : Prop :=
  path ≠ [] ∧ ∀ name, .key name ∈ path → '\'' ∉ name.toList ∧ '}' ∉ name.toList

namespace Path

theorem unobstructed_of_referable {path : Path} (h : path.Referable) : path.Unobstructed := by
  obtain ⟨argument, hreference, hparse⟩ := h
  obtain ⟨-, hopen⟩ := isReference_iff.mp hreference
  obtain ⟨hne, hread⟩ := readFrom_of_parse hparse
  refine ⟨hne, fun name hname => ⟨(hread _ hname).writable, fun hbrace => hopen ?_⟩⟩
  exact (hread _ hname).key_subset name rfl _ hbrace

theorem Unobstructed.writable {path : Path} (h : path.Unobstructed)
    (hindex : ∀ i, .index i ∈ path → i < indexBound) : ∀ c ∈ path, c.Writable
  | .key name, hc => (h.2 name hc).1
  | .index i, hc => hindex i hc

theorem brace_notMem_toDigits (n : Nat) : '}' ∉ Nat.toDigits 10 n := by
  intro h
  have hdigit := Text.isDigit_toDigits n _ h
  cases hdigit

theorem brace_notMem_chars {path : Path}
    (h : ∀ name, .key name ∈ path → '}' ∉ name.toList) : '}' ∉ path.chars := by
  have hcomponent : ∀ c ∈ path, '}' ∉ c.chars := by
    intro c hc
    cases c with
    | key name => simp [Component.chars, h name hc]
    | index i => exact brace_notMem_toDigits i
  clear h
  induction path with
  | nil => simp [chars]
  | cons c rest ih =>
    have hrest := ih fun d hd => hcomponent d (List.mem_cons_of_mem _ hd)
    have hc := hcomponent c List.mem_cons_self
    cases rest with
    | nil => exact hc
    | cons d rest =>
      rw [chars]
      · simp [hc, hrest]
      · simp

/-- Displayed, a path that nothing obstructs is the argument of a reference. -/
theorem Unobstructed.isReference_display {path : Path} (h : path.Unobstructed) :
    IsReference path.display := by
  rw [isReference_iff, display, String.toList_ofList]
  refine ⟨?_, brace_notMem_chars fun name hname => (h.2 name hname).2⟩
  obtain ⟨c, rest, rfl⟩ := List.exists_cons_of_ne_nil h.1
  cases rest <;> simp [chars, c.chars_ne_nil]

end Path

namespace Supply

variable (supply : Supply)

/-- A text that is a single reference to a string becomes that string. -/
theorem substitute_reference {root : Json} {argument text : String}
    (hreference : IsReference argument) (h : resolveReference argument root = .ok text)
    (position : Nat) :
    supply.substitute .reference root (referenceTo argument) position = ⟨text, [], position⟩ := by
  have htemplate := Template.ofText_eq_iff.mpr hreference
  have hkind : Kind.ofName? "ref" = some .ref := rfl
  have hresolve :=
    @resolve_ref supply root ⟨"ref", argument, referenceTo argument⟩ hkind _ h position
  simp only [substitute, htemplate, List.isEmpty_cons, Bool.false_eq_true, if_false, fillSegments,
    hresolve, Resolution.textFor, Resolution.diagnostics, List.append_nil, String.append_empty,
    String.empty_append]

end Supply

/-- Of the strings of a document, those can be referred to that lie below the root, with
no quote and no closing brace in a key on the way; the displayed path is then an argument
for it, and the reference is filled with that string. -/
theorem referable_iff {root : Json} (hw : root.WellFormed)
    (hlengths : ∀ path items, root.At path (.array items) → items.length < Path.indexBound)
    {path : Path} {text : String} (hat : root.At path (.string text)) :
    (path.Referable ↔ path.Unobstructed) ∧
    (path.Unobstructed →
      IsReference path.display ∧ Path.parse path.display = .ok path ∧
      ∀ (supply : Supply) (position : Nat),
        supply.substitute .reference root (referenceTo path.display) position =
          ⟨text, [], position⟩) := by
  have hdisplay : path.Unobstructed → Path.parse path.display = .ok path := by
    intro h
    refine Path.parse_display h.1 (h.writable fun i hi => ?_)
    obtain ⟨before, items, harray, hlt⟩ := hat.exists_array hi
    exact Nat.lt_trans hlt (hlengths before items harray)
  have hlookup : root.lookup path = .ok (.string text) := hat.lookupFrom_eq hw []
  refine ⟨⟨Path.unobstructed_of_referable, fun h => ?_⟩, fun h => ?_⟩
  · exact ⟨path.display, h.isReference_display, hdisplay h⟩
  · refine ⟨h.isReference_display, hdisplay h, fun supply => ?_⟩
    refine supply.substitute_reference h.isReference_display ?_
    simp only [resolveReference, hdisplay h, hlookup]

/-- A key with a blank, a comma and an opening brace, and the empty key. -/
theorem referable_iff_odd_keys :
    let root : Json := .object [(" ,\x7b", .array [.null, .object [("", .string "s")]])]
    let path : Path := [.key " ,\x7b", .index 1, .key ""]
    let supply : Supply := ⟨fun _ => none, Random.Source.scripted #[] 0⟩
    root.WellFormed ∧ root.At path (.string "s") ∧ path.Referable ∧
    path.display = "' ,\x7b',1,''" ∧
    supply.substitute .reference root (referenceTo path.display) 0 = ⟨"s", [], 0⟩ := by
  intro root path supply
  have hinner : (Json.object [("", .string "s")]).WellFormed :=
    .object (by decide) (by simp [Json.WellFormed.string])
  have hw : root.WellFormed := by
    refine .object (by decide) fun m hm => ?_
    obtain rfl := List.mem_singleton.mp hm
    exact .array (by simp [Json.WellFormed.null, hinner])
  have hat : root.At path (.string "s") :=
    .key List.mem_cons_self (.index rfl (.key List.mem_cons_self (.here _)))
  have hlengths : ∀ path items, root.At path (.array items) → items.length < Path.indexBound := by
    intro path items h
    simp only [root] at h
    cases h with
    | key hm h =>
      cases List.mem_singleton.mp hm
      cases h with
      | here => decide
      | @index _ i child _ _ hi h =>
        match i, hi with
        | 0, rfl => cases h
        | 1, rfl =>
          cases h with
          | key hm h =>
            cases List.mem_singleton.mp hm
            cases h
  obtain ⟨hiff, hall⟩ := referable_iff hw hlengths hat
  have hclear : path.Unobstructed := by
    refine ⟨by simp [path], fun name hname => ?_⟩
    have hnames : name = " ,\x7b" ∨ name = "" := by simpa [path] using hname
    rcases hnames with rfl | rfl <;> decide
  obtain ⟨-, -, hfilled⟩ := hall hclear
  exact ⟨hw, hat, hiff.mpr hclear, by decide, hfilled supply 0⟩

/-! ## The displayed path among all arguments -/

/-- **Displaying a path and reading one are inverse.** A path is read back from the way it
is displayed if it can be written at all. What is read from an argument is such a path,
and displayed it is an argument that leads to the same in every document. -/
theorem parse_display_iff :
    (∀ path : Path, Path.parse path.display = .ok path ↔
      path ≠ [] ∧ ∀ c ∈ path, c.Writable) ∧
    ∀ (argument : String) (path : Path), Path.parse argument = .ok path →
      (path ≠ [] ∧ ∀ c ∈ path, c.Writable) ∧ Path.parse path.display = .ok path ∧
      ∀ root, resolveReference argument root = resolveReference path.display root := by
  have hwritable : ∀ {argument : String} {path : Path}, Path.parse argument = .ok path →
      path ≠ [] ∧ ∀ c ∈ path, c.Writable := by
    intro argument path h
    obtain ⟨hne, hread⟩ := Path.readFrom_of_parse h
    exact ⟨hne, fun c hc => (hread c hc).writable⟩
  have hdisplay : ∀ {path : Path}, (path ≠ [] ∧ ∀ c ∈ path, c.Writable) →
      Path.parse path.display = .ok path := fun h => Path.parse_display h.1 h.2
  refine ⟨fun path => ⟨hwritable, hdisplay⟩, fun argument path h => ?_⟩
  have hback := hdisplay (hwritable h)
  refine ⟨hwritable h, hback, fun root => ?_⟩
  simp only [resolveReference, h, hback]

/-- A key with a comma, the empty key and an index, written with blanks and zeros. -/
theorem parse_display_iff_blanks :
    let argument := " 'a, b' ,''\t, 007"
    let path : Path := [.key "a, b", .key "", .index 7]
    Path.parse argument = .ok path ∧ path.display = "'a, b','',7" ∧
      Path.parse "'a, b','',7" = .ok path ∧
      ∀ root, resolveReference argument root = resolveReference "'a, b','',7" root := by
  intro argument path
  have hread : Path.parse argument = .ok path := by decide +kernel
  have hdisplayed : path.display = "'a, b','',7" := by decide +kernel
  obtain ⟨-, hback, hsame⟩ := parse_display_iff.2 argument path hread
  rw [hdisplayed] at hback hsame
  exact ⟨hread, hdisplayed, hback, hsame⟩

end TemplateFill
