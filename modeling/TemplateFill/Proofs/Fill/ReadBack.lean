import TemplateFill.CommandLine.Dispatch
import TemplateFill.Proofs.Fill.Sweeping
import TemplateFill.Proofs.Json.Rendering
import TemplateFill.Proofs.Path.Lookup
import TemplateFill.Random.Scripted

/-! # A filled document is read back from its text

A sweep makes no document deeper, writes no number and leaves no key twice in an object.
So a document that was read from an input and holds no float is, when it has been filled,
one that is read back from its text. -/
namespace TemplateFill

theorem Supply.sweep_bounded {P : Number → Prop} {room : Nat} {document : Json}
    (h : document.Bounded P room) (supply : Supply) (mode : Mode) (root : Json) :
    ∀ position, (supply.sweep mode root document position).result.Bounded P room := by
  induction h with
  | null => exact fun _ => .null
  | bool value => exact fun _ => .bool value
  | number hn => exact fun _ => .number hn
  | string text => exact fun _ => .string _
  | @array room items _ ih =>
    intro position
    refine .array fun swept hs => ?_
    obtain ⟨item, hi, position', rfl⟩ :=
      exists_of_mem_right (supply.sweepItems_forall₂ mode root items position) hs
    exact ih item hi position'
  | @object room members _ _ ih =>
    intro position
    refine .object (Members.nodup_keys_ofList _) fun swept hs => ?_
    obtain ⟨m, hm, -, position', he⟩ :=
      exists_of_mem_right (supply.sweepMembers_forall₂ mode root members position)
        (Members.mem_of_mem_ofList hs)
    rw [he]
    exact ih m hm position'

/-- Numbers that fit and are no floats are written exactly. -/
theorem Json.Bounded.exact {room : Nat} {document : Json} (h : document.Bounded Number.Fits room)
    (hints : ∀ path f, ¬ document.At path (.number (.float f))) :
    document.Bounded Number.Exact room := by
  induction h with
  | null => exact .null
  | bool value => exact .bool value
  | @number room n hn =>
    cases n with
    | int v => exact .number hn
    | float f => exact absurd (.here _) (hints [] f)
  | string text => exact .string text
  | @array room items _ ih =>
    refine .array fun item hi => ih item hi fun path f hat => ?_
    obtain ⟨i, hget⟩ := List.mem_iff_getElem?.mp hi
    exact hints (.index i :: path) f (.index hget hat)
  | object hkeys _ ih =>
    exact .object hkeys fun m hm => ih m hm fun path f hat =>
      hints (.key m.1 :: path) f (.key hm hat)

theorem Json.Bounded.not_float {room : Nat} {document : Json}
    (h : document.Bounded Number.Exact room) {path : Path} {f : Float} :
    ¬ document.At path (.number (.float f)) := by
  intro hat
  induction path generalizing room document with
  | nil =>
    cases hat
    cases h with
    | number hn => exact hn
  | cons c path ih =>
    cases hat with
    | key hmember hrest =>
      cases h with
      | object _ hvalues => exact ih (hvalues _ hmember) hrest
    | index hitem hrest =>
      cases h with
      | array hitems => exact ih (hitems _ (List.mem_of_getElem? hitem)) hrest

theorem parse_of_parseDocument {input : String} {document : Json}
    (h : parseDocument input = .ok document) : Json.parse input = .ok document := by
  unfold parseDocument at h
  split at h
  · cases h
  · next hread =>
    split at h
    · cases h
    · cases h
      exact hread

namespace Supply

variable (supply : Supply)

/-- A document that has been read and holds no float can be filled, written and read: the
result is the filled document, and it is no deeper than a document can be. -/
theorem parse_render_fill {input : String} {document : Json}
    (hread : parseDocument input = .ok document)
    (hints : ∀ path f, ¬ document.At path (.number (.float f))) (position : Nat) :
    let filled := (supply.fill document position).document
    filled.Bounded Number.Exact Json.maxDepth ∧ Json.parse filled.render = .ok filled := by
  intro filled
  have hbounded := (Json.parse_bounded (parse_of_parseDocument hread)).exact hints
  have hfilled : filled.Bounded Number.Exact Json.maxDepth :=
    supply.fill_induction (I := Json.Bounded Number.Exact Json.maxDepth)
      (fun mode root document position h => sweep_bounded h supply mode root position)
      hbounded position
  exact ⟨hfilled, Json.parse_render hfilled⟩

/-- A control character, a quote and a line feed come into a string by a reference, and the
least and the greatest integer stand beside it. -/
theorem parse_render_fill_escapes :
    let supply : Supply := ⟨fun _ => none, Random.Source.scripted #[] 0⟩
    let a : String × Json := ("a", .string "\x7b\x7bref:b,0\x7d\x7d")
    let items : List Json := [.string "é\x01\"\n", .number (.int (-9223372036854775808)),
      .number (.int 18446744073709551615), .object []]
    let document : Json := .object [a, ("b", .array items)]
    let input := "\x7b\n    \"a\": \"\x7b\x7bref:b,0\x7d\x7d\",\n" ++
      "    \"b\": [\n        \"é\\u0001\\\"\\n\",\n        -9223372036854775808,\n" ++
      "        18446744073709551615,\n        \x7b\x7d\n    ]\n\x7d\n"
    let filled := (supply.fill document 0).document
    parseDocument input = .ok document ∧ (∀ path f, ¬ document.At path (.number (.float f))) ∧
    filled.Bounded Number.Exact Json.maxDepth ∧ Json.parse filled.render = .ok filled := by
  intro supply a items document input filled
  have hlow : (Number.int (-9223372036854775808)).Exact := ⟨by decide, by decide⟩
  have hhigh : (Number.int 18446744073709551615).Exact := ⟨by decide, by decide⟩
  have hempty : (Json.object []).Bounded Number.Exact 125 := .object List.nodup_nil (by simp)
  have hitems : ∀ item ∈ items, item.Bounded Number.Exact 125 := by
    simp only [items, List.forall_mem_cons]
    exact ⟨.string _, .number hlow, .number hhigh, hempty, by simp⟩
  have hbounded : document.Bounded Number.Exact Json.maxDepth := by
    refine .object (by decide) fun m hm => ?_
    rcases List.mem_cons.mp hm with rfl | hm
    · exact .string _
    · obtain rfl := List.mem_singleton.mp hm
      exact .array hitems
  have hinput : input = document.render := by decide +kernel
  have hread : parseDocument input = .ok document := by
    rw [hinput, parseDocument, Json.parse_render hbounded]
    rfl
  have hints : ∀ path f, ¬ document.At path (.number (.float f)) := fun path f =>
    hbounded.not_float
  exact ⟨hread, hints, supply.parse_render_fill hread hints 0⟩

end Supply

end TemplateFill
