import TemplateFill.Json.Parser
import TemplateFill.Proofs.Json.Numerals
import TemplateFill.Proofs.Json.Texts
import TemplateFill.Proofs.Members

/-! # Documents that have been read

What is said of every value that a reader can give holds of the items of a container
read by it. So no object that has been read has two members of one key, whatever its
text: a key that comes again takes the place of the first. Nor do its containers nest
deeper than a reader goes. -/
namespace TemplateFill.Json

/-- The containers of the document nest at most `room` deep, no object has two members of
one key, and this holds of all numbers. -/
inductive Bounded (P : Number → Prop) : Nat → Json → Prop
  | null {room : Nat} : Bounded P room .null
  | bool {room : Nat} (value : Bool) : Bounded P room (.bool value)
  | number {room : Nat} {n : Number} (hn : P n) : Bounded P room (.number n)
  | string {room : Nat} (text : String) : Bounded P room (.string text)
  | array {room : Nat} {items : List Json} (hitems : ∀ item ∈ items, Bounded P room item) :
      Bounded P (room + 1) (.array items)
  | object {room : Nat} {members : List (String × Json)} (hkeys : (Members.keys members).Nodup)
      (hvalues : ∀ m ∈ members, Bounded P room m.2) : Bounded P (room + 1) (.object members)

theorem Bounded.wellFormed {P : Number → Prop} {room : Nat} {document : Json}
    (h : document.Bounded P room) : document.WellFormed := by
  induction h with
  | null => exact .null
  | bool value => exact .bool value
  | @number room n hn => exact .number n
  | string text => exact .string text
  | array hitems ih => exact .array ih
  | object hkeys hvalues ih => exact .object hkeys ih

/-- This holds of every value that a reader can give. -/
def Gives {α : Type} (reader : Reader α) (P : α → Prop) : Prop :=
  ∀ ⦃s x after⦄, reader s = .ok (x, after) → P x

variable {α : Type} {P : α → Prop} {kind : Container} {item : Reader α}

theorem Gives.items {limit : Nat} {read xs : List α} {s : List Char} {hs : s.length ≤ limit}
    {after : Text.Below limit} (hitem : Gives item P) (hread : ∀ x ∈ read, P x)
    (h : Json.items kind item read s hs = .ok (xs, after)) : ∀ x ∈ xs, P x := by
  fun_induction Json.items kind item read s hs with
  | case1 | case2 | case4 | case5 | case7 => cases h
  | case3 read s hs x rest hx =>
    cases h
    intro y hy
    exact List.forall_mem_cons.mpr ⟨hitem hx, hread⟩ y (List.mem_reverse.mp hy)
  | case6 read s hs x _ hx _ _ _ _ _ _ _ _ _ _ ih =>
    exact ih (List.forall_mem_cons.mpr ⟨hitem hx, hread⟩) h

theorem Gives.content {xs : List α} {s : List Char} {after : Text.Below (s.length + 1)}
    (hitem : Gives item P) (h : Json.content kind item s = .ok (xs, after)) : ∀ x ∈ xs, P x := by
  revert h
  fun_cases Json.content kind item s with
  | case1 => rintro ⟨⟩
  | case2 =>
    rintro ⟨⟩ x hx
    cases hx
  | case3 => exact hitem.items fun x hx => nomatch hx

theorem Gives.member {inner : Reader Json} {P : Json → Prop} (hinner : Gives inner P) :
    Gives (Json.member inner) fun m => P m.2 := by
  intro s m after h
  unfold Json.member at h
  split at h
  · cases h
  split at h
  swap
  · cases h
  split at h
  · cases h
  split at h
  · cases h
  split at h
  swap
  · cases h
  split at h
  · cases h
  next hv =>
    cases h
    exact hinner hv

theorem atom_bounded {Q : Number → Prop} {room : Nat} {v document : Json} (hv : v.Bounded Q room)
    {expected s : List Char} {after : Text.Below (s.length + 1)}
    (h : valueWith.atom v expected s = .ok (document, after)) : document.Bounded Q room := by
  unfold valueWith.atom at h
  split at h
  · cases h
  · cases h
    exact hv

/-- A value that is read is no deeper than one level more than the values inside it. -/
theorem valueWith_bounded {inner : Option (Reader Json)} {room : Nat}
    (hinner : ∀ reader ∈ inner, ∃ below, room = below + 1 ∧
      Gives reader (Bounded Number.Fits below)) :
    Gives (valueWith inner) (Bounded Number.Fits room) := by
  intro s document after h
  unfold valueWith at h
  split at h
  · cases h
  split at h
  · split at h
    · cases h
    · cases h
      exact .string _
  split at h
  · split at h
    · cases h
    · next inner =>
      obtain ⟨below, rfl, hgives⟩ := hinner inner rfl
      split at h
      · cases h
      · next hread =>
        cases h
        exact .array (hgives.content hread)
  split at h
  · split at h
    · cases h
    · next inner =>
      obtain ⟨below, rfl, hgives⟩ := hinner inner rfl
      split at h
      · cases h
      · next hread =>
        cases h
        refine .object (Members.nodup_keys_ofList _) fun m hm => ?_
        exact hgives.member.content hread m (Members.mem_of_mem_ofList hm)
  split at h
  · exact atom_bounded (.bool true) h
  split at h
  · exact atom_bounded (.bool false) h
  split at h
  · exact atom_bounded .null h
  split at h
  swap
  · cases h
  split at h
  · cases h
  · next hread =>
    cases h
    exact .number (Numeral.fits_of_read hread)

theorem value_bounded : ∀ room, Gives (value room) (Bounded Number.Fits room)
  | 0 => valueWith_bounded fun reader hr => nomatch hr
  | room + 1 => valueWith_bounded fun reader hr => by
    obtain rfl := Option.some.inj hr
    exact ⟨room, rfl, value_bounded room⟩

theorem document_bounded {s : List Char} {root : Json} (h : document s = .ok root) :
    root.Bounded Number.Fits maxDepth := by
  unfold document at h
  split at h
  · cases h
  next hv =>
    split at h
    · cases h
      exact value_bounded maxDepth hv
    · cases h

theorem parse_bounded {text : String} {root : Json} (h : parse text = .ok root) :
    root.Bounded Number.Fits maxDepth := by
  unfold parse at h
  cases hd : document text.toList with
  | error fault =>
    rw [hd] at h
    cases h
  | ok read =>
    rw [hd] at h
    cases h
    exact document_bounded hd

/-- A document that has been read has no two members of one key in an object. -/
theorem parse_wellFormed {text : String} {root : Json} (h : parse text = .ok root) :
    root.WellFormed :=
  (parse_bounded h).wellFormed

end TemplateFill.Json
