import TemplateFill.Json.Printer
import TemplateFill.Proofs.Json.Parsed
import TemplateFill.Proofs.Json.Quoting

/-! # Documents as they are written

Each reader takes from the head of a text what was written there, whatever follows, and
leaves just that; `Yields` says so. What is written between the items of a container is
skipped, and it ends a number. So a document without floats is read back from its text. -/
namespace TemplateFill.Json

open Numeral (Ends)

/-- A reader has read this, and left this text. -/
def Yields {α : Type} {n : Nat} (outcome : Except Fault (α × Text.Below n)) (x : α)
    (rest : List Char) : Prop :=
  ∃ h, outcome = .ok (x, ⟨rest, h⟩)

/-- A text is only spaces. -/
def Blank (s : List Char) : Prop := ∀ c ∈ s, isSpace c = true

/-- A value can start with this character: it neither is skipped nor ends a container. -/
def Starts (c : Char) : Prop := isSpace c = false ∧ c ≠ ']' ∧ c ≠ '}'

instance (c : Char) : Decidable (Starts c) :=
  inferInstanceAs (Decidable (isSpace c = false ∧ c ≠ ']' ∧ c ≠ '}'))

/-- The reader takes from the head of a text the value that this was written for, if what
follows does not go on with a number. -/
structure ReadsBack {α : Type} (reader : Reader α) (written : List Char) (x : α) : Prop where
  starts : ∃ c tail, written = c :: tail ∧ Starts c
  yields : ∀ rest, Ends rest → Yields (reader (written ++ rest)) x rest

theorem skip_blank {s : List Char} (hs : Blank s) {c : Char} (hc : isSpace c = false)
    (rest : List Char) : skip (s ++ c :: rest) = c :: rest := by
  refine Text.dropWhile_run hs fun d hd => ?_
  obtain rfl := Option.some.inj hd
  exact hc

theorem skip_cons {c : Char} (hc : isSpace c = false) (rest : List Char) :
    skip (c :: rest) = c :: rest :=
  skip_blank (s := []) (fun _ hd => nomatch hd) hc rest

theorem Starts.ne_close {c : Char} (hc : Starts c) {kind : Container}
    (hkind : kind.close = ']' ∨ kind.close = '}') : c ≠ kind.close := by
  rcases hkind with hkind | hkind <;> rw [hkind]
  · exact hc.2.1
  · exact hc.2.2

theorem ends_cons {c : Char} (hc : c = ',' ∨ c = ']' ∨ c = '}' ∨ isSpace c = true)
    (rest : List Char) : Ends (c :: rest) := by
  intro d hd
  obtain rfl := Option.some.inj hd
  rcases hc with rfl | rfl | rfl | hc
  · decide
  · decide
  · decide
  · simp only [isSpace, Bool.or_eq_true, decide_eq_true_eq] at hc
    rcases hc with ((rfl | rfl) | rfl) | rfl <;> decide

/-- Spaces end a number, and where there are none, what follows them does. -/
theorem Blank.ends_append {s rest : List Char} (hs : Blank s) (h : Ends rest) :
    Ends (s ++ rest) := by
  cases s with
  | nil => exact h
  | cons c s => exact ends_cons (.inr (.inr (.inr (hs c List.mem_cons_self)))) _

/-! ## Containers -/

section Containers

variable {α : Type} {kind : Container} {item : Reader α} {limit : Nat} {read : List α}

theorem Yields.last {s after rest : List Char} {x : α} (hx : Yields (item s) x after)
    (hclose : skip after = kind.close :: rest) (hs : s.length ≤ limit) :
    Yields (items kind item read s hs) (x :: read).reverse rest := by
  obtain ⟨h, hx⟩ := hx
  unfold items
  rw [hx]
  simp only
  split
  · next he =>
    rw [hclose] at he
    cases he
  · next he =>
    rw [hclose] at he
    cases he
    rw [if_pos rfl]
    exact ⟨_, rfl⟩

theorem Yields.more {s after tail next rest : List Char} {d : Char} {x : α} {xs : List α}
    (hkind : kind.close ≠ ',') (hx : Yields (item s) x after) (hcomma : skip after = ',' :: tail)
    (hnext : skip tail = d :: next) (hd : d ≠ kind.close)
    (hrest : ∀ h : (d :: next).length ≤ limit,
      Yields (items kind item (x :: read) (d :: next) h) xs rest)
    (hs : s.length ≤ limit) : Yields (items kind item read s hs) xs rest := by
  obtain ⟨h, hx⟩ := hx
  unfold items
  rw [hx]
  simp only
  split
  · next he =>
    rw [hcomma] at he
    cases he
  · next he =>
    rw [hcomma] at he
    cases he
    rw [if_neg hkind.symm, if_pos rfl]
    split
    · next he =>
      rw [hnext] at he
      cases he
    · next he =>
      rw [hnext] at he
      cases he
      rw [if_neg hd]
      exact hrest _

theorem Yields.empty {s rest : List Char} (hclose : skip s = kind.close :: rest) :
    Yields (content kind item s) [] rest := by
  unfold content
  split
  · next he =>
    rw [hclose] at he
    cases he
  · next he =>
    rw [hclose] at he
    cases he
    rw [if_pos rfl]
    exact ⟨_, rfl⟩

theorem Yields.nonempty {s next rest : List Char} {d : Char} {xs : List α} (hs : skip s = d :: next)
    (hd : d ≠ kind.close)
    (hitems : ∀ h : (d :: next).length ≤ s.length + 1,
      Yields (items kind item [] (d :: next) h) xs rest) :
    Yields (content kind item s) xs rest := by
  unfold content
  split
  · next he =>
    rw [hs] at he
    cases he
  · next he =>
    rw [hs] at he
    cases he
    rw [if_neg hd]
    exact hitems _

variable {write : α → List Char} {gap last : List Char} {x : α} {xs : List α} (kind)

/-- Items are written one after another with a comma before each but the first, and with
spaces around them. -/
theorem items_written (hkind : kind.close = ']' ∨ kind.close = '}') (hgap : Blank gap)
    (hlast : Blank last) (hreads : ∀ y ∈ x :: xs, ReadsBack item (write y) y) {s rest : List Char}
    (hs : s = write x ++ (xs.flatMap (fun y => ',' :: gap ++ write y) ++
      (last ++ kind.close :: rest))) (h : s.length ≤ limit) :
    Yields (items kind item read s h) (read.reverse ++ x :: xs) rest := by
  have hclose : Ends (kind.close :: rest) ∧ isSpace kind.close = false ∧ kind.close ≠ ',' := by
    rcases hkind with hkind | hkind <;> rw [hkind]
    · exact ⟨ends_cons (by simp) rest, by decide, by decide⟩
    · exact ⟨ends_cons (by simp) rest, by decide, by decide⟩
  obtain ⟨hends, hspace, hcomma⟩ := hclose
  -- The loop has `x` before it and `read` behind it; what follows `x` is a comma and the next
  -- item, or the closing bracket.
  induction xs generalizing x read s with
  | nil =>
    subst hs
    have hx := (hreads x List.mem_cons_self).yields _ (hlast.ends_append hends)
    rw [← List.reverse_cons]
    exact hx.last (skip_blank hlast hspace rest) h
  | cons y ys ih =>
    obtain ⟨c, tail, hy, hstarts⟩ := (hreads y (by simp)).starts
    obtain ⟨more, hmore⟩ : ∃ more, more = tail ++
      (ys.flatMap (fun y => ',' :: gap ++ write y) ++ (last ++ kind.close :: rest)) := ⟨_, rfl⟩
    have hsplit : s = write x ++ ',' :: (gap ++ c :: more) := by
      rw [hs, hmore]
      simp [hy]
    subst hsplit
    have hx := (hreads x List.mem_cons_self).yields (',' :: (gap ++ c :: more))
      (ends_cons (by simp) _)
    have hnext := skip_blank hgap hstarts.1 more
    have hread : read.reverse ++ x :: y :: ys = (x :: read).reverse ++ y :: ys := by simp
    rw [hread]
    refine hx.more hcomma (skip_cons (by decide) _) hnext (hstarts.ne_close hkind) (fun h => ?_) h
    exact ih (fun z hz => hreads z (List.mem_cons_of_mem _ hz)) (by rw [hy, hmore]; rfl) h

theorem content_written (hkind : kind.close = ']' ∨ kind.close = '}') (hgap : Blank gap)
    (hlast : Blank last) (hreads : ∀ y ∈ x :: xs, ReadsBack item (write y) y) (rest : List Char) :
    Yields (content kind item (gap ++ (write x ++
      (xs.flatMap (fun y => ',' :: gap ++ write y) ++ (last ++ kind.close :: rest)))))
      (x :: xs) rest := by
  obtain ⟨c, tail, hx, hstarts⟩ := (hreads x List.mem_cons_self).starts
  have hskip := skip_blank hgap hstarts.1 (tail ++
    (xs.flatMap (fun y => ',' :: gap ++ write y) ++ (last ++ kind.close :: rest)))
  rw [hx]
  refine Yields.nonempty hskip (hstarts.ne_close hkind) fun h => ?_
  exact items_written kind hkind hgap hlast hreads (by rw [hx]; rfl) h

end Containers

/-! ## Values -/

theorem quoted_append (text : String) (rest : List Char) :
    quoted text ++ rest = '"' :: (Quoted.encode text.toList ++ '"' :: rest) := by
  simp [quoted]

theorem exists_number_eq_cons {n : Number} (hn : n.Exact) :
    ∃ c tail, n.chars = c :: tail ∧ (c = '-' ∨ c.isDigit = true) := by
  cases n with
  | float f => exact hn.elim
  | int v =>
    cases v with
    | ofNat k =>
      obtain ⟨d, tail, hd, hdigit⟩ := Text.exists_toDigits_eq_cons k
      exact ⟨d, tail, hd, .inr hdigit⟩
    | negSucc k => exact ⟨'-', Nat.toDigits 10 (k + 1), rfl, .inl rfl⟩

theorem ne_of_numeral {c d : Char} (hc : c = '-' ∨ c.isDigit = true) (hminus : d ≠ '-')
    (hdigit : d.isDigit = false) : c ≠ d := by
  rintro rfl
  rcases hc with rfl | hc
  · exact hminus rfl
  · rw [hdigit] at hc
    cases hc

theorem starts_of_numeral {c : Char} (hc : c = '-' ∨ c.isDigit = true) : Starts c := by
  refine ⟨?_, ne_of_numeral hc (by decide) (by decide), ne_of_numeral hc (by decide) (by decide)⟩
  simp only [isSpace, Bool.or_eq_false_iff, decide_eq_false_iff_not]
  exact ⟨⟨⟨ne_of_numeral hc (by decide) (by decide), ne_of_numeral hc (by decide) (by decide)⟩,
    ne_of_numeral hc (by decide) (by decide)⟩, ne_of_numeral hc (by decide) (by decide)⟩

section Values

variable {inner : Reader Json} {outer : Option (Reader Json)} {s rest : List Char}

theorem ReadsBack.string (text : String) : ReadsBack (valueWith outer) (quoted text) (.string text) := by
  refine ⟨⟨'"', _, rfl, by decide⟩, fun rest _ => ?_⟩
  have hread := Quoted.decode_encode text.toList [] rest
  rw [quoted_append]
  simp only [valueWith, if_true]
  split
  · next he =>
    rw [hread] at he
    cases he
  · next he =>
    rw [hread] at he
    cases he
    refine ⟨?_, by simp⟩
    simp only [List.length_cons, List.length_append]
    omega

theorem ReadsBack.number {n : Number} (hn : n.Exact) :
    ReadsBack (valueWith outer) n.chars (.number n) := by
  obtain ⟨c, tail, hchars, hc⟩ := exists_number_eq_cons hn
  have hne (d : Char) (hminus : d ≠ '-') (hdigit : d.isDigit = false) : c ≠ d :=
    ne_of_numeral hc hminus hdigit
  refine ⟨⟨c, tail, hchars, starts_of_numeral hc⟩, fun rest hrest => ?_⟩
  have hread := Numeral.read_chars hn hrest
  rw [hchars, List.cons_append] at hread ⊢
  simp only [valueWith, hne '"' (by decide) (by decide), hne '[' (by decide) (by decide),
    hne '{' (by decide) (by decide), hne 't' (by decide) (by decide),
    hne 'f' (by decide) (by decide), hne 'n' (by decide) (by decide), hc, if_true, if_false]
  split
  · next he =>
    rw [hread] at he
    cases he
  · next he =>
    rw [hread] at he
    cases he
    exact ⟨_, rfl⟩

theorem Yields.array {items : List Json} (h : Yields (content list inner s) items rest) :
    Yields (valueWith (some inner) ('[' :: s)) (.array items) rest := by
  obtain ⟨hlt, h⟩ := h
  refine ⟨hlt, ?_⟩
  simp only [valueWith]
  rw [if_neg (by decide), if_pos trivial, h]

theorem Yields.object {pairs : List (String × Json)}
    (h : Yields (content members (member inner) s) pairs rest) :
    Yields (valueWith (some inner) ('{' :: s)) (.object (Members.ofList pairs)) rest := by
  obtain ⟨hlt, h⟩ := h
  refine ⟨hlt, ?_⟩
  simp only [valueWith]
  rw [if_neg (by decide), if_neg (by decide), if_pos trivial, h]

theorem Layout.exists_colon_eq (layout : Layout) :
    ∃ gap, layout.colon = ':' :: gap ∧ Blank gap := by
  cases layout with
  | compact => exact ⟨[], rfl, fun c hc => nomatch hc⟩
  | indented step =>
    refine ⟨[' '], rfl, fun c hc => ?_⟩
    obtain rfl := List.mem_singleton.mp hc
    rfl

theorem ReadsBack.member {key : String} {v : Json} {written : List Char} (layout : Layout)
    (hv : ReadsBack inner written v) :
    ReadsBack (member inner) (quoted key ++ layout.colon ++ written) (key, v) := by
  obtain ⟨gap, hcolon, hgap⟩ := layout.exists_colon_eq
  obtain ⟨c, tail, hc, hstarts⟩ := hv.starts
  refine ⟨⟨'"', _, rfl, by decide⟩, fun rest hrest => ?_⟩
  have hwritten : quoted key ++ layout.colon ++ written ++ rest =
      '"' :: (Quoted.encode key.toList ++ '"' :: ':' :: (gap ++ written ++ rest)) := by
    rw [hcolon]
    simp [quoted_append]
  have hkey := Quoted.decode_encode key.toList [] (':' :: (gap ++ written ++ rest))
  have hskip : skip (gap ++ written ++ rest) = written ++ rest := by
    rw [hc, List.append_assoc, List.cons_append]
    exact skip_blank hgap hstarts.1 _
  have hinner : Yields (inner (skip (gap ++ written ++ rest))) v rest := by
    rw [hskip]
    exact hv.yields rest hrest
  obtain ⟨hlt, hinner⟩ := hinner
  rw [hwritten]
  simp only [Json.member, if_true]
  split
  · next he =>
    rw [hkey] at he
    cases he
  · next he =>
    rw [hkey] at he
    cases he
    split
    · next he =>
      rw [skip_cons (by decide)] at he
      cases he
    · next he =>
      rw [skip_cons (by decide)] at he
      cases he
      rw [if_pos rfl, hinner]
      refine ⟨?_, by simp⟩
      simp only [List.length_cons, List.length_append]
      omega

theorem word_append (expected rest : List Char) : word expected (expected ++ rest) = .ok rest := by
  induction expected with
  | nil => rfl
  | cons c expected ih => simp [word, ih]

theorem ReadsBack.atom {c : Char} {expected : List Char} {v : Json} (hc : Starts c)
    (h : ∀ s, valueWith outer (c :: s) = valueWith.atom v expected s) :
    ReadsBack (valueWith outer) (c :: expected) v := by
  refine ⟨⟨c, expected, rfl, hc⟩, fun rest _ => ?_⟩
  rw [List.cons_append, h]
  unfold valueWith.atom
  split
  · next he =>
    rw [word_append] at he
    cases he
  · next he =>
    rw [word_append] at he
    cases he
    exact ⟨_, rfl⟩

end Values

/-! ## Documents -/

theorem Layout.blank_line (layout : Layout) (depth : Nat) : Blank (layout.line depth) := by
  cases layout with
  | compact => exact fun c hc => nomatch hc
  | indented step =>
    intro c hc
    rcases List.mem_cons.mp hc with rfl | hc
    · rfl
    · rw [List.eq_of_mem_replicate hc]
      rfl

theorem itemChars_eq (layout : Layout) (depth : Nat) (items : List Json) :
    itemChars layout depth items =
      items.flatMap fun item => ',' :: layout.line depth ++ chars layout depth item := by
  induction items with
  | nil => rfl
  | cons item rest ih => rw [itemChars, ih, List.flatMap_cons]

/-- A member as it is written. -/
def oneMember (layout : Layout) (depth : Nat) (m : String × Json) : List Char :=
  quoted m.1 ++ layout.colon ++ chars layout depth m.2

theorem memberChars_eq (layout : Layout) (depth : Nat) (members : List (String × Json)) :
    memberChars layout depth members =
      members.flatMap fun m => ',' :: layout.line depth ++ oneMember layout depth m := by
  induction members with
  | nil => rfl
  | cons m rest ih =>
    rw [memberChars, ih, List.flatMap_cons, oneMember]
    simp

theorem chars_array_append (layout : Layout) (depth : Nat) (item : Json) (items : List Json)
    (rest : List Char) :
    chars layout depth (.array (item :: items)) ++ rest =
      '[' :: (layout.line (depth + 1) ++ (chars layout (depth + 1) item ++
        (items.flatMap (fun y => ',' :: layout.line (depth + 1) ++ chars layout (depth + 1) y) ++
          (layout.line depth ++ ']' :: rest)))) := by
  rw [chars, itemChars_eq]
  simp

theorem chars_object_append (layout : Layout) (depth : Nat) (m : String × Json)
    (members : List (String × Json)) (rest : List Char) :
    chars layout depth (.object (m :: members)) ++ rest =
      '{' :: (layout.line (depth + 1) ++ (oneMember layout (depth + 1) m ++
        (members.flatMap (fun y =>
            ',' :: layout.line (depth + 1) ++ oneMember layout (depth + 1) y) ++
          (layout.line depth ++ '}' :: rest)))) := by
  obtain ⟨key, v⟩ := m
  rw [chars, memberChars_eq]
  simp [oneMember]

theorem exists_value_eq (room : Nat) : ∃ outer, value room = valueWith outer := by
  cases room with
  | zero => exact ⟨none, rfl⟩
  | succ room => exact ⟨some (value room), rfl⟩

/-- A value is read back with as much room as it needs, in any layout and at any depth. -/
theorem reads_chars {room : Nat} {document : Json} (h : document.Bounded Number.Exact room)
    (layout : Layout) (depth : Nat) :
    ReadsBack (value room) (chars layout depth document) document := by
  induction h generalizing depth with
  | @null room =>
    obtain ⟨outer, hvalue⟩ := exists_value_eq room
    rw [hvalue]
    exact .atom (by decide) fun s => rfl
  | @bool room value =>
    obtain ⟨outer, hvalue⟩ := exists_value_eq room
    rw [hvalue]
    cases value with
    | true => exact .atom (by decide) fun s => rfl
    | false => exact .atom (by decide) fun s => rfl
  | @number room n hn =>
    obtain ⟨outer, hvalue⟩ := exists_value_eq room
    rw [hvalue]
    exact .number hn
  | @string room text =>
    obtain ⟨outer, hvalue⟩ := exists_value_eq room
    rw [hvalue]
    exact .string text
  | @array room items hitems ih =>
    cases items with
    | nil =>
      refine ⟨⟨'[', _, rfl, by decide⟩, fun rest _ => ?_⟩
      exact Yields.array (Yields.empty (skip_cons (by decide) rest))
    | cons item items =>
      refine ⟨⟨'[', _, rfl, by decide⟩, fun rest _ => ?_⟩
      rw [chars_array_append]
      exact (content_written list (.inl rfl) (layout.blank_line _) (layout.blank_line _)
        (fun item hi => ih item hi (depth + 1)) rest).array
  | @object room pairs hkeys hvalues ih =>
    cases pairs with
    | nil =>
      refine ⟨⟨'{', _, rfl, by decide⟩, fun rest _ => ?_⟩
      exact Yields.object (Yields.empty (skip_cons (by decide) rest))
    | cons m pairs =>
      refine ⟨⟨'{', _, rfl, by decide⟩, fun rest _ => ?_⟩
      have hcontent := content_written members (.inr rfl) (layout.blank_line (depth + 1))
        (layout.blank_line depth) (fun m hm => (ih m hm (depth + 1)).member layout) rest
      rw [chars_object_append, ← Members.ofList_eq_self hkeys]
      exact hcontent.object

/-- A document without floats that nests no deeper than a reader goes is read back from its
text. -/
theorem parse_render {document : Json} (h : document.Bounded Number.Exact maxDepth) :
    parse document.render = .ok document := by
  have hreads := reads_chars h (.indented 4) 0
  obtain ⟨c, tail, hc, hstarts⟩ := hreads.starts
  have hskip : skip (chars (.indented 4) 0 document ++ ['\n']) =
      chars (.indented 4) 0 document ++ ['\n'] := by
    rw [hc]
    exact skip_cons hstarts.1 _
  have hvalue : Yields (value maxDepth (skip (chars (.indented 4) 0 document ++ ['\n'])))
      document ['\n'] := by
    rw [hskip]
    exact hreads.yields ['\n'] (ends_cons (by decide) [])
  obtain ⟨hlt, hvalue⟩ := hvalue
  have hdocument : Json.document (chars (.indented 4) 0 document ++ ['\n']) = .ok document := by
    unfold Json.document
    rw [hvalue]
    rfl
  rw [parse, render, String.toList_ofList, hdocument]
  rfl

end TemplateFill.Json
