import TemplateFill.Proofs.Fill.Structure
import TemplateFill.Proofs.Placeholder.Requests

/-! # Generated texts are final

In a document whose strings are made of literal characters and requests, the first sweep
answers every request by one call of the generator, in the order of a visit. What it
leaves opens no brace, so no later sweep finds anything to do or to warn of. -/
namespace TemplateFill

open TemplateFill.Random (Making Source)

namespace Json

/-- The strings of the document are made of the parts that the reading gives, and no key
has an opening brace. -/
structure Asks (document : Json) (reading : String → List Part) : Prop where
  keys : ∀ key, (.key, key) ∈ document.texts → '{' ∉ key.toList
  chars : ∀ text, (.value, text) ∈ document.texts →
    (reading text).flatMap Part.chars = text.toList

/-- The requests of a document in the order of a visit. -/
def requests (reading : String → List Part) (document : Json) : List Request :=
  document.texts.flatMap fun
    | (.key, _) => []
    | (.value, text) => (reading text).filterMap Part.request?

/-- The second document is the first with texts from these calls in the place of its
requests, in the order of a visit. -/
inductive Supplied (reading : String → List Part) :
    Json → List (Request × String) → Json → Prop
  | null : Supplied reading .null [] .null
  | bool (value : Bool) : Supplied reading (.bool value) [] (.bool value)
  | number (value : Number) : Supplied reading (.number value) [] (.number value)
  | string {text text' : String} {calls : List (Request × String)}
      (h : Part.Supplied (reading text) calls text'.toList) :
      Supplied reading (.string text) calls (.string text')
  | noItems : Supplied reading (.array []) [] (.array [])
  | items {item item' : Json} {rest rest' : List Json} {first others : List (Request × String)}
      (hitem : Supplied reading item first item')
      (hrest : Supplied reading (.array rest) others (.array rest')) :
      Supplied reading (.array (item :: rest)) (first ++ others) (.array (item' :: rest'))
  | noMembers : Supplied reading (.object []) [] (.object [])
  | members {key : String} {value value' : Json} {rest rest' : List (String × Json)}
      {first others : List (Request × String)} (hvalue : Supplied reading value first value')
      (hrest : Supplied reading (.object rest) others (.object rest')) :
      Supplied reading (.object ((key, value) :: rest)) (first ++ others)
        (.object ((key, value') :: rest'))

variable {document document' : Json} {reading : String → List Part}
  {calls : List (Request × String)}

theorem Asks.item {items : List Json} (h : (array items).Asks reading) {item : Json}
    (hi : item ∈ items) : item.Asks reading :=
  ⟨fun key hk => h.keys key (mem_texts_item hi hk),
    fun text ht => h.chars text (mem_texts_item hi ht)⟩

theorem Asks.value {members : List (String × Json)} (h : (object members).Asks reading)
    {m : String × Json} (hm : m ∈ members) : m.2.Asks reading :=
  ⟨fun key hk => h.keys key (mem_texts_value hm hk),
    fun text ht => h.chars text (mem_texts_value hm ht)⟩

/-- A document is supplied by one call for each of its requests. -/
theorem Supplied.requests_eq (h : Supplied reading document calls document') :
    calls.map Prod.fst = document.requests reading := by
  induction h with
  | null | bool | number | noItems | noMembers => rfl
  | string h =>
    rw [h.requests_eq]
    exact (List.append_nil _).symm
  | items _ _ ih ihrest =>
    rw [List.map_append, ih, ihrest, requests, requests, requests, texts_array_cons,
      List.flatMap_append]
  | members _ _ ih ihrest =>
    rw [List.map_append, ih, ihrest, requests, requests, requests, texts_object_cons,
      List.cons_append, List.flatMap_cons, List.flatMap_append, List.nil_append]

/-- A document supplied with texts that open no brace opens none. -/
theorem Supplied.brace_notMem (h : Supplied reading document calls document')
    (hcalls : ∀ call ∈ calls, '{' ∉ call.2.toList)
    (hkeys : ∀ key, (.key, key) ∈ document.texts → '{' ∉ key.toList) :
    ∀ e ∈ document'.texts, '{' ∉ e.2.toList := by
  induction h with
  | null | bool | number | noItems | noMembers => exact fun e he => nomatch he
  | string h =>
    intro e he
    obtain rfl := List.mem_singleton.mp he
    exact h.brace_notMem hcalls
  | @items item item' rest rest' first others hitem hrest ih ihrest =>
    obtain ⟨hfirst, hothers⟩ := List.forall_mem_append.mp hcalls
    rw [texts_array_cons] at hkeys
    have hitemTexts := ih hfirst fun key hk => hkeys key (List.mem_append_left _ hk)
    have hrestTexts := ihrest hothers fun key hk => hkeys key (List.mem_append_right _ hk)
    rw [texts_array_cons]
    exact List.forall_mem_append.mpr ⟨hitemTexts, hrestTexts⟩
  | @members key value value' rest rest' first others hvalue hrest ih ihrest =>
    obtain ⟨hfirst, hothers⟩ := List.forall_mem_append.mp hcalls
    rw [texts_object_cons] at hkeys
    have hkey := hkeys key List.mem_cons_self
    have hvalueTexts := ih hfirst fun name hk =>
      hkeys name (List.mem_cons_of_mem _ (List.mem_append_left _ hk))
    have hrestTexts := ihrest hothers fun name hk =>
      hkeys name (List.mem_cons_of_mem _ (List.mem_append_right _ hk))
    rw [texts_object_cons]
    exact List.forall_mem_append.mpr ⟨List.forall_mem_cons.mpr ⟨hkey, hvalueTexts⟩, hrestTexts⟩

end Json

namespace Supply

variable (supply : Supply) (root : Json) {reading : String → List Part}

theorem sweepItems_drawn {items : List Json}
    (h : ∀ item ∈ items, ∀ position,
      (supply.sweep .generative root item position).Drawn supply.random position
        (Json.Supplied reading item)) (position : Nat) :
    (supply.sweepItems .generative root items position).Drawn supply.random position
      fun calls result => Json.Supplied reading (.array items) calls (.array result) := by
  induction items generalizing position with
  | nil => exact ⟨[], .nil _, .noItems, rfl⟩
  | cons item rest ih =>
    obtain ⟨hitem, hrest⟩ := List.forall_mem_cons.mp h
    obtain ⟨first, hcalls, hsupplied, hquiet⟩ := hitem position
    obtain ⟨others, hcalls', hsupplied', hquiet'⟩ :=
      ih hrest (supply.sweep .generative root item position).position
    refine ⟨first ++ others, hcalls.append hcalls', .items hsupplied hsupplied', ?_⟩
    rw [sweepItems, hquiet, hquiet', List.append_nil]

theorem sweepMembers_drawn {members : List (String × Json)}
    (hkeys : ∀ m ∈ members, '{' ∉ m.1.toList)
    (h : ∀ m ∈ members, ∀ position,
      (supply.sweep .generative root m.2 position).Drawn supply.random position
        (Json.Supplied reading m.2)) (position : Nat) :
    (supply.sweepMembers .generative root members position).Drawn supply.random position
      fun calls result => Json.Supplied reading (.object members) calls (.object result) := by
  induction members generalizing position with
  | nil => exact ⟨[], .nil _, .noMembers, rfl⟩
  | cons m rest ih =>
    obtain ⟨key, value⟩ := m
    obtain ⟨hkey, hkeys⟩ := List.forall_mem_cons.mp hkeys
    obtain ⟨hvalue, hrest⟩ := List.forall_mem_cons.mp h
    have hname := supply.substitute_literal .generative root hkey position
    obtain ⟨first, hcalls, hsupplied, hquiet⟩ := hvalue position
    obtain ⟨others, hcalls', hsupplied', hquiet'⟩ :=
      ih hkeys hrest (supply.sweep .generative root value position).position
    simp only [sweepMembers, hname]
    refine ⟨first ++ others, hcalls.append hcalls', .members hsupplied hsupplied', ?_⟩
    simp only [hquiet, hquiet', List.append_nil]

/-- A generative sweep answers the requests of a document in the order of a visit. -/
theorem sweep_drawn {document : Json} (hw : document.WellFormed) (h : document.Asks reading)
    (position : Nat) :
    (supply.sweep .generative root document position).Drawn supply.random position
      (Json.Supplied reading document) := by
  induction hw generalizing position with
  | null => exact ⟨[], .nil _, .null, rfl⟩
  | bool value => exact ⟨[], .nil _, .bool value, rfl⟩
  | number value => exact ⟨[], .nil _, .number value, rfl⟩
  | string text =>
    obtain ⟨calls, hcalls, hsupplied, hquiet⟩ :=
      supply.substitute_drawn root (h.chars text (by simp [Json.texts])) position
    exact ⟨calls, hcalls, .string hsupplied, hquiet⟩
  | @array items _ ih =>
    exact supply.sweepItems_drawn root (fun item hi => ih item hi (h.item hi)) position
  | @object members hnodup _ ih =>
    have hopen : ∀ m ∈ members, '{' ∉ m.1.toList := fun m hm => h.keys m.1 (Json.mem_texts_key hm)
    have hplain : Json.PlainKeys members := by
      intro key hk
      obtain ⟨m, hm, rfl⟩ := List.mem_map.mp hk
      exact Placeholder.not_occursIn (hopen m hm)
    have hkeys := supply.keys_sweepMembers .generative root hplain position
    have hself := Members.ofList_eq_self (by rw [hkeys]; exact hnodup)
    have hdrawn := supply.sweepMembers_drawn root hopen (fun m hm => ih m hm (h.value hm)) position
    simp only [sweep, hself]
    exact hdrawn

variable {root}

/-- Where no text opens a brace, a sweep finds nothing to do. -/
theorem sweep_literal {document : Json} (hw : document.WellFormed)
    (h : ∀ e ∈ document.texts, '{' ∉ e.2.toList) (mode : Mode) (root : Json) (position : Nat) :
    supply.sweep mode root document position = ⟨document, [], position⟩ := by
  have hsteady : Steady supply mode root document.texts (fun text => text) fun _ => [] :=
    fun e he position => supply.substitute_literal mode root (h e he) position
  have hsilent : (document.texts.flatMap fun _ => ([] : List Diagnostic)) = [] :=
    List.flatMap_eq_nil_iff.mpr fun _ _ => rfl
  rw [sweep_eq_mapStrings hw hsteady fun _ _ => rfl, Json.mapStrings_id, hsilent]

/-- Filling answers each request of a document by one call of the generator, in the order
of a visit, with a text of the form asked for, and leaves the rest. All calls are made in
the first sweep; every later one finds nothing to do, and nothing is warned of. -/
theorem fill_answers {document : Json} (hw : document.WellFormed) (h : document.Asks reading)
    (position : Nat) :
    let report := supply.fill document position
    ∃ calls, calls.map Prod.fst = document.requests reading ∧
      supply.random.Calls position calls report.position ∧
      document.Supplied reading calls report.document ∧
      (∀ call ∈ calls, call.1.making.Promises call.1.length call.2) ∧
      supply.sweep .generative document document position =
        ⟨report.document, [], report.position⟩ ∧
      (∀ mode root position,
        supply.sweep mode root report.document position = ⟨report.document, [], position⟩) ∧
      report.diagnostics = [] ∧ report.warningCounts = List.replicate passCount 0 := by
  obtain ⟨calls, hcalls, hsupplied, hquiet⟩ := supply.sweep_drawn document hw h position
  have hswept := supply.sweep_wellFormed .generative document document position
  obtain ⟨swept, hfirst⟩ : ∃ swept, supply.sweep .generative document document position = swept :=
    ⟨_, rfl⟩
  rw [hfirst] at hcalls hsupplied hquiet hswept
  obtain ⟨filled, diagnostics, after⟩ := swept
  obtain rfl : diagnostics = [] := hquiet
  -- What is drawn opens no brace, so every sweep after the first finds nothing to do.
  have hpromises := hcalls.promises
  have hopen := hsupplied.brace_notMem
    (fun call hcall => (hpromises call hcall).brace_notMem) h.keys
  have hlater := supply.sweep_literal hswept hopen
  have hpass : supply.pass document position = ⟨filled, [], after⟩ := by
    simp only [pass, hfirst, hlater]
    rfl
  have hsettled : supply.pass filled after = ⟨filled, [], after⟩ := by
    simp only [pass, hlater]
    rfl
  have hfill : supply.fill document position =
      ⟨filled, [], List.replicate passCount 0, after⟩ :=
    supply.repeat_advance_of_settled hpass hsettled (passCount - 1)
  rw [hfill]
  exact ⟨calls, hsupplied.requests_eq, hcalls, hsupplied, hpromises, hfirst, hlater, rfl, rfl⟩

/-- Two requests in one string, with a brace that closes after them, and one whose numeral
starts with a zero. -/
theorem fill_answers_beside_braces :
    let supply : Supply := ⟨fun _ => none, Source.scripted #[] 7⟩
    let word : Request := ⟨"alnum", .text .alnum, ['2'], by simp [Making.named], by simp,
      List.all_eq_true.mp rfl, by decide⟩
    let octet : Request := ⟨"b64", .base64, ['1'], by simp [Making.named], by simp,
      List.all_eq_true.mp rfl, by decide⟩
    let number : Request := ⟨"digits", .text .digit, ['0', '3'], by simp [Making.named], by simp,
      List.all_eq_true.mp rfl, by decide⟩
    let document : Json := .object
      [("a", .array [.string "x\x7b\x7balnum:2\x7d\x7d\x7b\x7bb64:1\x7d\x7d\x7d", .null]),
        ("b", .string "\x7b\x7bdigits:03\x7d\x7d")]
    let reading (text : String) : List Part :=
      if text = "\x7b\x7bdigits:03\x7d\x7d" then [.request number]
      else [.literal ['x'] (by decide), .request word, .request octet,
        .literal ['}'] (by decide)]
    let report := supply.fill document 0
    document.WellFormed ∧ document.Asks reading ∧
    (∃ calls, calls.map Prod.fst = [word, octet, number] ∧
      supply.random.Calls 0 calls report.position ∧
      document.Supplied reading calls report.document) ∧
    report.diagnostics = [] ∧ report.warningCounts = [0, 0, 0, 0, 0] := by
  intro supply word octet number document reading report
  have hw : document.WellFormed := by
    refine .object (by decide) fun m hm => ?_
    rcases List.mem_cons.mp hm with rfl | hm
    · exact .array (by simp [Json.WellFormed.string, Json.WellFormed.null])
    · obtain rfl := List.mem_singleton.mp hm
      exact .string _
  have hkeys : ∀ e ∈ document.texts, e.1 = .key → '{' ∉ e.2.toList := by decide
  have hchars : ∀ e ∈ document.texts, e.1 = .value →
      (reading e.2).flatMap Part.chars = e.2.toList := by decide
  have hasks : document.Asks reading :=
    ⟨fun key hk => hkeys (.key, key) hk rfl, fun text ht => hchars (.value, text) ht rfl⟩
  obtain ⟨calls, hrequests, hcalls, hsupplied, -, -, -, hquiet, hcounts⟩ :=
    supply.fill_answers hw hasks 0
  exact ⟨hw, hasks, ⟨calls, hrequests, hcalls, hsupplied⟩, hquiet, hcounts⟩

end Supply

end TemplateFill
