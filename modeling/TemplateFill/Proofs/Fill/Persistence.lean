import TemplateFill.Proofs.Fill.Structure
import TemplateFill.Proofs.Fill.Warnings
import TemplateFill.Proofs.Placeholder.Referencing

/-! # What a warning says holds of every document met

Where no key opens a brace, filling changes strings and nothing else. So a path that leads
nowhere, or to something other than a string, does so in all documents that filling meets,
and for the same reason. The text that a warning of the last pass is about is not changed
any more, and stands in the filled document. -/
namespace TemplateFill

open Placeholder (OccursIn WellFormed)

namespace Json

variable {d d' : Json}

/-! ## Failures -/

theorem plainAlong_of_keys (h : ∀ key, (.key, key) ∈ d.texts → ¬ OccursIn key) (path : Path) :
    d.PlainAlong path := by
  induction path generalizing d with
  | nil => trivial
  | cons c rest ih =>
    refine ⟨fun members hd key hk => ?_, fun child hstep => ih fun key hk => ?_⟩
    · subst hd
      obtain ⟨m, hm, rfl⟩ := List.mem_map.mp hk
      exact h m.1 (mem_texts_key hm)
    · exact h key (mem_texts_of_step hstep hk)

theorem Keeps.step_error (h : Keeps d d') (hplain : ∀ members, d = .object members → PlainKeys members)
    {c : Component} {reason : StepError} (hstep : d.step c = .error reason) :
    d'.step c = .error reason := by
  rw [step_error_iff] at hstep ⊢
  cases hstep with
  | missingKey hname =>
    cases h with
    | object hkeysPlain hkeys hvalues => exact .missingKey (hkeys ▸ hname)
    | rewritten hkey => exact absurd (hplain _ rfl) hkey
  | indexOutOfRange hi =>
    cases h with
    | array hlength hitems =>
      rw [← hlength] at hi ⊢
      exact .indexOutOfRange hi
  | expectedObject hne =>
    rw [← h.nodeType_eq] at hne ⊢
    exact .expectedObject hne
  | expectedArray hne =>
    rw [← h.nodeType_eq] at hne ⊢
    exact .expectedArray hne

/-- A path leads to a node of one kind in both documents, or fails in both alike. -/
theorem Keeps.lookupFrom_nodeType {path : Path} (h : Keeps d d') (hplain : d.PlainAlong path)
    (walked : Path) :
    (d'.lookupFrom walked path).map nodeType = (d.lookupFrom walked path).map nodeType := by
  induction path generalizing d d' walked with
  | nil => exact congrArg Except.ok h.nodeType_eq
  | cons c rest ih =>
    simp only [Json.lookupFrom]
    cases hstep : d.step c with
    | error reason => rw [h.step_error hplain.1 hstep]
    | ok child =>
      obtain ⟨child', hstep', hkept⟩ := h.step hplain.1 hstep
      rw [hstep']
      exact ih hkept (hplain.2 child hstep) _

/-- What is kept of a document has no further keys, where none of its keys is rewritten. -/
theorem Keeps.key_mem_texts (h : Keeps d d')
    (hplain : ∀ key, (.key, key) ∈ d.texts → ¬ OccursIn key) :
    ∀ key, (.key, key) ∈ d'.texts → (.key, key) ∈ d.texts := by
  induction h with
  | null | bool | number => exact fun key hk => hk
  | string => exact fun key hk => by simp [texts] at hk
  | @array items items' hlength hitems ih =>
    intro key hk
    rw [texts_array] at hk
    obtain ⟨item', hi', hk⟩ := List.mem_flatMap.mp hk
    obtain ⟨i, hlt, rfl⟩ := List.getElem_of_mem hi'
    have hmem : items[i] ∈ items := List.getElem_mem (by omega)
    exact mem_texts_item hmem
      (ih i (by omega) hlt (fun key hk => hplain key (mem_texts_item hmem hk)) key hk)
  | @object members members' hkeysPlain hkeys hvalues ih =>
    intro key hk
    have hlength := Members.length_eq_of_keys_eq hkeys
    rw [texts_object] at hk
    obtain ⟨m', hm', hk⟩ := List.mem_flatMap.mp hk
    obtain ⟨i, hlt, rfl⟩ := List.getElem_of_mem hm'
    have hi : i < members.length := by omega
    have hmem : members[i] ∈ members := List.getElem_mem hi
    rcases List.mem_cons.mp hk with he | hk
    · obtain rfl := (Prod.mk.inj he).2
      rw [Members.fst_getElem_of_keys_eq hkeys hi hlt]
      exact mem_texts_key hmem
    · exact mem_texts_value hmem
        (ih i hi hlt (fun key hk => hplain key (mem_texts_value hmem hk)) key hk)
  | @rewritten members members' hkey =>
    refine absurd (fun key hk => ?_) hkey
    obtain ⟨m, hm, rfl⟩ := List.mem_map.mp hk
    exact hplain m.1 (mem_texts_key hm)

end Json

/-- The error of a reference hangs on the kind of node that its path leads to. -/
theorem resolveReference_error_iff {argument : String} {root : Json} {cause : Cause} :
    resolveReference argument root = .error cause ↔
      match Path.parse argument with
      | .error e => cause = .invalidPath e.message
      | .ok path => match (root.lookup path).map Json.nodeType with
        | .error e => cause = .traversal e.message
        | .ok found => found ≠ .string ∧ cause = .notAString found := by
  unfold resolveReference
  cases hparse : Path.parse argument with
  | error e => simp [eq_comm]
  | ok path =>
    cases hfound : root.lookup path with
    | error e => simp [hfound, Except.map, eq_comm]
    | ok node => cases node <;> simp [hfound, Except.map, Json.nodeType, eq_comm]

/-- A reference fails in two documents alike, where the one keeps the other. -/
theorem Json.Keeps.resolveReference_error {d d' : Json} (h : d.Keeps d')
    (hplain : ∀ key, (.key, key) ∈ d.texts → ¬ OccursIn key) {argument : String} {cause : Cause} :
    resolveReference argument d' = .error cause ↔ resolveReference argument d = .error cause := by
  have hfound : ∀ path, (d'.lookup path).map nodeType = (d.lookup path).map nodeType :=
    fun path => h.lookupFrom_nodeType (plainAlong_of_keys hplain path) []
  simp only [resolveReference_error_iff, hfound]

/-! ## Placeholders that stay -/

/-- Each placeholder of a text has the form of one. -/
theorem Template.Cuts.exists_parts {t : Template} {s : List Char} (h : t.Cuts s) {p : Placeholder}
    (hp : p ∈ t.placeholders) :
    ∃ kind argument, WellFormed kind argument ∧ p = .ofParts kind argument := by
  induction h with
  | tail => cases hp
  | segment hform hfirst hrest ih =>
    rcases List.mem_cons.mp hp with rfl | hp
    · exact ⟨_, _, hform, rfl⟩
    · exact ih hp

/-- Whether a cause is that of a reference that fails. -/
def Cause.ofReference : Cause → Bool
  | .invalidPath _ | .traversal _ | .notAString _ => true
  | .unknownKind _ | .malformed | .invalidLength _ => false

namespace Placeholder

variable {root : Json} {p : Placeholder} {cause : Cause}

/-- What is at fault with a placeholder shows in the mode of its kind. -/
theorem fault?_cases {mode : Mode} (h : p.fault? root = some (mode, cause)) :
    mode = .generative ∧ cause.ofReference = false ∧ cause ≠ .malformed ∨
    mode = .reference ∧ Kind.ofName? p.kind = some .ref ∧
      resolveReference p.argument root = .error cause := by
  obtain ⟨hfails, rfl⟩ := fault?_eq_some_iff.mp h
  by_cases hkind : p.kind = "ref"
  · have href : Kind.ofName? p.kind = some .ref := Kind.ofName?_eq_some_iff.mpr (.inl hkind)
    exact .inr ⟨ownMode_of_ofName? href, href, hfails.resolveReference_eq hkind⟩
  · refine .inl ⟨if_neg hkind, ?_, hfails.ne_malformed⟩
    cases hfails with
    | unknownKind | invalidLength => rfl
    | invalidPath href | traversal href | notAString href => exact absurd href hkind

theorem eq_ref_of_ofName? {name : String} (h : Kind.ofName? name = some .ref) : name = "ref" := by
  rcases Kind.ofName?_eq_some_iff.mp h with hname | ⟨-, hkind⟩
  · exact hname
  · cases hkind

/-- A placeholder of a text that is a reference is written as one. -/
theorem isReference_of_mem {text : String} (hp : p ∈ (Template.ofText text).placeholders)
    (hkind : Kind.ofName? p.kind = some .ref) :
    IsReference p.argument ∧ p.raw = referenceTo p.argument := by
  obtain ⟨kind, argument, hform, rfl⟩ := (Template.cuts_ofText text).exists_parts hp
  have hname : kind = ['r', 'e', 'f'] := by
    rw [← String.toList_ofList (l := kind)]
    exact congrArg String.toList (eq_ref_of_ofName? hkind)
  subst hname
  have hargument : (String.ofList argument).toList = argument := String.toList_ofList
  refine ⟨isReference_iff.mpr ?_, ?_⟩
  · rw [ofParts, hargument]
    exact ⟨hform.argument_ne, hform.argument_open⟩
  · rw [← String.toList_inj, toList_referenceTo, ofParts, hargument, String.toList_ofList]

end Placeholder

namespace Supply

variable (supply : Supply) {mode : Mode} {root : Json}

theorem infix_fillSegments {p : Placeholder} (hfault : (p.fault? root).isSome) (tail : String)
    {segments : List (String × Placeholder)} (hp : p ∈ segments.map Prod.snd) (position : Nat) :
    p.raw.toList <:+: (supply.fillSegments mode root tail segments position).result.toList := by
  induction segments generalizing position with
  | nil => cases hp
  | cons segment rest ih =>
    obtain ⟨before, q⟩ := segment
    simp only [fillSegments, String.toList_append]
    rcases List.mem_cons.mp hp with rfl | hp
    · rw [supply.resolve_of_fault mode root hfault]
      exact ⟨before.toList, _, rfl⟩
    · exact (ih hp _).trans (List.suffix_append _ _).isInfix

/-- A placeholder that is warned of stands in what substitution gives. -/
theorem infix_substitute {text : String} {p : Placeholder}
    (hp : p ∈ (Template.ofText text).placeholders) (hfault : (p.fault? root).isSome)
    (position : Nat) :
    p.raw.toList <:+: (supply.substitute mode root text position).result.toList := by
  have hne : (Template.ofText text).segments.isEmpty = false := by
    rw [List.isEmpty_eq_false_iff]
    rintro hnil
    rw [Template.placeholders, hnil] at hp
    cases hp
  simp only [substitute, hne, Bool.false_eq_true, if_false]
  exact supply.infix_fillSegments hfault _ hp position

variable {document : Json}

variable (mode root) in
/-- Where no key holds a placeholder, each string of a document has its place in the sweep. -/
theorem exists_mem_texts_sweep (hw : document.WellFormed)
    (hplain : ∀ key, (.key, key) ∈ document.texts → ¬ OccursIn key) {text : String}
    (ht : (.value, text) ∈ document.texts) (position : Nat) :
    ∃ position', (.value, (supply.substitute mode root text position').result) ∈
      (supply.sweep mode root document position).result.texts := by
  induction hw generalizing position with
  | null | bool | number => cases ht
  | string text' =>
    obtain rfl : text = text' := by simpa [Json.texts] using ht
    exact ⟨position, by simp [sweep, Json.texts]⟩
  | @array items _ ih =>
    rw [Json.texts_array] at ht
    obtain ⟨item, hi, ht⟩ := List.mem_flatMap.mp ht
    obtain ⟨swept, hs, position', rfl⟩ :=
      exists_of_mem_right (supply.sweepItems_forall₂ mode root items position).flip hi
    obtain ⟨position'', hmem⟩ :=
      ih item hi (fun key hk => hplain key (Json.mem_texts_item hi hk)) ht position'
    exact ⟨position'', Json.mem_texts_item hs hmem⟩
  | @object members hnodup _ ih =>
    rw [Json.texts_object] at ht
    obtain ⟨m, hm, ht⟩ := List.mem_flatMap.mp ht
    have hkeysPlain : Json.PlainKeys members := by
      intro key hk
      obtain ⟨m, hm, rfl⟩ := List.mem_map.mp hk
      exact hplain m.1 (Json.mem_texts_key hm)
    have hkeys := supply.keys_sweepMembers mode root hkeysPlain position
    have hself := Members.ofList_eq_self (by rw [hkeys]; exact hnodup)
    obtain ⟨swept, hs, -, position', he⟩ :=
      exists_of_mem_right (supply.sweepMembers_forall₂ mode root members position).flip hm
    have ht' : (.value, text) ∈ m.2.texts := by simpa using ht
    obtain ⟨position'', hmem⟩ :=
      ih m hm (fun key hk => hplain key (Json.mem_texts_value hm hk)) ht' position'
    rw [← he] at hmem
    refine ⟨position'', ?_⟩
    simp only [sweep, hself]
    exact Json.mem_texts_value hs hmem

/-! ## All documents met -/

variable (document) in
/-- The documents that filling meets, from the first to the filled one. -/
def met (position : Nat) : List Json :=
  document :: (List.range passCount).flatMap fun n =>
    [supply.generated (supply.after document position n),
      (supply.after document position (n + 1)).document]

/-- What every sweep keeps of a document holds of all documents met. -/
theorem met_induction {I : Json → Prop}
    (hsweep : ∀ mode root document position, I document →
      I (supply.sweep mode root document position).result)
    (h : I document) (position : Nat) : ∀ d ∈ supply.met document position, I d := by
  have hafter : ∀ n, I (supply.after document position n).document :=
    supply.repeat_advance_induction hsweep ⟨document, [], [], position⟩ h
  intro d hd
  rcases List.mem_cons.mp hd with rfl | hd
  · exact h
  · obtain ⟨n, -, hd⟩ := List.mem_flatMap.mp hd
    rcases List.mem_pair.mp hd with rfl | rfl
    · exact hsweep _ _ _ _ (hafter n)
    · exact hafter (n + 1)

variable {supply} in
theorem keeps_of_mem_met (hw : document.WellFormed) {position : Nat} {d : Json}
    (hd : d ∈ supply.met document position) : document.Keeps d ∧ d.WellFormed :=
  supply.met_induction (I := fun d => document.Keeps d ∧ d.WellFormed)
    (fun mode root d position h =>
      ⟨h.1.trans (supply.sweep_keeps mode root h.2 position),
        supply.sweep_wellFormed mode root d position⟩)
    ⟨.refl document, hw⟩ position d hd

variable (document) in
theorem generated_mem_met (position : Nat) {n : Nat} (hn : n < passCount) :
    supply.generated (supply.after document position n) ∈ supply.met document position :=
  List.mem_cons_of_mem _ (List.mem_flatMap.mpr ⟨n, List.mem_range.mpr hn, List.mem_cons_self⟩)

variable (document) in
theorem after_mem_met (position : Nat) {n : Nat} (hn : n ≤ passCount) :
    (supply.after document position n).document ∈ supply.met document position := by
  cases n with
  | zero => exact List.mem_cons_self
  | succ n =>
    refine List.mem_cons_of_mem _ (List.mem_flatMap.mpr ⟨n, List.mem_range.mpr hn, ?_⟩)
    exact List.mem_cons_of_mem _ List.mem_cons_self

/-! ## Warnings of the last pass -/

/-- A text is warned of for one of its placeholders, or as a whole if it has none. -/
theorem mem_textWarnings {text : String} {d : Diagnostic} (h : d ∈ textWarnings root mode text) :
    (∃ p ∈ (Template.ofText text).placeholders,
      p.fault? root = some (mode, d.cause) ∧ p.raw = d.raw) ∨
    mode = .generative ∧ ¬ OccursIn text ∧ d = ⟨.malformed, text⟩ := by
  unfold textWarnings at h
  split at h
  · obtain ⟨p, hp, hwarning⟩ := List.mem_filterMap.mp h
    refine .inl ⟨p, hp, ?_⟩
    unfold Placeholder.warning? at hwarning
    split at hwarning
    · next m cause hfault =>
      split at hwarning
      · next hm =>
        subst hm
        cases hwarning
        exact ⟨hfault, rfl⟩
      · cases hwarning
    · cases hwarning
  · next hnone =>
    split at h
    · next hsuspect => exact .inr ⟨hsuspect.1, hnone, List.mem_singleton.mp h⟩
    · cases h

variable (hopen : ∀ key, (.key, key) ∈ document.texts → '{' ∉ key.toList)
include hopen

/-- No key is warned of. -/
theorem exists_warned_string {d : Diagnostic} (hd : d ∈ documentWarnings document mode) :
    ∃ text, (.value, text) ∈ document.texts ∧ d ∈ textWarnings document mode text := by
  obtain ⟨⟨role, text⟩, he, hd⟩ := List.mem_flatMap.mp hd
  cases role with
  | value => exact ⟨text, he, hd⟩
  | key =>
    have hbrace := hopen text he
    rw [textWarnings, if_neg (Placeholder.not_occursIn hbrace),
      if_neg fun hsuspect => Template.not_loose hbrace hsuspect.2] at hd
    cases hd

/-- A generative sweep warns of no reference, and of whole texts only where they are
strings without placeholders. -/
theorem generative_warning {d : Diagnostic} (hd : d ∈ documentWarnings document .generative) :
    d.cause.ofReference = false ∧
    (d.cause = .malformed → (.value, d.raw) ∈ document.texts ∧ ¬ OccursIn d.raw) := by
  obtain ⟨text, ht, hd⟩ := exists_warned_string hopen hd
  rcases mem_textWarnings hd with ⟨p, -, hfault, -⟩ | ⟨-, hnone, rfl⟩
  · rcases Placeholder.fault?_cases hfault with ⟨-, hcause, hne⟩ | ⟨hmode, -⟩
    · exact ⟨hcause, fun he => absurd he hne⟩
    · cases hmode
  · exact ⟨rfl, fun _ => ⟨ht, hnone⟩⟩

variable (hw : document.WellFormed)
include hw

theorem mem_texts_sweep_of_plain {text : String} (ht : (.value, text) ∈ document.texts)
    (hnone : ¬ OccursIn text) (position : Nat) :
    (.value, text) ∈ (supply.sweep mode root document position).result.texts := by
  obtain ⟨position', hmem⟩ := supply.exists_mem_texts_sweep mode root hw
    (fun key hk => Placeholder.not_occursIn (hopen key hk)) ht position
  rwa [substitute_result_of_not_occursIn supply mode root hnone] at hmem

variable (mode root) in
theorem keys_open_sweep (position : Nat) :
    ∀ key, (.key, key) ∈ (supply.sweep mode root document position).result.texts →
      '{' ∉ key.toList := by
  intro key hk
  have hplain : ∀ key, (.key, key) ∈ document.texts → ¬ OccursIn key :=
    fun key hk => Placeholder.not_occursIn (hopen key hk)
  exact hopen key ((supply.sweep_keeps mode root hw position).key_mem_texts hplain key hk)

/-- A reference that is warned of stays in the sweep that warns of it. -/
theorem reference_stays {d : Diagnostic} (hd : d ∈ documentWarnings document .reference)
    (position : Nat) :
    (∃ text, (.value, text) ∈ (supply.sweep .reference document document position).result.texts ∧
      d.raw.toList <:+: text.toList) ∧
    ∃ argument, IsReference argument ∧ d.raw = referenceTo argument ∧
      resolveReference argument document = .error d.cause := by
  obtain ⟨text, ht, hd⟩ := exists_warned_string hopen hd
  rcases mem_textWarnings hd with ⟨p, hp, hfault, hraw⟩ | ⟨hmode, -⟩
  · rcases Placeholder.fault?_cases hfault with ⟨hmode, -⟩ | ⟨-, hkind, herror⟩
    · cases hmode
    obtain ⟨hreference, hwritten⟩ := Placeholder.isReference_of_mem hp hkind
    refine ⟨?_, p.argument, hreference, hraw.symm.trans hwritten, herror⟩
    obtain ⟨position', hmem⟩ := supply.exists_mem_texts_sweep .reference document hw
      (fun key hk => Placeholder.not_occursIn (hopen key hk)) ht position
    refine ⟨_, hmem, ?_⟩
    rw [← hraw]
    exact supply.infix_substitute hp (by rw [hfault]; rfl) position'
  · cases hmode

omit hw hopen

/-- What a pass warns of stands in the document that it gives. -/
theorem warnings_stay {report : Report} (hw : report.document.WellFormed)
    (hopen : ∀ key, (.key, key) ∈ report.document.texts → '{' ∉ key.toList) {d : Diagnostic}
    (hd : d ∈ supply.warnings report) :
    (d.cause = .malformed ∨ d.cause.ofReference = true →
      ∃ text, (.value, text) ∈ (supply.advance report).document.texts ∧
        d.raw.toList <:+: text.toList) ∧
    (d.cause.ofReference = true →
      ∃ argument, IsReference argument ∧ d.raw = referenceTo argument ∧
        resolveReference argument (supply.generated report) = .error d.cause) := by
  have hw' : (supply.generated report).WellFormed := supply.sweep_wellFormed _ _ _ _
  have hopen' := supply.keys_open_sweep .generative report.document hopen hw report.position
  rcases List.mem_append.mp hd with hd | hd
  · obtain ⟨hcause, hwhole⟩ := generative_warning hopen hd
    rw [hcause]
    refine ⟨fun h => ?_, fun hfalse => absurd hfalse Bool.false_ne_true⟩
    obtain ⟨ht, hnone⟩ := hwhole (h.resolve_right Bool.false_ne_true)
    have hstays : (.value, d.raw) ∈ (supply.generated report).texts :=
      supply.mem_texts_sweep_of_plain hopen hw ht hnone report.position
    exact ⟨d.raw, supply.mem_texts_sweep_of_plain hopen' hw' hstays hnone _, List.infix_refl _⟩
  · obtain ⟨hstands, hfails⟩ := supply.reference_stays hopen' hw' hd
      (supply.sweep .generative report.document report.document report.position).position
    exact ⟨fun _ => hstands, fun _ => hfails⟩

/-- Where no key opens a brace, what a report warns of is true of the filled document: a
text that is like no placeholder, and a reference that failed, stand in a string of it; and
the reference fails for the same reason in every document that filling meets. -/
theorem fill_warnings_hold (hw : document.WellFormed)
    (hopen : ∀ key, (.key, key) ∈ document.texts → '{' ∉ key.toList) (position : Nat) :
    let report := supply.fill document position
    report.document ∈ supply.met document position ∧
    ∀ d ∈ report.diagnostics,
      (d.cause = .malformed ∨ d.cause.ofReference = true →
        ∃ text, (.value, text) ∈ report.document.texts ∧ d.raw.toList <:+: text.toList) ∧
      (d.cause.ofReference = true →
        ∃ argument, IsReference argument ∧ d.raw = referenceTo argument ∧
          ∀ met ∈ supply.met document position, resolveReference argument met = .error d.cause) := by
  intro report
  refine ⟨supply.after_mem_met document position (Nat.le_refl passCount), fun d hd => ?_⟩
  have hplain : ∀ key, (.key, key) ∈ document.texts → ¬ OccursIn key :=
    fun key hk => Placeholder.not_occursIn (hopen key hk)
  have hbefore := supply.after_mem_met document position (Nat.sub_le passCount 1)
  obtain ⟨hkept, hw'⟩ := keeps_of_mem_met hw hbefore
  have hdiagnostics : report.diagnostics =
      (supply.warnings (supply.after document position (passCount - 1))).eraseDups :=
    supply.pass_diagnostics _
  rw [hdiagnostics, List.mem_eraseDups] at hd
  obtain ⟨hstands, hfails⟩ := supply.warnings_stay hw'
    (fun key hk => hopen key (hkept.key_mem_texts hplain key hk)) hd
  refine ⟨hstands, fun hcause => ?_⟩
  obtain ⟨argument, hreference, hraw, herror⟩ := hfails hcause
  refine ⟨argument, hreference, hraw, fun met hmet => ?_⟩
  have hgenerated := supply.generated_mem_met document position
    (show passCount - 1 < passCount by decide)
  rw [(keeps_of_mem_met hw hmet).1.resolveReference_error hplain]
  exact ((keeps_of_mem_met hw hgenerated).1.resolveReference_error hplain).mp herror

/-- All four causes. The reference that finds too short an array stands beside a variable
that is filled in, and the array holds a string that changes. -/
theorem fill_warnings_hold_causes :
    let supply : Supply := ⟨fun _ => some "v", Random.Source.scripted #[] 0⟩
    let document : Json := .object
      [("a", .string "\x7b\x7bref:x\x7d\x7d \x7b\x7benv:E\x7d\x7d \x7b\x7bref:'b',2\x7d\x7d"),
        ("b", .array [.string "\x7b\x7bup\x7d\x7d", .string "\x7b\x7benv:E\x7d\x7d"]),
        ("c", .string "\x7b\x7bref:'b'\x7d\x7d")]
    let report := supply.fill document 0
    let short : Diagnostic :=
      ⟨.traversal "index 2 out of range at ['b'] (length 2)", "\x7b\x7bref:'b',2\x7d\x7d"⟩
    document.WellFormed ∧ (∀ key, (.key, key) ∈ document.texts → '{' ∉ key.toList) ∧
    report.diagnostics = [⟨.malformed, "\x7b\x7bup\x7d\x7d"⟩,
      ⟨.invalidPath "'x' is neither a single-quoted key nor a decimal index",
        "\x7b\x7bref:x\x7d\x7d"⟩, short, ⟨.notAString .array, "\x7b\x7bref:'b'\x7d\x7d"⟩] ∧
    (∀ d ∈ report.diagnostics,
      ∃ text, (.value, text) ∈ report.document.texts ∧ d.raw.toList <:+: text.toList) ∧
    ∃ argument, IsReference argument ∧ short.raw = referenceTo argument ∧
      ∀ met ∈ supply.met document 0, resolveReference argument met = .error short.cause := by
  intro supply document report short
  have hw : document.WellFormed := by
    refine .object (by decide) fun m hm => ?_
    rcases List.mem_cons.mp hm with rfl | hm
    · exact .string _
    rcases List.mem_cons.mp hm with rfl | hm
    · exact .array (by simp [Json.WellFormed.string])
    · obtain rfl := List.mem_singleton.mp hm
      exact .string _
  have hkeys : ∀ e ∈ document.texts, e.1 = .key → '{' ∉ e.2.toList := by decide
  have hopen : ∀ key, (.key, key) ∈ document.texts → '{' ∉ key.toList :=
    fun key hk => hkeys (.key, key) hk rfl
  have hdiagnostics : report.diagnostics = [⟨.malformed, "\x7b\x7bup\x7d\x7d"⟩,
      ⟨.invalidPath "'x' is neither a single-quoted key nor a decimal index",
        "\x7b\x7bref:x\x7d\x7d"⟩, short, ⟨.notAString .array, "\x7b\x7bref:'b'\x7d\x7d"⟩] := by
    decide +kernel
  obtain ⟨-, hhold⟩ := supply.fill_warnings_hold hw hopen 0
  have hcauses : ∀ d ∈ report.diagnostics, d.cause = .malformed ∨ d.cause.ofReference = true := by
    rw [hdiagnostics]
    decide
  have hshort : short ∈ report.diagnostics := by
    rw [hdiagnostics]
    decide
  exact ⟨hw, hopen, hdiagnostics, fun d hd => (hhold d hd).1 (hcauses d hd),
    (hhold short hshort).2 rfl⟩

end Supply

end TemplateFill
