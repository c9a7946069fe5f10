import Mathlib.Data.List.Induction
import TemplateFill.Members

/-! # What a list of pairs becomes as members

Pairs with distinct keys are members as they are. Of others, each key has the value that
was given with it last, so no value turns up that was not given. -/
namespace TemplateFill.Members

variable {κ α : Type _}

theorem length_eq_of_keys_eq {members members' : List (κ × α)}
    (h : keys members' = keys members) : members'.length = members.length := by
  simpa [keys] using congrArg List.length h

theorem fst_getElem_of_keys_eq {members members' : List (κ × α)}
    (h : keys members' = keys members) {i : Nat} (hi : i < members.length)
    (hi' : i < members'.length) : members'[i].1 = members[i].1 := by
  have hkey : (keys members')[i]? = (keys members)[i]? := by rw [h]
  simpa [keys, hi, hi'] using hkey

/-- Where keys are distinct, a key stands at one place. -/
theorem eq_of_fst_getElem_eq {members : List (κ × α)} (h : (keys members).Nodup) {i j : Nat}
    (hi : i < members.length) (hj : j < members.length)
    (he : members[i].1 = members[j].1) : i = j := by
  have hlength : (keys members).length = members.length := List.length_map Prod.fst
  have hkey : (keys members)[i] = (keys members)[j] := by simpa [keys] using he
  exact (List.getElem_inj h).mp hkey

variable [DecidableEq κ]

theorem get?_of_mem {key : κ} {value : α} :
    ∀ {members : List (κ × α)}, (keys members).Nodup → (key, value) ∈ members →
      get? members key = some value
  | (k, v) :: rest, hnodup, hm => by
    simp only [keys, List.map_cons, List.nodup_cons] at hnodup
    simp only [get?, List.lookup_cons]
    rcases List.mem_cons.mp hm with he | hm
    · cases he
      simp
    · have hkey : key ∈ rest.map Prod.fst := List.mem_map_of_mem hm
      have hne : key ≠ k := fun he => hnodup.1 (he ▸ hkey)
      rw [beq_eq_false_iff_ne.mpr hne]
      exact get?_of_mem hnodup.2 hm

theorem mem_of_get? {key : κ} {value : α} :
    ∀ {members : List (κ × α)}, get? members key = some value → (key, value) ∈ members
  | [], h => by cases h
  | (k, v) :: rest, h => by
    simp only [get?, List.lookup_cons] at h
    split at h
    · next hk =>
      cases h
      rw [eq_of_beq hk]
      exact List.mem_cons_self
    · exact List.mem_cons_of_mem _ (mem_of_get? h)

theorem get?_eq_none_iff {members : List (κ × α)} {key : κ} :
    get? members key = none ↔ key ∉ keys members := by
  rw [get?, List.lookup_eq_none_iff, keys, List.mem_map, not_exists]
  refine forall_congr' fun p => ?_
  rw [not_and, bne_iff_ne]
  exact forall_congr' fun _ => ne_comm

/-- The order of members with distinct keys does not matter for what a key has. -/
theorem get?_perm {members members' : List (κ × α)} (hperm : members'.Perm members)
    (hnodup : (keys members).Nodup) (key : κ) : get? members' key = get? members key := by
  have hnodup' : (keys members').Nodup := (hperm.map Prod.fst).nodup_iff.mpr hnodup
  cases h : get? members key with
  | some value => exact get?_of_mem hnodup' (hperm.mem_iff.mpr (mem_of_get? h))
  | none =>
    cases h' : get? members' key with
    | none => rfl
    | some value =>
      rw [get?_of_mem hnodup (hperm.mem_iff.mp (mem_of_get? h'))] at h
      cases h

theorem mem_iff_get? {members : List (κ × α)} (h : (keys members).Nodup) {p : κ × α} :
    p ∈ members ↔ get? members p.1 = some p.2 :=
  ⟨get?_of_mem h, mem_of_get?⟩

theorem insert_of_not_mem {key : κ} (value : α) :
    ∀ {members : List (κ × α)}, key ∉ keys members →
      insert members key value = members ++ [(key, value)]
  | [], _ => rfl
  | (k, v) :: rest, h => by
    simp only [keys, List.map_cons, List.mem_cons, not_or] at h
    rw [insert, if_neg (Ne.symm h.1), insert_of_not_mem value h.2, List.cons_append]

theorem mem_insert_iff {members : List (κ × α)} (h : (keys members).Nodup) {p q : κ × α} :
    p ∈ insert members q.1 q.2 ↔ p = q ∨ p.1 ≠ q.1 ∧ p ∈ members := by
  rw [mem_iff_get? (nodup_keys_insert h q.1 q.2), mem_iff_get? h, get?_insert]
  obtain ⟨key, value⟩ := p
  obtain ⟨key', value'⟩ := q
  by_cases hkey : key = key'
  · simp [hkey, eq_comm]
  · simp [hkey]

/-! ## Pairs with equal keys -/

omit [DecidableEq κ] in
theorem keys_snoc (pairs : List (κ × α)) (q : κ × α) : keys (pairs ++ [q]) = keys pairs ++ [q.1] :=
  List.map_append

theorem ofList_snoc (pairs : List (κ × α)) (q : κ × α) :
    ofList (pairs ++ [q]) = insert (ofList pairs) q.1 q.2 := by
  simp only [ofList, List.foldl_append, List.foldl_cons, List.foldl_nil]

/-- Pairs with distinct keys are members as they are. -/
theorem ofList_eq_self {pairs : List (κ × α)} (h : (keys pairs).Nodup) : ofList pairs = pairs := by
  induction pairs using List.reverseRecOn with
  | nil => rfl
  | append_singleton pairs q ih =>
    rw [keys_snoc, List.nodup_append] at h
    obtain ⟨hpairs, -, hnew⟩ := h
    have hq : q.1 ∉ keys pairs := fun hm => hnew q.1 hm q.1 List.mem_cons_self rfl
    rw [ofList_snoc, ih hpairs, insert_of_not_mem q.2 hq]

/-- The pair is given, and its key is not given again after it. -/
def LastGiven (pairs : List (κ × α)) (p : κ × α) : Prop :=
  ∃ earlier later, pairs = earlier ++ p :: later ∧ p.1 ∉ keys later

omit [DecidableEq κ] in
theorem lastGiven_snoc {pairs : List (κ × α)} {p q : κ × α} :
    LastGiven (pairs ++ [q]) p ↔ p = q ∨ p.1 ≠ q.1 ∧ LastGiven pairs p := by
  constructor
  · rintro ⟨earlier, later, hsplit, hlast⟩
    rcases List.eq_nil_or_concat later with rfl | ⟨later, r, rfl⟩
    · obtain ⟨-, hq⟩ := List.append_inj' hsplit rfl
      exact .inl (List.cons.inj hq).1.symm
    · rw [List.concat_eq_append] at hsplit hlast
      rw [← List.cons_append, ← List.append_assoc] at hsplit
      obtain ⟨hpairs, hq⟩ := List.append_inj' hsplit rfl
      obtain rfl := (List.cons.inj hq).1
      rw [keys_snoc, List.mem_append, not_or, List.mem_singleton] at hlast
      exact .inr ⟨hlast.2, earlier, later, hpairs, hlast.1⟩
  · rintro (rfl | ⟨hne, earlier, later, rfl, hlast⟩)
    · exact ⟨pairs, [], rfl, List.not_mem_nil⟩
    · refine ⟨earlier, later ++ [q], by simp, ?_⟩
      rw [keys_snoc, List.mem_append, not_or, List.mem_singleton]
      exact ⟨hlast, hne⟩

/-- Each key has the value that was given with it last. -/
theorem mem_ofList_iff {pairs : List (κ × α)} {p : κ × α} :
    p ∈ ofList pairs ↔ LastGiven pairs p := by
  induction pairs using List.reverseRecOn with
  | nil => simp [ofList, LastGiven]
  | append_singleton pairs q ih =>
    rw [ofList_snoc, mem_insert_iff (nodup_keys_ofList pairs), ih, lastGiven_snoc]

example : ofList [("a", 1), ("b", 2), ("a", 3)] = [("a", 3), ("b", 2)] := by decide

/-- A member has both its key and its value from one of the pairs. -/
theorem mem_of_mem_ofList {pairs : List (κ × α)} {m : κ × α} (h : m ∈ ofList pairs) :
    m ∈ pairs := by
  obtain ⟨earlier, later, rfl, -⟩ := mem_ofList_iff.mp h
  exact List.mem_append_right _ List.mem_cons_self

end TemplateFill.Members
