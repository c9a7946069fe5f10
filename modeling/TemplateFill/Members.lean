/-! Pairs of key and value in the order in which the keys were first given, such
as the members of an object. A key given again keeps its place and takes the new
value, so in a list built by `insert` the keys are distinct. -/
namespace TemplateFill.Members

variable {κ α : Type _} [DecidableEq κ]

def keys (members : List (κ × α)) : List κ := members.map Prod.fst

def get? (members : List (κ × α)) (key : κ) : Option α := members.lookup key

def insert (members : List (κ × α)) (key : κ) (value : α) : List (κ × α) :=
  match members with
  | [] => [(key, value)]
  | (k, v) :: rest => if k = key then (k, value) :: rest else (k, v) :: insert rest key value

/-- The members given by a list of pairs in which keys may repeat. -/
def ofList (pairs : List (κ × α)) : List (κ × α) :=
  pairs.foldl (fun members p => insert members p.1 p.2) []

theorem keys_insert (members : List (κ × α)) (key : κ) (value : α) :
    keys (insert members key value) =
      if key ∈ keys members then keys members else keys members ++ [key] := by
  induction members with
  | nil => simp [insert, keys]
  | cons m rest ih =>
    obtain ⟨k, v⟩ := m
    by_cases h : k = key
    · simp [insert, keys, h]
    · simp only [keys] at ih
      have h' : ¬ key = k := fun e => h e.symm
      by_cases hk : key ∈ List.map Prod.fst rest <;>
        simp only [insert, keys, List.map_cons, List.mem_cons, h, h', hk, false_or, ih, if_true,
          if_false, List.cons_append]

theorem get?_insert (members : List (κ × α)) (key other : κ) (value : α) :
    get? (insert members key value) other =
      if other = key then some value else get? members other := by
  induction members with
  | nil => by_cases h : other = key <;> simp [insert, get?, h]
  | cons m rest ih =>
    obtain ⟨k, v⟩ := m
    simp only [get?] at ih
    by_cases hk : other = k <;> by_cases h : k = key <;> by_cases ho : other = key <;>
      simp_all [insert, get?, List.lookup_cons, beq_eq_false_iff_ne.2]

theorem nodup_keys_insert {members : List (κ × α)} (h : (keys members).Nodup)
    (key : κ) (value : α) : (keys (insert members key value)).Nodup := by
  rw [keys_insert]
  split
  · exact h
  · next hk =>
    refine List.nodup_append.2 ⟨h, by simp, fun a ha b hb => ?_⟩
    rw [List.mem_singleton.1 hb]
    exact fun e => hk (e ▸ ha)

theorem nodup_keys_ofList (pairs : List (κ × α)) : (keys (ofList pairs)).Nodup := by
  suffices ∀ members : List (κ × α), (keys members).Nodup →
      (keys (pairs.foldl (fun ms p => insert ms p.1 p.2) members)).Nodup from this [] (by simp [keys])
  induction pairs with
  | nil => exact fun _ h => h
  | cons p rest ih => exact fun members h => ih _ (nodup_keys_insert h p.1 p.2)

end TemplateFill.Members
