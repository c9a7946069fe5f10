import TemplateFill.Proofs.Path.Lookup

/-! # How far a path can be followed

A path is followed one component after another. It leads to the node that lies there, and
a longer path goes on from that node; or else there is one place where it stops, and the
error gives the reason and the place. -/
namespace TemplateFill

theorem Path.location_take {path : Path} {k : Nat} (hk : k < path.length) :
    Path.location (path.take k) =
      if k = 0 then "document root" else "[" ++ Path.display (path.take k) ++ "]" := by
  have hne : path ≠ [] := List.ne_nil_of_length_pos (Nat.zero_lt_of_lt hk)
  have hempty : (path.take k).isEmpty = true ↔ k = 0 := by simp [hne]
  simp only [Path.location, hempty]
  rfl

namespace Json

/-- The first `k` components of the path can be followed, and the next cannot. -/
def StopsAt (root : Json) (path : Path) (k : Nat) (reason : StepError) : Prop :=
  ∃ node c, path[k]? = some c ∧ root.lookup (path.take k) = .ok node ∧ node.Blocks c reason

theorem lookupFrom_append :
    ∀ (path rest walked : Path) (node : Json),
      node.lookupFrom walked (path ++ rest) =
        (node.lookupFrom walked path).bind fun child => child.lookupFrom (walked ++ path) rest
  | [], rest, walked, node => by simp [lookupFrom, Except.bind]
  | c :: path, rest, walked, node => by
    simp only [List.cons_append, lookupFrom]
    cases node.step c with
    | error reason => rfl
    | ok child =>
      have ih := lookupFrom_append path rest (walked ++ [c]) child
      simpa using ih

/-- What a path leads to does not depend on what was walked before. -/
theorem lookupFrom_ok_iff {target : Json} :
    ∀ (path walked : Path) (node : Json),
      node.lookupFrom walked path = .ok target ↔ node.lookup path = .ok target := by
  have hmove : ∀ (path walked walked' : Path) (node : Json),
      node.lookupFrom walked path = .ok target → node.lookupFrom walked' path = .ok target := by
    intro path
    induction path with
    | nil => exact fun _ _ _ h => h
    | cons c rest ih =>
      intro walked walked' node h
      simp only [lookupFrom] at h ⊢
      cases hstep : node.step c with
      | error reason => rw [hstep] at h; cases h
      | ok child => rw [hstep] at h; exact ih _ _ child h
  exact fun path walked node => ⟨hmove path walked [] node, hmove path [] walked node⟩

theorem lookup_append {root node : Json} {path : Path} (h : root.lookup path = .ok node)
    (rest : Path) : root.lookup (path ++ rest) = node.lookupFrom path rest := by
  rw [lookup] at h
  rw [lookup, lookupFrom_append, h, List.nil_append]
  rfl

/-- A path that cannot be followed to its end stops somewhere. -/
theorem exists_stop {e : LookupError} :
    ∀ {path walked : Path} {node : Json}, node.lookupFrom walked path = .error e →
      ∃ k, node.StopsAt path k e.reason ∧ e.location = Path.location (walked ++ path.take k)
  | [], _, _, h => by cases h
  | c :: rest, walked, node, h => by
    simp only [lookupFrom] at h
    split at h
    · next reason hstep =>
      cases h
      exact ⟨0, ⟨node, c, rfl, rfl, blocks_of_step hstep⟩, by simp⟩
    · next child hstep =>
      obtain ⟨k, ⟨last, d, hd, hlast, hblocks⟩, hlocation⟩ := exists_stop h
      refine ⟨k + 1, ⟨last, d, by simpa using hd, ?_, hblocks⟩, by simpa using hlocation⟩
      simp only [List.take_succ_cons, lookup, lookupFrom, hstep]
      exact (lookupFrom_ok_iff _ _ child).mpr hlast

theorem StopsAt.lookup_eq {root : Json} {path : Path} {k : Nat} {reason : StepError}
    (h : root.StopsAt path k reason) :
    root.lookup path = .error ⟨reason, Path.location (path.take k)⟩ := by
  obtain ⟨node, c, hc, hnode, hblocks⟩ := h
  obtain ⟨hk, rfl⟩ := List.getElem?_eq_some_iff.mp hc
  have hpath : path = path.take k ++ path[k] :: path.drop (k + 1) := by simp
  calc root.lookup path = root.lookup (path.take k ++ path[k] :: path.drop (k + 1)) := by
        rw [← hpath]
    _ = node.lookupFrom (path.take k) (path[k] :: path.drop (k + 1)) := lookup_append hnode _
    _ = .error ⟨reason, Path.location (path.take k)⟩ := by
        simp only [lookupFrom, hblocks.step_eq]

theorem StopsAt.take {root : Json} {path : Path} {k m : Nat} {reason : StepError}
    (h : root.StopsAt path k reason) (hm : k < m) : root.StopsAt (path.take m) k reason := by
  obtain ⟨node, c, hc, hnode, hblocks⟩ := h
  refine ⟨node, c, by rw [List.getElem?_take_of_lt hm, hc], ?_, hblocks⟩
  rwa [List.take_take, Nat.min_eq_left (Nat.le_of_lt hm)]

theorem StopsAt.not_lt {root : Json} {path : Path} {k m : Nat} {reason reason' : StepError}
    (h : root.StopsAt path k reason) (h' : root.StopsAt path m reason') : ¬ k < m := by
  intro hlt
  obtain ⟨node, c, -, hnode, -⟩ := h'
  rw [(h.take hlt).lookup_eq] at hnode
  cases hnode

/-- There is one place where a path stops. -/
theorem StopsAt.unique {root : Json} {path : Path} {k m : Nat} {reason reason' : StepError}
    (h : root.StopsAt path k reason) (h' : root.StopsAt path m reason') : m = k :=
  Nat.le_antisymm (Nat.le_of_not_lt (h.not_lt h')) (Nat.le_of_not_lt (h'.not_lt h))

theorem StopsAt.lt_length {root : Json} {path : Path} {k : Nat} {reason : StepError}
    (h : root.StopsAt path k reason) : k < path.length := by
  obtain ⟨node, c, hc, -⟩ := h
  exact (List.getElem?_eq_some_iff.mp hc).1

/-- **A path is followed exactly, and blamed where it stops.** It leads to the node that
lies there; what is appended goes on from that node. A path that leads nowhere has one
component that cannot be followed from where those before it lead, and the error is that
component's, at that place. -/
theorem lookup_follows (root : Json) (path : Path) :
    (root.WellFormed → ∀ node, root.lookup path = .ok node ↔ root.At path node) ∧
    (∀ node, root.lookup path = .ok node → ∀ rest target,
      root.lookup (path ++ rest) = .ok target ↔ node.lookup rest = .ok target) ∧
    ∀ e, root.lookup path = .error e →
      ∃ k < path.length, root.StopsAt path k e.reason ∧
        e.location = (if k = 0 then "document root"
          else "[" ++ Path.display (path.take k) ++ "]") ∧
        ∀ m reason, root.StopsAt path m reason → m = k := by
  refine ⟨fun hw node => ⟨at_of_lookupFrom, fun h => h.lookupFrom_eq hw []⟩, ?_, ?_⟩
  · intro node hnode rest target
    rw [lookup_append hnode]
    exact lookupFrom_ok_iff rest path node
  · intro e he
    obtain ⟨k, hstop, hlocation⟩ := exists_stop he
    have hk := hstop.lt_length
    rw [List.nil_append, Path.location_take hk] at hlocation
    exact ⟨k, hk, hstop, hlocation, fun m reason h => hstop.unique h⟩

/-- A string that a path leads to, and an index past the end of the array around it. -/
theorem lookup_follows_past_end :
    let root : Json := .object [("n", .null), ("list", .array [.string "only"])]
    let path : Path := [.key "list", .index 1, .key "deeper"]
    root.WellFormed ∧ root.At [.key "list", .index 0] (.string "only") ∧
    root.lookup path = .error ⟨.indexOutOfRange 1 1, "['list']"⟩ ∧
    root.StopsAt path 1 (.indexOutOfRange 1 1) ∧
    ∀ m reason, root.StopsAt path m reason → m = 1 := by
  intro root path
  have hw : root.WellFormed := by
    refine .object (by decide) fun m hm => ?_
    have hvalues : m = ("n", .null) ∨ m = ("list", .array [.string "only"]) := by simpa using hm
    rcases hvalues with rfl | rfl
    · exact .null
    · exact .array (by simp [WellFormed.string])
  obtain ⟨hreached, -, -⟩ := lookup_follows root [.key "list", .index 0]
  obtain ⟨-, -, hstopped⟩ := lookup_follows root path
  have hpast : root.lookup path = .error ⟨.indexOutOfRange 1 1, "['list']"⟩ := rfl
  obtain ⟨k, -, hstop, -, hunique⟩ := hstopped _ hpast
  have hone : root.StopsAt path 1 (.indexOutOfRange 1 1) :=
    ⟨.array [.string "only"], .index 1, rfl, rfl, .indexOutOfRange (by decide)⟩
  obtain rfl := hunique 1 _ hone
  exact ⟨hw, (hreached hw _).mp rfl, hpast, hstop, hunique⟩

end Json

end TemplateFill
