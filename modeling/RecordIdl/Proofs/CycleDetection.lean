import RecordIdl.Proofs.PruningQueries
import RecordIdl.Record.Consistency

namespace RecordIdl.Consistency

open Lineage Pruning

variable {l : Lineage} {r : Record}

/-- The check of an ancestry as a loop: the names passed so far with the record that the walk has
come to, or its outcome. -/
inductive Walk
  | passing (names : List String) (current : Record)
  | ended (outcome : Except ModelFault Unit)

namespace Walk

def start (r : Record) : Walk := passing [r.name] r

def next (l : Lineage) : Walk → Walk
  | ended outcome => ended outcome
  | passing names current =>
    if isRoot l.roots current.parent then ended (.ok ())
    else if current.parent ∈ names then
      ended (.error (.cyclicInheritance (names ++ [current.parent])))
    else
      match l.set.get? current.parent with
      | none => ended (.ok ())
      | some parent => passing (names ++ [parent.name]) parent

end Walk

def verdict (passed : List String) : Ancestry → Except ModelFault Unit
  | .ends .. => .ok ()
  | .loops path => .error (.cyclicInheritance (passed ++ path))

theorem checkAncestry_eq_verdict (l : Lineage) (r : Record) :
    checkAncestry l r = verdict [] (l.ancestry r) := by
  rw [checkAncestry]
  cases l.ancestry r <;> rfl

theorem verdict_below (passed : List String) (r : Record) (a : Ancestry) :
    verdict passed (a.below r) = verdict (passed ++ [r.name]) a := by
  cases a with
  | ends chain outside => rfl
  | loops path => simp [verdict, Ancestry.below]

/-- Every round that does not end the walk passes a name of the set that was not passed before. -/
theorem next_iterate (n : Nat) (above : List String) (r : Record)
    (hn : (l.set.unvisited (r.name :: above)).length < n) :
    (Walk.next l)^[n] (.passing (r.name :: above).reverse r) =
      .ended (verdict above.reverse (l.ancestryFrom (r.name :: above) r)) := by
  induction n generalizing above r with
  | zero => omega
  | succ n ih =>
      -- Rounds that are left over once the walk has ended change nothing.
      have hended (outcome : Except ModelFault Unit) :
          (Walk.next l)^[n] (.ended outcome) = .ended outcome := Function.iterate_fixed rfl n
      rw [Function.iterate_succ_apply, Walk.next]
      by_cases hroot : isRoot l.roots r.parent = true
      · rw [if_pos hroot, hended, ancestryFrom_root hroot]
        rfl
      rw [if_neg hroot]
      rw [Bool.not_eq_true] at hroot
      by_cases hmem : r.parent ∈ r.name :: above
      · rw [if_pos (List.mem_reverse.2 hmem), hended, ancestryFrom_loop hroot hmem]
        simp [verdict]
      rw [if_neg (fun h => hmem (List.mem_reverse.1 h))]
      cases hp : l.set.get? r.parent with
      | none =>
          rw [hended, ancestryFrom_outside hroot hmem hp]
          rfl
      | some q =>
          have hname : q.name = r.parent := RecordSet.name_of_get? hp
          have hlt := RecordSet.length_unvisited_lt hp hmem
          have hrest := ih (r.name :: above) q (by rw [hname]; omega)
          rw [List.reverse_cons (a := q.name)] at hrest
          rw [ancestryFrom_step hroot hmem hp, verdict_below, ← hname, ← List.reverse_cons]
          exact hrest

theorem length_unvisited_nil (s : RecordSet) : (s.unvisited []).length = s.size := by
  simp [RecordSet.unvisited, RecordSet.size]

theorem walk_ends (hr : r ∈ l.set.records) :
    (Walk.next l)^[l.set.size] (.start r) = .ended (checkAncestry l r) := by
  have hlt := RecordSet.length_unvisited_lt (RecordSet.get?_of_mem hr) (List.not_mem_nil)
  rw [length_unvisited_nil] at hlt
  rw [checkAncestry_eq_verdict]
  exact next_iterate _ [] r hlt

theorem answerFor_eq_error_iff {α : Type} {unknown : α}
    {known : Record → List Record → Option String → α} (hr : l.set.get? r.name = some r)
    (fault : ModelFault) :
    l.answerFor unknown known r.name = .error fault ↔ checkAncestry l r = .error fault := by
  rw [checkAncestry_eq_verdict]
  cases ha : l.ancestry r <;> simp [answerFor, verdict, hr, ha]

/-- Whatever was asked before, asking about a record fails exactly if the check of its ancestry
does, and with the same path. The walk needs no more rounds than there are records, and a visit
nests its calls at most one deeper than that. -/
theorem cycle_detectors_agree (l : Lineage) {r : Record} (hr : r ∈ l.set.records)
    (asked : List Query) :
    (∀ fault, (runOn (parent? l r.name) (memoAfter l {} asked)).1 = .error fault ↔
      checkAncestry l r = .error fault) ∧
    (∀ fault, (runOn (isEmpty l r.name) (memoAfter l {} asked)).1 = .error fault ↔
      checkAncestry l r = .error fault) ∧
    (∀ fault, checkAncestry l r = .error fault → ∃ path, fault = .cyclicInheritance path) ∧
    (Walk.next l)^[l.set.size] (.start r) = .ended (checkAncestry l r) ∧
    ∀ deeper, (visitCall l)^[l.set.size + 1] deeper [] r.name = visit l [] r.name := by
  have hself := RecordSet.get?_of_mem hr
  have hm := reached_sound l asked
  refine ⟨fun fault => ?_, fun fault => ?_, fun fault h => ?_, walk_ends hr, fun deeper => ?_⟩
  · obtain ⟨m', hrun, _⟩ := parent?_decides l r.name _ hm
    rw [hrun]
    exact answerFor_eq_error_iff hself fault
  · obtain ⟨m', hrun, _⟩ := isEmpty_decides l r.name _ hm
    rw [hrun]
    change l.emptiness r.name = .error fault ↔ checkAncestry l r = .error fault
    exact answerFor_eq_error_iff hself fault
  · rw [checkAncestry_eq_verdict] at h
    cases ha : l.ancestry r with
    | ends chain outside => simp [verdict, ha] at h
    | loops path => exact ⟨path, by simpa [verdict, ha] using h.symm⟩
  · apply visitCall_iterate
    rw [length_unvisited_nil]
    exact Nat.lt_succ_self _

def tail : Record := { name := "Tail", parent := "A" }

def loopA : Record := { name := "A", parent := "B" }

def loopB : Record := { name := "B", parent := "A" }

def tailedLoop : Lineage where
  set := ⟨[tail, loopA, loopB], by decide⟩
  roots := ["root"]

theorem cycle_detectors_agree_tail :
    tail ∈ tailedLoop.set.records ∧
    (runOn (parent? tailedLoop "Tail") (memoAfter tailedLoop {} [.parent "B"])).1 =
      .error (.cyclicInheritance ["Tail", "A", "B", "A"]) ∧
    (runOn (isEmpty tailedLoop "Tail") (memoAfter tailedLoop {} [.parent "B"])).1 =
      .error (.cyclicInheritance ["Tail", "A", "B", "A"]) ∧
    (Walk.next tailedLoop)^[3] (.start tail) =
      .ended (.error (.cyclicInheritance ["Tail", "A", "B", "A"])) ∧
    ∀ deeper, (visitCall tailedLoop)^[4] deeper [] "Tail" = visit tailedLoop [] "Tail" := by
  have hmem : tail ∈ tailedLoop.set.records := List.mem_cons_self
  have hcheck : checkAncestry tailedLoop tail =
      .error (.cyclicInheritance ["Tail", "A", "B", "A"]) := by
    rw [checkAncestry_eq_verdict, ancestry,
      ancestryFrom_step (q := loopA) (by decide) (by decide) (by decide),
      ancestryFrom_step (q := loopB) (by decide) (by decide) (by decide),
      ancestryFrom_loop (by decide) (by decide)]
    rfl
  obtain ⟨hparent, hempty, _, hwalk, hdeeper⟩ :=
    cycle_detectors_agree tailedLoop hmem [.parent "B"]
  exact ⟨hmem, (hparent _).2 hcheck, (hempty _).2 hcheck, hcheck ▸ hwalk, hdeeper⟩

end RecordIdl.Consistency
