import RecordIdl.Record.Pruning
import Mathlib.Logic.Function.Iterate

namespace RecordIdl.Pruning

variable {α β : Type}

/-- What comes of `x` on the memo `m`, and the memo that it leaves. -/
def runOn (x : Pruning α) (m : Memo) : Except ModelFault α × Memo :=
  StateT.run (ExceptT.run x) m

@[simp] theorem runOn_pure (a : α) (m : Memo) : runOn (pure a) m = (.ok a, m) := rfl

@[simp] theorem runOn_throw (fault : ModelFault) (m : Memo) :
    runOn (throw fault : Pruning α) m = (.error fault, m) := rfl

@[simp] theorem runOn_get (m : Memo) : runOn get m = (.ok m, m) := rfl

@[simp] theorem runOn_modify (f : Memo → Memo) (m : Memo) :
    runOn (modify f) m = (.ok (), f m) := rfl

theorem runOn_bind (x : Pruning α) (f : α → Pruning β) (m : Memo) :
    runOn (x >>= f) m = match runOn x m with
      | (.ok a, m') => runOn (f a) m'
      | (.error fault, m') => (.error fault, m') := by
  unfold runOn ExceptT.run StateT.run
  simp only [bind, ExceptT.bind, ExceptT.mk, StateT.bind, ExceptT.bindCont]
  cases x m with
  | mk r m' => cases r <;> rfl

theorem runOn_bind_ok {x : Pruning α} {f : α → Pruning β} {m m' : Memo} {a : α}
    (h : runOn x m = (.ok a, m')) : runOn (x >>= f) m = runOn (f a) m' := by
  rw [runOn_bind, h]

theorem runOn_bind_error {x : Pruning α} {f : α → Pruning β} {m m' : Memo} {fault : ModelFault}
    (h : runOn x m = (.error fault, m')) : runOn (x >>= f) m = (.error fault, m') := by
  rw [runOn_bind, h]

theorem runOn_map (f : α → β) (x : Pruning α) (m : Memo) :
    runOn (f <$> x) m = ((runOn x m).1.map f, (runOn x m).2) := by
  rw [map_eq_pure_bind, runOn_bind]
  obtain ⟨r, m'⟩ := runOn x m
  cases r <;> rfl

@[simp] theorem runOn_ofExcept (e : Except ModelFault α) (m : Memo) :
    runOn (ofExcept e) m = (e, m) := by
  cases e <;> rfl

/-- One call of `visit`, where `inner` answers the call that it makes itself. -/
def visitCall (l : Lineage) (inner : List String → String → Pruning Unit) (above : List String)
    (name : String) : Pruning Unit := do
  if (← get).knows name then pure ()
  else
    match l.set.get? name with
    | none => pure ()
    | some record =>
      if name ∈ above then throw (.cyclicInheritance (name :: above).reverse)
      else if isRoot l.roots record.parent then modify (·.note record none)
      else do
        inner (name :: above) record.parent
        modify fun m => m.note record (m.kept record.parent)

theorem visit_eq_call (l : Lineage) (above : List String) (name : String) :
    visit l above name = visitCall l (visit l) above name := by
  rw [visit, visitCall]
  congr 1
  funext m
  split
  · rfl
  · split <;> rename_i h <;> simp [h]

/-- Calls nested deeper than the number of records that may still be met are never made: it does
not matter what would answer them. -/
theorem visitCall_iterate (l : Lineage) (deeper : List String → String → Pruning Unit) (n : Nat)
    (above : List String) (name : String) (hn : (l.set.unvisited above).length < n) :
    (visitCall l)^[n] deeper above name = visit l above name := by
  induction n generalizing above name with
  | zero => omega
  | succ n ih =>
      rw [Function.iterate_succ_apply', visit_eq_call, visitCall, visitCall]
      congr 1
      funext m
      split
      · rfl
      · cases hr : l.set.get? name with
        | none => rfl
        | some record =>
            by_cases habove : name ∈ above
            · simp only [habove, if_true]
            · have hlt := RecordSet.length_unvisited_lt hr habove
              simp only [habove, if_false]
              rw [ih (name :: above) record.parent (by omega)]

end RecordIdl.Pruning
