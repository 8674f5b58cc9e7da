import RecordIdl.Proofs.MemoSound

namespace RecordIdl

namespace Lineage

variable {α : Type} {l : Lineage} {r : Record} {ancestors : List Record} {outside : Option String}
variable {unknown : α} {known : Record → List Record → Option String → α}

/-- What is so of a name: `known` for a record by its ancestors and the name at which they stop,
`unknown` for a name outside the set. There is no answer for a record whose ancestry loops. -/
def answerFor (l : Lineage) (unknown : α) (known : Record → List Record → Option String → α)
    (name : String) : Except ModelFault α :=
  match l.set.get? name with
  | none => .ok unknown
  | some r =>
    match l.ancestry r with
    | .ends chain outside => .ok (known r chain.tail outside)
    | .loops path => .error (.cyclicInheritance path)

def emptiness (l : Lineage) : String → Except ModelFault Bool :=
  l.answerFor false fun r _ _ => r.isEmpty

/-- The first ancestor that has fields or is not in the set; none if a root comes first. -/
def keptParent (l : Lineage) : String → Except ModelFault (Option String) :=
  l.answerFor none fun _ ancestors outside => nearest ancestors outside

theorem answerFor_outside {name : String} (hr : l.set.get? name = none) :
    l.answerFor unknown known name = .ok unknown := by
  rw [answerFor, hr]

theorem answerFor_of_chain (hr : l.set.get? r.name = some r)
    (hc : l.Chain r ancestors outside) :
    l.answerFor unknown known r.name = .ok (known r ancestors outside) := by
  simp only [answerFor, hr, (ancestry_eq_ends_iff hr).2 hc, List.tail_cons]

theorem answerFor_of_loops {path : List String} (hr : l.set.get? r.name = some r)
    (ha : l.ancestry r = .loops path) :
    l.answerFor unknown known r.name = .error (.cyclicInheritance path) := by
  simp only [answerFor, hr, ha]

end Lineage

namespace Pruning

variable {α β : Type} {l : Lineage}

/-- From every sound memo `x` comes to `answer`, and it leaves a sound memo. -/
def Gives (l : Lineage) (x : Pruning α) (answer : Except ModelFault α) : Prop :=
  ∀ m, m.Sound l → ∃ m', runOn x m = (answer, m') ∧ m'.Sound l

namespace Gives

theorem pure (a : α) : Gives l (pure a) (.ok a) := fun m hm => ⟨m, rfl, hm⟩

theorem ofExcept (e : Except ModelFault α) : Gives l (ofExcept e) e :=
  fun m hm => ⟨m, runOn_ofExcept e m, hm⟩

theorem bind {x : Pruning α} {f : α → Pruning β} {a : Except ModelFault α}
    {g : α → Except ModelFault β} (hx : Gives l x a) (hf : ∀ v, a = .ok v → Gives l (f v) (g v)) :
    Gives l (x >>= f) (a >>= g) := by
  intro m hm
  obtain ⟨m', hrun, hm'⟩ := hx m hm
  cases a with
  | error fault => exact ⟨m', runOn_bind_error hrun, hm'⟩
  | ok v =>
      rw [runOn_bind_ok hrun]
      exact hf v rfl m' hm'

theorem bind_ok {x : Pruning α} {f : α → Pruning β} {v : α} {b : Except ModelFault β}
    (hx : Gives l x (.ok v)) (hf : Gives l (f v) b) : Gives l (x >>= f) b :=
  bind (g := fun _ => b) hx fun _ hv => Except.ok.inj hv ▸ hf

theorem bind_map {x : Pruning α} {f : α → Pruning β} {a : Except ModelFault α} {g : α → β}
    (hx : Gives l x a) (hf : ∀ v, Gives l (f v) (.ok (g v))) : Gives l (x >>= f) (a.map g) := by
  have h := bind (g := fun v => .ok (g v)) hx fun v _ => hf v
  cases a <;> exact h

theorem mapM {f : α → Pruning β} {g : α → Except ModelFault β} (xs : List α)
    (hf : ∀ x ∈ xs, Gives l (f x) (g x)) : Gives l (xs.mapM f) (xs.mapM g) := by
  induction xs with
  | nil => exact pure []
  | cons x xs ih =>
      rw [List.mapM_cons, List.mapM_cons]
      refine bind (hf x List.mem_cons_self) fun y _ => ?_
      exact bind (ih fun z hz => hf z (List.mem_cons_of_mem _ hz)) fun ys _ => pure (y :: ys)

end Gives

/-- `Gives` for work that changes nothing if it fails. -/
def Decides (l : Lineage) (x : Pruning α) (answer : Except ModelFault α) : Prop :=
  ∀ m, m.Sound l → ∃ m', runOn x m = (answer, m') ∧ m'.Sound l ∧
    ∀ fault, answer = .error fault → m' = m

namespace Decides

theorem gives {x : Pruning α} {a : Except ModelFault α} (h : Decides l x a) : Gives l x a := by
  intro m hm
  obtain ⟨m', hrun, hm', _⟩ := h m hm
  exact ⟨m', hrun, hm'⟩

theorem map {x : Pruning α} {a : Except ModelFault α} (f : α → β) (h : Decides l x a) :
    Decides l (f <$> x) (a.map f) := by
  intro m hm
  obtain ⟨m', hrun, hm', hkeep⟩ := h m hm
  refine ⟨m', by rw [runOn_map, hrun], hm', fun fault hf => ?_⟩
  cases a with
  | error fault' => exact hkeep fault' rfl
  | ok v => cases hf

theorem of_visit {name : String} {read : Memo → α} {unknown : α}
    {known : Record → List Record → Option String → α}
    (hout : ∀ m, m.Sound l → l.set.get? name = none → read m = unknown)
    (hin : ∀ m r ancestors outside, m.Sound l → l.set.get? name = some r →
      m.knows name = true → l.Chain r ancestors outside → read m = known r ancestors outside) :
    Decides l (do visit l [] name; return read (← get)) (l.answerFor unknown known name) := by
  intro m hm
  cases hr : l.set.get? name with
  | none =>
      refine ⟨m, ?_, hm, fun _ _ => rfl⟩
      rw [runOn_bind_ok (runOn_visit_outside hr), runOn_bind_ok (runOn_get m), runOn_pure,
        hout m hm hr, Lineage.answerFor_outside hr]
  | some r =>
      have hself := RecordSet.get?_self hr
      obtain rfl := RecordSet.name_of_get? hr
      rcases l.exists_chain_or_loops r with ⟨ancestors, outside, hc⟩ | ⟨path, ha⟩
      · obtain ⟨m', hv, hm', hk⟩ := runOn_visit_of_chain [] hm hr hc (by simp)
        have hok : l.answerFor unknown known r.name = .ok (known r ancestors outside) :=
          Lineage.answerFor_of_chain hr hc
        refine ⟨m', ?_, hm', fun fault h => by cases hok.symm.trans h⟩
        rw [runOn_bind_ok hv, runOn_bind_ok (runOn_get m'), runOn_pure,
          hin m' r ancestors outside hm' hr hk hc, hok]
      · -- No earlier visit can have noted a record whose ancestry loops.
        have hk : m.knows r.name = false := by
          rw [← Bool.not_eq_true]
          intro hk
          obtain ⟨_, _, he⟩ := ancestryFrom_of_knows [] hm hr hk (by simp)
          exact Ancestry.noConfusion (ha.symm.trans he)
        have hv := runOn_visit_of_loops [] hm hr (by simp) (by simp [hk, hr]) ha
        refine ⟨m, ?_, hm, fun _ _ => rfl⟩
        rw [runOn_bind_error hv, Lineage.answerFor_of_loops hr ha]
        rfl

end Decides

theorem isEmpty_decides (l : Lineage) (name : String) :
    Decides l (isEmpty l name) (l.emptiness name) := by
  apply Decides.of_visit
  · intro m hm hr
    exact decide_eq_false (hm.not_mem_empty hr)
  · intro m r ancestors outside hm hr hk hc
    simp only [hm.mem_empty hr hk, Bool.decide_eq_true]

theorem parent?_decides (l : Lineage) (name : String) :
    Decides l (parent? l name) (l.keptParent name) := by
  apply Decides.of_visit
  · intro m hm hr
    exact hm.parent?_outside hr
  · intro m r ancestors outside hm hr hk hc
    exact (hm.of_chain hr hk hc).1

end Pruning

end RecordIdl
