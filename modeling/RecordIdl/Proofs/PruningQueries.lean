import RecordIdl.Proofs.PruningAnswers

namespace RecordIdl.Pruning

inductive Query
  | isEmpty (name : String)
  | parent (name : String)
  deriving DecidableEq, Repr

inductive Answer
  | isEmpty (answer : Bool)
  | parent (answer : Option String)
  deriving DecidableEq, Repr

namespace Query

def ask (l : Lineage) : Query → Pruning Answer
  | isEmpty name => .isEmpty <$> Pruning.isEmpty l name
  | parent name => .parent <$> Pruning.parent? l name

def answer (l : Lineage) : Query → Except ModelFault Answer
  | isEmpty name => (l.emptiness name).map .isEmpty
  | parent name => (l.keptParent name).map .parent

end Query

/-- The answers to a series. A question that fails does not end it. -/
def answers (l : Lineage) : Memo → List Query → List (Except ModelFault Answer)
  | _, [] => []
  | m, q :: qs => (runOn (q.ask l) m).1 :: answers l (runOn (q.ask l) m).2 qs

def memoAfter (l : Lineage) (m : Memo) (qs : List Query) : Memo :=
  qs.foldl (fun m q => (runOn (q.ask l) m).2) m

variable {l : Lineage} {m : Memo}

theorem ask_decides (l : Lineage) (q : Query) : Decides l (q.ask l) (q.answer l) := by
  cases q with
  | isEmpty name => exact (isEmpty_decides l name).map Answer.isEmpty
  | parent name => exact (parent?_decides l name).map Answer.parent

theorem memoAfter_sound (hm : m.Sound l) (qs : List Query) : (memoAfter l m qs).Sound l := by
  induction qs generalizing m with
  | nil => exact hm
  | cons q qs ih =>
      obtain ⟨m', hrun, hm', _⟩ := ask_decides l q m hm
      have hnext : (runOn (q.ask l) m).2.Sound l := by rw [hrun]; exact hm'
      exact ih hnext

theorem reached_sound (l : Lineage) (qs : List Query) : (memoAfter l {} qs).Sound l :=
  memoAfter_sound (Memo.sound_empty l) qs

theorem answers_eq_map (hm : m.Sound l) (qs : List Query) :
    answers l m qs = qs.map (Query.answer l) := by
  induction qs generalizing m with
  | nil => rfl
  | cons q qs ih =>
      obtain ⟨m', hrun, hm', _⟩ := ask_decides l q m hm
      rw [answers, hrun, ih hm', List.map_cons]

/-- The memo saves work and decides nothing: every question of a series gets the answer that the
chain of the record alone gives, and a question that fails leaves the memo as it found it. -/
theorem answers_without_history (l : Lineage) (qs : List Query) :
    answers l {} qs = qs.map (Query.answer l) ∧
    (∀ (q : Query) fault, (runOn (q.ask l) (memoAfter l {} qs)).1 = .error fault →
      (runOn (q.ask l) (memoAfter l {} qs)).2 = memoAfter l {} qs) ∧
    (∀ name, l.set.get? name = none →
      l.emptiness name = .ok false ∧ l.keptParent name = .ok none) ∧
    ∀ r ∈ l.set.records,
      (∀ ancestors outside, l.Chain r ancestors outside →
        l.emptiness r.name = .ok r.isEmpty ∧
        l.keptParent r.name = .ok (Lineage.nearest ancestors outside)) ∧
      ((¬ ∃ ancestors outside, l.Chain r ancestors outside) → ∃ path,
        l.emptiness r.name = .error (.cyclicInheritance path) ∧
        l.keptParent r.name = .error (.cyclicInheritance path)) := by
  refine ⟨answers_eq_map (Memo.sound_empty l) qs, fun q fault h => ?_, fun name hout => ?_,
    fun r hr => ⟨fun ancestors outside hc => ?_, fun hnone => ?_⟩⟩
  · obtain ⟨m', hrun, _, hkeep⟩ := ask_decides l q _ (reached_sound l qs)
    rw [hrun] at h ⊢
    exact hkeep fault h
  · exact ⟨Lineage.answerFor_outside hout, Lineage.answerFor_outside hout⟩
  · have hself := RecordSet.get?_of_mem hr
    exact ⟨Lineage.answerFor_of_chain hself hc, Lineage.answerFor_of_chain hself hc⟩
  · have hself := RecordSet.get?_of_mem hr
    obtain ⟨path, ha⟩ := (l.exists_chain_or_loops r).resolve_left hnone
    exact ⟨path, Lineage.answerFor_of_loops hself ha, Lineage.answerFor_of_loops hself ha⟩

end RecordIdl.Pruning
