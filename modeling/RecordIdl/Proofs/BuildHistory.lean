import RecordIdl.Proofs.DirectBuild

namespace RecordIdl

def Fate.text? : Fate → Option String
  | file schema => some schema.text
  | aliased | empty => none

namespace Project

open Pruning

variable {p : Project} {m : Memo}

/-- A record that is rendered by itself need not be one of the set. -/
inductive Call
  | record (r : Record)
  | build
  | void
  deriving DecidableEq, Repr

def Call.after (p : Project) (m : Memo) : Call → Memo
  | record r => (runOn (p.text? r) m).2
  | build => (runOn p.build m).2
  | void => m

/-- What the calls so far leave for the next one, be they answered or refused. -/
def memoAfter (p : Project) (calls : List Call) : Memo :=
  calls.foldl (Call.after p) {}

theorem gives_text? (hl : Consistency.check p.lineage = .ok ()) (r : Record) :
    Gives p.lineage (p.text? r) ((p.directFate r).map Fate.text?) := by
  refine Gives.bind_map (gives_fate hl r) fun fate => ?_
  cases fate <;> exact Gives.pure _

theorem Call.after_sound (hl : Consistency.check p.lineage = .ok ()) (hm : m.Sound p.lineage)
    (call : Call) : (call.after p m).Sound p.lineage := by
  cases call with
  | record r =>
      obtain ⟨m', hrun, hm'⟩ := gives_text? hl r m hm
      rw [after, hrun]
      exact hm'
  | build =>
      obtain ⟨m', hrun, hm'⟩ := gives_build p m hm
      rw [after, hrun]
      exact hm'
  | void => exact hm

theorem memoAfter_sound (hl : Consistency.check p.lineage = .ok ()) (calls : List Call) :
    (p.memoAfter calls).Sound p.lineage := by
  suffices h : ∀ m, m.Sound p.lineage → (calls.foldl (Call.after p) m).Sound p.lineage from
    h {} (Memo.sound_empty _)
  intro m hm
  induction calls generalizing m with
  | nil => exact hm
  | cons call calls ih => exact ih _ (call.after_sound hl hm)

theorem fate_after (hl : Consistency.check p.lineage = .ok ()) (calls : List Call) (r : Record) :
    (runOn (p.fate r) (p.memoAfter calls)).1 = p.directFate r := by
  obtain ⟨m', hrun, _⟩ := gives_fate hl r _ (memoAfter_sound hl calls)
  rw [hrun]

theorem text?_after (hl : Consistency.check p.lineage = .ok ()) (calls : List Call)
    (r : Record) :
    (runOn (p.text? r) (p.memoAfter calls)).1 = (p.directFate r).map Fate.text? := by
  obtain ⟨m', hrun, _⟩ := gives_text? hl r _ (memoAfter_sound hl calls)
  rw [hrun]

/-- On a set that is not consistent every build fails with the fault of the set. -/
theorem build_after (p : Project) (calls : List Call) :
    (runOn p.build (p.memoAfter calls)).1 = p.directBuild := by
  cases hl : Consistency.check p.lineage with
  | error fault =>
      have hcheck : runOn (Pruning.ofExcept (Consistency.check p.lineage)) (p.memoAfter calls) =
          (.error fault, p.memoAfter calls) := by rw [runOn_ofExcept, hl]
      rw [build, runOn_bind_error hcheck, directBuild, hl]
      rfl
  | ok _ =>
      obtain ⟨m', hrun, _⟩ := gives_build p _ (memoAfter_sound hl calls)
      rw [hrun]

end Project

end RecordIdl
