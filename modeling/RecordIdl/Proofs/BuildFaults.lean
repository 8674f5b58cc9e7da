import RecordIdl.Proofs.Designations
import RecordIdl.Proofs.DirectBuild
import RecordIdl.Proofs.PruningQueries

namespace RecordIdl

/-- The number that a record declares as `raw` is too large for an id once the offset is added. -/
def TooLarge (settings : Settings) (r : Record) (raw : String) : Prop :=
  r.DeclaresPduType raw ∧
    ∃ n, Text.Spells64 raw n ∧ 4294967296 ≤ n + (settings.idOffset.toNat : Int)

namespace Designation

variable {o : Overrides} {settings : Settings} {r : Record} {raw : String} {fault : ModelFault}

theorem exists_spelled (hr : Consistency.checkPduType r = .ok ()) (hraw : r.DeclaresPduType raw) :
    ∃ n, Text.Spells64 raw n := by
  rw [Consistency.checkPduType, Record.pduType?_eq_some_iff.2 hraw] at hr
  cases hn : Text.signed64? (Text.trim raw) with
  | none => simp [hn] at hr
  | some n => exact ⟨n, Text.signed64?_trim_eq_some_iff.1 hn⟩

theorem ofRecord_eq_error_iff (hr : Consistency.checkPduType r = .ok ()) :
    ofRecord o settings r = .error fault ↔
      ∃ raw, TooLarge settings r raw ∧ fault = .badPduType r.name raw := by
  rw [ofRecord_fails_iff]
  constructor
  · rintro ⟨raw, hraw, rfl, hnone | hlarge⟩
    · exact absurd (exists_spelled hr hraw) hnone
    · exact ⟨raw, ⟨hraw, hlarge⟩, rfl⟩
  · rintro ⟨raw, ⟨hraw, hlarge⟩, rfl⟩
    exact ⟨raw, hraw, rfl, .inr hlarge⟩

example : ofRecord {} { idOffset := 1 }
    { name := "Last", parent := "root", initialValues := [⟨"pduType", "4294967294"⟩] } =
    .ok ⟨.component, 4294967295⟩ := by cbv

example : ofRecord {} { idOffset := 1 }
    { name := "Over", parent := "root", initialValues := [⟨"pduType", "4294967295"⟩] } =
    .error (.badPduType "Over" "4294967295") := by cbv

end Designation

namespace Project

open Pruning

variable {p : Project} {fault : ModelFault}

/-- No override stands for the record, and it has fields. -/
def getsFile (p : Project) (r : Record) : Bool :=
  !p.overrides.replaces r.name && !r.isEmpty

theorem directFate_eq_error_iff {r : Record} (hl : Consistency.check p.lineage = .ok ())
    (hr : r ∈ p.set.records) :
    p.directFate r = .error fault ↔ p.getsFile r = true ∧
      ∃ raw, TooLarge p.settings r raw ∧ fault = .badPduType r.name raw := by
  have hpdu := ((Consistency.check_eq_ok_iff.1 hl) r hr).2.1
  rw [directFate, getsFile, RecordSet.hasEmpty_of_mem hr]
  cases p.overrides.replaces r.name with
  | true => simp
  | false =>
      cases r.isEmpty with
      | true => simp
      | false => simp [map_eq_error_iff, Designation.ofRecord_eq_error_iff hpdu]

theorem directFate_eq_ok_iff {r : Record} (hl : Consistency.check p.lineage = .ok ())
    (hr : r ∈ p.set.records) :
    (∃ fate, p.directFate r = .ok fate) ↔
      (p.getsFile r = true → ∀ raw, ¬ TooLarge p.settings r raw) := by
  rw [exists_ok_iff]
  constructor
  · intro h hfile raw hraw
    exact h _ ((directFate_eq_error_iff hl hr).2 ⟨hfile, raw, hraw, rfl⟩)
  · intro h fault hfault
    obtain ⟨hfile, raw, hraw, _⟩ := (directFate_eq_error_iff hl hr).1 hfault
    exact h hfile raw hraw

theorem directBuild_of_check (hl : Consistency.check p.lineage = .ok ()) :
    p.directBuild = (p.set.records.mapM fun r => (p.directFate r).map (r, ·)).map p.collect := by
  rw [directBuild, hl]
  cases p.set.records.mapM fun r => (p.directFate r).map (r, ·) <;> rfl

theorem directBuild_eq_error_iff :
    p.directBuild = .error fault ↔
      Consistency.check p.lineage = .error fault ∨
      Consistency.check p.lineage = .ok () ∧ ∃ before r after raw,
        p.set.records = before ++ r :: after ∧
        (∀ q ∈ before, p.getsFile q = true → ∀ raw, ¬ TooLarge p.settings q raw) ∧
        p.getsFile r = true ∧ TooLarge p.settings r raw ∧ fault = .badPduType r.name raw := by
  cases hl : Consistency.check p.lineage with
  | error fault' => simp [directBuild, hl, bind, Except.bind]
  | ok _ =>
      rw [directBuild_of_check hl, map_eq_error_iff, mapM_eq_error_iff]
      have hok (q : Record) : (∃ b, (p.directFate q).map (q, ·) = .ok b) ↔
          ∃ fate, p.directFate q = .ok fate := by
        simp only [exists_ok_iff, ne_eq, map_eq_error_iff]
      simp only [hok, map_eq_error_iff, reduceCtorEq, false_or, true_and]
      constructor
      · rintro ⟨before, r, after, heq, hbefore, hr⟩
        have hmem (q : Record) (hq : q ∈ before ++ r :: after) : q ∈ p.set.records := heq ▸ hq
        obtain ⟨hfile, raw, hraw, rfl⟩ := (directFate_eq_error_iff hl (hmem r (by simp))).1 hr
        refine ⟨before, r, after, raw, heq, fun q hq => ?_, hfile, hraw, rfl⟩
        exact (directFate_eq_ok_iff hl (hmem q (by simp [hq]))).1 (hbefore q hq)
      · rintro ⟨before, r, after, raw, heq, hbefore, hfile, hraw, rfl⟩
        have hmem (q : Record) (hq : q ∈ before ++ r :: after) : q ∈ p.set.records := heq ▸ hq
        refine ⟨before, r, after, heq, fun q hq => ?_, ?_⟩
        · exact (directFate_eq_ok_iff hl (hmem q (by simp [hq]))).2 (hbefore q hq)
        · exact (directFate_eq_error_iff hl (hmem r (by simp))).2 ⟨hfile, raw, hraw, rfl⟩

/-- A build fails with the first fault that the checks of the set find, or else with the number of
the first record that gets a file and whose number is too large for an id. After the checks no
question about a name can fail, and the ids of records without a file do no harm. -/
theorem build_eq_error_iff (p : Project) (asked : List Query) :
    (∀ fault, (runOn p.build (Pruning.memoAfter p.lineage {} asked)).1 = .error fault ↔
      Consistency.check p.lineage = .error fault ∨
      Consistency.check p.lineage = .ok () ∧ ∃ before r after raw,
        p.set.records = before ++ r :: after ∧
        (∀ q ∈ before, p.getsFile q = true → ∀ raw, ¬ TooLarge p.settings q raw) ∧
        p.getsFile r = true ∧ TooLarge p.settings r raw ∧ fault = .badPduType r.name raw) ∧
    (Consistency.check p.lineage = .ok () →
      ((∀ r ∈ p.set.records, p.getsFile r = true → ∀ raw, ¬ TooLarge p.settings r raw) →
        ∃ b, (runOn p.build (Pruning.memoAfter p.lineage {} asked)).1 = .ok b) ∧
      (∀ name, ∃ b,
        (runOn (isEmpty p.lineage name) (Pruning.memoAfter p.lineage {} asked)).1 = .ok b) ∧
      (∀ name, ∃ q,
        (runOn (parent? p.lineage name) (Pruning.memoAfter p.lineage {} asked)).1 = .ok q) ∧
      (∀ r parent response, ∃ d, (runOn (Dependencies.ofRecord p.lineage p.overrides r parent
        response) (Pruning.memoAfter p.lineage {} asked)).1 = .ok d) ∧
      ∀ r parent, ∃ b, (runOn (Body.ofRecord p.lineage p.overrides r parent)
        (Pruning.memoAfter p.lineage {} asked)).1 = .ok b) := by
  have hm := reached_sound p.lineage asked
  obtain ⟨m', hbuild, _⟩ := gives_build p _ hm
  rw [hbuild]
  refine ⟨fun fault => directBuild_eq_error_iff, fun hl => ⟨fun hfits => ?_, fun name => ?_,
    fun name => ?_, fun r parent response => ?_, fun r parent => ?_⟩⟩
  · refine exists_ok_iff.2 fun fault hfault => ?_
    rcases directBuild_eq_error_iff.1 hfault with hcheck | ⟨_, _, r, _, raw, heq, _, hfile, hraw, _⟩
    · cases hl.symm.trans hcheck
    · exact hfits r (heq ▸ by simp) hfile raw hraw
  · obtain ⟨m', hrun, _⟩ := gives_isEmpty hl name _ hm
    exact ⟨_, congrArg Prod.fst hrun⟩
  · obtain ⟨m', hrun, _⟩ := gives_parent? hl name _ hm
    exact ⟨_, congrArg Prod.fst hrun⟩
  · obtain ⟨m', hrun, _⟩ := Dependencies.gives_ofRecord p.overrides hl r parent response _ hm
    exact ⟨_, congrArg Prod.fst hrun⟩
  · obtain ⟨m', hrun, _⟩ := Body.gives_ofRecord p.overrides hl r parent _ hm
    exact ⟨_, congrArg Prod.fst hrun⟩

end Project

end RecordIdl
