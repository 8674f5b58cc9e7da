import RecordIdl.Project
import RecordIdl.Proofs.ExceptSequence
import RecordIdl.Proofs.PruningAnswers

namespace RecordIdl

namespace Consistency

variable {l : Lineage}

theorem check_eq_ok_iff :
    check l = .ok () ↔ ∀ r ∈ l.set.records, checkFields r.name [] r.fields = .ok () ∧
      checkPduType r = .ok () ∧ checkAncestry l r = .ok () := by
  rw [check, List.forM_eq_forM, forM_eq_ok_iff]
  refine forall₂_congr fun r _ => ?_
  rw [checkRecord]
  cases checkFields r.name [] r.fields with
  | error fault => simp [bind, Except.bind]
  | ok _ => cases checkPduType r <;> simp [bind, Except.bind]

theorem exists_chain (hl : check l = .ok ()) {r : Record} (hr : r ∈ l.set.records) :
    ∃ ancestors outside, l.Chain r ancestors outside := by
  have hancestry := (check_eq_ok_iff.1 hl r hr).2.2
  rcases l.exists_chain_or_loops r with hc | ⟨path, ha⟩
  · exact hc
  · simp [checkAncestry, ha] at hancestry

end Consistency

namespace Lineage

variable {l : Lineage}

/-- The parent that `name` keeps, if its ancestry ends. -/
def parentOf? (l : Lineage) (name : String) : Option String :=
  match l.keptParent name with
  | .ok parent => parent
  | .error _ => none

theorem parentOf?_of_chain {r : Record} {ancestors : List Record} {outside : Option String}
    (hr : l.set.get? r.name = some r) (hc : l.Chain r ancestors outside) :
    l.parentOf? r.name = nearest ancestors outside := by
  have hkept : l.keptParent r.name = .ok (nearest ancestors outside) := answerFor_of_chain hr hc
  rw [parentOf?, hkept]

theorem answerFor_of_check {α : Type} {unknown : α}
    {known : Record → List Record → Option String → α} (hl : Consistency.check l = .ok ())
    (name : String) : ∃ v, l.answerFor unknown known name = .ok v := by
  cases hr : l.set.get? name with
  | none => exact ⟨_, answerFor_outside hr⟩
  | some r =>
      obtain ⟨ancestors, outside, hc⟩ := Consistency.exists_chain hl (RecordSet.mem_of_get? hr)
      obtain rfl := RecordSet.name_of_get? hr
      exact ⟨_, answerFor_of_chain hr hc⟩

theorem keptParent_of_check (hl : Consistency.check l = .ok ()) (name : String) :
    l.keptParent name = .ok (l.parentOf? name) := by
  obtain ⟨parent, hparent⟩ : ∃ parent, l.keptParent name = .ok parent := answerFor_of_check hl name
  simp only [parentOf?, hparent]

theorem emptiness_of_check (hl : Consistency.check l = .ok ()) (name : String) :
    l.emptiness name = .ok (l.set.hasEmpty name) := by
  cases hr : l.set.get? name with
  | none =>
      rw [emptiness, answerFor_outside hr]
      simp [RecordSet.hasEmpty, hr]
  | some r =>
      obtain ⟨ancestors, outside, hc⟩ := Consistency.exists_chain hl (RecordSet.mem_of_get? hr)
      obtain rfl := RecordSet.name_of_get? hr
      rw [emptiness, answerFor_of_chain hr hc]
      simp [RecordSet.hasEmpty, hr]

end Lineage

theorem RecordSet.hasEmpty_of_mem {s : RecordSet} {r : Record} (hr : r ∈ s.records) :
    s.hasEmpty r.name = r.isEmpty := by
  simp [hasEmpty, get?_of_mem hr]

namespace Pruning

variable {l : Lineage}

theorem gives_isEmpty (hl : Consistency.check l = .ok ()) (name : String) :
    Gives l (isEmpty l name) (.ok (l.set.hasEmpty name)) :=
  Lineage.emptiness_of_check hl name ▸ (isEmpty_decides l name).gives

theorem gives_parent? (hl : Consistency.check l = .ok ()) (name : String) :
    Gives l (parent? l name) (.ok (l.parentOf? name)) :=
  Lineage.keptParent_of_check hl name ▸ (parent?_decides l name).gives

end Pruning

open Pruning

namespace Body

variable {l : Lineage} (s : RecordSet) (o : Overrides) (record : String)

def directOf? (number : Nat) (f : Field) : Option Entry :=
  let resolution := o.resolution record f
  if f.isPadding || (resolution.isRecord && s.hasEmpty resolution.target.name) then none
  else some (entry record f number resolution.target)

def directEntries (number : Nat) : List Field → List Entry
  | [] => []
  | f :: fs => (directOf? s o record number f).toList ++ directEntries (number + 1) fs

def direct (r : Record) (parent : Option String) : Body :=
  let head := (parent.map superDeclaration).toList
  let entries := directEntries s o r.name (head.length + 1) r.fields
  ⟨head ++ entries.map (·.declaration), entries.filterMap (·.wrapper)⟩

theorem gives_entry (hl : Consistency.check l = .ok ()) (number : Nat) (f : Field) :
    Gives l ( entry? l o record number f) (.ok (directOf? l.set o record number f)) := by
  unfold entry? directOf?
  cases f.isPadding with
  | true => exact Gives.pure none
  | false =>
      cases hres : (o.resolution record f).isRecord with
      | false =>
          simp only [hres, Bool.false_eq_true, if_false, Bool.or_self, Bool.false_and]
          exact Gives.pure _
      | true =>
          simp only [hres, Bool.false_eq_true, if_false, if_true, Bool.false_or, Bool.true_and]
          refine Gives.bind_ok (gives_isEmpty hl _) ?_
          cases l.set.hasEmpty (o.resolution record f).target.name with
          | true => exact Gives.pure none
          | false => exact Gives.pure _

theorem gives_entries (hl : Consistency.check l = .ok ()) (number : Nat) (fs : List Field) :
    Gives l (entries l o record number fs) (.ok (directEntries l.set o record number fs)) := by
  induction fs generalizing number with
  | nil => exact Gives.pure []
  | cons f fs ih =>
      refine Gives.bind_ok (gives_entry o record hl number f) ?_
      exact Gives.bind_ok (ih (number + 1)) (Gives.pure _)

theorem gives_ofRecord (hl : Consistency.check l = .ok ()) (r : Record) (parent : Option String) :
    Gives l (ofRecord l o r parent) (.ok (direct l.set o r parent)) :=
  Gives.bind_ok (gives_entries o r.name hl _ r.fields) (Gives.pure _)

end Body

namespace Dependencies

variable {l : Lineage} (s : RecordSet) (o : Overrides)

def directOf? (record : String) (f : Field) : Option String :=
  let resolution := o.resolution record f
  if mayImport f.kind && resolution.isRecord && !s.hasEmpty resolution.target.name then
    some resolution.target.name
  else none

def direct (r : Record) (parent response : Option String) : Dependencies :=
  ofNames (r.fields.filterMap (directOf? s o r.name)
    ++ (parent.filter fun p => !o.replaces p).toList ++ response.toList)

theorem gives_ofField? (hl : Consistency.check l = .ok ()) (record : String) (f : Field) :
    Gives l (ofField? l o record f) (.ok (directOf? l.set o record f)) := by
  rw [ofField?, directOf?]
  cases hmay : mayImport f.kind && (o.resolution record f).isRecord with
  | false => exact Gives.pure none
  | true =>
      refine Gives.bind_ok (gives_isEmpty hl _) ?_
      cases l.set.hasEmpty (o.resolution record f).target.name with
      | true => exact Gives.pure none
      | false => exact Gives.pure _

theorem gives_ofFields (hl : Consistency.check l = .ok ()) (record : String) (fs : List Field) :
    Gives l (ofFields l o record fs) (.ok (fs.filterMap (directOf? l.set o record))) := by
  induction fs with
  | nil => exact Gives.pure []
  | cons f fs ih =>
      refine Gives.bind_ok (gives_ofField? o hl record f) (Gives.bind_ok ih ?_)
      cases hf : directOf? l.set o record f with
      | none => simpa [hf] using Gives.pure _
      | some name => simpa [hf] using Gives.pure _

theorem gives_ofRecord (hl : Consistency.check l = .ok ()) (r : Record)
    (parent response : Option String) :
    Gives l (ofRecord l o r parent response) (.ok (direct l.set o r parent response)) :=
  Gives.bind_ok (gives_ofFields o hl r.name r.fields) (Gives.pure _)

end Dependencies

namespace Project

variable (p : Project)

def directSchema (r : Record) (d : Designation) : SchemaFile :=
  let parent := p.lineage.parentOf? r.name
  { package := p.settings.package
    imports := (Dependencies.direct p.set p.overrides r parent (response? d.role)).names
    comment := Spelling.commentLine? r.comment
    items := SchemaItem.ofRecord r.name d
      (Body.direct p.set p.overrides r (parent.map p.superType)) }

def directFate (r : Record) : Except ModelFault Fate :=
  if p.overrides.replaces r.name then .ok .aliased
  else if p.set.hasEmpty r.name then .ok .empty
  else (Designation.ofRecord p.overrides p.settings r).map fun d => .file (p.directSchema r d)

def directBuild : Except ModelFault Build := do
  Consistency.check p.lineage
  let fates ← p.set.records.mapM fun r => (p.directFate r).map (r, ·)
  return p.collect fates

variable {p}

theorem gives_schema (hl : Consistency.check p.lineage = .ok ()) (r : Record) :
    Gives p.lineage (p.schema r)
      ((Designation.ofRecord p.overrides p.settings r).map (p.directSchema r)) := by
  refine Gives.bind_ok (gives_parent? hl r.name) ?_
  refine Gives.bind_map (Gives.ofExcept _) fun d => ?_
  refine Gives.bind_ok (Dependencies.gives_ofRecord _ hl r _ _) ?_
  exact Gives.bind_ok (Body.gives_ofRecord _ hl r _) (Gives.pure _)

theorem gives_fate (hl : Consistency.check p.lineage = .ok ()) (r : Record) :
    Gives p.lineage (p.fate r) (p.directFate r) := by
  rw [fate, directFate]
  cases p.overrides.replaces r.name with
  | true => exact Gives.pure _
  | false =>
      refine Gives.bind_ok (gives_isEmpty hl r.name) ?_
      change Gives _ _ (if p.lineage.set.hasEmpty r.name then _ else _)
      cases p.lineage.set.hasEmpty r.name with
      | true => exact Gives.pure _
      | false =>
          have h := Gives.bind_map (gives_schema hl r) fun schema => Gives.pure (Fate.file schema)
          cases hd : Designation.ofRecord p.overrides p.settings r <;> simpa [hd, Except.map] using h

/-- A build gives the same files and faults whatever was asked before it. -/
theorem gives_build (p : Project) : Gives p.lineage p.build p.directBuild := by
  refine Gives.bind (Gives.ofExcept _) fun _ hl => ?_
  refine Gives.bind (Gives.mapM _ fun r _ => ?_) fun fates _ => Gives.pure _
  exact Gives.bind_map (gives_fate hl r) fun fate => Gives.pure (r, fate)

end Project

end RecordIdl
