import RecordIdl.Proofs.BuildHistory
import RecordIdl.Proofs.OutputFiles

namespace RecordIdl

def Ancestry.names : Ancestry → List String
  | ends chain outside => chain.map Record.name ++ outside.toList
  | loops path => path

namespace Lineage

variable {l l' : Lineage} {r : Record} {ancestors : List Record} {outside : Option String}

def steps (l : Lineage) (r : Record) : List (String × Bool) :=
  (l.ancestry r).names.map fun name => (name, l.set.hasEmpty name)

theorem steps_of_chain (hr : l.set.get? r.name = some r) (hc : l.Chain r ancestors outside) :
    l.steps r = (r.name, r.isEmpty) ::
      ((ancestors.map fun q => (q.name, q.isEmpty)) ++ outside.toList.map (·, false)) := by
  have hself : l.set.hasEmpty r.name = r.isEmpty := by simp [RecordSet.hasEmpty, hr]
  have hancestors : ∀ q ∈ ancestors, l.set.hasEmpty q.name = q.isEmpty := by
    intro q hq
    simp [RecordSet.hasEmpty, hc.get?_of_mem hq]
  have houtside : ∀ name ∈ outside.toList, l.set.hasEmpty name = false := by
    intro name hname
    have hnone := hc.get?_outside (Option.mem_toList.1 hname)
    simp [RecordSet.hasEmpty, hnone]
  rw [steps, (ancestry_eq_ends_iff hr).2 hc, Ancestry.names, List.map_append, List.map_map,
    List.map_cons, List.cons_append]
  congr 1
  · simp [hself]
  · congr 1
    · exact List.map_congr_left fun q hq => by simp [hancestors q hq]
    · exact List.map_congr_left fun name hname => by simp [houtside name hname]

theorem nearest_eq_find? (ancestors : List Record) (outside : Option String) :
    nearest ancestors outside =
      (((ancestors.map fun q => (q.name, q.isEmpty)) ++ outside.toList.map (·, false)).find?
        fun step => !step.2).map Prod.fst := by
  induction ancestors with
  | nil => cases outside <;> simp [nearest]
  | cons q ancestors ih =>
      rw [nearest_cons, ih]
      cases hq : q.isEmpty <;> simp [hq]

theorem parentOf?_eq_find? (hl : Consistency.check l = .ok ()) (hr : r ∈ l.set.records) :
    l.parentOf? r.name = ((l.steps r).tail.find? fun step => !step.2).map Prod.fst := by
  have hself := RecordSet.get?_of_mem hr
  obtain ⟨ancestors, outside, hc⟩ := Consistency.exists_chain hl hr
  rw [parentOf?_of_chain hself hc, steps_of_chain hself hc, List.tail_cons, nearest_eq_find?]

end Lineage

variable {s t : RecordSet} {o : Overrides} {record : String} {f : Field}

/-- If nothing resolves the type of the field, it names a record without fields in both sets or in
neither. -/
def SameEmptyType (o : Overrides) (record : String) (s t : RecordSet) (f : Field) : Prop :=
  (o.resolution record f).isRecord = true → s.hasEmpty f.typeName = t.hasEmpty f.typeName

instance : Decidable (SameEmptyType o record s t f) :=
  inferInstanceAs (Decidable (_ → _))

theorem Body.directOf?_congr (number : Nat) (h : SameEmptyType o record s t f) :
    directOf? s o record number f = directOf? t o record number f := by
  cases hres : (o.resolution record f).isRecord with
  | false => simp [directOf?, hres]
  | true =>
      obtain ⟨_, htarget⟩ := Overrides.resolution_of_isRecord hres
      simp [directOf?, htarget, SchemaType.name, h hres]

theorem Body.directEntries_congr {fs : List Field} (number : Nat)
    (h : ∀ f ∈ fs, SameEmptyType o record s t f) :
    directEntries s o record number fs = directEntries t o record number fs := by
  induction fs generalizing number with
  | nil => rfl
  | cons f fs ih =>
      obtain ⟨hf, hfs⟩ := List.forall_mem_cons.1 h
      rw [directEntries, directEntries, directOf?_congr number hf, ih (number + 1) hfs]

theorem Dependencies.directOf?_congr (h : SameEmptyType o record s t f) :
    directOf? s o record f = directOf? t o record f := by
  cases hres : (o.resolution record f).isRecord with
  | false => simp [directOf?, hres]
  | true =>
      obtain ⟨_, htarget⟩ := Overrides.resolution_of_isRecord hres
      simp [directOf?, htarget, SchemaType.name, h hres]

namespace Project

open Pruning

variable {p : Project} {r : Record}

def on (p : Project) (t : RecordSet) : Project :=
  { p with set := t }

theorem directSchema_congr (d : Designation)
    (hparent : p.lineage.parentOf? r.name = (p.on t).lineage.parentOf? r.name)
    (htypes : ∀ f ∈ r.fields, SameEmptyType p.overrides r.name p.set t f) :
    p.directSchema r d = (p.on t).directSchema r d := by
  have himports : r.fields.filterMap (Dependencies.directOf? p.set p.overrides r.name) =
      r.fields.filterMap (Dependencies.directOf? t p.overrides r.name) :=
    List.filterMap_congr fun f hf => Dependencies.directOf?_congr (htypes f hf)
  have hentries (number : Nat) := Body.directEntries_congr number htypes
  have hsuper : (p.on t).superType = p.superType := rfl
  rw [directSchema, directSchema, hsuper, ← hparent]
  simp only [on, Dependencies.direct, Body.direct, himports, hentries]

theorem directFate_congr (hrp : r ∈ p.set.records) (hrt : r ∈ t.records)
    (hschema : ∀ d, p.directSchema r d = (p.on t).directSchema r d) :
    p.directFate r = (p.on t).directFate r := by
  have hempty : (p.on t).set.hasEmpty r.name = p.set.hasEmpty r.name :=
    (RecordSet.hasEmpty_of_mem hrt).trans (RecordSet.hasEmpty_of_mem hrp).symm
  rw [directFate, directFate, hempty, funext hschema]
  rfl

/-- Two sets may differ in everything but the record, the names and the emptiness along the walk
from it, and the emptiness of its field types: the record has the same file in both, whatever was
called before. -/
theorem file_depends_on_surroundings (p : Project) (t : RecordSet)
    (hp : Consistency.check p.lineage = .ok ()) (ht : Consistency.check (p.on t).lineage = .ok ())
    (r : Record) (hrp : r ∈ p.set.records) (hrt : r ∈ t.records)
    (hsteps : p.lineage.steps r = (p.on t).lineage.steps r)
    (htypes : ∀ f ∈ r.fields, SameEmptyType p.overrides r.name p.set t f)
    (earlier earlier' : List Call) :
    (runOn (p.text? r) (p.memoAfter earlier)).1 =
      (runOn ((p.on t).text? r) ((p.on t).memoAfter earlier')).1 ∧
    ∀ b b', (runOn p.build (p.memoAfter earlier)).1 = .ok b →
      (runOn (p.on t).build ((p.on t).memoAfter earlier')).1 = .ok b' →
      b.file? r.name = b'.file? r.name := by
  have hparent : p.lineage.parentOf? r.name = (p.on t).lineage.parentOf? r.name := by
    rw [Lineage.parentOf?_eq_find? hp hrp, Lineage.parentOf?_eq_find? ht hrt, hsteps]
  have hschema (d : Designation) := directSchema_congr d hparent htypes
  refine ⟨?_, fun b b' hb hb' => ?_⟩
  · rw [text?_after hp, text?_after ht, directFate_congr hrp hrt hschema]
  · rw [build_after] at hb hb'
    ext f
    rw [file?_record_iff hb hrp, file?_record_iff hb' hrt, funext hschema]
    rfl

def detonation : Record where
  name := "DetonationPdu"
  parent := "Warfare"
  fields := [{ name := "target", typeName := "EntityID", kind := .recordReference },
    { name := "marker", typeName := "Marker", kind := .recordReference }]
  initialValues := [⟨"pduType", "3"⟩]

def warfare : Record := { name := "Warfare", parent := "Header" }

def header : Record where
  name := "Header"
  parent := "root"
  fields := [{ name := "length", typeName := "int", kind := .primitive }]

def smallSet : RecordSet :=
  ⟨[detonation, warfare, header, { name := "Marker", parent := "root" }], by decide⟩

def largeSet : RecordSet where
  records := [{ name := "Marker", parent := "EntityID" },
    { name := "EntityID", parent := "Pdu", fields := header.fields },
    { header with parent := "PDU", fields := detonation.fields }, warfare, detonation]
  distinct := by decide

theorem file_depends_on_surroundings_detonation :
    Consistency.check (lineage { set := smallSet }) = .ok () ∧
    Consistency.check (lineage { set := largeSet }) = .ok () ∧
    detonation ∈ smallSet.records ∧ detonation ∈ largeSet.records ∧
    (lineage { set := smallSet }).steps detonation =
      (lineage { set := largeSet }).steps detonation ∧
    (∀ f ∈ detonation.fields, SameEmptyType {} "DetonationPdu" smallSet largeSet f) ∧
    (runOn (text? { set := smallSet } detonation) (memoAfter { set := smallSet } [])).1 =
      (runOn (text? { set := largeSet } detonation)
        (memoAfter { set := largeSet } [.record header, .build])).1 ∧
    ∀ b b', (runOn (build { set := smallSet }) (memoAfter { set := smallSet } [])).1 = .ok b →
      (runOn (build { set := largeSet })
        (memoAfter { set := largeSet } [.record header, .build])).1 = .ok b' →
      b.file? "DetonationPdu" = b'.file? "DetonationPdu" := by
  have hsmall : Consistency.check (lineage { set := smallSet }) = .ok () := by decide +kernel
  have hlarge : Consistency.check (lineage { set := largeSet }) = .ok () := by decide +kernel
  have hin : detonation ∈ smallSet.records ∧ detonation ∈ largeSet.records := by decide +kernel
  have hsteps : (lineage { set := smallSet }).steps detonation =
      (lineage { set := largeSet }).steps detonation := by decide +kernel
  have htypes : ∀ f ∈ detonation.fields,
      SameEmptyType {} "DetonationPdu" smallSet largeSet f := by decide +kernel
  exact ⟨hsmall, hlarge, hin.1, hin.2, hsteps, htypes,
    file_depends_on_surroundings { set := smallSet } largeSet hsmall hlarge detonation hin.1 hin.2
      hsteps htypes [] [.record header, .build]⟩

end Project

end RecordIdl
