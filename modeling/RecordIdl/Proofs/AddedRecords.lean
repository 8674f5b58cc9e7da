import RecordIdl.Input.Description
import RecordIdl.Proofs.FaultState
import Std.Data.HashMap.Lemmas

namespace RecordIdl.RecordSet

open Description

variable {s : RecordSet} {r : Record}

/-- The set after a record was offered to it. A set that refuses the record stays as it is. -/
def offer (s : RecordSet) (r : Record) : RecordSet :=
  (addRecord s r).toOption.getD s

theorem addRecord_taken (h : r.name ∈ s.names) :
    addRecord s r = .error (.duplicateRecord r.name) := by
  rw [addRecord, add?, dif_pos h]
  rfl

theorem addRecord_new (h : r.name ∉ s.names) :
    addRecord s r = .ok ⟨s.records ++ [r], nodup_names_concat h⟩ := by
  rw [addRecord, add?, dif_neg h]
  rfl

theorem offer_taken (h : r.name ∈ s.names) : s.offer r = s := by
  rw [offer, addRecord_taken h]
  rfl

theorem offer_new (h : r.name ∉ s.names) :
    s.offer r = ⟨s.records ++ [r], nodup_names_concat h⟩ := by
  rw [offer, addRecord_new h]
  rfl

theorem foldl_offer (s : RecordSet) (rs : List Record)
    (h : ((s.records ++ rs).map Record.name).Nodup) :
    rs.foldl offer s = ⟨s.records ++ rs, h⟩ := by
  induction rs generalizing s with
  | nil =>
      simp only [List.append_nil]
      rfl
  | cons r rs ih =>
      have hr : r.name ∉ s.names := fun hmem => by
        rw [List.map_append, List.nodup_append] at h
        exact h.2.2 _ hmem _ List.mem_cons_self rfl
      have hrest : (((s.records ++ [r]) ++ rs).map Record.name).Nodup := by
        rwa [List.append_assoc, List.singleton_append]
      rw [List.foldl_cons, offer_new hr, ih _ hrest]
      simp only [List.append_assoc, List.singleton_append]

structure Indexed where
  records : Array Record := #[]
  index : Std.HashMap String Nat := {}

namespace Indexed

variable {t : Indexed}

/-- The index is given the place at the end of the row before the record is put there. -/
def add (r : Record) : ExceptT InputFault (StateM Indexed) Unit := do
  if (← get).index.contains r.name then throw (.duplicateRecord r.name)
  else
    modify fun t => { t with index := t.index.insert r.name t.records.size }
    modify fun t => { t with records := t.records.push r }

def push (t : Indexed) (r : Record) : Indexed :=
  ⟨t.records.push r, t.index.insert r.name t.records.size⟩

theorem runFrom_add (r : Record) (t : Indexed) : runFrom (add r) t =
    if t.index.contains r.name then (.error (.duplicateRecord r.name), t)
    else (.ok (), t.push r) := by
  rw [add, runFrom_bind, runFrom_get]
  dsimp only
  split
  · exact runFrom_throw _ _
  · rw [runFrom_bind, runFrom_modify]
    exact runFrom_modify _ _

/-- The record at the place that the index has for a name. A place outside the row would give
`some none`. -/
def lookup (t : Indexed) (name : String) : Option (Option Record) :=
  t.index[name]?.map (t.records[·]?)

def after (t : Indexed) (rs : List Record) : Indexed :=
  rs.foldl (fun t r => (runFrom (add r) t).2) t

/-- The records of a series that were not refused. -/
def accepted : Indexed → List Record → List Record
  | _, [] => []
  | t, r :: rs =>
    match runFrom (add r) t with
    | (.ok _, t') => r :: accepted t' rs
    | (.error _, t') => accepted t' rs

theorem accepted_sublist (t : Indexed) (rs : List Record) : (accepted t rs).Sublist rs := by
  induction rs generalizing t with
  | nil => exact .slnil
  | cons r rs ih =>
      rw [accepted]
      split
      · exact (ih _).cons_cons r
      · exact (ih _).cons r

/-- The row holds the records of the set, and the index gives the place at which a search of the
row for a name ends. -/
structure InStep (t : Indexed) (s : RecordSet) : Prop where
  records : t.records.toList = s.records
  index : ∀ name, t.index[name]? = t.records.findIdx? (·.name = name)

structure AnswersAs (t : Indexed) (s : RecordSet) : Prop where
  records : t.records.toList = s.records
  lookup : ∀ name, t.lookup name = (s.get? name).map some
  add : ∀ r, (runFrom (add r) t).1 = (addRecord s r).map fun _ => ()

namespace InStep

theorem empty : InStep {} RecordSet.empty :=
  ⟨rfl, fun name => by rw [Array.findIdx?_empty, Std.HashMap.getElem?_empty]⟩

theorem index_lt (h : t.InStep s) {name : String} {i : Nat} (hi : t.index[name]? = some i) :
    i < t.records.size := by
  rw [h.index] at hi
  exact (Array.findIdx?_eq_some_iff_getElem.1 hi).1

theorem lookup_eq (h : t.InStep s) (name : String) : t.lookup name = (s.get? name).map some := by
  rw [lookup, get?, ← h.records, Array.find?_toList, Array.find?_eq_bind_findIdx?_getElem?,
    ← h.index]
  cases hi : t.index[name]? with
  | none => rfl
  | some i =>
      rw [Option.map_some, Option.bind_some, Array.getElem?_eq_getElem (h.index_lt hi),
        Option.map_some]

theorem contains_iff (h : t.InStep s) (name : String) :
    t.index.contains name = true ↔ name ∈ s.names := by
  rw [Std.HashMap.contains_eq_isSome_getElem?, h.index, Array.findIdx?_isSome, ← Array.any_toList,
    h.records, names]
  simp

theorem add_taken (h : t.InStep s) (hr : r.name ∈ s.names) :
    runFrom (add r) t = (.error (.duplicateRecord r.name), t) := by
  rw [runFrom_add, if_pos ((h.contains_iff _).2 hr)]

theorem add_new (h : t.InStep s) (hr : r.name ∉ s.names) :
    runFrom (add r) t = (.ok (), t.push r) := by
  rw [runFrom_add, if_neg (mt (h.contains_iff _).1 hr)]

theorem refused_iff (h : t.InStep s) (r : Record) :
    (∃ fault, (runFrom (add r) t).1 = .error fault) ↔ r.name ∈ s.names := by
  by_cases hr : r.name ∈ s.names
  · rw [h.add_taken hr]
    exact iff_of_true ⟨_, rfl⟩ hr
  · rw [h.add_new hr]
    refine iff_of_false ?_ hr
    rintro ⟨_, hok⟩
    cases hok

theorem of_refused (h : t.InStep s) {fault : InputFault}
    (hfault : (runFrom (add r) t).1 = .error fault) :
    fault = .duplicateRecord r.name ∧ (runFrom (add r) t).2 = t := by
  have hr := (h.refused_iff r).1 ⟨fault, hfault⟩
  rw [h.add_taken hr] at hfault ⊢
  exact ⟨(Except.error.inj hfault).symm, rfl⟩

theorem push (h : t.InStep s) (hr : r.name ∉ s.names) :
    (t.push r).InStep ⟨s.records ++ [r], nodup_names_concat hr⟩ := by
  -- A search ends at the first hit, so it comes to the new record only if no other has its name.
  have hmissing : t.records.findIdx? (·.name = r.name) = none := by
    have hnone := mt (h.contains_iff r.name).1 hr
    rwa [Std.HashMap.contains_eq_isSome_getElem?, h.index, Option.not_isSome_iff_eq_none] at hnone
  refine ⟨?_, fun name => ?_⟩
  · rw [Indexed.push, Array.toList_push, h.records]
  · rw [Indexed.push, Std.HashMap.getElem?_insert, Array.findIdx?_push, h.index]
    by_cases hname : r.name = name
    · subst hname
      simp [hmissing]
    · simp [hname]

theorem answersAs (h : t.InStep s) : t.AnswersAs s := by
  refine ⟨h.records, h.lookup_eq, fun r => ?_⟩
  by_cases hr : r.name ∈ s.names
  · rw [h.add_taken hr, addRecord_taken hr]
    rfl
  · rw [h.add_new hr, addRecord_new hr]
    rfl

theorem add (h : t.InStep s) (r : Record) :
    (runFrom (Indexed.add r) t).2.InStep (s.offer r) := by
  by_cases hr : r.name ∈ s.names
  · rw [h.add_taken hr, offer_taken hr]
    exact h
  · rw [h.add_new hr, offer_new hr]
    exact h.push hr

theorem after (h : t.InStep s) (rs : List Record) : (t.after rs).InStep (rs.foldl offer s) := by
  induction rs generalizing t s with
  | nil => exact h
  | cons r rs ih => exact ih (h.add r)

theorem records_after (h : t.InStep s) (rs : List Record) :
    (t.after rs).records.toList = t.records.toList ++ accepted t rs := by
  induction rs generalizing t s with
  | nil => exact (List.append_nil _).symm
  | cons r rs ih =>
      rw [Indexed.after, List.foldl_cons, ← Indexed.after, ih (h.add r), accepted]
      by_cases hr : r.name ∈ s.names
      · rw [h.add_taken hr]
      · rw [h.add_new hr, Indexed.push, Array.toList_push, List.append_assoc, List.singleton_append]

end InStep

/-- However records are added, the row holds those that were not refused, in the order in which they
came and no two of one name. The index finds what a search of the row finds, and never leads out of
it. A record is refused if its name is in the row, for that reason and for no other, and then
nothing changes. -/
theorem records_added_once (calls : List Record) :
    ((after {} calls).records.toList.map Record.name).Nodup ∧
    (after {} calls).records.toList = accepted {} calls ∧
    (accepted {} calls).Sublist calls ∧
    (∀ name, (after {} calls).lookup name =
      ((after {} calls).records.toList.find? (·.name = name)).map some) ∧
    (∀ (name : String) (i : Nat), (after {} calls).index[name]? = some i →
      i < (after {} calls).records.size) ∧
    (∀ r, (∃ fault, (runFrom (add r) (after {} calls)).1 = .error fault) ↔
      ∃ q ∈ accepted {} calls, q.name = r.name) ∧
    (∀ r fault, (runFrom (add r) (after {} calls)).1 = .error fault →
      fault = .duplicateRecord r.name ∧
      (runFrom (add r) (after {} calls)).2 = after {} calls) ∧
    (after {} calls).AnswersAs (calls.foldl offer .empty) := by
  have hstep : (after {} calls).InStep (calls.foldl offer .empty) := InStep.empty.after calls
  have haccepted : (after {} calls).records.toList = accepted {} calls :=
    InStep.empty.records_after calls
  have hnames : (calls.foldl offer .empty).names = (accepted {} calls).map Record.name := by
    rw [names, ← hstep.records, haccepted]
  refine ⟨?_, haccepted, accepted_sublist _ _, fun name => ?_, fun _ _ => hstep.index_lt,
    fun r => ?_, fun _ _ => hstep.of_refused, hstep.answersAs⟩
  · rw [hstep.records]
    exact RecordSet.distinct _
  · rw [hstep.lookup_eq, hstep.records, get?]
  · rw [hstep.refused_iff, hnames, List.mem_map]

example : ([{ name := "A", parent := "root" }, { name := "B", parent := "A" },
    { name := "A", parent := "B" }].foldl offer .empty).records.map Record.parent =
      ["root", "A"] := by
  decide +kernel

theorem answersAs_of_records (s : RecordSet) : (after {} s.records).AnswersAs s := by
  have hset : s.records.foldl offer .empty = s :=
    foldl_offer .empty s.records s.distinct
  have hstep := InStep.empty.after s.records
  rw [hset] at hstep
  exact hstep.answersAs

end Indexed

end RecordIdl.RecordSet
