import RecordIdl.Proofs.BuildFaults
import RecordIdl.Proofs.ResolvedTypes
import Mathlib.Data.List.Induction
import Std.Data.HashSet.Lemmas

namespace RecordIdl.Dependencies

open Pruning

variable {l : Lineage} {s : RecordSet} {o : Overrides} {record : String} {f : Field}
variable {seen : List String} {d : Dependencies}

structure FirstSeen (seen : List String) (d : Dependencies) : Prop where
  mem : ∀ x, x ∈ d.names ↔ x ∈ seen
  order : d.names.Pairwise fun x y => seen.idxOf x < seen.idxOf y

theorem FirstSeen.nodup (h : FirstSeen seen d) : d.names.Nodup := by
  apply h.order.imp
  rintro x _ hlt rfl
  exact Nat.lt_irrefl _ hlt

theorem FirstSeen.insert (h : FirstSeen seen d) (name : String) :
    FirstSeen (seen ++ [name]) (d.insert name) := by
  have hearlier : d.names.Pairwise
      fun x y => (seen ++ [name]).idxOf x < (seen ++ [name]).idxOf y := by
    refine h.order.imp_of_mem fun {x y} hx hy hlt => ?_
    rwa [List.idxOf_append_of_mem ((h.mem x).1 hx), List.idxOf_append_of_mem ((h.mem y).1 hy)]
  refine ⟨fun x => ?_, ?_⟩
  · rw [mem_insert, h.mem, List.mem_append, List.mem_singleton]
  · rw [Dependencies.insert]
    split
    · exact hearlier
    · next hnew =>
        rw [List.pairwise_append]
        refine ⟨hearlier, List.pairwise_singleton _ _, ?_⟩
        intro x hx y hy
        obtain rfl := List.mem_singleton.1 hy
        have hseen := (h.mem x).1 hx
        rw [List.idxOf_append_of_mem hseen,
          List.idxOf_append_of_notMem fun hold => hnew ((h.mem _).2 hold)]
        exact Nat.lt_add_right _ (List.idxOf_lt_length_of_mem hseen)

theorem firstSeen_ofNames (names : List String) : FirstSeen names (ofNames names) := by
  induction names using List.reverseRecOn with
  | nil => exact ⟨fun _ => Iff.rfl, .nil⟩
  | append_singleton names name ih =>
      rw [ofNames, List.foldl_append]
      exact ih.insert name

/-- The names as they are kept while they are collected: with an index that answers whether a name
is there. -/
structure Indexed where
  names : List String := []
  index : Std.HashSet String := {}

def Indexed.insert (t : Indexed) (name : String) : Indexed :=
  if t.index.contains name then t else ⟨t.names ++ [name], t.index.insert name⟩

structure Indexed.InStep (t : Indexed) (d : Dependencies) : Prop where
  names : t.names = d.names
  index : ∀ x, x ∈ t.index ↔ x ∈ d.names

theorem Indexed.InStep.insert {t : Indexed} (h : t.InStep d) (name : String) :
    (t.insert name).InStep (d.insert name) := by
  have hname : t.index.contains name = true ↔ name ∈ d.names :=
    Std.HashSet.contains_iff_mem.trans (h.index name)
  rw [Indexed.insert, Dependencies.insert]
  by_cases hmem : name ∈ d.names
  · rwa [if_pos (hname.2 hmem), if_pos hmem]
  · rw [if_neg (mt hname.1 hmem), if_neg hmem]
    refine ⟨congrArg (· ++ [name]) h.names, fun x => ?_⟩
    rw [Std.HashSet.mem_insert, h.index, List.mem_append, List.mem_singleton, or_comm, beq_iff_eq,
      eq_comm]

theorem Indexed.inStep_foldl (names : List String) :
    (names.foldl Indexed.insert {}).InStep (ofNames names) := by
  induction names using List.reverseRecOn with
  | nil => exact ⟨rfl, fun x => by simp [ofNames]⟩
  | append_singleton names name ih =>
      rw [ofNames, List.foldl_append, List.foldl_append]
      exact ih.insert name

def IsImported (s : RecordSet) (o : Overrides) (record : String) (f : Field) : Prop :=
  (f.kind = .recordReference ∨ f.kind = .variableList) ∧
    o.PassesThrough record f ∧ ¬ s.NamesEmpty f.typeName

instance : Decidable (IsImported s o record f) :=
  inferInstanceAs (Decidable (_ ∧ _))

theorem imports_eq : imports s o record f = decide (IsImported s o record f) := by
  have hkind : mayImport f.kind = true ↔ f.kind = .recordReference ∨ f.kind = .variableList := by
    cases f.kind <;> decide
  rw [Bool.eq_iff_iff, decide_eq_true_iff, IsImported, imports, Bool.and_eq_true, Bool.and_eq_true,
    hkind, Overrides.isRecord_resolution_iff, Bool.not_eq_true', ← Bool.not_eq_true,
    RecordSet.hasEmpty_iff, and_assoc]

theorem filterMap_directOf? (fs : List Field) :
    fs.filterMap (directOf? s o record) =
      (fs.filter fun f => IsImported s o record f).map Field.typeName := by
  have hfield : ∀ f ∈ fs, directOf? s o record f =
      (Option.guard (fun f => IsImported s o record f) f).map Field.typeName := by
    intro f _
    ext x
    rw [directOf?_eq_some_iff, imports_eq]
    by_cases hf : IsImported s o record f <;> simp [Option.guard, hf]
  rw [List.filterMap_congr hfield, ← List.map_filterMap, List.filterMap_eq_filter]

/-- What a file of the record refers to, as often as it does: by its fields, as a parent that has
no entry, and as the response. -/
def mentions (s : RecordSet) (o : Overrides) (r : Record) (parent response : Option String) :
    List String :=
  (r.fields.filter fun f => IsImported s o r.name f).map Field.typeName ++
    (parent.filter fun q => o.types.get? q = none ∧ o.aliases.get? q = none).toList ++
    response.toList

theorem direct_eq (r : Record) (parent response : Option String) :
    direct s o r parent response = ofNames (mentions s o r parent response) := by
  have hparent : (fun q => !o.replaces q) =
      fun q => decide (o.types.get? q = none ∧ o.aliases.get? q = none) := by
    funext q
    rw [Bool.eq_iff_iff, Bool.not_eq_true', Overrides.not_replaced_iff, decide_eq_true_iff]
  rw [direct, mentions, filterMap_directOf?, hparent]

theorem mem_mentions {r : Record} {parent response : Option String} {x : String} :
    x ∈ mentions s o r parent response ↔
      (∃ f ∈ r.fields, IsImported s o r.name f ∧ f.typeName = x) ∨
      (parent = some x ∧ o.types.get? x = none ∧ o.aliases.get? x = none) ∨
      response = some x := by
  rw [mentions, List.mem_append, List.mem_append, or_assoc]
  simp [Option.filter_eq_some_iff, and_assoc]

/-- The imports are the records that fields of two kinds name, the parent unless an entry stands
for it, and the response. Each is there once, where it is mentioned first, and nothing that was
asked before makes a difference. An index of the names makes none either. -/
theorem imports_by_first_mention (l : Lineage) (hl : Consistency.check l = .ok ())
    (o : Overrides) (r : Record) (parent response : Option String) :
    ∃ d, (∀ asked, (runOn (ofRecord l o r parent response) (memoAfter l {} asked)).1 = .ok d) ∧
      d.names.Nodup ∧
      (∀ x, x ∈ d.names ↔
        (∃ f ∈ r.fields, IsImported l.set o r.name f ∧ f.typeName = x) ∨
        (parent = some x ∧ o.types.get? x = none ∧ o.aliases.get? x = none) ∨
        response = some x) ∧
      (d.names.Pairwise fun x y =>
        (mentions l.set o r parent response).idxOf x <
          (mentions l.set o r parent response).idxOf y) ∧
      ((mentions l.set o r parent response).foldl Indexed.insert {}).names = d.names := by
  have hseen := firstSeen_ofNames (mentions l.set o r parent response)
  refine ⟨_, fun asked => ?_, hseen.nodup, fun x => ?_, hseen.order,
    (Indexed.inStep_foldl _).names⟩
  · obtain ⟨m', hrun, _⟩ := gives_ofRecord o hl r parent response _ (reached_sound l asked)
    rw [hrun, direct_eq]
  · rw [hseen.mem, mem_mentions]

/-- A parent that is a field too, a type named twice, and types that the tables, a builtin name, a
record without fields or a list of fixed length keep from being imported. -/
def convoy : Record where
  name := "ConvoyPdu"
  parent := "Vehicle"
  fields := [
    { name := "escort", typeName := "Driver", kind := .recordReference },
    { name := "lead", typeName := "Vehicle", kind := .recordReference },
    { name := "tail", typeName := "Driver", kind := .variableList },
    { name := "speeds", typeName := "int", kind := .variableList },
    { name := "load", typeName := "Cargo", kind := .recordReference },
    { name := "stamp", typeName := "Clock", kind := .recordReference },
    { name := "marker", typeName := "Marker", kind := .recordReference },
    { name := "crews", typeName := "Crew", kind := .fixedList }]

def convoyLineage : Lineage where
  set := ⟨[convoy, { convoy with name := "Vehicle", parent := "root" },
    { name := "Marker", parent := "root" }], by decide⟩
  roots := ["root"]

def convoyTables : Overrides where
  types := ⟨[("ConvoyPdu.load", "bytes")]⟩
  aliases := ⟨[("Clock", "unsigned long")]⟩

theorem imports_by_first_mention_convoy :
    Consistency.check convoyLineage = .ok () ∧
    ∃ d, d.names = ["Driver", "Vehicle", "Report"] ∧
      ∀ asked, (runOn (ofRecord convoyLineage convoyTables convoy (some "Vehicle") (some "Report"))
        (memoAfter convoyLineage {} asked)).1 = .ok d := by
  have hcheck : Consistency.check convoyLineage = .ok () := by decide +kernel
  obtain ⟨d, hd, -⟩ := imports_by_first_mention convoyLineage hcheck convoyTables convoy
    (some "Vehicle") (some "Report")
  have hunasked : (runOn (ofRecord convoyLineage convoyTables convoy (some "Vehicle")
      (some "Report")) (memoAfter convoyLineage {} [])).1 =
      .ok ⟨["Driver", "Vehicle", "Report"]⟩ := by
    decide +kernel
  obtain rfl := Except.ok.inj ((hd []).symm.trans hunasked)
  exact ⟨hcheck, _, rfl, hd⟩

end RecordIdl.Dependencies
