import RecordIdl.Proofs.References

namespace RecordIdl

theorem SchemaType.isByte_ofName_iff {name : String} :
    (ofName name).isByte = true ↔ name ∈ ["byte", "unsigned byte"] := by
  have hfound (p : Primitive) (h : Primitive.ofSourceName? name = some p) :
      p.sourceName = name := by
    simpa using List.find?_some h
  rw [ofName]
  cases h : Primitive.ofSourceName? name with
  | some p =>
      obtain rfl := hfound p h
      cases p <;> decide
  | none =>
      have hnone := List.find?_eq_none.1 h
      have hbyte : name ≠ "byte" := by
        rintro rfl
        exact hnone .byte (by decide) (by decide)
      have hunsigned : name ≠ "unsigned byte" := by
        rintro rfl
        exact hnone .unsignedByte (by decide) (by decide)
      simp [isByte, primitive?, hbyte, hunsigned]

namespace Overrides

variable {o : Overrides} {record : String} {f : Field}

/-- What stands for the type of a field: an entry for the field goes before one for its type, and
without either it is the declared type. -/
def standsFor (o : Overrides) (record : String) (f : Field) : String :=
  ((o.forField? record f.name).or (o.forType? f.typeName)).getD f.typeName

theorem target_resolution : (o.resolution record f).target = .ofName (o.standsFor record f) := by
  rw [resolution, standsFor]
  cases o.forField? record f.name with
  | some target => rfl
  | none =>
      cases o.forType? f.typeName with
      | some target => rfl
      | none =>
          rw [Option.none_or, Option.getD_none, SchemaType.ofName]
          cases Primitive.ofSourceName? f.typeName <;> rfl

/-- No entry and no builtin type tells what the type of the field is. -/
def PassesThrough (o : Overrides) (record : String) (f : Field) : Prop :=
  o.types.get? (record ++ "." ++ f.name) = none ∧
    (o.types.get? f.typeName = none ∧ o.aliases.get? f.typeName = none) ∧
    Primitive.ofSourceName? f.typeName = none

instance : Decidable (o.PassesThrough record f) :=
  inferInstanceAs (Decidable (_ ∧ _))

theorem forType?_eq_none_iff {name : String} :
    o.forType? name = none ↔ o.types.get? name = none ∧ o.aliases.get? name = none :=
  Option.or_eq_none_iff

theorem not_replaced_iff {name : String} :
    o.replaces name = false ↔ o.types.get? name = none ∧ o.aliases.get? name = none := by
  rw [replaces_eq_false_iff, forType?_eq_none_iff]

theorem isRecord_resolution_iff :
    (o.resolution record f).isRecord = true ↔ o.PassesThrough record f := by
  rw [PassesThrough, ← forType?_eq_none_iff, ← forField?, resolution]
  cases o.forField? record f.name with
  | some target => simp [Resolution.isRecord]
  | none =>
      cases o.forType? f.typeName with
      | some target => simp [Resolution.isRecord]
      | none => cases Primitive.ofSourceName? f.typeName <;> simp [Resolution.isRecord]

end Overrides

def RecordSet.NamesEmpty (s : RecordSet) (name : String) : Prop :=
  ∃ q ∈ s.records, q.name = name ∧ q.fields = []

instance {s : RecordSet} {name : String} : Decidable (s.NamesEmpty name) :=
  inferInstanceAs (Decidable (∃ q ∈ s.records, _))

theorem RecordSet.hasEmpty_iff {s : RecordSet} {name : String} :
    s.hasEmpty name = true ↔ s.NamesEmpty name := by
  rw [hasEmpty, Option.any_eq_true]
  constructor
  · rintro ⟨q, hq, hempty⟩
    exact ⟨q, mem_of_get? hq, name_of_get? hq, List.isEmpty_iff.1 hempty⟩
  · rintro ⟨q, hq, rfl, hfields⟩
    exact ⟨q, get?_of_mem hq, List.isEmpty_iff.2 hfields⟩

namespace Body

variable {s : RecordSet} {o : Overrides} {record : String} {f : Field}

def LeftOut (s : RecordSet) (o : Overrides) (record : String) (f : Field) : Prop :=
  ("pad".toList <+: f.name.toList ∨ "Padding".toList <:+ f.name.toList) ∨
    (o.PassesThrough record f ∧ s.NamesEmpty f.typeName)

instance : Decidable (LeftOut s o record f) :=
  inferInstanceAs (Decidable (_ ∨ _))

theorem isPadding_iff : f.isPadding = true ↔
    "pad".toList <+: f.name.toList ∨ "Padding".toList <:+ f.name.toList := by
  rw [Field.isPadding, Bool.or_eq_true, List.isPrefixOf_iff_prefix, List.isSuffixOf_iff_suffix]

theorem writes_eq : writes s o record f = decide (¬ LeftOut s o record f) := by
  rw [Bool.eq_iff_iff, decide_eq_true_iff, writes_iff, LeftOut, not_or, ← isPadding_iff,
    Bool.not_eq_true, not_and, ← Overrides.isRecord_resolution_iff, ← RecordSet.hasEmpty_iff,
    Bool.not_eq_true]

end Body

end RecordIdl
