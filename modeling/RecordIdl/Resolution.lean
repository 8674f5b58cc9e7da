import RecordIdl.Input.Properties
import RecordIdl.Primitive
import RecordIdl.Record.Basic

namespace RecordIdl

/-- Types for type names and single fields, responses of commands, and types that stand for whole
records. -/
structure Overrides where
  types : Properties := {}
  responses : Properties := {}
  aliases : Properties := {}

namespace Overrides

def forField? (o : Overrides) (record field : String) : Option String :=
  o.types.get? (record ++ "." ++ field)

def forType? (o : Overrides) (typeName : String) : Option String :=
  (o.types.get? typeName).or (o.aliases.get? typeName)

/-- A record that either table names is replaced and gets no file. -/
def replaces (o : Overrides) (record : String) : Bool :=
  o.types.contains record || o.aliases.contains record

def response? (o : Overrides) (command : String) : Option String :=
  o.responses.get? command

end Overrides

inductive SchemaType
  | primitive (p : Primitive)
  | named (name : String)
  deriving DecidableEq, Repr

namespace SchemaType

def ofName (name : String) : SchemaType :=
  match Primitive.ofSourceName? name with
  | some p => primitive p
  | none => named name

def name : SchemaType → String
  | primitive p => p.schemaName
  | named name => name

def primitive? : SchemaType → Option Primitive
  | primitive p => some p
  | named _ => none

def isByte (t : SchemaType) : Bool :=
  t.primitive?.any Primitive.isByte

end SchemaType

/-- What a resolution rests on; earlier ones go before later ones. -/
inductive Basis
  | fieldOverride
  | typeOverride
  | builtin
  | passthrough
  deriving DecidableEq, Repr

structure Resolution where
  target : SchemaType
  basis : Basis
  deriving DecidableEq, Repr

def Resolution.isRecord (t : Resolution) : Bool :=
  t.basis = .passthrough

def Overrides.resolution (o : Overrides) (record : String) (f : Field) : Resolution :=
  match o.forField? record f.name with
  | some target => ⟨.ofName target, .fieldOverride⟩
  | none =>
    match o.forType? f.typeName with
    | some target => ⟨.ofName target, .typeOverride⟩
    | none =>
      match Primitive.ofSourceName? f.typeName with
      | some p => ⟨.primitive p, .builtin⟩
      | none => ⟨.named f.typeName, .passthrough⟩

namespace Overrides

theorem replaces_eq_false_iff {o : Overrides} {name : String} :
    o.replaces name = false ↔ o.forType? name = none := by
  simp [replaces, forType?, Properties.contains]

theorem resolution_of_isRecord {o : Overrides} {record : String} {f : Field}
    (h : (o.resolution record f).isRecord = true) :
    o.forType? f.typeName = none ∧ o.resolution record f = ⟨.named f.typeName, .passthrough⟩ := by
  unfold resolution at h ⊢
  cases hfield : o.forField? record f.name with
  | some target => simp [hfield, Resolution.isRecord] at h
  | none =>
      cases htype : o.forType? f.typeName with
      | some target => simp [hfield, htype, Resolution.isRecord] at h
      | none =>
          cases hbuiltin : Primitive.ofSourceName? f.typeName with
          | some p => simp [hfield, htype, hbuiltin, Resolution.isRecord] at h
          | none => exact ⟨rfl, rfl⟩

end Overrides

end RecordIdl
