import RecordIdl.Proofs.BuildHistory
import RecordIdl.Proofs.OutputFiles
import RecordIdl.Proofs.References

namespace RecordIdl

namespace Designation

variable {o : Overrides} {settings : Settings} {r : Record} {d : Designation} {x : String}

end Designation

theorem Role.mem_references {role : Role} {name x : String} (h : x ∈ role.references name) :
    x = name ∨ role = .command x := by
  cases role with
  | plain | component => simp [references] at h
  | event => exact .inl (by simpa [references] using h)
  | command response =>
      rcases List.mem_cons.1 h with rfl | hname
      · exact .inr rfl
      · exact .inl (List.mem_singleton.1 hname)

namespace Project

open Pruning

variable {p : Project} {b : Build} {r q : Record} {d : Designation} {x : String}

theorem response?_eq_some_iff {role : Role} : response? role = some x ↔ role = .command x := by
  cases role <;> simp [response?]

def reference (name typeName : String) : Field :=
  { name, typeName, kind := .recordReference }

def plainRecord (name : String) : Record :=
  { name, parent := "root", fields := [{ name := "x", typeName := "int", kind := .primitive }] }

def plainFile (name : String) : OutputFile :=
  ⟨name, ⟨none, [], none, [.type name none [⟨1, none, "sint32", "x"⟩]]⟩⟩

end Project

end RecordIdl
