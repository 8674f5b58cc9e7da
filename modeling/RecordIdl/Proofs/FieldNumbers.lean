import RecordIdl.Proofs.BuildFaults
import RecordIdl.Proofs.DeclaredNames
import RecordIdl.Proofs.ResolvedTypes

namespace RecordIdl.Body

open Pruning

variable {l : Lineage} {s : RecordSet} {o : Overrides} {record : String} {r : Record}
variable {parent : Option String} {f g : Field} {number : Nat} {fs gs : List Field}

def declaredType (o : Overrides) (record : String) (f : Field) : String :=
  if wraps o record f then Spelling.wrapperName record f.name
  else if f.kind.isList then if f.couldBeString then "string" else "bytes"
  else (o.resolution record f).target.name

def fieldLine (o : Overrides) (record : String) (f : Field) (number : Nat) : Declaration :=
  ⟨number, Spelling.commentLine? f.comment, declaredType o record f, declaredName o record f⟩

theorem declaration_entry (record : String) (f : Field) (number : Nat) :
    (entry record f number (o.resolution record f).target).declaration =
      fieldLine o record f number := by
  rw [entry, fieldLine, declaredType, declaredName, wraps]
  cases f.kind.isList <;> cases (o.resolution record f).target.isByte <;>
    simp only [Bool.not_true, Bool.not_false, Bool.and_true, Bool.and_false, Bool.false_eq_true,
      if_true, if_false, String.append_empty]

/-- The lines of fields that are numbered from `number` on. A field that is left out uses up its
number. -/
def fieldLines (s : RecordSet) (o : Overrides) (record : String) (number : Nat)
    (fs : List Field) : List Declaration :=
  ((fs.zipIdx number).filter fun x => ¬ LeftOut s o record x.1).map fun x =>
    fieldLine o record x.1 x.2

theorem fieldLines_cons :
    fieldLines s o record number (f :: fs) =
      (if LeftOut s o record f then [] else [fieldLine o record f number]) ++
        fieldLines s o record (number + 1) fs := by
  rw [fieldLines, List.zipIdx_cons, List.filter_cons]
  by_cases hf : LeftOut s o record f <;> simp [hf, fieldLines]

theorem fieldLine_mem {i : Nat} (hf : fs[i]? = some f) (hkept : ¬ LeftOut s o record f) :
    fieldLine o record f (number + i) ∈ fieldLines s o record number fs := by
  have hmem : (f, number + i) ∈ fs.zipIdx number := by
    rw [List.mem_zipIdx_iff_le_and_getElem?_sub, Nat.add_sub_cancel_left]
    exact ⟨Nat.le_add_right _ _, hf⟩
  refine List.mem_map.2 ⟨(f, number + i), ?_, rfl⟩
  exact List.mem_filter.2 ⟨hmem, decide_eq_true hkept⟩

theorem declarations_directEntries (number : Nat) (fs : List Field) :
    (directEntries s o record number fs).map (·.declaration) =
      fieldLines s o record number fs := by
  induction fs generalizing number with
  | nil => rfl
  | cons f fs ih =>
      rw [directEntries, List.map_append, ih, fieldLines_cons, directOf?_eq, writes_eq]
      by_cases hf : LeftOut s o record f <;> simp [hf, declaration_entry]

def firstNumber (parent : Option String) : Nat :=
  if parent.isSome then 2 else 1

theorem declarations_direct :
    (direct s o r parent).declarations = (parent.map superDeclaration).toList ++
      fieldLines s o r.name (firstNumber parent) r.fields := by
  have hfirst : (parent.map superDeclaration).toList.length + 1 = firstNumber parent := by
    cases parent <;> rfl
  rw [direct, declarations_directEntries, hfirst]

/-- The body that is emitted for a record, whatever was asked before. -/
def Emits (l : Lineage) (o : Overrides) (r : Record) (parent : Option String) (b : Body) : Prop :=
  ∀ asked, (runOn (ofRecord l o r parent) (memoAfter l {} asked)).1 = .ok b

theorem emits_direct (hl : Consistency.check l = .ok ()) :
    Emits l o r parent (direct l.set o r parent) := by
  intro asked
  obtain ⟨m', hrun, _⟩ := gives_ofRecord o hl r parent _ (reached_sound l asked)
  rw [hrun]

end RecordIdl.Body
