import RecordIdl.Record.Lineage
import RecordIdl.Record.ModelFault

namespace RecordIdl

/-- The records visited so far: those without fields, and the parent that each one keeps. -/
structure Memo where
  empty : List String := []
  parents : List (String × Option String) := []

namespace Memo

def knows (m : Memo) (name : String) : Bool :=
  (m.parents.lookup name).isSome

def parent? (m : Memo) (name : String) : Option String :=
  (m.parents.lookup name).join

def note (m : Memo) (r : Record) (parent : Option String) : Memo :=
  { empty := if r.isEmpty then r.name :: m.empty else m.empty
    parents := (r.name, parent) :: m.parents }

def kept (m : Memo) (name : String) : Option String :=
  if name ∈ m.empty then m.parent? name else some name

end Memo

/-- Work that visits records; what it noted outlives a fault. -/
abbrev Pruning := ExceptT ModelFault (StateM Memo)

namespace Pruning

/-- Visits `name` after its ancestors. The names whose visit is under way are `above`, the latest
first. -/
def visit (l : Lineage) (above : List String) (name : String) : Pruning Unit := do
  if (← get).knows name then pure ()
  else
    match _hr : l.set.get? name with
    | none => pure ()
    | some record =>
      if _h : name ∈ above then throw (.cyclicInheritance (name :: above).reverse)
      else if isRoot l.roots record.parent then modify (·.note record none)
      else do
        visit l (name :: above) record.parent
        modify fun m => m.note record (m.kept record.parent)
termination_by (l.set.unvisited above).length
decreasing_by exact RecordSet.length_unvisited_lt _hr _h

def isEmpty (l : Lineage) (name : String) : Pruning Bool := do
  visit l [] name
  return name ∈ (← get).empty

def parent? (l : Lineage) (name : String) : Pruning (Option String) := do
  visit l [] name
  return (← get).parent? name

def ofExcept {α : Type} (e : Except ModelFault α) : Pruning α :=
  match e with
  | .ok a => pure a
  | .error fault => throw fault

end Pruning

end RecordIdl
