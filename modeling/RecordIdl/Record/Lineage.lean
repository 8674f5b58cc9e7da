import RecordIdl.Record.RecordSet

namespace RecordIdl

structure Lineage where
  set : RecordSet
  roots : List String

/-- The empty name means no parent, and so does a root in any ASCII case. -/
def isRoot (roots : List String) (parent : String) : Bool :=
  parent = "" || roots.any (Text.equalsIgnoringAsciiCase · parent)

def RecordSet.unvisited (s : RecordSet) (names : List String) : List Record :=
  s.records.filter fun r => r.name ∉ names

theorem RecordSet.length_unvisited_lt {s : RecordSet} {names : List String} {name : String}
    {r : Record} (hr : s.get? name = some r) (hn : name ∉ names) :
    (s.unvisited (name :: names)).length < (s.unvisited names).length := by
  have hmem : r ∈ s.unvisited names := by
    simpa [unvisited, name_of_get? hr] using ⟨mem_of_get? hr, hn⟩
  have hsub : s.unvisited (name :: names) = (s.unvisited names).filter (·.name ≠ name) := by
    simp [unvisited, List.filter_filter]
  rw [hsub]
  exact List.length_filter_lt_length_iff_exists.2 ⟨r, hmem, by simp [name_of_get? hr]⟩

inductive Ancestry
  /-- The record and its ancestors in the set, and the parent outside the set at which they end;
  none if they end at a root. -/
  | ends (chain : List Record) (outside : Option String)
  | loops (path : List String)

def Ancestry.below (child : Record) : Ancestry → Ancestry
  | ends chain outside => ends (child :: chain) outside
  | loops path => loops (child.name :: path)

namespace Lineage

def ancestryFrom (l : Lineage) (names : List String) (current : Record) : Ancestry :=
  if isRoot l.roots current.parent then .ends [current] none
  else if _h : current.parent ∈ names then .loops [current.name, current.parent]
  else
    match _hp : l.set.get? current.parent with
    | none => .ends [current] (some current.parent)
    | some parent => (l.ancestryFrom (current.parent :: names) parent).below current
termination_by (l.set.unvisited names).length
decreasing_by exact RecordSet.length_unvisited_lt _hp _h

def ancestry (l : Lineage) (r : Record) : Ancestry :=
  l.ancestryFrom [r.name] r

end Lineage

end RecordIdl
