import RecordIdl.Record.Basic

namespace RecordIdl

structure RecordSet where
  records : List Record
  distinct : (records.map Record.name).Nodup

namespace RecordSet

def empty : RecordSet :=
  ⟨[], by simp⟩

def names (s : RecordSet) : List String :=
  s.records.map Record.name

def size (s : RecordSet) : Nat :=
  s.records.length

def get? (s : RecordSet) (name : String) : Option Record :=
  s.records.find? (·.name = name)

theorem name_of_get? {s : RecordSet} {name : String} {r : Record} (h : s.get? name = some r) :
    r.name = name := by
  simpa using List.find?_some h

theorem mem_of_get? {s : RecordSet} {name : String} {r : Record} (h : s.get? name = some r) :
    r ∈ s.records :=
  List.mem_of_find?_eq_some h

theorem nodup_names_concat {s : RecordSet} {r : Record} (h : r.name ∉ s.names) :
    ((s.records ++ [r]).map Record.name).Nodup := by
  rw [List.map_append, List.nodup_append]
  refine ⟨s.distinct, by simp, ?_⟩
  intro a ha b hb hab
  simp only [List.map_cons, List.map_nil, List.mem_singleton] at hb
  exact h (hb ▸ hab ▸ ha)

/-- A record whose name is taken is refused. -/
def add? (s : RecordSet) (r : Record) : Option RecordSet :=
  if h : r.name ∈ s.names then none else some ⟨s.records ++ [r], nodup_names_concat h⟩

end RecordSet

end RecordIdl
