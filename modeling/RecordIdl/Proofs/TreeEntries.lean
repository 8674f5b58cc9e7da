import RecordIdl.Files.TreeSystem
import Mathlib.Data.List.Basic
import Mathlib.Logic.Function.Basic

namespace RecordIdl.FileTree

variable {t t' node : FileTree} {children : List (String × FileTree)} {name : String}
variable {location dir goal : Location}

theorem lookup_setChild (name : String) (node : FileTree) (children : List (String × FileTree))
    (other : String) :
    (setChild name node children).lookup other =
      if other = name then some node else children.lookup other := by
  induction children with
  | nil => by_cases h : other = name <;> simp [setChild, h]
  | cons first rest ih =>
      obtain ⟨x, child⟩ := first
      by_cases hx : x = name
      · subst hx
        by_cases h : other = x
        · simp [setChild, h]
        · simp [setChild, List.lookup_cons, h, beq_false_of_ne h]
      · by_cases h : other = x
        · subst h
          simp [setChild, hx]
        · simp [setChild, hx, List.lookup_cons, beq_false_of_ne h, ih]

theorem setChild_of_not_mem (h : name ∉ children.map (·.1)) :
    setChild name node children = children ++ [(name, node)] := by
  induction children with
  | nil => rfl
  | cons first rest ih =>
      rw [List.map_cons, List.mem_cons, not_or] at h
      rw [setChild, if_neg (Ne.symm h.1), ih h.2, List.cons_append]

theorem setChild_of_lookup (h : children.lookup name = some node) :
    setChild name node children = children := by
  induction children with
  | nil => cases h
  | cons first rest ih =>
      obtain ⟨x, child⟩ := first
      by_cases hx : x = name
      · subst hx
        rw [List.lookup_cons_self] at h
        rw [setChild, if_pos rfl, Option.some.inj h]
      · rw [List.lookup_cons, beq_false_of_ne (Ne.symm hx)] at h
        rw [setChild, if_neg hx, ih h]

theorem setChild_setChild (name : String) (node node' : FileTree)
    (children : List (String × FileTree)) :
    setChild name node (setChild name node' children) = setChild name node children := by
  induction children with
  | nil => simp [setChild]
  | cons first rest ih =>
      by_cases hx : first.1 = name <;> simp [setChild, hx, ih]

theorem node?_append (t : FileTree) (location rest : Location) :
    t.node? (location ++ rest) = (t.node? location).bind (·.node? rest) := by
  induction location generalizing t with
  | nil => rfl
  | cons name location ih =>
      rw [List.cons_append, node?, node?, Option.bind_assoc]
      exact congrArg _ (funext fun child => ih child)

theorem entry_eq_directory_iff : t.entry = .directory ↔ ∃ children, t = directory children := by
  cases t <;> simp [entry]

theorem entry?_nil (t : FileTree) : t.entry? [] = some t.entry := rfl

theorem entry?_cons (t : FileTree) (name : String) (rest : Location) :
    t.entry? (name :: rest) = (t.children.lookup name).bind fun child => child.entry? rest := by
  rw [ entry?, node?, Option.map_bind]
  rfl

theorem node?_of_entry?_file {bytes : ByteArray} (h : t.entry? location = some (.file bytes)) :
    t.node? location = some (.file bytes) := by
  obtain ⟨node, hnode, hentry⟩ := Option.map_eq_some_iff.1 h
  cases node with
  | file bytes' => rw [hnode, Entry.file.inj hentry]
  | directory children => cases hentry

theorem entry?_cons_of_children_eq_nil (h : t.children = []) (name : String) (rest : Location) :
    t.entry? (name :: rest) = none := by
  rw [entry?_cons, h]
  rfl

theorem exists_child (h : t.entry? (name :: location) = some .directory) :
    ∃ children child, t = directory children ∧ children.lookup name = some child ∧
      child.entry? location = some .directory := by
  rw [entry?_cons] at h
  obtain ⟨child, hchild, hentry⟩ := Option.bind_eq_some_iff.1 h
  cases t with
  | file bytes => cases hchild
  | directory children => exact ⟨children, child, rfl, hchild, hentry⟩

theorem children_eq_nil_of_entry (h : t.entry ≠ .directory) : t.children = [] := by
  cases t with
  | file bytes => rfl
  | directory children => exact absurd rfl h

theorem entry?_setChild (name : String) (node : FileTree) (children : List (String × FileTree))
    (x : String) (rest : Location) :
    entry? (directory (setChild name node children)) (x :: rest) =
      if x = name then node.entry? rest else entry? (directory children) (x :: rest) := by
  rw [entry?_cons, entry?_cons, FileTree.children, FileTree.children, lookup_setChild]
  by_cases hx : x = name <;> simp [hx]

/-- A node without children that is put into a directory, in place of a file or of nothing, is all
that changes. -/
theorem entry?_put (hdir : t.entry? dir = some .directory)
    (hgoal : t.entry? (dir ++ [name]) ≠ some .directory) (hnode : node.children = [])
    (location : Location) :
    entry? (t.put (dir ++ [name]) node) location =
      if location = dir ++ [name] then some node.entry else t.entry? location := by
  induction dir generalizing t location with
  | nil =>
      obtain ⟨children, rfl⟩ := entry_eq_directory_iff.1 (Option.some.inj hdir)
      cases location with
      | nil => simp [put, entry?_nil, entry]
      | cons x rest =>
          rw [List.nil_append, put, put, entry?_setChild]
          by_cases hx : x = name
          · subst hx
            cases rest with
            | nil => simp [entry?_nil]
            | cons y ys =>
                -- Nothing was below the goal before, for there was no directory.
                have hbelow : entry? (directory children) (x :: y :: ys) = none := by
                  rw [List.nil_append, entry?_cons] at hgoal
                  rw [entry?_cons]
                  cases hchild : (directory children).children.lookup x with
                  | none => rfl
                  | some child =>
                      rw [hchild] at hgoal
                      have hfile : child.entry ≠ .directory := fun h => hgoal (congrArg some h)
                      exact entry?_cons_of_children_eq_nil (children_eq_nil_of_entry hfile) y ys
                simp [hbelow, entry?_cons_of_children_eq_nil hnode]
          · simp [hx]
  | cons step dir ih =>
      obtain ⟨children, child, rfl, hchild, hentry⟩ := exists_child hdir
      have hlookup : (directory children).children.lookup step = some child := hchild
      have hbelow (rest : Location) :
          entry? (directory children) (step :: rest) = child.entry? rest := by
        rw [entry?_cons, hlookup, Option.bind_some]
      rw [List.cons_append, put, hchild, Option.getD_some]
      cases location with
      | nil => simp [entry?_nil, entry]
      | cons x rest =>
          rw [entry?_setChild]
          by_cases hx : x = step
          · subst hx
            rw [List.cons_append, hbelow] at hgoal
            simp [hbelow, ih hentry hgoal rest]
          · simp [hx]

theorem entry?_put_file (hdir : t.entry? dir = some .directory)
    (hgoal : t.entry? (dir ++ [name]) ≠ some .directory) (bytes : ByteArray) :
    entry? (t.put (dir ++ [name]) (.file bytes)) =
      Function.update t.entry? (dir ++ [name]) (some (.file bytes)) := by
  funext location
  rw [entry?_put hdir hgoal rfl, Function.update_apply]
  rfl

/-- A new child is put last, so a directory is as before once it is taken away again. -/
theorem erase_put (hdir : t.node? dir = some (directory children))
    (hname : name ∉ children.map (·.1)) (node : FileTree) :
    (t.put (dir ++ [name]) node).erase (dir ++ [name]) = t := by
  induction dir generalizing t with
  | nil =>
      obtain rfl := Option.some.inj hdir
      have hkeep : children.filter (·.1 ≠ name) = children := by
        refine List.filter_eq_self.2 fun child hchild => ?_
        have hne : child.1 ≠ name := fun h => hname (List.mem_map.2 ⟨child, hchild, h⟩)
        simpa using hne
      rw [List.nil_append, put, put, setChild_of_not_mem hname, erase, List.filter_append, hkeep]
      simp
  | cons step dir ih =>
      obtain ⟨child, hchild, hnode⟩ := Option.bind_eq_some_iff.1 hdir
      cases t with
      | file bytes => cases hchild
      | directory siblings =>
          have hlookup : siblings.lookup step = some child := hchild
          obtain ⟨next, rest, hrest⟩ := List.exists_cons_of_ne_nil (l := dir ++ [name]) (by simp)
          have hput := ih hnode
          rw [hrest] at hput
          rw [List.cons_append, hrest, put, hlookup, Option.getD_some, erase, lookup_setChild,
            if_pos rfl]
          · simp only [hput, setChild_setChild, setChild_of_lookup hlookup]
          · simp

theorem entry?_dropLast (h : t.entry? location = some .directory) :
    t.entry? location.dropLast = some .directory := by
  induction location generalizing t with
  | nil => exact h
  | cons name rest ih =>
      obtain ⟨children, child, rfl, hchild, hentry⟩ := exists_child h
      cases rest with
      | nil => rfl
      | cons next rest =>
          rw [List.dropLast_cons_cons, entry?_cons]
          exact Option.bind_eq_some_iff.2 ⟨child, hchild, ih hentry⟩

theorem entry?_root (h : t.entry? location = some .directory) : t.entry? [] = some .directory := by
  cases location with
  | nil => exact h
  | cons name rest =>
      obtain ⟨children, _, rfl, _, _⟩ := exists_child h
      rfl

theorem enter_eq_ok_iff {step : String} {location' : Location} :
    t.enter location step = .ok location' ↔
      (step = ".." ∧ location.dropLast = location') ∨
      (step ≠ ".." ∧ isTooLong step = false ∧
        t.entry? (location ++ [step]) = some .directory ∧ location ++ [step] = location') := by
  rw [enter]
  by_cases hup : step = ".."
  · simp [hup]
  · cases hlong : isTooLong step with
    | true => simp [hup]
    | false =>
        simp only [hup, if_false, Bool.false_eq_true, false_and, false_or, ne_eq,
          not_false_eq_true, true_and]
        cases t.entry? (location ++ [step]) with
        | none => simp
        | some entry => cases entry <;> simp

theorem walk_eq_ok_cons_iff {origin location : Location} {step : String} {steps : List String} :
    t.walk origin (step :: steps) = .ok location ↔
      ∃ next, t.enter origin step = .ok next ∧ t.walk next steps = .ok location := by
  rw [walk, List.foldlM_cons]
  cases t.enter origin step <;> simp [bind, Except.bind, walk]

theorem entry?_of_walk {origin : Location} {steps : List String}
    (horigin : t.entry? origin = some .directory) (h : t.walk origin steps = .ok location) :
    t.entry? location = some .directory := by
  induction steps generalizing origin with
  | nil =>
      obtain rfl := Except.ok.inj h
      exact horigin
  | cons step steps ih =>
      obtain ⟨next, hnext, hrest⟩ := walk_eq_ok_cons_iff.1 h
      refine ih ?_ hrest
      rcases enter_eq_ok_iff.1 hnext with ⟨_, rfl⟩ | ⟨_, _, hentry, rfl⟩
      · exact entry?_dropLast horigin
      · exact hentry

theorem target_eq_ok_iff {h : Host} {path : Path} {target : Target} :
    t.target h path = .ok target ↔
      if path.ending = .dot then
        ∃ dir, t.walk (h.origin path) path.steps = .ok dir ∧ ⟨dir, none⟩ = target
      else
        ∃ dir, t.walk (h.origin path) path.steps.dropLast = .ok dir ∧
          ⟨dir, path.steps.getLast?.filter (· ≠ "..")⟩ = target := by
  rw [FileTree.target]
  split
  · cases t.walk (h.origin path) path.steps <;> simp [bind, Except.bind, pure, Except.pure]
  · cases t.walk (h.origin path) path.steps.dropLast <;>
      simp [bind, Except.bind, pure, Except.pure]

theorem entry?_origin {h : Host} (hwork : t.entry? h.workingDirectory = some .directory)
    (path : Path) : t.entry? (h.origin path) = some .directory := by
  rw [Host.origin]
  split
  · exact entry?_root hwork
  · exact hwork

theorem entry?_target {h : Host} {path : Path} {target : Target}
    (hwork : t.entry? h.workingDirectory = some .directory) (ht : t.target h path = .ok target) :
    t.entry? target.directory = some .directory := by
  have horigin := entry?_origin hwork path
  rw [target_eq_ok_iff] at ht
  split at ht
  all_goals
    obtain ⟨dir, hdir, rfl⟩ := ht
    exact entry?_of_walk horigin hdir

/-- The same locations hold directories in both trees. -/
def SameDirectories (t t' : FileTree) : Prop :=
  ∀ location, t.entry? location = some .directory ↔ entry? t' location = some .directory

def place? (t : FileTree) (h : Host) (text : String) : Option Location :=
  match t.target h (.ofText text) with
  | .ok ⟨dir, some name⟩ => some (dir ++ [name])
  | _ => none

theorem place?_eq_some_iff {h : Host} {text : String} :
    t.place? h text = some location ↔ ∃ dir name,
      t.target h (.ofText text) = .ok ⟨dir, some name⟩ ∧ dir ++ [name] = location := by
  rw [place?]
  split
  · next dir name heq => simp [heq]
  · next hne =>
      constructor
      · nofun
      · rintro ⟨dir, name, heq, _⟩
        exact absurd heq (hne dir name)

namespace SameDirectories

theorem refl (t : FileTree) : SameDirectories t t := fun _ => Iff.rfl

theorem trans {t'' : FileTree} (h : SameDirectories t t') (h' : SameDirectories t' t'') :
    SameDirectories t t'' := fun location => (h location).trans (h' location)

theorem of_update {bytes : ByteArray} (hgoal : t.entry? goal ≠ some .directory)
    (h : entry? t' = Function.update t.entry? goal (some (.file bytes))) :
    SameDirectories t t' := by
  intro location
  by_cases hlocation : location = goal
  · subst hlocation
    simp [h, hgoal]
  · simp [h, hlocation]

theorem of_put (hdir : t.entry? dir = some .directory)
    (hgoal : t.entry? (dir ++ [name]) ≠ some .directory) (bytes : ByteArray) :
    SameDirectories t (t.put (dir ++ [name]) (.file bytes)) :=
  of_update hgoal (entry?_put_file hdir hgoal bytes)

/-- What stands in the way of a path, a file or nothing, may differ. -/
theorem walk (h : SameDirectories t t') (origin : Location) (steps : List String) :
    t.walk origin steps = .ok location ↔ t'.walk origin steps = .ok location := by
  induction steps generalizing origin with
  | nil => rfl
  | cons step steps ih => simp only [walk_eq_ok_cons_iff, enter_eq_ok_iff, h _, ih]

theorem target (h : SameDirectories t t') (host : Host) (path : Path) {target : Target} :
    t.target host path = .ok target ↔ t'.target host path = .ok target := by
  simp only [target_eq_ok_iff, h.walk]

theorem place? (h : SameDirectories t t') (host : Host) (text : String) :
    t.place? host text = t'.place? host text := by
  ext location
  simp only [place?_eq_some_iff, h.target]

end SameDirectories

end RecordIdl.FileTree
