import RecordIdl.Proofs.ExceptSequence
import RecordIdl.Proofs.FaultState
import RecordIdl.Proofs.JoinedPaths
import RecordIdl.Proofs.TreeEntries

namespace RecordIdl.FileTree

variable {t : FileTree} {h : Host} {location goal : Location} {node : FileTree}

@[simp] theorem runFrom_lift {α : Type} (f : FileTree → Except SystemFault α) (t : FileTree) :
    runFrom (lift f) t = (f t, t) := by
  simp only [lift, runFrom_bind, runFrom_get]
  cases f t <;> rfl

theorem path_cases (h : Host) (text : String) (nulFault : SystemFault) (t : FileTree) :
    runFrom (path h text nulFault) t = (.ok (.ofText text), t) ∨
    ∃ fault, runFrom (path h text nulFault) t = (.error fault, t) := by
  rw [path]
  split
  · exact .inr ⟨nulFault, rfl⟩
  · split
    · exact .inr ⟨.nameTooLong, rfl⟩
    · exact .inl rfl

theorem runFrom_placeOf {text : String} (hplace : t.place? h text = some location) :
    runFrom (placeOf h text) t = (.ok location, t) := by
  obtain ⟨dir, name, htarget, rfl⟩ := place?_eq_some_iff.1 hplace
  rw [placeOf, runFrom_bind, runFrom_lift, htarget]
  rfl

theorem runFrom_removeAt {text : String} (hplace : t.place? h text = some location) :
    runFrom (removeAt h text) t = (.ok (), t.erase location) := by
  rw [removeAt, runFrom_bind, runFrom_placeOf hplace]
  rfl

theorem destination_eq_ok {source : Location} {text : String}
    (hgoal : t.destination h source (.ofText text) = .ok goal) :
    t.place? h text = some goal ∧ t.entry? goal ≠ some .directory := by
  obtain ⟨⟨dir, name?⟩, htarget, hgoal⟩ := bind_eq_ok_iff.1 hgoal
  cases name? with
  | none =>
      simp only [throw, throwThe, MonadExceptOf.throw, bind, Except.bind] at hgoal
      split at hgoal <;> cases hgoal
  | some name =>
      simp only [throw, throwThe, MonadExceptOf.throw, bind, Except.bind, pure, Except.pure]
        at hgoal
      repeat
        split at hgoal
        · cases hgoal
      next hentry =>
        obtain rfl := Except.ok.inj hgoal
        exact ⟨place?_eq_some_iff.2 ⟨dir, name, htarget, rfl⟩, hentry⟩

theorem renameAt_cases {source : String} (text : String)
    (hsource : t.place? h source = some location) (hnode : t.node? location = some node) :
    (∃ fault, runFrom (renameAt h source text) t = (.error fault, t)) ∨
    ∃ goal, t.place? h text = some goal ∧ t.entry? goal ≠ some .directory ∧
      runFrom (renameAt h source text) t = (.ok (), (t.erase location).put goal node) := by
  rw [renameAt]
  rcases path_cases h text .invalidArgument t with hpath | ⟨fault, hpath⟩
  · rw [runFrom_bind, hpath]
    simp only [runFrom_bind, runFrom_placeOf hsource, runFrom_lift]
    cases hgoal : t.destination h location (.ofText text) with
    | error fault => exact .inl ⟨fault, rfl⟩
    | ok goal =>
        obtain ⟨hplace, hentry⟩ := destination_eq_ok hgoal
        refine .inr ⟨goal, hplace, hentry, ?_⟩
        simp [hnode]
  · exact .inl ⟨fault, by rw [runFrom_bind, hpath]⟩

theorem createTemporaryIn_cases (h : Host) (text : String) (bytes : ByteArray) (t : FileTree) :
    (∃ fault, runFrom (createTemporaryIn h text bytes) t = (.error fault, t)) ∨
    ∃ dir n, t.walk [] (Path.ofText (h.absolute text)).steps = .ok dir ∧
      temporaryName n ∉ t.names dir ∧
      runFrom (createTemporaryIn h text bytes) t =
        (.ok (Path.join (h.absolute text) (temporaryName n)),
          t.put (dir ++ [temporaryName n]) (.file bytes)) := by
  rw [createTemporaryIn]
  rcases path_cases h (Path.join (h.absolute text) (temporaryName 0)) .nulInPath t with
    hpath | ⟨fault, hpath⟩
  · simp only [runFrom_bind, hpath, runFrom_lift]
    cases hdir : t.walk [] (Path.ofText (h.absolute text)).steps with
    | error fault => exact .inl ⟨fault, rfl⟩
    | ok dir =>
        obtain ⟨n, hn⟩ := exists_freeName (t.names dir) 0 (t.names dir).length
        cases hrefused : h.fileRefusal? dir with
        | some fault => exact .inl ⟨fault, by simp [hrefused]⟩
        | none =>
            by_cases htaken : temporaryName n ∈ t.names dir
            · exact .inl ⟨.alreadyExists, by simp [hrefused, runFrom_bind, hn, htaken]⟩
            · refine .inr ⟨dir, n, rfl, htaken, ?_⟩
              simp [hrefused, runFrom_bind, hn, htaken, runFrom_map, Except.map]
  · exact .inl ⟨fault, by rw [runFrom_bind, hpath]⟩

/-- Making directories takes none away, be it completed or not. -/
theorem makeSteps_keeps (ending : Path.Ending) (made : Bool) {other : Location}
    (hlocation : t.entry? location = some .directory) (hother : t.entry? other = some .directory)
    (steps : List String) :
    entry? (t.makeSteps h ending location made steps).1 other = some .directory := by
  induction steps generalizing t location made with
  | nil => exact hother
  | cons step rest ih =>
      rw [makeSteps]
      split
      · exact ih made (entry?_dropLast hlocation) hother
      · split
        · exact hother
        · dsimp only
          cases hentry : t.entry? (location ++ [step]) with
          | some entry =>
              cases entry with
              | directory => exact ih made hentry hother
              | file bytes => exact hother
          | none =>
              dsimp only
              split
              · exact hother
              · split
                · exact hother
                · -- The new directory is all that is added.
                  have hfree : t.entry? (location ++ [step]) ≠ some .directory := by simp [hentry]
                  have hput := entry?_put hlocation hfree (rfl : empty.children = [])
                  refine ih true ?_ ?_
                  · rw [hput, if_pos rfl]
                    rfl
                  · rw [hput]
                    split
                    · rfl
                    · exact hother

theorem makeDirectoriesAt_keeps (hwork : t.entry? h.workingDirectory = some .directory)
    (text : String) (hlocation : t.entry? location = some .directory) :
    entry? (runFrom (makeDirectoriesAt h text) t).2 location = some .directory := by
  rw [makeDirectoriesAt, runFrom_bind]
  rcases path_cases h text .nulInPath t with hpath | ⟨fault, hpath⟩
  · have hkeeps := makeSteps_keeps (h := h) (Path.ofText text).ending false
      (entry?_origin hwork (.ofText text)) hlocation (Path.ofText text).steps
    simp only [hpath, runFrom_bind, runFrom_get, runFrom_set]
    cases hmade : t.makeDirectories h (.ofText text) with
    | mk t₁ result =>
        rw [← makeDirectories, hmade] at hkeeps
        cases result <;> exact hkeeps
  · rw [hpath]
    exact hlocation

theorem temporary_made {text : String} {n : Nat} (bytes : ByteArray)
    (hroot : t.entry? [] = some .directory)
    (hwalk : t.walk [] (Path.ofText (h.absolute text)).steps = .ok location)
    (hfree : temporaryName n ∉ t.names location) :
    let made := location ++ [temporaryName n]
    t.SameDirectories (t.put made (.file bytes)) ∧
      (t.put made (.file bytes)).place? h (Path.join (h.absolute text) (temporaryName n)) =
        some made ∧
      (t.put made (.file bytes)).node? made = some (.file bytes) ∧
      (t.put made (.file bytes)).erase made = t := by
  intro made
  have hlocation := entry?_of_walk hroot hwalk
  obtain ⟨node, hnode, hentry⟩ := Option.map_eq_some_iff.1 hlocation
  obtain ⟨children, rfl⟩ := entry_eq_directory_iff.1 hentry
  have hname : temporaryName n ∉ children.map (·.1) := by
    simpa [names, hnode, FileTree.children] using hfree
  have hnone : t.node? made = none := by
    have hlookup : children.lookup (temporaryName n) = none :=
      List.lookup_eq_none_iff.2 fun child hchild => by
        have hne : temporaryName n ≠ child.1 :=
          fun heq => hname (List.mem_map.2 ⟨child, hchild, heq.symm⟩)
        simpa using hne
    simp [made, node?_append, hnode, node?, FileTree.children, hlookup]
  have hgoal : t.entry? made ≠ some .directory := by simp [ entry?, hnone]
  have hsame : t.SameDirectories (t.put made (.file bytes)) := .of_put hlocation hgoal bytes
  refine ⟨hsame, ?_, ?_, erase_put hnode hname _⟩
  · rw [place?_join (isName_temporaryName n),
      (directory?_absolute _ h text).2 ((hsame.walk _ _).1 hwalk)]
    rfl
  · have hfile : entry? (t.put made (.file bytes)) made = some (.file bytes) := by
      rw [entry?_put hlocation hgoal rfl, if_pos rfl]
      rfl
    exact node?_of_entry?_file hfile

/-- A write that fails leaves the tree as it was, without the temporary file. One that succeeds
puts the file where its path leads, never in place of a directory. -/
theorem write_cases (hwork : t.entry? h.workingDirectory = some .directory)
    (dir name contents : String) :
    (∃ fault, runFrom ((system h).write dir name contents) t = (.error fault, t)) ∨
    ∃ goal, t.place? h (Path.join dir name) = some goal ∧ t.entry? goal ≠ some .directory ∧
      runFrom ((system h).write dir name contents) t =
        (.ok (Path.join dir name), t.put goal (.file contents.toUTF8)) := by
  rw [FileSystem.write]
  rcases createTemporaryIn_cases h dir contents.toUTF8 t with ⟨fault, hmade⟩ |
    ⟨location, n, hwalk, hfree, hmade⟩
  · exact .inl ⟨fault, by rw [runFrom_bind]; simp only [system, hmade]⟩
  · obtain ⟨hsame, hplace, hnode, herase⟩ :=
      temporary_made contents.toUTF8 (entry?_root hwork) hwalk hfree
    simp only [runFrom_bind, runFrom_tryCatch, system, hmade]
    rcases renameAt_cases (Path.join dir name) hplace hnode with ⟨fault, hrename⟩ |
      ⟨goal, hgoal, hentry, hrename⟩
    · refine .inl ⟨fault, ?_⟩
      simp only [hrename, runFrom_removeAt hplace, herase, runFrom_throw]
    · refine .inr ⟨goal, (hsame.place? h _).trans hgoal, ?_, ?_⟩
      · exact fun hdir => hentry ((hsame goal).1 hdir)
      · simp only [hrename, herase, runFrom_pure]

end RecordIdl.FileTree
