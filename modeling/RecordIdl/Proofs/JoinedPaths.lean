import RecordIdl.Proofs.TreeEntries

namespace RecordIdl

namespace Path

variable {dir name : String}

/-- A text that is a single step of a path and no way up. -/
structure IsName (name : String) : Prop where
  noSlash : '/' ∉ name.toList
  isStep : isStep name.toList = true
  ne_up : name ≠ ".."

theorem pieces_of_not_mem (hname : '/' ∉ name.toList) : pieces name = [name.toList] :=
  List.splitOn_eq_singleton hname

theorem startsAtRoot_of_not_mem (hname : '/' ∉ name.toList) : startsAtRoot name = false := by
  rw [startsAtRoot]
  cases hchars : name.toList with
  | nil => rfl
  | cons c cs =>
      have hc : c ≠ '/' := fun h => hname (by simp [hchars, h])
      simp [hc]

theorem startsAtRoot_append (text rest : String) (h : text ≠ "") :
    startsAtRoot (text ++ rest) = startsAtRoot text := by
  have hchars : text.toList ≠ [] := by simpa using h
  obtain ⟨c, cs, hcs⟩ := List.exists_cons_of_ne_nil hchars
  simp [startsAtRoot, hcs]

theorem startsAtRoot_join (hname : '/' ∉ name.toList) (dir : String) :
    startsAtRoot (join dir name) = startsAtRoot dir := by
  rw [join, startsAtRoot_of_not_mem hname]
  by_cases hdir : dir = ""
  · simpa [hdir, startsAtRoot] using startsAtRoot_of_not_mem hname
  · simp only [Bool.false_eq_true, if_false, hdir, false_or]
    split
    · exact startsAtRoot_append dir name hdir
    · rw [String.append_assoc, startsAtRoot_append dir _ hdir]

/-- An empty piece after the slash at the end of the directory gives way to the name. -/
theorem exists_pieces_join (hname : '/' ∉ name.toList) (dir : String) :
    ∃ front, pieces (join dir name) = front ++ [name.toList] ∧
      front.filter isStep = (pieces dir).filter isStep := by
  have hpieces (cs : List Char) : (cs ++ '/' :: name.toList).splitOn '/' =
      cs.splitOn '/' ++ [name.toList] := by
    rw [List.splitOn_append_cons_self]
    exact congrArg _ (pieces_of_not_mem hname)
  rw [join, startsAtRoot_of_not_mem hname]
  by_cases hdir : dir = ""
  · refine ⟨[], ?_, by simp [hdir, pieces, isStep]⟩
    simp [hdir, pieces_of_not_mem hname]
  · simp only [Bool.false_eq_true, if_false, hdir, false_or]
    split
    · next hlast =>
        obtain ⟨cs, hcs⟩ := List.getLast?_eq_some_iff.1 hlast
        refine ⟨cs.splitOn '/', ?_, ?_⟩
        · simp [pieces, hcs, hpieces]
        · simp [pieces, hcs, List.splitOn_append_cons_self, isStep]
    · exact ⟨pieces dir, by simp [pieces, hpieces], rfl⟩

theorem ofText_join (hname : IsName name) (dir : String) :
    ofText (join dir name) = ⟨startsAtRoot dir, (ofText dir).steps ++ [name], .plain⟩ := by
  obtain ⟨front, hpieces, hfront⟩ := exists_pieces_join hname.noSlash dir
  have hparts : name.toList ≠ [] ∧ name.toList ≠ ['.'] := by simpa [isStep] using hname.isStep
  have hplain : endingOf (front ++ [name.toList]) = .plain := by
    have hlast : (front ++ [name.toList]).filter (!·.isEmpty) =
        front.filter (!·.isEmpty) ++ [name.toList] := by
      simp [List.filter_append, hparts.1]
    rw [endingOf, hlast]
    simp [hparts]
  simp only [ofText, hpieces, startsAtRoot_join hname.noSlash, hplain, List.filter_append, hfront,
    List.map_append]
  simp [hname.isStep]

end Path

theorem Host.startsAtRoot_absolute (h : Host) (text : String) :
    Path.startsAtRoot (h.absolute text) = true := by
  have hroot (rest : String) : Path.startsAtRoot ("/" ++ rest) = true := by
    simp [Path.startsAtRoot]
  rw [absolute, Path.join]
  by_cases htext : Path.startsAtRoot text = true
  · simp [htext]
  · simp only [htext, if_false, Bool.false_eq_true]
    split <;> simp [String.append_assoc, hroot]

namespace FileTree

variable {t : FileTree} {h : Host} {dir name : String}

def directory? (t : FileTree) (h : Host) (text : String) : Option Location :=
  (t.walk (h.origin (.ofText text)) (Path.ofText text).steps).toOption

theorem directory?_eq_some_iff {text : String} {location : Location} :
    t.directory? h text = some location ↔
      t.walk (h.origin (.ofText text)) (Path.ofText text).steps = .ok location := by
  rw [directory?]
  cases t.walk (h.origin (.ofText text)) (Path.ofText text).steps <;> simp [Except.toOption]

theorem SameDirectories.directory? {t' : FileTree} (hsame : SameDirectories t t') (h : Host)
    (text : String) : t.directory? h text = t'.directory? h text := by
  ext location
  simp only [directory?_eq_some_iff, hsame.walk]

theorem place?_join (hname : Path.IsName name) (dir : String) :
    t.place? h (Path.join dir name) = (t.directory? h dir).map (· ++ [name]) := by
  have horigin : h.origin (.ofText (Path.join dir name)) = h.origin (.ofText dir) := by
    rw [Path.ofText_join hname]
    rfl
  ext location
  simp only [place?_eq_some_iff, target_eq_ok_iff, horigin, Option.map_eq_some_iff,
    directory?_eq_some_iff]
  simp [Path.ofText_join hname, hname.ne_up]

theorem directory?_absolute (t : FileTree) (h : Host) (text : String) {location : Location} :
    t.directory? h (h.absolute text) = some location ↔
      t.walk [] (Path.ofText (h.absolute text)).steps = .ok location := by
  have horigin : h.origin (.ofText (h.absolute text)) = [] := by
    simp [Host.origin, Path.ofText, h.startsAtRoot_absolute text]
  rw [directory?_eq_some_iff, horigin]

theorem isName_temporaryName (n : Nat) : Path.IsName (temporaryName n) where
  noSlash := by
    have hdigits : '/' ∉ Nat.toDigits 10 (100000 + n) := fun h =>
      absurd (Nat.isDigit_of_mem_toDigits (by decide) (by decide) h) (by decide)
    simpa [temporaryName] using hdigits
  isStep := by simp [temporaryName, Path.isStep]
  ne_up h := by simpa [temporaryName] using congrArg String.toList h

theorem exists_freeName (taken : List String) (n tries : Nat) :
    ∃ k, freeName taken n tries = temporaryName k := by
  induction tries generalizing n with
  | zero => exact ⟨n, rfl⟩
  | succ tries ih =>
      rw [freeName]
      split
      · exact ih (n + 1)
      · exact ⟨n, rfl⟩

end FileTree

end RecordIdl
