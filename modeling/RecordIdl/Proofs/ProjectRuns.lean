import RecordIdl.Proofs.FileOperations
import RecordIdl.Proofs.RecordAccounts
import RecordIdl.Run

namespace RecordIdl.Project

open FileTree

variable {h : Host} {t : FileTree}

def pathFor (p : Project) (f : OutputFile) : String :=
  Path.join p.settings.outputDir f.name

def unwritten (p : Project) (failed : OutputFile × SystemFault) : Unwritten :=
  ⟨failed.1.record, .unwritten (p.pathFor failed.1) failed.2⟩

def reportOf (p : Project) (b : Build) (kept : List OutputFile)
    (failed : List (OutputFile × SystemFault)) : Report where
  written := kept.map p.pathFor
  empty := b.empty
  aliased := b.aliased
  failures := failed.map p.unwritten

/-- Files are written one after the other, each tried on the tree that those before it left. One
that is kept stands where its path leads, in place of a file or of nothing, and no other entry
changes. One that fails leaves the tree to the next file as it was. -/
inductive Writing (p : Project) (h : Host) : FileTree → List OutputFile → List OutputFile →
    List (OutputFile × SystemFault) → FileTree → Prop
  | done (t : FileTree) : Writing p h t [] [] [] t
  | kept {t t₁ t' : FileTree} {f : OutputFile} {files kept : List OutputFile}
      {failed : List (OutputFile × SystemFault)} {goal : Location}
      (wrote : p.writeFile (system h) f t = (.ok (p.pathFor f), t₁))
      (place : t.place? h (p.pathFor f) = some goal) (free : t.entry? goal ≠ some .directory)
      (changed : entry? t₁ = Function.update t.entry? goal (some (.file f.contents.toUTF8)))
      (rest : Writing p h t₁ files kept failed t') :
      Writing p h t (f :: files) (f :: kept) failed t'
  | failed {t t' : FileTree} {f : OutputFile} {files kept : List OutputFile}
      {failed : List (OutputFile × SystemFault)} {fault : SystemFault}
      (refused : p.writeFile (system h) f t = (.error (p.unwritten (f, fault)), t))
      (rest : Writing p h t files kept failed t') :
      Writing p h t (f :: files) kept ((f, fault) :: failed) t'

theorem writeFile_cases (hwork : t.entry? h.workingDirectory = some .directory)
    (p : Project) (f : OutputFile) :
    (∃ fault, p.writeFile (system h) f t = (.error (p.unwritten (f, fault)), t)) ∨
    ∃ goal, t.place? h (p.pathFor f) = some goal ∧ t.entry? goal ≠ some .directory ∧
      p.writeFile (system h) f t = (.ok (p.pathFor f), t.put goal (.file f.contents.toUTF8)) := by
  have hfile : p.writeFile (system h) f t =
      match runFrom ((system h).write p.settings.outputDir f.name f.contents) t with
      | (.ok path, t₁) => (.ok path, t₁)
      | (.error fault, t₁) => (.error (p.unwritten (f, fault)), t₁) := by
    unfold writeFile runFrom ExceptT.run StateT.run
    simp only [bind, StateT.bind]
    obtain ⟨r, t₁⟩ := (system h).write p.settings.outputDir f.name f.contents t
    cases r <;> rfl
  rcases write_cases hwork p.settings.outputDir f.name f.contents with ⟨fault, hwrite⟩ |
    ⟨goal, hplace, hfree, hwrite⟩
  · exact .inl ⟨fault, by rw [hfile, hwrite]⟩
  · exact .inr ⟨goal, hplace, hfree, by rw [hfile, hwrite]; rfl⟩

theorem entry?_place {text : String} {goal : Location}
    (hwork : t.entry? h.workingDirectory = some .directory) (hplace : t.place? h text = some goal)
    (hfree : t.entry? goal ≠ some .directory) (bytes : ByteArray) :
    entry? (t.put goal (.file bytes)) = Function.update t.entry? goal (some (.file bytes)) := by
  obtain ⟨dir, name, htarget, rfl⟩ := place?_eq_some_iff.1 hplace
  exact entry?_put_file (entry?_target hwork htarget) hfree bytes

theorem mapM_writing (hwork : t.entry? h.workingDirectory = some .directory) (p : Project)
    (files : List OutputFile) :
    ∃ results kept failed t', files.mapM (p.writeFile (system h)) t = (results, t') ∧
      p.Writing h t files kept failed t' ∧
      results.filterMap pathOf? = kept.map p.pathFor ∧
      results.filterMap failureOf? = failed.map p.unwritten := by
  induction files generalizing t with
  | nil => exact ⟨[], [], [], t, rfl, .done t, rfl, rfl⟩
  | cons f files ih =>
      have hcons {result : Except Unwritten String} {t₁ t' : FileTree}
          {results : List (Except Unwritten String)}
          (hfirst : p.writeFile (system h) f t = (result, t₁))
          (hrest : files.mapM (p.writeFile (system h)) t₁ = (results, t')) :
          (f :: files).mapM (p.writeFile (system h)) t = (result :: results, t') := by
        simp only [List.mapM_cons, bind, StateT.bind, hfirst, hrest]
        rfl
      rcases writeFile_cases hwork p f with ⟨fault, hfirst⟩ | ⟨goal, hplace, hfree, hfirst⟩
      · obtain ⟨results, kept, failed, t', hrest, hwriting, hpaths, hfailures⟩ := ih hwork
        exact ⟨_, kept, (f, fault) :: failed, t', hcons hfirst hrest, .failed hfirst hwriting,
          hpaths, congrArg (p.unwritten (f, fault) :: ·) hfailures⟩
      · have hchanged := entry?_place hwork hplace hfree f.contents.toUTF8
        have hwork₁ := (SameDirectories.of_update hfree hchanged h.workingDirectory).1 hwork
        obtain ⟨results, kept, failed, t', hrest, hwriting, hpaths, hfailures⟩ := ih hwork₁
        exact ⟨_, f :: kept, failed, t', hcons hfirst hrest,
          .kept hfirst hplace hfree hchanged hwriting, congrArg (p.pathFor f :: ·) hpaths, hfailures⟩

theorem run_of_fault {fault : ModelFault} (p : Project) (hbuilt : p.built = .error fault) :
    runFrom (p.run (system h)) t = (.error (.model fault), t) := by
  rw [run, hbuilt]
  rfl

theorem run_of_refusal {b : Build} {fault : SystemFault} {t₁ : FileTree} (p : Project)
    (hbuilt : p.built = .ok b)
    (hmade : runFrom ((system h).makeDirectories p.settings.outputDir) t = (.error fault, t₁)) :
    runFrom (p.run (system h)) t = (.error (.system fault), t₁) := by
  rw [run, hbuilt]
  simp only [runFrom_bind, runFrom_adapt, hmade]
  rfl

/-- Once the output directory is there, a run comes to its end whatever fails on the way. -/
theorem exists_report {b : Build} {t₁ : FileTree} (p : Project)
    (hwork : t.entry? h.workingDirectory = some .directory) (hbuilt : p.built = .ok b)
    (hmade : runFrom ((system h).makeDirectories p.settings.outputDir) t = (.ok (), t₁)) :
    ∃ kept failed t', p.Writing h t₁ b.files kept failed t' ∧
      runFrom (p.run (system h)) t = (.ok (p.reportOf b kept failed), t') := by
  have hwork₁ : entry? t₁ h.workingDirectory = some .directory := by
    have hkept := makeDirectoriesAt_keeps hwork p.settings.outputDir hwork
    rwa [show runFrom (makeDirectoriesAt h p.settings.outputDir) t = _ from hmade] at hkept
  obtain ⟨results, kept, failed, t', hfiles, hwriting, hpaths, hfailures⟩ :=
    mapM_writing hwork₁ p b.files
  have hreport : report b results = p.reportOf b kept failed := by
    rw [report, hpaths, hfailures]
    rfl
  refine ⟨kept, failed, t', hwriting, ?_⟩
  rw [run, hbuilt]
  simp only [runFrom_bind, runFrom_adapt, hmade, runFrom_lift, Except.mapError, hfiles, hreport]
  rfl

theorem of_run_eq_ok {t' : FileTree} {report : Report} {p : Project}
    (hwork : t.entry? h.workingDirectory = some .directory)
    (hrun : runFrom (p.run (system h)) t = (.ok report, t')) :
    ∃ b t₁ kept failed, p.built = .ok b ∧
      runFrom ((system h).makeDirectories p.settings.outputDir) t = (.ok (), t₁) ∧
      p.Writing h t₁ b.files kept failed t' ∧ report = p.reportOf b kept failed := by
  cases hbuilt : p.built with
  | error fault => simp [run_of_fault p hbuilt] at hrun
  | ok b =>
      obtain ⟨made, t₁, hmade⟩ : ∃ made t₁,
          runFrom ((system h).makeDirectories p.settings.outputDir) t = (made, t₁) := ⟨_, _, rfl⟩
      cases made with
      | error fault => simp [run_of_refusal p hbuilt hmade] at hrun
      | ok _ =>
          obtain ⟨kept, failed, t'', hwriting, hdone⟩ := exists_report p hwork hbuilt hmade
          obtain ⟨hreport, rfl⟩ := Prod.mk.inj (hdone.symm.trans hrun)
          exact ⟨b, t₁, kept, failed, rfl, hmade, hwriting, (Except.ok.inj hreport).symm⟩

theorem Writing.split {files kept : List OutputFile} {failed : List (OutputFile × SystemFault)}
    {t' : FileTree} {p : Project} (hwriting : p.Writing h t files kept failed t') :
    kept.Sublist files ∧ (failed.map Prod.fst).Sublist files ∧
      (kept ++ failed.map Prod.fst).Perm files := by
  induction hwriting with
  | done => exact ⟨.refl _, .refl _, .refl _⟩
  | kept _ _ _ _ _ ih =>
      obtain ⟨hkept, hfailed, hperm⟩ := ih
      exact ⟨hkept.cons_cons _, hfailed.cons _, hperm.cons _⟩
  | failed _ _ ih =>
      obtain ⟨hkept, hfailed, hperm⟩ := ih
      exact ⟨hkept.cons _, hfailed.cons_cons _, List.perm_middle.trans (hperm.cons _)⟩

theorem nodup_built {b : Build} {p : Project} (hbuilt : p.built = .ok b) :
    (b.files.map OutputFile.name).Nodup :=
  nodup_fileNames ((build_after p []).symm.trans hbuilt)

/-- A fault in the records leaves the tree as it was. A report is for the whole build: its files are
parted between those that were written, each in place and all else left alone, and those that failed
and left nothing behind. -/
theorem run_all_or_nothing (p : Project) (h : Host) (t : FileTree)
    (hwork : t.entry? h.workingDirectory = some .directory) :
    (∀ fault, p.built = .error fault →
      runFrom (p.run (system h)) t = (.error (.model fault), t)) ∧
    (∀ b t₁, p.built = .ok b →
      runFrom ((system h).makeDirectories p.settings.outputDir) t = (.ok (), t₁) →
      ∃ report t', runFrom (p.run (system h)) t = (.ok report, t')) ∧
    ∀ report t', runFrom (p.run (system h)) t = (.ok report, t') →
      ∃ b t₁ kept failed, p.built = .ok b ∧
        runFrom ((system h).makeDirectories p.settings.outputDir) t = (.ok (), t₁) ∧
        p.Writing h t₁ b.files kept failed t' ∧
        kept.Sublist b.files ∧ (failed.map Prod.fst).Sublist b.files ∧
        (kept ++ failed.map Prod.fst).Perm b.files ∧ (kept ++ failed.map Prod.fst).Nodup ∧
        report = { written := kept.map p.pathFor, empty := b.empty, aliased := b.aliased,
                   failures := failed.map p.unwritten } := by
  refine ⟨fun fault hbuilt => run_of_fault p hbuilt, ?_, ?_⟩
  · intro b t₁ hbuilt hmade
    obtain ⟨_, _, t', _, hrun⟩ := exists_report p hwork hbuilt hmade
    exact ⟨_, t', hrun⟩
  · intro report t' hrun
    obtain ⟨b, t₁, kept, failed, hbuilt, hmade, hwriting, rfl⟩ := of_run_eq_ok hwork hrun
    obtain ⟨hkept, hfailed, hperm⟩ := hwriting.split
    have hnodup : b.files.Nodup := (nodup_built hbuilt).of_map _
    exact ⟨b, t₁, kept, failed, hbuilt, hmade, hwriting, hkept, hfailed, hperm,
      hperm.nodup_iff.2 hnodup, rfl⟩

def blockedTree : FileTree :=
  .directory [("work", .directory [("schema", .directory [("Fire.schema", .empty)])])]

def workHost : Host where
  workingDirectory := ["work"]

def blockedReport : Report where
  written := ["schema/Burst.schema", "schema/Void.schema"]
  empty := ["Void", "Marker"]
  aliased := ["Clock", "Old"]
  failures := [⟨"Fire", .unwritten "schema/Fire.schema" .isADirectory⟩]

theorem built_sortedProject : sortedProject.built = .ok sortedBuild := by
  decide +kernel

theorem run_sortedProject :
    ∃ t', runFrom (sortedProject.run (system workHost)) blockedTree = (.ok blockedReport, t') := by
  have hreport :
      (runFrom (sortedProject.run (system workHost)) blockedTree).1 = .ok blockedReport := by
    decide +kernel
  exact ⟨_, Prod.ext hreport rfl⟩

theorem run_all_or_nothing_blocked :
    blockedTree.entry? workHost.workingDirectory = some .directory ∧
    ∃ t₁ kept failed t',
      runFrom (sortedProject.run (system workHost)) blockedTree = (.ok blockedReport, t') ∧
      sortedProject.Writing workHost t₁ sortedBuild.files kept failed t' ∧
      kept.map sortedProject.pathFor = ["schema/Burst.schema", "schema/Void.schema"] ∧
      failed.map sortedProject.unwritten = blockedReport.failures := by
  obtain ⟨t', hrun⟩ := run_sortedProject
  obtain ⟨b, t₁, kept, failed, hbuilt, _, hwriting, _, _, _, _, hreport⟩ :=
    (run_all_or_nothing sortedProject workHost blockedTree rfl).2.2 _ _ hrun
  obtain rfl := Except.ok.inj (built_sortedProject.symm.trans hbuilt)
  exact ⟨rfl, t₁, kept, failed, t', hrun, hwriting,
    (congrArg Report.written hreport).symm, (congrArg Report.failures hreport).symm⟩

end RecordIdl.Project
