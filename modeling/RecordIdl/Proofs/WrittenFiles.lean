import RecordIdl.Proofs.ProjectRuns

namespace RecordIdl.Project

open FileTree

variable {h : Host} {t t' : FileTree} {p : Project} {f : OutputFile} {goal : Location}
variable {files kept before after : List OutputFile} {failed : List (OutputFile × SystemFault)}

namespace Writing

theorem sameDirectories (hwriting : p.Writing h t files kept failed t') : t.SameDirectories t' := by
  induction hwriting with
  | done t => exact .refl t
  | kept _ _ hfree hchanged _ ih => exact (SameDirectories.of_update hfree hchanged).trans ih
  | failed _ _ ih => exact ih

theorem place?_eq (hwriting : p.Writing h t files kept failed t') (text : String) :
    t'.place? h text = t.place? h text :=
  (hwriting.sameDirectories.place? h text).symm

theorem exists_place (hwriting : p.Writing h t files kept failed t') (hf : f ∈ kept) :
    ∃ goal, t'.place? h (p.pathFor f) = some goal := by
  induction hwriting with
  | done => cases hf
  | kept hwrote hplace hfree hchanged hrest ih =>
      rcases List.mem_cons.1 hf with rfl | hf
      · exact ⟨_, ((Writing.kept hwrote hplace hfree hchanged hrest).place?_eq _).trans hplace⟩
      · exact ih hf
  | failed _ _ ih => exact ih hf

theorem entry?_of_forall_ne (hwriting : p.Writing h t files kept failed t')
    (hne : ∀ f ∈ kept, t'.place? h (p.pathFor f) ≠ some goal) : entry? t' goal = t.entry? goal := by
  induction hwriting with
  | done => rfl
  | kept hwrote hplace hfree hchanged hrest ih =>
      obtain ⟨hfirst, hne⟩ := List.forall_mem_cons.1 hne
      rw [(Writing.kept hwrote hplace hfree hchanged hrest).place?_eq, hplace] at hfirst
      rw [ih hne, hchanged, Function.update_of_ne fun heq => hfirst (congrArg some heq.symm)]
  | failed _ _ ih => exact ih hne

theorem entry?_last (hwriting : p.Writing h t files kept failed t')
    (hkept : kept = before ++ f :: after)
    (hplace : t'.place? h (p.pathFor f) = some goal)
    (hlast : ∀ g ∈ after, t'.place? h (p.pathFor g) ≠ some goal) :
    entry? t' goal = some (.file f.contents.toUTF8) := by
  induction hwriting generalizing before with
  | done => simp at hkept
  | kept hwrote hfirst hfree hchanged hrest ih =>
      cases before with
      | nil =>
          obtain ⟨rfl, rfl⟩ := List.cons.inj hkept
          rw [(Writing.kept hwrote hfirst hfree hchanged hrest).place?_eq, hfirst] at hplace
          obtain rfl := Option.some.inj hplace
          rw [hrest.entry?_of_forall_ne hlast, hchanged, Function.update_self]
      | cons g before => exact ih (List.cons.inj hkept).2 hplace hlast
  | failed _ _ ih => exact ih hkept hplace hlast

end Writing

theorem isName_nameFor {record : String} (hrecord : '/' ∉ record.toList) :
    Path.IsName (SchemaFile.nameFor record) := by
  -- The extension ends in a letter, so the name is no dot and no pair of dots.
  have hlast : (SchemaFile.nameFor record).toList.getLast? = some 'a' := by
    simp [SchemaFile.nameFor]
  refine ⟨by simpa [SchemaFile.nameFor] using hrecord, ?_, ?_⟩
  · have hne : (SchemaFile.nameFor record).toList ≠ ['.'] := fun h => by simp [h] at hlast
    have hnil : (SchemaFile.nameFor record).toList ≠ [] := fun h => by simp [h] at hlast
    simp only [Path.isStep, Bool.and_eq_true, Bool.not_eq_true', List.isEmpty_eq_false_iff,
      bne_iff_ne]
    exact ⟨hnil, hne⟩
  · intro h
    simp [h] at hlast

namespace Writing

theorem exists_directory (hwriting : p.Writing h t files kept failed t') (hf : f ∈ kept)
    (hslash : '/' ∉ f.record.toList) :
    ∃ dir, t'.directory? h p.settings.outputDir = some dir ∧
      t'.place? h (p.pathFor f) = some (dir ++ [f.name]) := by
  obtain ⟨goal, hgoal⟩ := hwriting.exists_place hf
  have hjoin : t'.place? h (p.pathFor f) =
      (t'.directory? h p.settings.outputDir).map (· ++ [f.name]) :=
    place?_join (isName_nameFor hslash) p.settings.outputDir
  obtain ⟨dir, hdir, rfl⟩ := Option.map_eq_some_iff.1 (hjoin.symm.trans hgoal)
  exact ⟨dir, hdir, hgoal⟩

theorem nodup_places (hwriting : p.Writing h t files kept failed t')
    (hslash : ∀ f ∈ kept, '/' ∉ f.record.toList) (hnames : (kept.map OutputFile.name).Nodup) :
    (kept.map fun f => t'.place? h (p.pathFor f)).Nodup := by
  refine List.Nodup.map_on (fun f hf g hg heq => ?_) (hnames.of_map _)
  obtain ⟨dir, hdir, hplace⟩ := hwriting.exists_directory hf (hslash f hf)
  obtain ⟨dir', hdir', hplace'⟩ := hwriting.exists_directory hg (hslash g hg)
  obtain rfl := Option.some.inj (hdir.symm.trans hdir')
  have happend := Option.some.inj (hplace.symm.trans (heq.trans hplace'))
  have hname : f.name = g.name := List.singleton_inj.1 (List.append_cancel_left happend)
  exact List.inj_on_of_nodup_map hnames hf hg hname

theorem entry?_of_nodup (hwriting : p.Writing h t files kept failed t')
    (hplaces : (kept.map fun f => t'.place? h (p.pathFor f)).Nodup) (hf : f ∈ kept)
    (hplace : t'.place? h (p.pathFor f) = some goal) :
    entry? t' goal = some (.file f.contents.toUTF8) := by
  obtain ⟨before, after, rfl⟩ := List.append_of_mem hf
  refine hwriting.entry?_last rfl hplace fun g hg heq => ?_
  rw [List.map_append, List.map_cons] at hplaces
  have hnot := (List.nodup_cons.1 hplaces.of_append_right).1
  exact hnot (List.mem_map.2 ⟨g, hg, heq.trans hplace.symm⟩)

end Writing

/-- Every path of a report leads to a place, and the place holds what was written there last. Where
no record of a written file has a slash in its name, each of them has a place of its own in the
output directory and its contents are there. -/
theorem written_files_kept (p : Project) (h : Host) (t t' : FileTree) (report : Report)
    (hwork : t.entry? h.workingDirectory = some .directory)
    (hrun : runFrom (p.run (system h)) t = (.ok report, t')) :
    ∃ b kept, p.built = .ok b ∧ kept.Sublist b.files ∧ report.written = kept.map p.pathFor ∧
      (∀ before f after, kept = before ++ f :: after →
        ∃ goal, t'.place? h (p.pathFor f) = some goal ∧
          ((∀ g ∈ after, t'.place? h (p.pathFor g) ≠ some goal) →
            entry? t' goal = some (.file f.contents.toUTF8))) ∧
      (∀ f ∈ kept, '/' ∉ f.record.toList →
        ∃ dir, t'.directory? h p.settings.outputDir = some dir ∧
          t'.place? h (p.pathFor f) = some (dir ++ [f.name])) ∧
      ((∀ f ∈ kept, '/' ∉ f.record.toList) →
        (report.written.map (t'.place? h)).Nodup ∧
        ∀ f ∈ kept, ∀ goal, t'.place? h (p.pathFor f) = some goal →
          entry? t' goal = some (.file f.contents.toUTF8)) := by
  obtain ⟨b, t₁, kept, failed, hbuilt, _, hwriting, rfl⟩ := of_run_eq_ok hwork hrun
  have hkept : kept.Sublist b.files := hwriting.split.1
  refine ⟨b, kept, hbuilt, hkept, rfl, ?_, fun f hf => hwriting.exists_directory hf, ?_⟩
  · intro before f after hsplit
    obtain ⟨goal, hplace⟩ := hwriting.exists_place (f := f) (by simp [hsplit])
    exact ⟨goal, hplace, hwriting.entry?_last hsplit hplace⟩
  · intro hslash
    have hnames : (kept.map OutputFile.name).Nodup :=
      (nodup_built hbuilt).sublist (hkept.map _)
    have hplaces := hwriting.nodup_places hslash hnames
    refine ⟨?_, fun f hf goal => hwriting.entry?_of_nodup hplaces hf⟩
    rwa [reportOf, List.map_map]

theorem written_files_kept_blocked :
    blockedTree.entry? workHost.workingDirectory = some .directory ∧
    ∃ (kept : List OutputFile) (t' : FileTree),
      runFrom (sortedProject.run (system workHost)) blockedTree = (.ok blockedReport, t') ∧
      kept.map sortedProject.pathFor = blockedReport.written ∧
      (∀ f ∈ kept, '/' ∉ f.record.toList) ∧
      (blockedReport.written.map (t'.place? workHost)).Nodup ∧
      ∀ f ∈ kept, ∀ goal, t'.place? workHost (sortedProject.pathFor f) = some goal →
        entry? t' goal = some (.file f.contents.toUTF8) := by
  obtain ⟨t', hrun⟩ := run_sortedProject
  obtain ⟨b, kept, hbuilt, hkept, hwritten, _, _, hplaces⟩ :=
    written_files_kept sortedProject workHost blockedTree _ _ rfl hrun
  obtain rfl := Except.ok.inj (built_sortedProject.symm.trans hbuilt)
  have hslash : ∀ f ∈ sortedBuild.files, '/' ∉ f.record.toList := by decide
  have hnames : ∀ f ∈ kept, '/' ∉ f.record.toList := fun f hf => hslash f (hkept.subset hf)
  obtain ⟨hnodup, hcontents⟩ := hplaces hnames
  exact ⟨rfl, kept, t', hrun, hwritten.symm, hnames, hnodup, hcontents⟩

/-- A record whose name leads out of the output directory, and two whose names lead to one place. -/
def strayProject : Project where
  set := ⟨[timed "../Escape", timed "A", timed "./A"], by decide⟩

def strayReport : Report where
  written := ["schema/../Escape.schema", "schema/A.schema", "schema/./A.schema",
    "schema/Void.schema"]
  empty := []
  aliased := []
  failures := []

theorem written_files_astray :
    let (result, t') := runFrom (strayProject.run (system {})) .empty
    result = .ok strayReport ∧
      t'.directory? {} "schema" = some ["schema"] ∧
      t'.place? {} "schema/../Escape.schema" = some ["Escape.schema"] ∧
      t'.place? {} "schema/A.schema" = t'.place? {} "schema/./A.schema" ∧
      t'.read {} (.ofText "schema/A.schema") = .ok (timedFile "./A").contents.toUTF8 ∧
      timedFile "A" ∈ (strayProject.built.toOption.map Build.files).getD [] ∧
      (timedFile "A").contents ≠ (timedFile "./A").contents := by
  decide +kernel

end RecordIdl.Project
