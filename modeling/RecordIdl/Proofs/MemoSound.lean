import RecordIdl.Proofs.AncestorChain
import RecordIdl.Proofs.PruningRun

namespace RecordIdl

def RecordSet.hasEmpty (s : RecordSet) (name : String) : Bool :=
  (s.get? name).any Record.isEmpty

/-- The first of the `ancestors` that has fields, or else the name at which they stop. -/
def Lineage.nearest (ancestors : List Record) (outside : Option String) : Option String :=
  ((ancestors.find? fun q => !q.isEmpty).map Record.name).or outside

theorem Lineage.nearest_cons (q : Record) (ancestors : List Record) (outside : Option String) :
    nearest (q :: ancestors) outside =
      if q.isEmpty then nearest ancestors outside else some q.name := by
  by_cases hq : q.isEmpty <;> simp [nearest, hq]

namespace Memo

variable {l : Lineage} {m : Memo} {r : Record} {ancestors : List Record} {outside : Option String}

structure Sound (l : Lineage) (m : Memo) : Prop where
  parents : ∀ name parent, m.parents.lookup name = some parent →
    ∃ r ancestors outside, l.set.get? name = some r ∧ l.Chain r ancestors outside ∧
      parent = Lineage.nearest ancestors outside ∧ ∀ q ∈ ancestors, m.knows q.name = true
  empty : ∀ name, name ∈ m.empty ↔ m.knows name = true ∧ l.set.hasEmpty name = true

theorem sound_empty (l : Lineage) : Sound l {} where
  parents := by simp
  empty := by simp [knows]

theorem lookup_note (m : Memo) (r : Record) (parent : Option String) (name : String) :
    (m.note r parent).parents.lookup name =
      if name = r.name then some parent else m.parents.lookup name := by
  by_cases h : name = r.name
  · simp [note, h]
  · simp [note, List.lookup_cons, beq_eq_false_iff_ne.2 h, h]

theorem knows_note (m : Memo) (r : Record) (parent : Option String) (name : String) :
    (m.note r parent).knows name = (decide (name = r.name) || m.knows name) := by
  by_cases h : name = r.name <;> simp [knows, lookup_note, h]

theorem mem_empty_note (m : Memo) (r : Record) (parent : Option String) (name : String) :
    name ∈ (m.note r parent).empty ↔ (name = r.name ∧ r.isEmpty = true) ∨ name ∈ m.empty := by
  by_cases h : r.isEmpty <;> simp [note, h]

namespace Sound

theorem chain_of_knows (hm : Sound l m) {name : String} (hr : l.set.get? name = some r)
    (hk : m.knows name = true) :
    ∃ ancestors outside, l.Chain r ancestors outside ∧
      m.parent? name = Lineage.nearest ancestors outside ∧
      ∀ q ∈ ancestors, m.knows q.name = true := by
  obtain ⟨parent, hparent⟩ := Option.isSome_iff_exists.1 hk
  obtain ⟨r', ancestors, outside, hr', hc, rfl, hknown⟩ := hm.parents _ _ hparent
  obtain rfl := Option.some.inj (hr.symm.trans hr')
  exact ⟨ancestors, outside, hc, by simp [parent?, hparent], hknown⟩

theorem of_chain (hm : Sound l m) {name : String} (hr : l.set.get? name = some r)
    (hk : m.knows name = true) (hc : l.Chain r ancestors outside) :
    m.parent? name = Lineage.nearest ancestors outside ∧
      ∀ q ∈ ancestors, m.knows q.name = true := by
  obtain ⟨ancestors', outside', hc', hp, hknown⟩ := hm.chain_of_knows hr hk
  obtain ⟨rfl, rfl⟩ := hc.unique hc'
  exact ⟨hp, hknown⟩

theorem knows_eq_false (hm : Sound l m) {name : String} (hr : l.set.get? name = none) :
    m.knows name = false := by
  rw [← Bool.not_eq_true]
  intro hk
  obtain ⟨parent, hparent⟩ := Option.isSome_iff_exists.1 hk
  obtain ⟨r, _, _, hr', _⟩ := hm.parents _ _ hparent
  simp [hr] at hr'

theorem mem_empty (hm : Sound l m) {name : String} (hr : l.set.get? name = some r)
    (hk : m.knows name = true) : name ∈ m.empty ↔ r.isEmpty = true := by
  simp [hm.empty, hk, RecordSet.hasEmpty, hr]

theorem not_mem_empty (hm : Sound l m) {name : String} (hr : l.set.get? name = none) :
    name ∉ m.empty := by
  simp [hm.empty, hm.knows_eq_false hr]

theorem parent?_outside (hm : Sound l m) {name : String} (hr : l.set.get? name = none) :
    m.parent? name = none := by
  have hk := hm.knows_eq_false hr
  simp only [knows, Option.isSome_eq_false_iff, Option.isNone_iff_eq_none] at hk
  simp [parent?, hk]

theorem kept_eq (hm : Sound l m) {name : String} (hr : l.set.get? name = some r)
    (hk : m.knows name = true) (hc : l.Chain r ancestors outside) :
    m.kept name = Lineage.nearest (r :: ancestors) outside := by
  rw [kept, Lineage.nearest_cons, (hm.of_chain hr hk hc).1, RecordSet.name_of_get? hr]
  simp only [hm.mem_empty hr hk]

theorem kept_of_get?_eq_none (hm : Sound l m) {name : String} (hr : l.set.get? name = none) :
    m.kept name = some name := by
  rw [kept, if_neg (hm.not_mem_empty hr)]

theorem note (hm : Sound l m) (hr : l.set.get? r.name = some r)
    (hc : l.Chain r ancestors outside)
    (hknown : ∀ q ∈ ancestors, m.knows q.name = true) :
    Sound l (m.note r (Lineage.nearest ancestors outside)) where
  parents := by
    intro name parent h
    rw [lookup_note] at h
    split at h
    · next heq =>
        obtain rfl := Option.some.inj h
        refine ⟨r, ancestors, outside, heq ▸ hr, hc, rfl, fun q hq => ?_⟩
        simp [knows_note, hknown q hq]
    · obtain ⟨r', ancestors', outside', hr', hc', hp, hknown'⟩ := hm.parents _ _ h
      refine ⟨r', ancestors', outside', hr', hc', hp, fun q hq => ?_⟩
      simp [knows_note, hknown' q hq]
  empty := by
    intro name
    rw [mem_empty_note, hm.empty, knows_note]
    by_cases heq : name = r.name
    · subst heq
      simp [RecordSet.hasEmpty, hr]
    · simp [heq]

end Sound

end Memo

namespace Pruning

variable {l : Lineage} {m : Memo} {r : Record} {ancestors : List Record} {outside : Option String}
variable {above : List String}

theorem runOn_visit_of_knows {name : String} (hk : m.knows name = true) :
    runOn (visit l above name) m = (.ok (), m) := by
  rw [visit_eq_call, visitCall, runOn_bind_ok (runOn_get m), if_pos hk, runOn_pure]

theorem runOn_visit_outside {name : String} (hr : l.set.get? name = none) :
    runOn (visit l above name) m = (.ok (), m) := by
  rw [visit_eq_call, visitCall, runOn_bind_ok (runOn_get m), hr]
  split <;> rfl

theorem runOn_visit_loop {name : String} (hk : m.knows name = false)
    (hr : l.set.get? name = some r) (habove : name ∈ above) :
    runOn (visit l above name) m =
      (.error (.cyclicInheritance (name :: above).reverse), m) := by
  rw [visit_eq_call, visitCall, runOn_bind_ok (runOn_get m), if_neg (by simp [hk]), hr]
  simp only [habove, if_true, runOn_throw]

theorem runOn_visit_root {name : String} (hk : m.knows name = false)
    (hr : l.set.get? name = some r) (habove : name ∉ above)
    (hroot : isRoot l.roots r.parent = true) :
    runOn (visit l above name) m = (.ok (), m.note r none) := by
  rw [visit_eq_call, visitCall, runOn_bind_ok (runOn_get m), if_neg (by simp [hk]), hr]
  simp only [habove, hroot, if_false, if_true, runOn_modify]

theorem runOn_visit_step {name : String} (hk : m.knows name = false)
    (hr : l.set.get? name = some r) (habove : name ∉ above)
    (hroot : isRoot l.roots r.parent = false) :
    runOn (visit l above name) m = runOn (do
      visit l (name :: above) r.parent
      modify fun m => m.note r (m.kept r.parent)) m := by
  rw [visit_eq_call, visitCall, runOn_bind_ok (runOn_get m), if_neg (by simp [hk]), hr]
  simp only [habove, hroot, if_false, Bool.false_eq_true]

/-- The visit of a record whose ancestry ends notes the record. -/
theorem runOn_visit_of_chain (above : List String) (hm : m.Sound l)
    (hr : l.set.get? r.name = some r) (hc : l.Chain r ancestors outside)
    (habove : ∀ q ∈ r :: ancestors, q.name ∉ above) :
    ∃ m', runOn (visit l above r.name) m = (.ok (), m') ∧ m'.Sound l ∧
      m'.knows r.name = true := by
  induction hc generalizing above with
  | @root r hroot =>
      cases hk : m.knows r.name with
      | true => exact ⟨m, runOn_visit_of_knows hk, hm, hk⟩
      | false =>
          refine ⟨_, runOn_visit_root hk hr (habove r List.mem_cons_self) hroot, ?_, ?_⟩
          · exact hm.note hr (.root hroot) (by simp)
          · simp [Memo.knows_note]
  | @outside r hroot hp =>
      cases hk : m.knows r.name with
      | true => exact ⟨m, runOn_visit_of_knows hk, hm, hk⟩
      | false =>
          rw [runOn_visit_step hk hr (habove r List.mem_cons_self) hroot,
            runOn_bind_ok (runOn_visit_outside hp), runOn_modify, hm.kept_of_get?_eq_none hp]
          refine ⟨_, rfl, ?_, by simp [Memo.knows_note]⟩
          exact hm.note hr (.outside hroot hp) (by simp)
  | @step r q ancestors outside hroot hp hq ih =>
      cases hk : m.knows r.name with
      | true => exact ⟨m, runOn_visit_of_knows hk, hm, hk⟩
      | false =>
          have hname : q.name = r.parent := RecordSet.name_of_get? hp
          have hstep := Lineage.Chain.step hroot hp hq
          have hopen : ∀ x ∈ q :: ancestors, x.name ∉ r.name :: above := fun x hx =>
            List.not_mem_cons_of_ne_of_not_mem (hstep.name_ne hr hx)
              (habove x (List.mem_cons_of_mem _ hx))
          obtain ⟨m', hv, hm', hk'⟩ := ih _ (RecordSet.get?_self hp) hopen
          rw [hname] at hv hk'
          rw [runOn_visit_step hk hr (habove r List.mem_cons_self) hroot, runOn_bind_ok hv,
            runOn_modify, hm'.kept_eq hp hk' hq]
          refine ⟨_, rfl, hm'.note hr hstep ?_, by simp [Memo.knows_note]⟩
          intro x hx
          rcases List.mem_cons.1 hx with rfl | hx
          · rw [hname, hk']
          · exact (hm'.of_chain hp hk' hq).2 x hx

theorem ancestryFrom_of_knows (names : List String) (hm : m.Sound l)
    (hr : l.set.get? r.name = some r) (hk : m.knows r.name = true)
    (hnames : ∀ a ∈ names, m.knows a = false ∧ l.set.get? a ≠ none) :
    ∃ chain outside, l.ancestryFrom (r.name :: names) r = .ends chain outside := by
  obtain ⟨ancestors, outside, hc, _, hknown⟩ := hm.chain_of_knows hr hk
  refine ⟨_, _, Lineage.ancestryFrom_of_chain hc ?_ ?_⟩
  · intro a ha
    rcases List.mem_cons.1 ha with rfl | ha
    · simp [hr]
    · exact (hnames a ha).2
  · intro q hq
    refine List.not_mem_cons_of_ne_of_not_mem (hc.name_ne hr hq) fun hmem => ?_
    exact Bool.false_ne_true ((hnames _ hmem).1.symm.trans (hknown q hq))

/-- A visit that runs into a loop fails with the names of the open calls and the path that closes
the loop, and notes nothing. -/
theorem runOn_visit_of_loops (above : List String) {path : List String} (hm : m.Sound l)
    (hr : l.set.get? r.name = some r) (habove : r.name ∉ above)
    (hopen : ∀ a ∈ r.name :: above, m.knows a = false ∧ l.set.get? a ≠ none)
    (hl : l.ancestryFrom (r.name :: above) r = .loops path) :
    runOn (visit l above r.name) m = (.error (.cyclicInheritance (above.reverse ++ path)), m) := by
  -- The walk and the visit take the same steps, and what the walk has passed are the open calls.
  generalize hnames : r.name :: above = names at hl hopen
  fun_induction Lineage.ancestryFrom l names r generalizing above path with
  | case1 names r hroot => cases hl
  | case2 names r hroot hmem =>
      cases hl
      subst hnames
      have hk := (hopen r.name List.mem_cons_self).1
      obtain ⟨hkp, hpset⟩ := hopen _ hmem
      obtain ⟨q, hp⟩ := Option.ne_none_iff_exists'.1 hpset
      rw [runOn_visit_step hk hr habove (by simpa using hroot),
        runOn_bind_error (runOn_visit_loop hkp hp hmem)]
      simp
  | case3 names r hroot hmem hp => cases hl
  | case4 names r hroot hmem q hp ih =>
      subst hnames
      have hname : q.name = r.parent := RecordSet.name_of_get? hp
      have hself : l.set.get? q.name = some q := RecordSet.get?_self hp
      have hk := (hopen r.name List.mem_cons_self).1
      cases ha : l.ancestryFrom (r.parent :: r.name :: above) q with
      | ends chain outside => simp [ha, Ancestry.below] at hl
      | loops later =>
          simp only [ha, Ancestry.below, Ancestry.loops.injEq] at hl
          subst hl
          rw [← hname] at ha hmem
          -- A noted parent would have an ancestry that ends, so the visit cannot stop early here.
          have hkq : m.knows q.name = false := by
            rw [← Bool.not_eq_true]
            intro hkq
            obtain ⟨_, _, he⟩ := ancestryFrom_of_knows _ hm hself hkq hopen
            simp [ha] at he
          have hv := ih _ hself hmem (by rw [hname]) (hname ▸ ha) (by
            intro a hmem
            rcases List.mem_cons.1 hmem with rfl | hmem
            · exact ⟨hname ▸ hkq, by simp [hp]⟩
            · exact hopen a hmem)
          rw [hname] at hv
          rw [runOn_visit_step hk hr habove (by simpa using hroot), runOn_bind_error hv]
          simp

end Pruning

end RecordIdl
