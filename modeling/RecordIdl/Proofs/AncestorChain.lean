import RecordIdl.Record.Lineage
import Mathlib.Data.List.Nodup

namespace RecordIdl

theorem RecordSet.eq_of_name_eq {s : RecordSet} {r q : Record} (hr : r ∈ s.records)
    (hq : q ∈ s.records) (h : r.name = q.name) : r = q :=
  List.inj_on_of_nodup_map s.distinct hr hq h

theorem RecordSet.get?_of_mem {s : RecordSet} {r : Record} (h : r ∈ s.records) :
    s.get? r.name = some r := by
  cases hg : s.get? r.name with
  | none => simpa using List.find?_eq_none.1 hg r h
  | some q => exact congrArg some (eq_of_name_eq (mem_of_get? hg) h (name_of_get? hg))

theorem RecordSet.get?_self {s : RecordSet} {name : String} {r : Record}
    (h : s.get? name = some r) : s.get? r.name = some r := by
  rw [name_of_get? h, h]

namespace Lineage

variable {l : Lineage} {r q : Record} {ancestors others : List Record}
variable {outside outside' : Option String} {names : List String}

/-- From `r` the parents lead through the records `ancestors` and stop at a root or at a name
outside the set. -/
inductive Chain (l : Lineage) : Record → List Record → Option String → Prop
  | root {r : Record} (hr : isRoot l.roots r.parent = true) : Chain l r [] none
  | outside {r : Record} (hr : isRoot l.roots r.parent = false)
      (hp : l.set.get? r.parent = none) : Chain l r [] (some r.parent)
  | step {r q : Record} {ancestors : List Record} {outside : Option String}
      (hr : isRoot l.roots r.parent = false) (hp : l.set.get? r.parent = some q)
      (hq : Chain l q ancestors outside) : Chain l r (q :: ancestors) outside

namespace Chain

theorem unique (h : l.Chain r ancestors outside) (h' : l.Chain r others outside') :
    ancestors = others ∧ outside = outside' := by
  induction h generalizing others outside' with
  | root hr =>
      cases h' with
      | root => exact ⟨rfl, rfl⟩
      | outside hr' | step hr' => simp [hr] at hr'
  | outside hr hp =>
      cases h' with
      | root hr' => simp [hr] at hr'
      | outside => exact ⟨rfl, rfl⟩
      | step _ hp' => simp [hp] at hp'
  | step hr hp _ ih =>
      cases h' with
      | root hr' => simp [hr] at hr'
      | outside _ hp' => simp [hp] at hp'
      | step _ hp' hq' =>
          obtain rfl := Option.some.inj (hp.symm.trans hp')
          obtain ⟨rfl, rfl⟩ := ih hq'
          exact ⟨rfl, rfl⟩

theorem get?_of_mem (h : l.Chain r ancestors outside) (hq : q ∈ ancestors) :
    l.set.get? q.name = some q := by
  induction h with
  | root | outside => simp at hq
  | step _ hp _ ih =>
      rcases List.mem_cons.1 hq with rfl | hq
      · exact RecordSet.get?_self hp
      · exact ih hq

theorem get?_outside (h : l.Chain r ancestors outside) {name : String}
    (ho : outside = some name) : l.set.get? name = none := by
  induction h with
  | root => cases ho
  | outside _ hp => exact Option.some.inj ho ▸ hp
  | step _ _ _ ih => exact ih ho

theorem of_mem (h : l.Chain r ancestors outside) (hq : q ∈ ancestors) :
    ∃ later, l.Chain q later outside ∧ q :: later <:+ ancestors := by
  induction h with
  | root | outside => simp at hq
  | step _ _ hc ih =>
      rcases List.mem_cons.1 hq with rfl | hq
      · exact ⟨_, hc, List.suffix_rfl⟩
      · obtain ⟨later, hl, hs⟩ := ih hq
        exact ⟨later, hl, hs.trans (List.suffix_cons _ _)⟩

/-- A record that was its own ancestor would have fewer ancestors than it has. -/
theorem name_ne (h : l.Chain r ancestors outside) (hr : l.set.get? r.name = some r)
    (hq : q ∈ ancestors) : q.name ≠ r.name := by
  intro hname
  have hself := h.get?_of_mem hq
  rw [hname, hr] at hself
  obtain rfl := Option.some.inj hself
  obtain ⟨later, hl, hs⟩ := h.of_mem hq
  obtain ⟨rfl, _⟩ := h.unique hl
  exact Nat.not_succ_le_self _ hs.length_le

end Chain

theorem ancestryFrom_root (hr : isRoot l.roots r.parent = true) :
    l.ancestryFrom names r = .ends [r] none := by
  rw [ancestryFrom, if_pos hr]

theorem ancestryFrom_loop (hr : isRoot l.roots r.parent = false) (hn : r.parent ∈ names) :
    l.ancestryFrom names r = .loops [r.name, r.parent] := by
  rw [ancestryFrom, if_neg (by simp [hr]), dif_pos hn]

theorem ancestryFrom_outside (hr : isRoot l.roots r.parent = false) (hn : r.parent ∉ names)
    (hp : l.set.get? r.parent = none) :
    l.ancestryFrom names r = .ends [r] (some r.parent) := by
  rw [ancestryFrom, if_neg (by simp [hr]), dif_neg hn]
  split
  · rfl
  · next hp' => simp [hp] at hp'

theorem ancestryFrom_step (hr : isRoot l.roots r.parent = false) (hn : r.parent ∉ names)
    (hp : l.set.get? r.parent = some q) :
    l.ancestryFrom names r = (l.ancestryFrom (r.parent :: names) q).below r := by
  rw [ancestryFrom, if_neg (by simp [hr]), dif_neg hn]
  split
  · next hp' => simp [hp] at hp'
  · next q' hp' =>
      obtain rfl := Option.some.inj (hp.symm.trans hp')
      rfl

theorem chain_of_ancestryFrom {chain : List Record}
    (h : l.ancestryFrom names r = .ends chain outside) :
    ∃ ancestors, chain = r :: ancestors ∧ l.Chain r ancestors outside := by
  fun_induction ancestryFrom l names r generalizing chain outside with
  | case1 names r hr =>
      cases h
      exact ⟨[], rfl, .root hr⟩
  | case2 names r hr hn => cases h
  | case3 names r hr hn hp =>
      cases h
      exact ⟨[], rfl, .outside (by simpa using hr) hp⟩
  | case4 names r hr hn q hp ih =>
      cases ha : l.ancestryFrom (r.parent :: names) q with
      | loops path => simp [ha, Ancestry.below] at h
      | ends later o =>
          simp only [ha, Ancestry.below, Ancestry.ends.injEq] at h
          obtain ⟨rfl, rfl⟩ := h
          obtain ⟨ancestors, rfl, hq⟩ := ih ha
          exact ⟨_, rfl, .step (by simpa using hr) hp hq⟩

theorem ancestryFrom_of_chain (h : l.Chain r ancestors outside)
    (hset : ∀ a ∈ names, l.set.get? a ≠ none) (hnames : ∀ q ∈ ancestors, q.name ∉ names) :
    l.ancestryFrom names r = .ends (r :: ancestors) outside := by
  induction h generalizing names with
  | root hr => exact ancestryFrom_root hr
  | outside hr hp => exact ancestryFrom_outside hr (fun hm => hset _ hm hp) hp
  | @step r q ancestors outside hr hp hq ih =>
      have hname : q.name = r.parent := RecordSet.name_of_get? hp
      have hmem : r.parent ∉ names := hname ▸ hnames q List.mem_cons_self
      have hlater : ∀ x ∈ ancestors, x.name ∉ r.parent :: names := by
        intro x hx
        refine List.not_mem_cons_of_ne_of_not_mem ?_ (hnames x (List.mem_cons_of_mem _ hx))
        exact hname ▸ hq.name_ne (RecordSet.get?_self hp) hx
      rw [ancestryFrom_step hr hmem hp, ih (by simpa [hp] using hset) hlater]
      rfl

theorem ancestry_eq_ends_iff (hr : l.set.get? r.name = some r) :
    l.ancestry r = .ends (r :: ancestors) outside ↔ l.Chain r ancestors outside := by
  constructor
  · intro h
    obtain ⟨_, heq, hc⟩ := chain_of_ancestryFrom h
    obtain rfl := (List.cons.inj heq).2
    exact hc
  · intro h
    refine ancestryFrom_of_chain h (by simp [hr]) fun q hq hmem => ?_
    exact h.name_ne hr hq (List.mem_singleton.1 hmem)

theorem exists_chain_or_loops (l : Lineage) (r : Record) :
    (∃ ancestors outside, l.Chain r ancestors outside) ∨ ∃ path, l.ancestry r = .loops path := by
  cases ha : l.ancestry r with
  | ends chain outside =>
      obtain ⟨ancestors, _, hc⟩ := chain_of_ancestryFrom ha
      exact .inl ⟨ancestors, outside, hc⟩
  | loops path => exact .inr ⟨path, rfl⟩

end Lineage

end RecordIdl
