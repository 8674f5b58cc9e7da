import RecordIdl.Proofs.PruningQueries

namespace RecordIdl

namespace Lineage

variable {l : Lineage} {r : Record} {ancestors : List Record} {outside : Option String}

def inheritedFields (chain : List Record) : List Field :=
  chain.reverse.flatMap Record.fields

def pruned (ancestors : List Record) : List Record :=
  ancestors.filter fun q => !q.isEmpty

theorem inheritedFields_pruned (r : Record) (ancestors : List Record) :
    inheritedFields (r :: pruned ancestors) = inheritedFields (r :: ancestors) := by
  have h : inheritedFields (pruned ancestors) = inheritedFields ancestors := by
    induction ancestors with
    | nil => rfl
    | cons q ancestors ih =>
        by_cases hq : q.fields = []
        · simpa [inheritedFields, pruned, Record.isEmpty, hq] using ih
        · simpa [inheritedFields, pruned, Record.isEmpty, hq] using ih
  simp only [inheritedFields, List.reverse_cons, List.flatMap_append] at h ⊢
  rw [h]

namespace Chain

theorem nearest_cases (h : l.Chain r ancestors outside) :
    (nearest ancestors outside = outside ∧ pruned ancestors = []) ∨
    ∃ q later, nearest ancestors outside = some q.name ∧ pruned ancestors = q :: pruned later ∧
      l.set.get? q.name = some q ∧ l.Chain q later outside ∧ later.length < ancestors.length := by
  induction h with
  | root | outside => exact .inl ⟨by simp [nearest], rfl⟩
  | @step r q ancestors outside _ hp hq ih =>
      rw [nearest_cons]
      cases hempty : q.isEmpty with
      | false =>
          refine .inr ⟨q, ancestors, rfl, ?_, RecordSet.get?_self hp, hq, Nat.lt_succ_self _⟩
          simp [pruned, hempty]
      | true =>
          have hdrop : pruned (q :: ancestors) = pruned ancestors := by simp [pruned, hempty]
          rw [if_pos rfl, hdrop]
          rcases ih with hnone | ⟨x, later, hx, hpruned, hself, hc, hlt⟩
          · exact .inl hnone
          · exact .inr ⟨x, later, hx, hpruned, hself, hc, Nat.lt_succ_of_lt hlt⟩

end Chain

end Lineage

namespace Pruning

variable {l : Lineage} {m : Memo} {r : Record} {ancestors kept : List Record}
variable {outside stop : Option String}

/-- The records met by asking for the parent of `r`, for the parent of that one, and so on, and
the name outside the set where this stops. Other questions may be asked in between. -/
inductive KeptChain (l : Lineage) : Memo → Record → List Record → Option String → Prop
  | root {m m' : Memo} {r : Record} (hp : runOn (parent? l r.name) m = (.ok none, m')) :
      KeptChain l m r [] none
  | outside {m m' : Memo} {r : Record} {name : String}
      (hp : runOn (parent? l r.name) m = (.ok (some name), m')) (hq : l.set.get? name = none) :
      KeptChain l m r [] (some name)
  | step {m m' : Memo} {r q : Record} {name : String} {kept : List Record}
      {stop : Option String} (between : List Query)
      (hp : runOn (parent? l r.name) m = (.ok (some name), m'))
      (hq : l.set.get? name = some q) (hk : KeptChain l (memoAfter l m' between) q kept stop) :
      KeptChain l m r (q :: kept) stop

theorem runOn_parent?_of_chain (hm : m.Sound l) (hr : l.set.get? r.name = some r)
    (hc : l.Chain r ancestors outside) :
    ∃ m', runOn (parent? l r.name) m = (.ok (Lineage.nearest ancestors outside), m') ∧
      m'.Sound l := by
  obtain ⟨m', hrun, hm'⟩ := (parent?_decides l r.name).gives m hm
  have hp : l.keptParent r.name = .ok (Lineage.nearest ancestors outside) :=
    Lineage.answerFor_of_chain hr hc
  exact ⟨m', hp ▸ hrun, hm'⟩

theorem keptChain_exists (hm : m.Sound l) (hr : l.set.get? r.name = some r)
    (hc : l.Chain r ancestors outside) :
    KeptChain l m r (Lineage.pruned ancestors) outside := by
  -- The next record kept may be far up, so the induction is on the number of ancestors.
  induction hn : ancestors.length using Nat.strongRecOn generalizing m r ancestors with
  | ind n ih =>
      obtain ⟨m', hrun, hm'⟩ := runOn_parent?_of_chain hm hr hc
      rcases hc.nearest_cases with ⟨hnear, hnone⟩ | ⟨q, later, hnear, hcons, hself, hq, hlt⟩
      · rw [hnear] at hrun
        rw [hnone]
        cases outside with
        | none => exact .root hrun
        | some name => exact .outside hrun (hc.get?_outside rfl)
      · rw [hnear] at hrun
        rw [hcons]
        exact .step [] hrun hself (ih later.length (hn ▸ hlt) hm' hself hq rfl)

theorem parent?_answer (hm : m.Sound l) (hr : l.set.get? r.name = some r)
    (hc : l.Chain r ancestors outside) {m' : Memo} {parent : Option String}
    (hp : runOn (parent? l r.name) m = (.ok parent, m')) :
    parent = Lineage.nearest ancestors outside ∧ m'.Sound l := by
  obtain ⟨m'', hrun, hm''⟩ := runOn_parent?_of_chain hm hr hc
  obtain ⟨hok, rfl⟩ := Prod.mk.inj (hp.symm.trans hrun)
  exact ⟨Except.ok.inj hok, hm''⟩

theorem KeptChain.unique (h : KeptChain l m r kept stop) (hm : m.Sound l)
    (hr : l.set.get? r.name = some r) (hc : l.Chain r ancestors outside) :
    kept = Lineage.pruned ancestors ∧ stop = outside := by
  -- Each answer on the way is the nearest ancestor left, whatever memo it was given from.
  induction h generalizing ancestors with
  | root hp =>
      obtain ⟨hparent, _⟩ := parent?_answer hm hr hc hp
      rcases hc.nearest_cases with ⟨hnear, hnone⟩ | ⟨q, later, hnear, _⟩
      · exact ⟨hnone.symm, hparent.trans hnear⟩
      · cases hparent.trans hnear
  | outside hp hq =>
      obtain ⟨hparent, _⟩ := parent?_answer hm hr hc hp
      rcases hc.nearest_cases with ⟨hnear, hnone⟩ | ⟨q, later, hnear, _, hself, _⟩
      · exact ⟨hnone.symm, hparent.trans hnear⟩
      · obtain rfl := Option.some.inj (hparent.trans hnear)
        simp [hself] at hq
  | step between hp hq _ ih =>
      obtain ⟨hparent, hm'⟩ := parent?_answer hm hr hc hp
      rcases hc.nearest_cases with ⟨hnear, _⟩ | ⟨x, later, hnear, hcons, hself, hx, _⟩
      · have hnone := hc.get?_outside (hparent.trans hnear).symm
        simp [hq] at hnone
      · obtain rfl := Option.some.inj (hparent.trans hnear)
        obtain rfl := Option.some.inj (hself.symm.trans hq)
        obtain ⟨rfl, rfl⟩ := ih (memoAfter_sound hm' between) hself hx
        exact ⟨hcons.symm, rfl⟩

/-- A record keeps what it inherits: whatever was asked before and is asked on the way, the
parents that pruning gives lead to the same fields in the same order and stop at the same name,
and no record without fields is met. -/
theorem inheritance_kept (l : Lineage) {r : Record} (hr : r ∈ l.set.records)
    {ancestors : List Record} {outside : Option String} (hc : l.Chain r ancestors outside)
    (asked : List Query) :
    (∃ kept stop, KeptChain l (memoAfter l {} asked) r kept stop) ∧
      ∀ kept stop, KeptChain l (memoAfter l {} asked) r kept stop →
        Lineage.inheritedFields (r :: kept) = Lineage.inheritedFields (r :: ancestors) ∧
          stop = outside ∧ ∀ q ∈ kept, q.isEmpty = false := by
  have hself := RecordSet.get?_of_mem hr
  have hm := reached_sound l asked
  refine ⟨⟨_, _, keptChain_exists hm hself hc⟩, fun kept stop hk => ?_⟩
  obtain ⟨rfl, rfl⟩ := hk.unique hm hself hc
  refine ⟨Lineage.inheritedFields_pruned r ancestors, rfl, fun q hq => ?_⟩
  simpa [Lineage.pruned] using (List.mem_filter.1 hq).2

def numberField (name : String) : Field :=
  { name, typeName := "int", kind := .primitive }

def base : Record := { name := "Base", parent := "ROOT", fields := [numberField "base"] }

def family : Record := { name := "Family", parent := "Base" }

def subFamily : Record := { name := "SubFamily", parent := "Family" }

def leaf : Record := { name := "Leaf", parent := "SubFamily", fields := [numberField "leaf"] }

/-- Two records without fields stand between `leaf` and `base`. -/
def familyLineage : Lineage where
  set := ⟨[leaf, subFamily, family, base], by decide⟩
  roots := ["root", "Pdu"]

theorem inheritance_kept_leaf :
    leaf ∈ familyLineage.set.records ∧
    familyLineage.Chain leaf [subFamily, family, base] none ∧
    (∃ kept stop,
      KeptChain familyLineage (memoAfter familyLineage {} [.isEmpty "Family"]) leaf kept stop) ∧
    ∀ kept stop,
      KeptChain familyLineage (memoAfter familyLineage {} [.isEmpty "Family"]) leaf kept stop →
        Lineage.inheritedFields (leaf :: kept) = [numberField "base", numberField "leaf"] ∧
          stop = none ∧ ∀ q ∈ kept, q.isEmpty = false := by
  have hmem : leaf ∈ familyLineage.set.records := List.mem_cons_self
  have hc : familyLineage.Chain leaf [subFamily, family, base] none :=
    .step (by decide) (by decide) (.step (by decide) (by decide)
      (.step (by decide) (by decide) (.root (by decide))))
  exact ⟨hmem, hc, inheritance_kept familyLineage hmem hc [.isEmpty "Family"]⟩

end Pruning

end RecordIdl
