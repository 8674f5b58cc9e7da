import Mathlib.Data.List.Chain
import RecordIdl.Proofs.AncestorChain

namespace RecordIdl.Lineage

variable {l : Lineage} {r : Record} {names later path : List String} {parent last : String}

def Linked (l : Lineage) (child parent : String) : Prop :=
  ∃ q ∈ l.set.records, q.name = child ∧ q.parent = parent

/-- The names met from `r` on along parents, none of them a root's, up to the first that was met
before. -/
structure LoopPath (l : Lineage) (r : Record) (path : List String) : Prop where
  start : path.head? = some r.name
  links : path.IsChain l.Linked
  rootless : ∀ name ∈ path.tail, isRoot l.roots name = false
  distinct : path.dropLast.Nodup
  closed : ∃ last, path.getLast? = some last ∧ path.dropLast.count last = 1

/-- A walk that has passed `names` goes on from `r` over the names `later`, and then comes to `last`
again. -/
structure Returns (l : Lineage) (names : List String) (r : Record) (later : List String)
    (last : String) : Prop where
  links : (r.name :: (later ++ [last])).IsChain l.Linked
  rootless : ∀ name ∈ later ++ [last], isRoot l.roots name = false
  fresh : ∀ name ∈ later, name ∉ names
  distinct : later.Nodup
  closed : last ∈ later ++ names

theorem linked_iff (hr : l.set.get? r.name = some r) : l.Linked r.name parent ↔ r.parent = parent := by
  constructor
  · rintro ⟨q, hq, hname, rfl⟩
    rw [RecordSet.eq_of_name_eq (RecordSet.mem_of_get? hr) hq hname.symm]
  · intro hparent
    exact ⟨r, RecordSet.mem_of_get? hr, rfl, hparent⟩

theorem get?_of_linked {child : String} (h : l.Linked child parent) :
    ∃ q, l.set.get? child = some q ∧ q.name = child := by
  obtain ⟨q, hq, rfl, -⟩ := h
  exact ⟨q, RecordSet.get?_of_mem hq, rfl⟩

namespace Returns

theorem loop (hr : l.set.get? r.name = some r) (hroot : isRoot l.roots r.parent = false)
    (hmem : r.parent ∈ names) : l.Returns names r [] r.parent where
  links := List.isChain_pair.2 ((linked_iff hr).2 rfl)
  rootless := by simpa using hroot
  fresh := by simp
  distinct := List.nodup_nil
  closed := hmem

theorem step {q : Record} (hr : l.set.get? r.name = some r) (hroot : isRoot l.roots r.parent = false)
    (hmem : r.parent ∉ names) (hq : q.name = r.parent)
    (h : l.Returns (r.parent :: names) q later last) :
    l.Returns names r (q.name :: later) last where
  links := List.IsChain.cons_cons ((linked_iff hr).2 hq.symm) h.links
  rootless := List.forall_mem_cons.2 ⟨hq ▸ hroot, h.rootless⟩
  fresh := List.forall_mem_cons.2
    ⟨hq ▸ hmem, fun name hname => List.not_mem_of_not_mem_cons (h.fresh name hname)⟩
  distinct := List.nodup_cons.2
    ⟨fun hname => h.fresh q.name hname (hq ▸ List.mem_cons_self), h.distinct⟩
  closed := by
    have hlast := h.closed
    simp only [List.mem_append, List.mem_cons, ← hq] at hlast ⊢
    tauto

theorem of_ancestryFrom (hr : l.set.get? r.name = some r) (h : l.ancestryFrom names r = .loops path) :
    ∃ later last, path = r.name :: (later ++ [last]) ∧ l.Returns names r later last := by
  fun_induction ancestryFrom l names r generalizing path with
  | case1 | case3 => cases h
  | case2 names r hroot hmem =>
      cases h
      exact ⟨[], r.parent, rfl, loop hr (by simpa using hroot) hmem⟩
  | case4 names r hroot hmem q hp ih =>
      cases ha : l.ancestryFrom (r.parent :: names) q with
      | ends chain outside => simp [ha, Ancestry.below] at h
      | loops rest =>
          simp only [ha, Ancestry.below, Ancestry.loops.injEq] at h
          subst h
          obtain ⟨later, last, rfl, hlater⟩ := ih (RecordSet.get?_self hp) ha
          exact ⟨q.name :: later, last, rfl,
            step hr (by simpa using hroot) hmem (RecordSet.name_of_get? hp) hlater⟩

theorem ancestryFrom_eq (hr : l.set.get? r.name = some r) (h : l.Returns names r later last) :
    l.ancestryFrom names r = .loops (r.name :: (later ++ [last])) := by
  induction later generalizing names r with
  | nil =>
      obtain rfl : r.parent = last := (linked_iff hr).1 (List.isChain_pair.1 h.links)
      exact ancestryFrom_loop (h.rootless _ List.mem_cons_self) h.closed
  | cons name later ih =>
      obtain ⟨hlink, hlinks⟩ := List.isChain_cons_cons.1 h.links
      obtain rfl := (linked_iff hr).1 hlink
      obtain ⟨hroot, hrootless⟩ := List.forall_mem_cons.1 h.rootless
      obtain ⟨hmem, hfresh⟩ := List.forall_mem_cons.1 h.fresh
      obtain ⟨hname, hdistinct⟩ := List.nodup_cons.1 h.distinct
      -- A name is followed by another one, so it is that of a record.
      obtain ⟨q, hp, hq⟩ : ∃ q, l.set.get? r.parent = some q ∧ q.name = r.parent := by
        cases later with
        | nil => exact get?_of_linked (List.isChain_pair.1 hlinks)
        | cons => exact get?_of_linked (List.isChain_cons_cons.1 hlinks).1
      have hlater : l.Returns (r.parent :: names) q later last := by
        refine ⟨hq ▸ hlinks, hrootless, fun name' hname' => ?_, hdistinct, ?_⟩
        · exact List.not_mem_cons_of_ne_of_not_mem (ne_of_mem_of_not_mem hname' hname)
            (hfresh name' hname')
        · have hlast := h.closed
          simp only [List.mem_append, List.mem_cons] at hlast ⊢
          tauto
      rw [ancestryFrom_step hroot hmem hp, ih (RecordSet.get?_self hp) hlater, hq]
      rfl

theorem loopPath (h : l.Returns [r.name] r later last) :
    l.LoopPath r (r.name :: (later ++ [last])) := by
  have hpassed : (r.name :: (later ++ [last])).dropLast = r.name :: later := by
    rw [← List.cons_append, List.dropLast_concat]
  have hdistinct : (r.name :: later).Nodup := by
    refine List.nodup_cons.2 ⟨fun hmem => ?_, h.distinct⟩
    exact h.fresh _ hmem List.mem_cons_self
  refine ⟨rfl, h.links, h.rootless, hpassed ▸ hdistinct, last, ?_, ?_⟩
  · rw [← List.cons_append, List.getLast?_concat]
  · rw [hpassed]
    apply List.count_eq_one_of_mem hdistinct
    simpa [or_comm] using h.closed

end Returns

theorem LoopPath.exists_returns (h : l.LoopPath r path) :
    ∃ later last, path = r.name :: (later ++ [last]) ∧ l.Returns [r.name] r later last := by
  obtain ⟨last, hlast, hcount⟩ := h.closed
  obtain ⟨passed, rfl⟩ : ∃ passed, path = passed ++ [last] :=
    ⟨path.dropLast, (List.dropLast_append_getLast? _ hlast).symm⟩
  have hdistinct := h.distinct
  rw [List.dropLast_concat] at hdistinct hcount
  have hmem : last ∈ passed := List.count_pos_iff.1 (by omega)
  obtain ⟨name, later, rfl⟩ := List.exists_cons_of_ne_nil (List.ne_nil_of_mem hmem)
  obtain rfl : name = r.name := by simpa using h.start
  obtain ⟨hname, hlater⟩ := List.nodup_cons.1 hdistinct
  refine ⟨later, last, rfl, h.links, h.rootless, fun name hin => ?_, hlater, ?_⟩
  · rintro hself
    exact hname (List.mem_singleton.1 hself ▸ hin)
  · simpa [or_comm] using hmem

theorem ancestry_eq_loops_iff (hr : l.set.get? r.name = some r) :
    l.ancestry r = .loops path ↔ l.LoopPath r path := by
  constructor
  · intro h
    obtain ⟨later, last, rfl, hreturns⟩ := Returns.of_ancestryFrom hr h
    exact hreturns.loopPath
  · intro h
    obtain ⟨later, last, rfl, hreturns⟩ := h.exists_returns
    exact hreturns.ancestryFrom_eq hr

end RecordIdl.Lineage
