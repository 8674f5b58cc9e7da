import Mathlib.Data.List.Basic
import RecordIdl.Spelling

namespace RecordIdl

namespace Text

theorem mapByRuns_cases (runs : List CaseRun) (c : Char) :
    mapByRuns runs c = c ∨ ∃ run ∈ runs, ∃ k, mapByRuns runs c = Char.ofNat (run.target + k) := by
  rw [mapByRuns]
  cases himage : runs.findSome? (·.image? c.toNat) with
  | none => exact .inl rfl
  | some n =>
      obtain ⟨run, hrun, hn⟩ := List.exists_of_findSome?_eq_some himage
      rw [CaseRun.image?, Option.ite_none_right_eq_some] at hn
      exact .inr ⟨run, hrun, _, congrArg Char.ofNat (Option.some.inj hn.2).symm⟩

/-- A number that is no character stands for the null character. -/
theorem ofNat_ne_underscore {n : Nat} (h : '_'.toNat < n) : Char.ofNat n ≠ '_' := by
  intro heq
  have htoNat := congrArg Char.toNat heq
  by_cases hvalid : n.isValidChar
  · rw [Char.ofNat, dif_pos hvalid] at htoNat
    have hn : (Char.ofNatAux n hvalid).toNat = n := rfl
    omega
  · rw [Char.ofNat, dif_neg hvalid] at htoNat
    cases htoNat

theorem underscore_not_mem_lower {c : Char} (hc : c ≠ '_') : '_' ∉ lower c := by
  have htargets : ∀ run ∈ lowerRuns, '_'.toNat < run.target := by decide +kernel
  rw [lower]
  split
  · decide
  · rw [List.mem_singleton]
    rcases mapByRuns_cases lowerRuns c with hkept | ⟨run, hrun, k, himage⟩
    · rwa [hkept, eq_comm]
    · rw [himage, eq_comm]
      exact ofNat_ne_underscore (Nat.lt_add_right k (htargets run hrun))

end Text

namespace Spelling

open Text

def letters (cs : List Char) : List Char :=
  (cs.filter (· ≠ '_')).flatMap lower

theorem filter_lower (c : Char) : (lower c).filter (· ≠ '_') = letters [c] := by
  by_cases hc : c = '_'
  · subst hc
    decide +kernel
  · have hnone : ∀ d ∈ lower c, d ≠ '_' := fun d hd h => underscore_not_mem_lower hc (h ▸ hd)
    have hletters : letters [c] = lower c := by simp [letters, hc]
    rw [hletters, List.filter_eq_self]
    simpa using hnone

theorem letters_cons (c : Char) (cs : List Char) : letters (c :: cs) = letters [c] ++ letters cs := by
  rw [letters, letters, letters, ← List.flatMap_append, ← List.filter_append, List.singleton_append]

theorem filter_snake (cs : List Char) : (snake cs).filter (· ≠ '_') = letters cs := by
  fun_induction snake cs with
  | case1 => rfl
  | case2 c => exact filter_lower c
  | case3 c d cs hpart ih =>
      have hmark : ('_' :: lower d ++ snake cs).filter (· ≠ '_') = letters (d :: cs) := by
        rw [List.cons_append, List.filter_cons_of_neg (by simp), List.filter_append, filter_lower,
          ih, ← letters_cons]
      rw [List.append_assoc, List.filter_append, filter_lower, letters_cons c (d :: cs), ← hmark]
  | case4 c d cs hpart ih =>
      rw [List.filter_append, filter_lower, ih, ← letters_cons]

end Spelling

end RecordIdl
