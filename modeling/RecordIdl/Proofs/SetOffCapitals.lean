import Mathlib.Data.Finset.Filter
import Mathlib.Data.Finset.Range
import RecordIdl.Spelling

namespace RecordIdl.Spelling

open Text

variable {cs : List Char} {P Q : Finset ℕ}

/-- The positions of the characters that are set off: capitals behind a character of the same line
that is not set off itself. -/
structure SetOff (cs : List Char) (P : Finset ℕ) : Prop where
  zero : 0 ∉ P
  succ : ∀ i, i + 1 ∈ P ↔ cs[i + 1]?.any isUppercase = true ∧ cs[i]? ≠ some '\n' ∧ i ∉ P

def spelled (P : Finset ℕ) (c : Char × ℕ) : List Char :=
  (if c.2 ∈ P then ['_'] else []) ++ lower c.1

theorem spelled_of_mem {c : Char} {i : ℕ} (hi : i ∈ P) : spelled P (c, i) = '_' :: lower c :=
  congrArg (· ++ lower c) (if_pos hi)

theorem spelled_of_not_mem {c : Char} {i : ℕ} (hi : i ∉ P) : spelled P (c, i) = lower c :=
  congrArg (· ++ lower c) (if_neg hi)

def isSetOff (cs : List Char) : ℕ → Bool
  | 0 => false
  | i + 1 => cs[i + 1]?.any isUppercase && cs[i]? != some '\n' && !isSetOff cs i

def setOff (cs : List Char) : Finset ℕ :=
  (Finset.range cs.length).filter (isSetOff cs ·)

theorem lt_length_of_isSetOff {i : ℕ} (h : isSetOff cs i = true) : i < cs.length := by
  cases i with
  | zero => cases h
  | succ i =>
      by_contra hle
      rw [isSetOff, List.getElem?_eq_none (Nat.not_lt.1 hle)] at h
      cases h

theorem mem_setOff {i : ℕ} : i ∈ setOff cs ↔ isSetOff cs i = true := by
  rw [setOff, Finset.mem_filter, Finset.mem_range]
  exact and_iff_right_of_imp lt_length_of_isSetOff

theorem setOff_setOff (cs : List Char) : SetOff cs (setOff cs) := by
  constructor
  · rw [mem_setOff]
    exact Bool.false_ne_true
  · intro i
    rw [mem_setOff, mem_setOff, isSetOff, Bool.and_eq_true, Bool.and_eq_true, bne_iff_ne,
      Bool.not_eq_true', ← Bool.not_eq_true, and_assoc]

theorem drop_succ {c : Char} {rest : List Char} {k : ℕ} (h : cs.drop k = c :: rest) :
    cs.drop (k + 1) = rest := by
  rw [← List.tail_drop, h, List.tail_cons]

namespace SetOff

theorem unique (hP : SetOff cs P) (hQ : SetOff cs Q) : P = Q := by
  ext i
  induction i with
  | zero => exact iff_of_false hP.zero hQ.zero
  | succ i ih => rw [hP.succ, hQ.succ, ih]

theorem not_mem_succ (hP : SetOff cs P) {i : ℕ} (hi : i ∈ P) : i + 1 ∉ P :=
  fun h => ((hP.succ i).1 h).2.2 hi

theorem mem_succ_iff (hP : SetOff cs P) {k : ℕ} {c d : Char} {rest : List Char}
    (hrest : cs.drop k = c :: d :: rest) (hk : k ∉ P) :
    k + 1 ∈ P ↔ (isUppercase d && c != '\n') = true := by
  have hc : cs[k]? = some c := by rw [← List.head?_drop, hrest, List.head?_cons]
  have hd : cs[k + 1]? = some d := by rw [← List.head?_drop, drop_succ hrest, List.head?_cons]
  rw [hP.succ, hc, hd, and_iff_left hk, Bool.and_eq_true, bne_iff_ne, Option.any_some,
    Ne, Option.some.injEq]

/-- Conversion of the characters from position `k` on. That position is not set off: it is never the
second of a pair. -/
theorem snake_eq (hP : SetOff cs P) {rest : List Char} {k : ℕ} (hrest : cs.drop k = rest)
    (hk : k ∉ P) : snake rest = (rest.zipIdx k).flatMap (spelled P) := by
  fun_induction snake rest generalizing k with
  | case1 => rfl
  | case2 c => rw [List.zipIdx_singleton, List.flatMap_singleton, spelled_of_not_mem hk]
  | case3 c d rest hpart ih =>
      have hmem := (hP.mem_succ_iff hrest hk).2 hpart
      have hlater := drop_succ (drop_succ hrest)
      rw [List.zipIdx_cons, List.zipIdx_cons, List.flatMap_cons, List.flatMap_cons,
        spelled_of_not_mem hk, spelled_of_mem hmem, ih hlater (hP.not_mem_succ hmem)]
      exact List.append_assoc ..
  | case4 c d rest hpart ih =>
      have hmem := mt (hP.mem_succ_iff hrest hk).1 hpart
      rw [List.zipIdx_cons, List.flatMap_cons, spelled_of_not_mem hk, ih (drop_succ hrest) hmem]

end SetOff

/-- Every character is written in lower case, once and in its place, and underscores part it from
the one before exactly at the positions that are set off: never two in a row, and never the
first. -/
theorem capitals_set_off (s : String) : ∃ P : Finset ℕ,
    (∀ Q, SetOff s.toList Q ↔ Q = P) ∧
    (snakeCase s).toList = s.toList.zipIdx.flatMap (spelled P) ∧
    0 ∉ P ∧ ∀ i, ¬ (i ∈ P ∧ i + 1 ∈ P) := by
  have hP := setOff_setOff s.toList
  refine ⟨setOff s.toList, fun Q => ⟨fun hQ => hQ.unique hP, ?_⟩, ?_, hP.zero, ?_⟩
  · rintro rfl
    exact hP
  · rw [snakeCase, String.toList_ofList]
    exact hP.snake_eq List.drop_zero hP.zero
  · rintro i ⟨hi, hsucc⟩
    exact hP.not_mem_succ hi hsucc

example : snakeCase "entityIDS" = "entity_id_s" := by decide +kernel

end RecordIdl.Spelling
