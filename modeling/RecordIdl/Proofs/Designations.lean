import RecordIdl.Proofs.ExceptSequence
import RecordIdl.Proofs.ResolvedTypes
import RecordIdl.Proofs.SpelledNumbers
import RecordIdl.Role

namespace RecordIdl

namespace Record

variable {r : Record} {raw : String}

def NamesPduType (name : String) : Prop :=
  Text.equalsIgnoringAsciiCase name "pduType" = true

/-- The value of the last initial value of that name. -/
def DeclaresPduType (r : Record) (raw : String) : Prop :=
  ∃ before name after, r.initialValues = before ++ ⟨name, raw⟩ :: after ∧ NamesPduType name ∧
    ∀ w ∈ after, ¬ NamesPduType w.name

theorem pduType?_eq_some_iff : r.pduType? = some raw ↔ r.DeclaresPduType raw := by
  rw [pduType?, Option.map_eq_some_iff]
  constructor
  · rintro ⟨v, hv, rfl⟩
    obtain ⟨hname, after, before, hsplit, hafter⟩ := List.find?_eq_some_iff_append.1 hv
    refine ⟨before.reverse, v.name, after.reverse, ?_, hname, fun w hw => ?_⟩
    · rw [List.reverse_eq_iff] at hsplit
      simpa using hsplit
    · have hother := hafter w (List.mem_reverse.1 hw)
      rw [NamesPduType, Bool.not_eq_true]
      rwa [Bool.not_eq_true'] at hother
  · rintro ⟨before, name, after, hsplit, hname, hafter⟩
    refine ⟨⟨name, raw⟩, List.find?_eq_some_iff_append.2 ⟨hname, after.reverse, before.reverse,
      ?_, fun w hw => ?_⟩, rfl⟩
    · simp [hsplit]
    · rw [Bool.not_eq_true', ← Bool.not_eq_true]
      exact hafter w (List.mem_reverse.1 hw)

end Record

namespace Designation

variable {o : Overrides} {settings : Settings} {r : Record} {role : Role}
variable {raw : String} {n : Int} {fault : ModelFault}

def checkedSum? (n : Int64) (offset : UInt32) : Option Int64 :=
  if n + offset.toUInt64.toInt64 < n then none else some (n + offset.toUInt64.toInt64)

theorem toInt_offset (offset : UInt32) : offset.toUInt64.toInt64.toInt = offset.toNat := by
  have hoffset := offset.toNat_lt
  rw [Int64.toInt, UInt64.toBitVec_toInt64, BitVec.toInt_eq_toNat_of_lt]
  · simp
  · simp only [UInt64.toNat_toBitVec, UInt32.toNat_toUInt64]
    omega

/-- An offset is much less than a word holds, so a sum wraps once at most. -/
theorem toInt_sum (n : Int64) (offset : UInt32) :
    (n + offset.toUInt64.toInt64).toInt = n.toInt + offset.toNat ∨
      (n + offset.toUInt64.toInt64).toInt = n.toInt + offset.toNat - 18446744073709551616 := by
  have hoffset := offset.toNat_lt
  have hlower := n.le_toInt
  have hupper := n.toInt_lt
  rw [Int64.toInt_add, toInt_offset, Int.bmod_def]
  omega

theorem checkedSum?_eq_some_iff {n sum : Int64} {offset : UInt32} :
    checkedSum? n offset = some sum ↔ sum.toInt = n.toInt + offset.toNat := by
  have hoffset := offset.toNat_lt
  have hsum := toInt_sum n offset
  have hword := (n + offset.toUInt64.toInt64).le_toInt
  rw [checkedSum?]
  by_cases hwrap : n + offset.toUInt64.toInt64 < n
  · rw [if_pos hwrap]
    have hless := Int64.lt_iff_toInt_lt.1 hwrap
    have hupper := sum.toInt_lt
    refine iff_of_false (by simp) fun hexact => ?_
    omega
  · rw [if_neg hwrap, Option.some.injEq, ← Int64.toInt_inj]
    have hge := mt Int64.lt_iff_toInt_lt.2 hwrap
    have hupper := n.toInt_lt
    omega

/-- The id as machine words give it: a sum that is not positive is none, and any other one has to
fit into a word of 32 bits. -/
def wordId? (n : Int64) (offset : UInt32) : Option UInt32 :=
  (checkedSum? n offset).bind fun sum =>
    if sum ≤ 0 then some 0
    else if sum ≤ 4294967295 then some sum.toUInt64.toUInt32
    else none

theorem toNat_toUInt32 {sum : Int64} (hpos : 0 ≤ sum.toInt) (hfits : sum.toInt < 4294967296) :
    (sum.toUInt64.toUInt32.toNat : Int) = sum.toInt := by
  have hword : (sum.toUInt64.toNat : Int) = sum.toInt := by
    have hbound := sum.toUInt64.toNat_lt
    rw [Int64.toInt, BitVec.toInt_eq_toNat_cond, Int64.toNat_toBitVec] at hpos ⊢
    omega
  rw [UInt64.toNat_toUInt32]
  omega

theorem wordId?_eq_some_iff {n : Int64} {offset id : UInt32} :
    wordId? n offset = some id ↔
      n.toInt + offset.toNat < 4294967296 ∧ (id.toNat : Int) = max 0 (n.toInt + offset.toNat) := by
  rw [wordId?]
  cases hsum : checkedSum? n offset with
  | none =>
      -- The sum is not even a number of 64 bits.
      refine iff_of_false (by simp) fun hid => ?_
      have hlower := n.le_toInt
      have hword : (Int64.ofInt (n.toInt + offset.toNat)).toInt = n.toInt + offset.toNat :=
        Int64.toInt_ofInt_of_le (by omega) (by omega)
      rw [checkedSum?_eq_some_iff.2 hword] at hsum
      cases hsum
  | some sum =>
      have hexact := checkedSum?_eq_some_iff.1 hsum
      rw [← hexact, Option.bind_some]
      have hzero : sum ≤ 0 ↔ sum.toInt ≤ 0 := Int64.le_iff_toInt_le
      have hlast : sum ≤ 4294967295 ↔ sum.toInt ≤ 4294967295 := Int64.le_iff_toInt_le
      by_cases hnone : sum ≤ 0
      · rw [if_pos hnone, Option.some.injEq, ← UInt32.toNat_inj, UInt32.toNat_zero]
        have hneg := hzero.1 hnone
        omega
      rw [if_neg hnone]
      have hpos := mt hzero.2 hnone
      by_cases hfits : sum ≤ 4294967295
      · have hle := hlast.1 hfits
        have hlow : (sum.toUInt64.toUInt32.toNat : Int) = sum.toInt :=
          toNat_toUInt32 (by omega) (by omega)
        rw [if_pos hfits, Option.some.injEq, ← UInt32.toNat_inj]
        omega
      · have hlarge := mt hlast.2 hfits
        rw [if_neg hfits]
        exact iff_of_false (by simp) fun hid => hlarge (by omega)

theorem wordId?_eq_none_iff {n : Int64} {offset : UInt32} :
    wordId? n offset = none ↔ 4294967296 ≤ n.toInt + offset.toNat := by
  rw [Option.eq_none_iff_forall_ne_some]
  constructor
  · intro h
    by_contra hlt
    refine h (UInt32.ofNat (n.toInt + offset.toNat).toNat) (wordId?_eq_some_iff.2 ⟨by omega, ?_⟩)
    rw [UInt32.toNat_ofNat_of_lt' (by simp only [UInt32.size]; omega)]
    omega
  · intro hge id hid
    have hlt := (wordId?_eq_some_iff.1 hid).1
    omega

theorem idOf_undeclared (h : ∀ raw, ¬ r.DeclaresPduType raw) : idOf settings r = .ok 0 := by
  have hnone : r.pduType? = none := by
    rw [Option.eq_none_iff_forall_ne_some]
    intro raw hraw
    exact h raw (Record.pduType?_eq_some_iff.1 hraw)
  rw [idOf, hnone]
  rfl

theorem idOf_unspelled (hraw : r.DeclaresPduType raw) (h : ∀ n, ¬ Text.Spells64 raw n) :
    idOf settings r = .error (.badPduType r.name raw) := by
  have hnone : Text.signed64? (Text.trim raw) = none := by
    rw [Option.eq_none_iff_forall_ne_some]
    intro n hn
    exact h n (Text.signed64?_trim_eq_some_iff.1 hn)
  rw [idOf, Record.pduType?_eq_some_iff.2 hraw]
  simp only [hnone]
  rfl

theorem toInt_spelled (hn : Text.Spells64 raw n) : (Int64.ofInt n).toInt = n :=
  Int64.toInt_ofInt_of_le hn.2.1 (Int.lt_add_one_of_le hn.2.2)

/-- Words do for the id of a record what whole numbers without bound do. -/
theorem idOf_spelled (hraw : r.DeclaresPduType raw) (hn : Text.Spells64 raw n) :
    idOf settings r = (wordId? (.ofInt n) settings.idOffset).elim
      (.error (.badPduType r.name raw)) .ok := by
  have hword := toInt_spelled hn
  rw [idOf, Record.pduType?_eq_some_iff.2 hraw]
  simp only [Text.signed64?_trim_eq_some_iff.2 hn]
  have hsize : (UInt32.size : Int) = 4294967296 := rfl
  by_cases hfits : n + (settings.idOffset.toNat : Int) < UInt32.size
  · have hid : wordId? (.ofInt n) settings.idOffset =
        some (UInt32.ofNat (n + settings.idOffset.toNat).toNat) := by
      rw [wordId?_eq_some_iff, hword, UInt32.toNat_ofNat_of_lt' (by omega)]
      omega
    rw [hid, if_pos hfits]
    rfl
  · have hid : wordId? (.ofInt n) settings.idOffset = none := by
      rw [wordId?_eq_none_iff, hword]
      omega
    rw [hid, if_neg hfits]
    rfl

theorem ofRecord_eq_map : ofRecord o settings r = (idOf settings r).map
    fun id => ⟨if id = 0 then .plain else roleWithId o settings r, id⟩ := by
  rw [ofRecord]
  cases idOf settings r <;> rfl

theorem ofRecord_fails_iff : ofRecord o settings r = .error fault ↔
    ∃ raw, r.DeclaresPduType raw ∧ fault = .badPduType r.name raw ∧
      ((¬ ∃ n, Text.Spells64 raw n) ∨
        ∃ n, Text.Spells64 raw n ∧ 4294967296 ≤ n + (settings.idOffset.toNat : Int)) := by
  rw [ofRecord_eq_map, map_eq_error_iff]
  constructor
  · intro h
    by_cases hdeclared : ∃ raw, r.DeclaresPduType raw
    · obtain ⟨raw, hraw⟩ := hdeclared
      by_cases hspelled : ∃ n, Text.Spells64 raw n
      · obtain ⟨n, hn⟩ := hspelled
        rw [idOf_spelled hraw hn] at h
        cases hid : wordId? (.ofInt n) settings.idOffset with
        | some id =>
            rw [hid] at h
            cases h
        | none =>
            rw [hid] at h
            rw [wordId?_eq_none_iff, toInt_spelled hn] at hid
            exact ⟨raw, hraw, (Except.error.inj h).symm, .inr ⟨n, hn, hid⟩⟩
      · rw [idOf_unspelled hraw (not_exists.1 hspelled)] at h
        exact ⟨raw, hraw, (Except.error.inj h).symm, .inl hspelled⟩
    · rw [idOf_undeclared (not_exists.1 hdeclared)] at h
      cases h
  · rintro ⟨raw, hraw, rfl, hspelled | ⟨n, hn, hlarge⟩⟩
    · exact idOf_unspelled hraw (not_exists.1 hspelled)
    · have hnone : wordId? (.ofInt n) settings.idOffset = none := by
        rwa [wordId?_eq_none_iff, toInt_spelled hn]
      rw [idOf_spelled hraw hn, hnone]
      rfl

end Designation

end RecordIdl
