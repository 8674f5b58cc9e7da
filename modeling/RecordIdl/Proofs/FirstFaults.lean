import RecordIdl.Proofs.BuildFaults
import RecordIdl.Proofs.DescribedRecords
import RecordIdl.Proofs.LoopPaths

namespace RecordIdl.Consistency

variable {l : Lineage} {r : Record} {fault : ModelFault}
variable {record : String} {names seen : List String} {f : Field} {fs : List Field}

structure SoundFields (fs : List Field) : Prop where
  named : ∀ f ∈ fs, f.name ≠ ""
  typed : ∀ f ∈ fs, f.typeName ≠ ""
  distinct : (fs.map Field.name).Nodup

def SoundPduType (r : Record) : Prop :=
  ∀ raw, r.DeclaresPduType raw → ∃ n, Text.Spells64 raw n

/-- What the checks ask of a record. Its ancestors end at a root or outside the set. -/
structure Sound (l : Lineage) (r : Record) : Prop where
  fields : SoundFields r.fields
  pduType : SoundPduType r
  ancestry : ∃ ancestors outside, l.Chain r ancestors outside

/-- What is wrong with a field behind fields of these names. -/
inductive FieldFault (record : String) (names : List String) (f : Field) : ModelFault → Prop
  | unnamed (h : f.name = "") : FieldFault record names f (.unnamedField record)
  | untyped (hname : f.name ≠ "") (h : f.typeName = "") :
      FieldFault record names f (.untypedField record f.name)
  | duplicate (hname : f.name ≠ "") (htype : f.typeName ≠ "") (h : f.name ∈ names) :
      FieldFault record names f (.duplicateField record f.name)

/-- What is wrong first with a record. -/
inductive FirstFault (l : Lineage) (r : Record) : ModelFault → Prop
  | field {before after : List Field} {f : Field} {fault : ModelFault}
      (hsplit : r.fields = before ++ f :: after) (hbefore : SoundFields before)
      (h : FieldFault r.name (before.map Field.name) f fault) : FirstFault l r fault
  | pduType {raw : String} (hfields : SoundFields r.fields) (hraw : r.DeclaresPduType raw)
      (h : ∀ n, ¬ Text.Spells64 raw n) : FirstFault l r (.badPduType r.name raw)
  | ancestry {path : List String} (hfields : SoundFields r.fields) (hpdu : SoundPduType r)
      (h : l.LoopPath r path) : FirstFault l r (.cyclicInheritance path)

theorem FieldFault.mono {names' : List String} (hsub : names ⊆ names')
    (h : FieldFault record names f fault) : FieldFault record names' f fault := by
  cases h with
  | unnamed h => exact .unnamed h
  | untyped hname h => exact .untyped hname h
  | duplicate hname htype h => exact .duplicate hname htype (hsub h)

theorem checkFields_append (xs ys : List Field) :
    checkFields record seen (xs ++ ys) = (checkFields record seen xs >>= fun _ =>
      checkFields record ((xs.map Field.name).reverse ++ seen) ys) := by
  induction xs generalizing seen with
  | nil => rfl
  | cons f xs ih =>
      rw [List.cons_append, checkFields, checkFields, List.map_cons, List.reverse_cons,
        List.append_assoc, List.singleton_append, ih]
      split_ifs <;> rfl

theorem checkFields_singleton_eq_error_iff :
    checkFields record seen [f] = .error fault ↔ FieldFault record seen f fault := by
  rw [checkFields, checkFields]
  constructor
  · intro h
    split_ifs at h with hname htype hseen
    · cases h
      exact .unnamed hname
    · cases h
      exact .untyped hname htype
    · cases h
      exact .duplicate hname htype hseen
    · cases h
  · intro h
    cases h with
    | unnamed h => rw [if_pos h]; rfl
    | untyped hname h => rw [if_neg hname, if_pos h]; rfl
    | duplicate hname htype h => rw [if_neg hname, if_neg htype, if_pos h]; rfl

theorem checkFields_eq_error_iff :
    checkFields record seen fs = .error fault ↔ ∃ before f after, fs = before ++ f :: after ∧
      checkFields record seen before = .ok () ∧
      FieldFault record ((before.map Field.name).reverse ++ seen) f fault := by
  constructor
  · intro h
    induction fs generalizing seen with
    | nil => cases h
    | cons f fs ih =>
        rw [← List.singleton_append, checkFields_append, bind_eq_error_iff] at h
        rcases h with h | ⟨_, hf, h⟩
        · exact ⟨[], f, fs, rfl, rfl, checkFields_singleton_eq_error_iff.1 h⟩
        · obtain ⟨before, g, after, rfl, hbefore, hg⟩ := ih h
          refine ⟨f :: before, g, after, rfl, ?_, by simpa using hg⟩
          rw [← List.singleton_append, checkFields_append, bind_eq_ok_iff]
          exact ⟨(), hf, hbefore⟩
  · rintro ⟨before, f, after, rfl, hbefore, hf⟩
    rw [checkFields_append, bind_eq_error_iff]
    refine .inr ⟨(), hbefore, ?_⟩
    rw [← List.singleton_append, checkFields_append, bind_eq_error_iff]
    exact .inl (checkFields_singleton_eq_error_iff.2 hf)

theorem checkFields_nil_eq_ok_iff : checkFields record [] fs = .ok () ↔ SoundFields fs := by
  rw [checkFields_eq_ok_iff]
  constructor
  · rintro ⟨h, hdistinct⟩
    exact ⟨fun f hf => (h f hf).1, fun f hf => (h f hf).2.1, hdistinct⟩
  · intro h
    exact ⟨fun f hf => ⟨h.named f hf, h.typed f hf, List.not_mem_nil⟩, h.distinct⟩

theorem checkPduType_eq_error_iff : checkPduType r = .error fault ↔
    ∃ raw, r.DeclaresPduType raw ∧ (∀ n, ¬ Text.Spells64 raw n) ∧ fault = .badPduType r.name raw := by
  constructor
  · intro h
    obtain ⟨raw, hraw, hnone, rfl⟩ := checkPduType_eq_error h
    refine ⟨raw, Record.pduType?_eq_some_iff.1 hraw, fun n hn => ?_, rfl⟩
    rw [Text.signed64?_trim_eq_some_iff.2 hn] at hnone
    cases hnone
  · rintro ⟨raw, hraw, hspell, rfl⟩
    have hnone : Text.signed64? (Text.trim raw) = none := by
      rw [Option.eq_none_iff_forall_ne_some]
      exact fun n hn => hspell n (Text.signed64?_trim_eq_some_iff.1 hn)
    simp only [checkPduType, Record.pduType?_eq_some_iff.2 hraw, hnone]
    rfl

theorem checkPduType_eq_ok_iff : checkPduType r = .ok () ↔ SoundPduType r := by
  constructor
  · exact fun h raw hraw => Designation.exists_spelled h hraw
  · intro h
    rw [← exists_ok_unit_iff, exists_ok_iff]
    intro fault hfault
    obtain ⟨raw, hraw, hspell, -⟩ := checkPduType_eq_error_iff.1 hfault
    obtain ⟨n, hn⟩ := h raw hraw
    exact hspell n hn

theorem checkAncestry_eq_error_iff (hr : r ∈ l.set.records) : checkAncestry l r = .error fault ↔
    ∃ path, l.LoopPath r path ∧ fault = .cyclicInheritance path := by
  have hself := RecordSet.get?_of_mem hr
  constructor
  · intro h
    obtain ⟨path, hpath, rfl⟩ := checkAncestry_eq_error h
    exact ⟨path, (Lineage.ancestry_eq_loops_iff hself).1 hpath, rfl⟩
  · rintro ⟨path, hpath, rfl⟩
    rw [checkAncestry, (Lineage.ancestry_eq_loops_iff hself).2 hpath]
    rfl

theorem checkAncestry_eq_ok_iff (hr : r ∈ l.set.records) :
    checkAncestry l r = .ok () ↔ ∃ ancestors outside, l.Chain r ancestors outside := by
  constructor
  · intro h
    rcases l.exists_chain_or_loops r with hc | ⟨path, hpath⟩
    · exact hc
    · rw [checkAncestry, hpath] at h
      cases h
  · rintro ⟨ancestors, outside, hc⟩
    rw [checkAncestry, (Lineage.ancestry_eq_ends_iff (RecordSet.get?_of_mem hr)).2 hc]
    rfl

theorem checkRecord_eq_ok_iff (hr : r ∈ l.set.records) : checkRecord l r = .ok () ↔ Sound l r := by
  rw [checkRecord, bind_eq_ok_iff]
  constructor
  · rintro ⟨_, hfields, h⟩
    obtain ⟨_, hpdu, hancestry⟩ := bind_eq_ok_iff.1 h
    exact ⟨checkFields_nil_eq_ok_iff.1 hfields, checkPduType_eq_ok_iff.1 hpdu,
      (checkAncestry_eq_ok_iff hr).1 hancestry⟩
  · rintro ⟨hfields, hpdu, hancestry⟩
    exact ⟨(), checkFields_nil_eq_ok_iff.2 hfields, bind_eq_ok_iff.2
      ⟨(), checkPduType_eq_ok_iff.2 hpdu, (checkAncestry_eq_ok_iff hr).2 hancestry⟩⟩

theorem checkRecord_eq_error_iff (hr : r ∈ l.set.records) :
    checkRecord l r = .error fault ↔ FirstFault l r fault := by
  rw [checkRecord, bind_eq_error_iff]
  constructor
  · rintro (h | ⟨_, hfields, h⟩)
    · obtain ⟨before, f, after, hsplit, hbefore, hf⟩ := checkFields_eq_error_iff.1 h
      exact .field hsplit (checkFields_nil_eq_ok_iff.1 hbefore) (hf.mono (by simp))
    rw [checkFields_nil_eq_ok_iff] at hfields
    rcases bind_eq_error_iff.1 h with h | ⟨_, hpdu, h⟩
    · obtain ⟨raw, hraw, hspell, rfl⟩ := checkPduType_eq_error_iff.1 h
      exact .pduType hfields hraw hspell
    · obtain ⟨path, hpath, rfl⟩ := (checkAncestry_eq_error_iff hr).1 h
      exact .ancestry hfields (checkPduType_eq_ok_iff.1 hpdu) hpath
  · intro h
    cases h with
    | field hsplit hbefore hf =>
        refine .inl (checkFields_eq_error_iff.2 ⟨_, _, _, hsplit, ?_, hf.mono (by simp)⟩)
        exact checkFields_nil_eq_ok_iff.2 hbefore
    | pduType hfields hraw hspell =>
        refine .inr ⟨(), checkFields_nil_eq_ok_iff.2 hfields, bind_eq_error_iff.2 (.inl ?_)⟩
        exact checkPduType_eq_error_iff.2 ⟨_, hraw, hspell, rfl⟩
    | ancestry hfields hpdu hpath =>
        refine .inr ⟨(), checkFields_nil_eq_ok_iff.2 hfields, bind_eq_error_iff.2 (.inr ⟨(), ?_⟩)⟩
        exact ⟨checkPduType_eq_ok_iff.2 hpdu, (checkAncestry_eq_error_iff hr).2 ⟨_, hpath, rfl⟩⟩

/-- A set passes exactly if all its records are sound. Otherwise the first of them that is not gives
the fault, and its other faults are not looked for. -/
theorem check_finds_first_fault (l : Lineage) :
    (check l = .ok () ↔ ∀ r ∈ l.set.records, Sound l r) ∧
    ∀ fault, check l = .error fault ↔ ∃ before r after, l.set.records = before ++ r :: after ∧
      (∀ q ∈ before, Sound l q) ∧ ¬ Sound l r ∧ FirstFault l r fault := by
  rw [check, List.forM_eq_forM]
  refine ⟨?_, fun fault => ?_⟩
  · rw [forM_eq_ok_iff]
    exact forall₂_congr fun r hr => checkRecord_eq_ok_iff hr
  rw [forM_eq_error_iff]
  refine exists₃_congr fun before r after => and_congr_right fun hsplit => ?_
  have hr : r ∈ l.set.records := hsplit ▸ List.mem_append_right before List.mem_cons_self
  have hbefore : (∀ q ∈ before, checkRecord l q = .ok ()) ↔ ∀ q ∈ before, Sound l q :=
    forall₂_congr fun q hq => checkRecord_eq_ok_iff (hsplit ▸ List.mem_append_left _ hq)
  rw [hbefore, ← checkRecord_eq_ok_iff hr, ← checkRecord_eq_error_iff hr]
  refine and_congr_right fun _ => (and_iff_right_of_imp fun h hok => ?_).symm
  cases h.symm.trans hok

end RecordIdl.Consistency
