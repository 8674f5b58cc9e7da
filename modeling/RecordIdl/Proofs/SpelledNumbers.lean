import Mathlib.Data.List.TakeWhile
import RecordIdl.Proofs.EscapedProperties
import RecordIdl.Text.Number

namespace RecordIdl

namespace Text

variable {cs digits : List Char} {n : Int}

def AreDigits (digits : List Char) : Prop :=
  digits ≠ [] ∧ ∀ c ∈ digits, c.isDigit = true

theorem digits?_eq_some_iff {m : Nat} :
    digits? digits = some m ↔ AreDigits digits ∧ Nat.ofDigitChars 10 digits 0 = m := by
  rw [digits?, AreDigits, digitsValue, ← Nat.ofDigitChars_eq_foldl, ← List.all_eq_true]
  by_cases h : digits ≠ [] ∧ digits.all Char.isDigit = true
  · rw [if_pos h, Option.some.injEq, and_iff_right h]
  · rw [if_neg h]
    exact iff_of_false (by simp) fun hdigits => h hdigits.1

/-- Digits with or without a sign, and the number they are of. -/
inductive Spells : List Char → Int → Prop
  | unsigned {digits : List Char} (h : AreDigits digits) :
      Spells digits (Nat.ofDigitChars 10 digits 0)
  | plus {digits : List Char} (h : AreDigits digits) :
      Spells ('+' :: digits) (Nat.ofDigitChars 10 digits 0)
  | minus {digits : List Char} (h : AreDigits digits) :
      Spells ('-' :: digits) (-Nat.ofDigitChars 10 digits 0)

theorem integer?_minus (cs : List Char) :
    integer? ('-' :: cs) = (digits? cs).map fun m : Nat => -(m : Int) := by
  rw [integer?]
  cases digits? cs <;> rfl

theorem integer?_of_unsigned (h : ∀ rest, cs ≠ '-' :: rest) :
    integer? cs = (natural? cs).map fun m : Nat => (m : Int) := by
  rw [integer?]
  · cases natural? cs <;> rfl
  · exact h

theorem natural?_plus (cs : List Char) : natural? ('+' :: cs) = digits? cs := by
  rw [natural?]

theorem natural?_of_unsigned (h : ∀ rest, cs ≠ '+' :: rest) : natural? cs = digits? cs := by
  rw [natural?]
  exact h

theorem AreDigits.ne_cons (h : AreDigits digits) {sign : Char} (hsign : sign.isDigit = false)
    (rest : List Char) : digits ≠ sign :: rest := by
  rintro rfl
  exact Bool.false_ne_true (hsign.symm.trans (h.2 sign List.mem_cons_self))

theorem Spells.of_integer? (h : integer? cs = some n) : Spells cs n := by
  by_cases hminus : ∃ rest, cs = '-' :: rest
  · obtain ⟨rest, rfl⟩ := hminus
    rw [integer?_minus] at h
    obtain ⟨m, hm, rfl⟩ := Option.map_eq_some_iff.1 h
    obtain ⟨hdigits, rfl⟩ := digits?_eq_some_iff.1 hm
    exact .minus hdigits
  rw [integer?_of_unsigned (not_exists.1 hminus)] at h
  obtain ⟨m, hm, rfl⟩ := Option.map_eq_some_iff.1 h
  by_cases hplus : ∃ rest, cs = '+' :: rest
  · obtain ⟨rest, rfl⟩ := hplus
    rw [natural?_plus] at hm
    obtain ⟨hdigits, rfl⟩ := digits?_eq_some_iff.1 hm
    exact .plus hdigits
  · rw [natural?_of_unsigned (not_exists.1 hplus)] at hm
    obtain ⟨hdigits, rfl⟩ := digits?_eq_some_iff.1 hm
    exact .unsigned hdigits

theorem integer?_eq_some_iff : integer? cs = some n ↔ Spells cs n := by
  refine ⟨Spells.of_integer?, fun h => ?_⟩
  cases h with
  | unsigned hdigits =>
      rw [integer?_of_unsigned (hdigits.ne_cons (by decide)),
        natural?_of_unsigned (hdigits.ne_cons (by decide)),
        digits?_eq_some_iff.2 ⟨hdigits, rfl⟩, Option.map_some]
  | plus hdigits =>
      rw [integer?_of_unsigned (by simp), natural?_plus, digits?_eq_some_iff.2 ⟨hdigits, rfl⟩,
        Option.map_some]
  | minus hdigits =>
      rw [integer?_minus, digits?_eq_some_iff.2 ⟨hdigits, rfl⟩, Option.map_some]

theorem isBlank_of_isDigit {c : Char} (hc : c.isDigit = true) : isBlank c = false := by
  have hdigit : 48 ≤ c.toNat ∧ c.toNat ≤ 57 := by
    simpa [Char.isDigit, UInt32.le_iff_toNat_le] using hc
  have hapart : ∀ range ∈ blankRanges, range.last < 48 ∨ 57 < range.first := by decide
  rw [isBlank, List.any_eq_false]
  intro range hrange hcontains
  simp only [CodeRange.contains, Bool.and_eq_true, decide_eq_true_iff] at hcontains
  rcases hapart range hrange with hbefore | hafter
  · omega
  · omega

theorem Spells.not_blank (h : Spells cs n) : ∀ c ∈ cs, isBlank c = false := by
  intro c hc
  cases h with
  | unsigned hdigits => exact isBlank_of_isDigit (hdigits.2 c hc)
  | plus hdigits | minus hdigits =>
      rcases List.mem_cons.1 hc with rfl | hc
      · decide
      · exact isBlank_of_isDigit (hdigits.2 c hc)

theorem Spells.ne_nil (h : Spells cs n) : cs ≠ [] := by
  cases h with
  | unsigned hdigits => exact hdigits.1
  | plus _ | minus _ => exact List.cons_ne_nil _ _

theorem exists_trim_append (cs : List Char) : ∃ front back,
    cs = front ++ trimEnd (trimStart cs) ++ back ∧ ∀ c ∈ front ++ back, isBlank c = true := by
  refine ⟨cs.takeWhile isBlank, ((trimStart cs).reverse.takeWhile isBlank).reverse, ?_, ?_⟩
  · calc
      cs = cs.takeWhile isBlank ++ trimStart cs := List.takeWhile_append_dropWhile.symm
      _ = cs.takeWhile isBlank ++ (trimStart cs).reverse.reverse := by rw [List.reverse_reverse]
      _ = cs.takeWhile isBlank ++ (trimEnd (trimStart cs) ++
            ((trimStart cs).reverse.takeWhile isBlank).reverse) := by
          rw [trimEnd, ← List.reverse_append, List.takeWhile_append_dropWhile]
      _ = _ := (List.append_assoc _ _ _).symm
  · intro c hc
    rcases List.mem_append.1 hc with hc | hc
    · exact List.mem_takeWhile_imp hc
    · exact List.mem_takeWhile_imp (List.mem_reverse.1 hc)

theorem trim_append {front body back : List Char} (hbody : body ≠ [])
    (hinner : ∀ c ∈ body, isBlank c = false) (hblank : ∀ c ∈ front ++ back, isBlank c = true) :
    trimEnd (trimStart (front ++ body ++ back)) = body := by
  obtain ⟨c, rest, rfl⟩ := List.exists_cons_of_ne_nil hbody
  rw [List.append_assoc, trimStart_append fun d hd => hblank d (List.mem_append_left _ hd),
    List.cons_append, trimStart_cons (hinner c List.mem_cons_self), ← List.cons_append,
    trimEnd_append fun d hd => hblank d (List.mem_append_right _ hd), trimEnd_eq_self_iff]
  intro d hd
  exact hinner d (List.mem_of_getLast? hd)

/-- A number of 64 bits, with white space around its text. -/
def Spells64 (raw : String) (n : Int) : Prop :=
  (∃ front body back, raw.toList = front ++ body ++ back ∧
    (∀ c ∈ front ++ back, isBlank c = true) ∧ Spells body n) ∧
  -9223372036854775808 ≤ n ∧ n ≤ 9223372036854775807

theorem signed64?_trim_eq_some_iff {raw : String} :
    signed64? (trim raw) = some n ↔ Spells64 raw n := by
  have hread : signed64? (trim raw) = some n ↔
      Spells (trimEnd (trimStart raw.toList)) n ∧
        -9223372036854775808 ≤ n ∧ n ≤ 9223372036854775807 := by
    simp only [signed64?, trim, String.toList_ofList, Option.bind_eq_some_iff,
      integer?_eq_some_iff, Option.ite_none_right_eq_some, Option.some.injEq]
    constructor
    · rintro ⟨m, hm, hbound, rfl⟩
      exact ⟨hm, hbound⟩
    · rintro ⟨hn, hbound⟩
      exact ⟨n, hn, hbound, rfl⟩
  rw [hread, Spells64]
  refine and_congr_left fun _ => ⟨fun h => ?_, ?_⟩
  · obtain ⟨front, back, hsplit, hblank⟩ := exists_trim_append raw.toList
    exact ⟨front, _, back, hsplit, hblank, h⟩
  · rintro ⟨front, body, back, hsplit, hblank, hbody⟩
    rwa [hsplit, trim_append hbody.ne_nil hbody.not_blank hblank]

end Text

end RecordIdl
