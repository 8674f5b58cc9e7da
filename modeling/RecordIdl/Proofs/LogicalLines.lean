import Mathlib.Data.List.Induction
import RecordIdl.Proofs.EscapedProperties

namespace RecordIdl

namespace Text

/-- Nothing, or lines that are all ended. -/
def Whole (cs : List Char) : Prop :=
  cs = [] ∨ ∃ body, cs = body ++ ['\n']

theorem lines_append_of_whole {cs : List Char} (h : Whole cs) (rest : List Char) :
    lines (cs ++ rest) = lines cs ++ lines rest := by
  rcases h with rfl | ⟨body, rfl⟩
  · rfl
  · have hbody := lines_append_feed body []
    rw [List.append_assoc, List.singleton_append, lines_append_feed, hbody]
    simp [lines]

end Text

namespace Properties

variable {raw prev : List Char} {raws : List (List Char)}
variable {pending : Option LogicalLine}

/-- A line behind others belongs to a property if it is neither blank nor a comment, or if it goes on
with a line that does. -/
inductive InProperty : List (List Char) → List Char → Prop
  | starts {before : List (List Char)} {raw : List Char}
      (h : isIgnored (Text.trimStart raw) = false) : InProperty before raw
  | continues {before : List (List Char)} {prev raw : List Char} (hprev : InProperty before prev)
      (h : isContinued prev = true) : InProperty (before ++ [prev]) raw

theorem inProperty_nil_iff : InProperty [] raw ↔ isIgnored (Text.trimStart raw) = false := by
  constructor
  · intro h
    generalize hnil : ([] : List (List Char)) = before at h
    cases h with
    | starts h => exact h
    | continues _ _ => simp at hnil
  · exact .starts

theorem inProperty_concat_iff : InProperty (raws ++ [prev]) raw ↔
    (InProperty raws prev ∧ isContinued prev = true) ∨ isIgnored (Text.trimStart raw) = false := by
  constructor
  · intro h
    generalize hconcat : raws ++ [prev] = before at h
    cases h with
    | starts h => exact .inr h
    | continues hprev h =>
        obtain ⟨rfl, hlast⟩ := List.append_inj' hconcat rfl
        obtain rfl := (List.cons.inj hlast).1
        exact .inl ⟨hprev, h⟩
  · rintro (⟨hprev, h⟩ | h)
    · exact .continues hprev h
    · exact .starts h

theorem isContinued_trimStart (raw : List Char) :
    isContinued (Text.trimStart raw) = isContinued raw := by
  have hblank : ∀ c ∈ raw.takeWhile Text.isBlank, Text.isBlank c = true :=
    fun c hc => List.mem_takeWhile_imp hc
  calc
    isContinued (Text.trimStart raw) =
        isContinued (raw.takeWhile Text.isBlank ++ Text.trimStart raw) :=
      (isContinued_append_eq (isContinued_of_isBlank hblank) _).symm
    _ = isContinued raw := by rw [Text.trimStart, List.takeWhile_append_dropWhile]

theorem isContinued_dropLast {text : List Char} (h : isContinued text = true) :
    isContinued text.dropLast = false := by
  rcases List.eq_nil_or_concat text with rfl | ⟨init, c, rfl⟩
  · rfl
  by_cases hc : c = '\\'
  · subst hc
    simp only [isContinued, List.concat_eq_append, List.reverse_append, List.reverse_singleton,
      List.singleton_append, List.takeWhile_cons, decide_true, if_true, List.length_cons,
      List.dropLast_concat, decide_eq_true_iff, decide_eq_false_iff_not] at h ⊢
    omega
  · simp [isContinued, hc] at h

def openText (pending : Option LogicalLine) : List Char :=
  pending.elim [] fun l => l.text.dropLast

def readOn (number : Nat) (l : LogicalLine) (rest : List (List Char)) : List LogicalLine :=
  if isContinued l.text then logicalLines number (some l) rest else l :: logicalLines number none rest

theorem logicalLines_none (h : ¬ isIgnored (Text.trimStart raw) = true) (number : Nat)
    (rest : List (List Char)) : logicalLines number none (raw :: rest) =
      readOn (number + 1) ⟨number, raw, Text.trimStart raw⟩ rest := by
  rw [logicalLines, if_neg h]
  rfl

theorem logicalLines_some (number : Nat) (l : LogicalLine) (raw : List Char)
    (rest : List (List Char)) : logicalLines number (some l) (raw :: rest) =
      readOn (number + 1) { l with text := l.text.dropLast ++ Text.trimStart raw } rest := by
  rw [logicalLines]
  rfl

/-- What `f` tells of a line is what `g` tells of it `k` lines further down. Both tell its text, and
agree on what they tell next when the text goes on. -/
structure Alike {β : Type} (k : Nat) (f g : LogicalLine → β) : Prop where
  starts : ∀ number raw text, f ⟨number, raw, text⟩ = g ⟨number + k, raw, text⟩
  text_eq : ∀ {l l' : LogicalLine}, f l = g l' → l.text = l'.text
  goesOn : ∀ {l l' : LogicalLine} (text : List Char), f l = g l' →
    f { l with text := text } = g { l' with text := text }

namespace Alike

variable {β : Type} {k : Nat} {f g : LogicalLine → β} {l l' : LogicalLine}
variable {pending' : Option LogicalLine}

theorem readOn_of_logicalLines (h : Alike k f g)
    (hrest : ∀ number pending pending', pending.map f = pending'.map g →
      (logicalLines number pending raws).map f = (logicalLines (number + k) pending' raws).map g)
    (hl : f l = g l') (number : Nat) :
    (readOn number l raws).map f = (readOn (number + k) l' raws).map g := by
  rw [Properties.readOn, Properties.readOn, h.text_eq hl]
  split
  · exact hrest number (some l) (some l') (congrArg some hl)
  · rw [List.map_cons, List.map_cons, hl, hrest number none none rfl]

theorem logicalLines (h : Alike k f g) (raws : List (List Char)) (number : Nat)
    (hpending : pending.map f = pending'.map g) :
    (Properties.logicalLines number pending raws).map f =
      (Properties.logicalLines (number + k) pending' raws).map g := by
  induction raws generalizing number pending pending' with
  | nil =>
      cases pending with
      | none =>
          obtain rfl : pending' = none := by simpa using hpending.symm
          rfl
      | some l =>
          obtain ⟨l', rfl, hl⟩ := Option.map_eq_some_iff.1 hpending.symm
          -- What is open at the end of the text is a line of its own, without its backslash.
          exact congrArg List.singleton (h.text_eq hl.symm ▸ h.goesOn _ hl.symm)
  | cons raw raws ih =>
      cases pending with
      | none =>
          obtain rfl : pending' = none := by simpa using hpending.symm
          by_cases hstart : isIgnored (Text.trimStart raw) = true
          · rw [Properties.logicalLines, Properties.logicalLines, if_pos hstart, if_pos hstart,
              Nat.add_right_comm]
            exact ih (number + 1) rfl
          · rw [logicalLines_none hstart, logicalLines_none hstart, Nat.add_right_comm]
            exact h.readOn_of_logicalLines (fun number _ _ => ih number) (h.starts number raw _) _
      | some l =>
          obtain ⟨l', rfl, hl⟩ := Option.map_eq_some_iff.1 hpending.symm
          rw [logicalLines_some, logicalLines_some, Nat.add_right_comm, ← h.text_eq hl.symm]
          exact h.readOn_of_logicalLines (fun number _ _ => ih number) (h.goesOn _ hl.symm) _

theorem readOn (h : Alike k f g) (hl : f l = g l') (number : Nat) (raws : List (List Char)) :
    (Properties.readOn number l raws).map f = (Properties.readOn (number + k) l' raws).map g :=
  h.readOn_of_logicalLines (fun number _ _ => h.logicalLines raws number) hl number

end Alike

/-- The property that the lines `raws` leave open. -/
structure Leaves (raws : List (List Char)) (pending : Option LogicalLine) : Prop where
  continued : ∀ l ∈ pending, isContinued l.text = true
  inProperty_iff : ∀ raw, InProperty raws raw ↔
    pending.isSome = true ∨ isIgnored (Text.trimStart raw) = false

namespace Leaves

theorem isContinued_openText (h : Leaves raws pending) : isContinued (openText pending) = false := by
  cases pending with
  | none => rfl
  | some l => exact isContinued_dropLast (h.continued l rfl)

theorem exists_readOn (h : Leaves raws pending) (hraw : InProperty raws raw) (number : Nat) :
    ∃ l : LogicalLine, l.text = openText pending ++ Text.trimStart raw ∧
      ∀ rest, logicalLines number pending (raw :: rest) = readOn (number + 1) l rest := by
  cases pending with
  | some l => exact ⟨_, rfl, logicalLines_some number l raw⟩
  | none =>
      have hstart : ¬ isIgnored (Text.trimStart raw) = true := by
        simpa using (h.inProperty_iff raw).1 hraw
      exact ⟨_, rfl, logicalLines_none hstart number⟩

theorem of_inProperty (h : Leaves raws pending) (hraw : InProperty raws raw) (number : Nat) :
    ∃ done pending', Leaves (raws ++ [raw]) pending' ∧ ∀ rest,
      logicalLines number pending (raw :: rest) = done ++ logicalLines (number + 1) pending' rest := by
  obtain ⟨l, htext, hread⟩ := h.exists_readOn hraw number
  have hl : isContinued l.text = isContinued raw := by
    rw [htext, isContinued_append_eq h.isContinued_openText, isContinued_trimStart]
  cases hcontinued : isContinued raw with
  | true =>
      rw [hcontinued] at hl
      refine ⟨[], some l, ⟨by simpa using hl, fun raw' => ?_⟩, fun rest => ?_⟩
      · rw [inProperty_concat_iff, and_iff_right hraw, hcontinued, Option.isSome_some]
      · rw [hread, readOn, if_pos hl, List.nil_append]
  | false =>
      rw [hcontinued] at hl
      refine ⟨[l], none, ⟨by simp, fun raw' => ?_⟩, fun rest => ?_⟩
      · simp [inProperty_concat_iff, hcontinued]
      · rw [hread, readOn, if_neg (hl ▸ Bool.false_ne_true), List.singleton_append]

theorem of_not_inProperty (h : Leaves raws pending) (hraw : ¬ InProperty raws raw) (number : Nat) :
    Leaves (raws ++ [raw]) none ∧ ∀ rest,
      logicalLines number pending (raw :: rest) = logicalLines (number + 1) none rest := by
  have hignored := hraw
  rw [h.inProperty_iff, not_or, Bool.not_eq_true, Option.isSome_eq_false_iff,
    Option.isNone_iff_eq_none, Bool.not_eq_false] at hignored
  obtain ⟨rfl, hstart⟩ := hignored
  refine ⟨⟨by simp, fun raw' => by simp [inProperty_concat_iff, hraw]⟩, fun rest => ?_⟩
  rw [logicalLines, if_pos hstart]

end Leaves

theorem exists_leaves (number : Nat) (raws : List (List Char)) : ∃ done pending,
    Leaves raws pending ∧ ∀ rest, logicalLines number none (raws ++ rest) =
      done ++ logicalLines (number + raws.length) pending rest := by
  induction raws using List.reverseRecOn with
  | nil => exact ⟨[], none, ⟨by simp, fun raw => by simp [inProperty_nil_iff]⟩, fun rest => rfl⟩
  | append_singleton raws raw ih =>
      obtain ⟨done, pending, hleaves, hread⟩ := ih
      -- The last line is read from what those before it leave, and leaves something in its turn.
      obtain ⟨more, pending', hleaves', hmore⟩ : ∃ more pending', Leaves (raws ++ [raw]) pending' ∧
          ∀ rest, logicalLines (number + raws.length) pending (raw :: rest) =
            more ++ logicalLines (number + raws.length + 1) pending' rest := by
        by_cases hraw : InProperty raws raw
        · exact hleaves.of_inProperty hraw _
        · exact ⟨[], none, hleaves.of_not_inProperty hraw _⟩
      refine ⟨done ++ more, pending', hleaves', fun rest => ?_⟩
      rw [List.append_assoc, List.singleton_append, hread, hmore, List.length_append,
        List.length_singleton, ← Nat.add_assoc, List.append_assoc]

end Properties

end RecordIdl
