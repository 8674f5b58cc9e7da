namespace RecordIdl.Text

def utf8Width : List Char → Nat
  | [] => 0
  | c :: cs => c.utf8Size + utf8Width cs

structure Utf8Sequence where
  bits : Nat
  owed : Nat
  low : Nat
  high : Nat

inductive Utf8Lead
  | complete (c : Char)
  | sequence (s : Utf8Sequence)
  | invalid

/-- What a byte starts. The narrowed ranges shut out overlong forms, surrogates and code points
above U+10FFFF. -/
def Utf8Lead.ofByte (b : Nat) : Utf8Lead :=
  if b ≤ 0x7F then .complete (Char.ofNat b)
  else if 0xC2 ≤ b ∧ b ≤ 0xDF then .sequence ⟨b - 0xC0, 1, 0x80, 0xBF⟩
  else if b = 0xE0 then .sequence ⟨0, 2, 0xA0, 0xBF⟩
  else if b = 0xED then .sequence ⟨0xD, 2, 0x80, 0x9F⟩
  else if 0xE1 ≤ b ∧ b ≤ 0xEF then .sequence ⟨b - 0xE0, 2, 0x80, 0xBF⟩
  else if b = 0xF0 then .sequence ⟨0, 3, 0x90, 0xBF⟩
  else if b = 0xF4 then .sequence ⟨4, 3, 0x80, 0x8F⟩
  else if 0xF1 ≤ b ∧ b ≤ 0xF3 then .sequence ⟨b - 0xF0, 3, 0x80, 0xBF⟩
  else .invalid

def replacement : Char := '\uFFFD'

/-- The text of some bytes, with one replacement character for each longest piece that starts a
character without completing it, and for each byte that can start none. -/
def decodeLossily : Option Utf8Sequence → List UInt8 → List Char
  | none, [] => []
  | some _, [] => [replacement]
  | pending, b :: bs =>
    let fresh := fun _ : Unit =>
      match Utf8Lead.ofByte b.toNat with
      | .complete c => c :: decodeLossily none bs
      | .sequence s => decodeLossily (some s) bs
      | .invalid => replacement :: decodeLossily none bs
    match pending with
    | none => fresh ()
    | some s =>
      if s.low ≤ b.toNat ∧ b.toNat ≤ s.high then
        let bits := 64 * s.bits + (b.toNat - 0x80)
        if s.owed = 1 then Char.ofNat bits :: decodeLossily none bs
        else decodeLossily (some ⟨bits, s.owed - 1, 0x80, 0xBF⟩) bs
      else replacement :: fresh ()

def lossyText (bytes : ByteArray) : String :=
  String.ofList (decodeLossily none bytes.toList)

end RecordIdl.Text
