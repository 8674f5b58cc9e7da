namespace RecordIdl.Text

def digitsValue (cs : List Char) : Nat :=
  cs.foldl (fun n c => 10 * n + (c.toNat - '0'.toNat)) 0

def digits? (cs : List Char) : Option Nat :=
  if cs ≠ [] ∧ cs.all Char.isDigit then some (digitsValue cs) else none

def natural? : List Char → Option Nat
  | '+' :: cs => digits? cs
  | cs => digits? cs

def integer? : List Char → Option Int
  | '-' :: cs => (digits? cs).map fun n => -(n : Int)
  | cs => (natural? cs).map fun n => (n : Int)

def word64? (s : String) : Option UInt64 :=
  (natural? s.toList).bind fun n => if n < UInt64.size then some (UInt64.ofNat n) else none

/-- A number from -2⁶³ to 2⁶³ - 1. -/
def signed64? (s : String) : Option Int :=
  (integer? s.toList).bind fun n =>
    if -9223372036854775808 ≤ n ∧ n ≤ 9223372036854775807 then some n else none

end RecordIdl.Text
