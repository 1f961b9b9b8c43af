/-! Decimal text of whole numbers: no sign for what is not negative, no leading zeros. Reading also
takes a plus sign and leading zeros. -/
namespace JupyterWorkloads.Text

def natChars (n : Nat) : List Char := Nat.toDigits 10 n

def intChars (n : Int) : List Char :=
  if n < 0 then '-' :: natChars n.natAbs else natChars n.natAbs

def ofNat (n : Nat) : String := String.ofList (natChars n)

def ofInt (n : Int) : String := String.ofList (intChars n)

/-- The number that digits write, the first digit weighing most. -/
def digitsValue (digits : List Char) : Nat :=
  digits.foldl (fun n c => 10 * n + (c.toNat - '0'.toNat)) 0

/-- Reads a number of at most 64 bits. -/
def toWord64? (s : String) : Option Nat :=
  let digits := match s.toList with
    | '+' :: rest => rest
    | chars => chars
  let n := digitsValue digits
  if !digits.isEmpty && digits.all Char.isDigit && n < UInt64.size then some n else none

end JupyterWorkloads.Text
