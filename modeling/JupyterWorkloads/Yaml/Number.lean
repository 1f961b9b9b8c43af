import JupyterWorkloads.Binary64
import JupyterWorkloads.Json.Reader
import JupyterWorkloads.Text.Scientific

/-! The numbers that plain YAML scalars write: integers to four bases and floating point numbers. -/
namespace JupyterWorkloads.Yaml

/-- A floating point number. The number that is none counts as equal to itself. -/
inductive Real where
  | finite (value : Binary64)
  | infinite (negative : Bool)
  | undefined
  deriving DecidableEq, Inhabited

def Real.numEq : Real → Real → Bool
  | finite x, finite y => x.numEq y
  | x, y => x = y

def signed : List Char → Bool × List Char
  | '-' :: body => (true, body)
  | '+' :: body => (false, body)
  | body => (false, body)

/-- Digits with a leading zero and perhaps a sign are text. -/
def isZeroPadded (cs : List Char) : Bool :=
  match (signed cs).2 with
  | '0' :: rest => !rest.isEmpty && rest.all Char.isDigit
  | _ => false

/-- The base that a text names, with its digits. -/
def base? : List Char → Option (Nat × List Char)
  | '0' :: 'x' :: digits => some (16, digits)
  | '0' :: 'o' :: digits => some (8, digits)
  | '0' :: 'b' :: digits => some (2, digits)
  | _ => none

def digits? (base : Nat) (cs : List Char) : Option Nat :=
  if cs.isEmpty then none
  else cs.foldlM (fun n c => do
    let digit ← Json.hexValue? c
    if digit < base then some (base * n + digit) else none) 0

/-- Reads an integer of any size. A plus sign may stand before it, or a minus sign. -/
def integer? (cs : List Char) : Option Int :=
  let (negative, body) := signed cs
  let magnitude := match base? body with
    | some (base, digits) => digits? base digits
    | none => if isZeroPadded cs then none else digits? 10 body
  magnitude.map fun n => if negative then -n else n

def isStored (n : Int) : Bool := -(Int.pow 2 63) ≤ n ∧ n < Int.pow 2 64

/-- Whether an integer is known to be one, and too large to be stored. Larger ones count as floating
point numbers. -/
def isOversized (n : Int) : Bool := !isStored n && (-(Int.pow 2 127) ≤ n ∧ n < Int.pow 2 128)

/-- The number of decimal digits beyond which no finite number but zero has its point. -/
def greatestPlace : Int := 400

def nearest? (negative : Bool) (x : Text.Scientific) : Option Binary64 :=
  let place := (Text.natChars x.significand).length + x.exponent
  if x.significand = 0 ∨ place < -greatestPlace then some (Binary64.zero negative)
  else if greatestPlace < place then none
  else Binary64.ofRatio negative (x.significand * Nat.pow 10 x.exponent.toNat)
      (Nat.pow 10 (-x.exponent).toNat)

/-- Reads a floating point number. No number that is written with digits is infinite. -/
def real? (cs : List Char) : Option Real :=
  let (negative, body) := signed cs
  let word := String.ofList body
  if [".inf", ".Inf", ".INF"].contains word then some (.infinite negative)
  else if [".nan", ".NaN", ".NAN"].contains (String.ofList cs) then some .undefined
  else do
    let x ← Text.Scientific.ofChars? body
    return .finite (← nearest? negative x)

end JupyterWorkloads.Yaml
