import JupyterWorkloads.Text.Decimal

/-! Finite binary floating point numbers as exact mantissa and exponent, with rounding to the
nearest value, ties to the even mantissa, and the shortest decimal text that reads back. -/
namespace JupyterWorkloads

/-- The number `± mantissa * 2 ^ exponent`. -/
structure Binary64 where
  negative : Bool
  mantissa : Nat
  exponent : Int
  deriving DecidableEq, Inhabited

/-- The integer nearest to a quotient; a half goes to the even neighbour. -/
def nearestQuotient (num den : Nat) : Nat :=
  let q := num / den
  let r := num % den
  if den < 2 * r ∨ (2 * r = den ∧ q % 2 = 1) then q + 1 else q

namespace Binary64

def leastExponent : Int := -1074

def greatestExponent : Int := 971

/-- The least mantissa of a value that is not subnormal. -/
def normalMantissa : Nat := Nat.pow 2 52

def zero (negative : Bool) : Binary64 := ⟨negative, 0, leastExponent⟩

def isZero (x : Binary64) : Bool := x.mantissa == 0

/-- Numeric equality: the two zeros are equal. -/
def numEq (x y : Binary64) : Bool := (x.isZero && y.isZero) || x == y

/-- The two sides of `num / (den * 2 ^ exponent)`, both whole. -/
def scaled (num den : Nat) (exponent : Int) : Nat × Nat :=
  (num * Nat.pow 2 (-exponent).toNat, den * Nat.pow 2 exponent.toNat)

/-- The value nearest to `num / den`, or `none` when that is out of range. -/
def ofRatio (negative : Bool) (num den : Nat) : Option Binary64 :=
  if num = 0 ∨ den = 0 then some (zero negative)
  else
    let guess := max ((num.log2 : Int) - den.log2 - 53) leastExponent
    let (n, d) := scaled num den guess
    let exponent := if n / d < 2 * normalMantissa then guess else guess + 1
    let (n, d) := scaled num den exponent
    let m := nearestQuotient n d
    let (m, exponent) := if m < 2 * normalMantissa then (m, exponent) else (m / 2, exponent + 1)
    if greatestExponent < exponent then none else some ⟨negative, m, exponent⟩

def ofNat (negative : Bool) (n : Nat) : Option Binary64 := ofRatio negative n 1

def tenPower (k : Nat) : Option Binary64 := ofNat false (Nat.pow 10 k)

def mul (x y : Binary64) : Option Binary64 :=
  let e := x.exponent + y.exponent
  ofRatio (x.negative != y.negative) (x.mantissa * y.mantissa * Nat.pow 2 e.toNat)
    (Nat.pow 2 (-e).toNat)

def div (x y : Binary64) : Option Binary64 :=
  let e := x.exponent - y.exponent
  ofRatio (x.negative != y.negative) (x.mantissa * Nat.pow 2 e.toNat)
    (y.mantissa * Nat.pow 2 (-e).toNat)

def greatestTenPower : Nat := 308

/-- Divides by a power of ten, in steps that stay in range. -/
def divTenPower (x : Binary64) (k : Nat) : Option Binary64 :=
  if _h : k ≤ greatestTenPower then tenPower k >>= x.div
  else if x.isZero then some x
  else do
    let y ← tenPower greatestTenPower >>= x.div
    divTenPower y (k - greatestTenPower)
  termination_by k
  decreasing_by
    have : 0 < greatestTenPower := by decide
    omega

/-- The value of `significand * 10 ^ exponent`: the significand is rounded first, then scaled by the
rounded power of ten. -/
def ofDecimal (negative : Bool) (significand : Nat) (exponent : Int) : Option Binary64 := do
  let x ← ofNat negative significand
  if exponent < 0 then divTenPower x exponent.natAbs
  else if exponent.natAbs ≤ greatestTenPower then tenPower exponent.natAbs >>= x.mul
  else if x.isZero then some x
  else none

/-- Compares `c * 10 ^ k` with `x * 2 ^ e`. -/
def compareScaled (c : Nat) (k : Int) (x : Nat) (e : Int) : Ordering :=
  compare (c * Nat.pow 10 k.toNat * Nat.pow 2 (-e).toNat)
    (x * Nat.pow 2 e.toNat * Nat.pow 10 (-k).toNat)

/-- The reals that round to a value, in quarters of its last place: both ends, and whether the ends
themselves round to it. -/
def roundingInterval (m : Nat) (e : Int) : Nat × Nat × Bool :=
  let below := if m = normalMantissa ∧ leastExponent < e then 1 else 2
  (4 * m - below, 4 * m + 2, m % 2 == 0)

def readsBack (m : Nat) (e : Int) (c : Nat) (k : Int) : Bool :=
  let (lo, hi, inclusive) := roundingInterval m e
  let low := compareScaled c k lo (e - 2)
  let high := compareScaled c k hi (e - 2)
  (low == .gt || (inclusive && low == .eq)) && (high == .lt || (inclusive && high == .eq))

/-- The least place `p` with `m * 2 ^ e < 10 ^ p`, searched upwards. -/
def leadingPlace (m : Nat) (e : Int) : Nat → Int → Int
  | 0, p => p
  | fuel + 1, p => if compareScaled 1 p m e == .gt then p else leadingPlace m e fuel (p + 1)

/-- The neighbour of `m * 2 ^ e` on the grid of `10 ^ k` that reads back, the nearer one if both
do. -/
def onGrid? (m : Nat) (e k : Int) : Option Nat :=
  let num := m * Nat.pow 2 e.toNat * Nat.pow 10 (-k).toNat
  let den := Nat.pow 2 (-e).toNat * Nat.pow 10 k.toNat
  let c := num / den
  match readsBack m e c k, readsBack m e (c + 1) k with
  | true, true => some (nearestQuotient num den)
  | true, false => some c
  | false, true => some (c + 1)
  | false, false => none

def stripZeros (c : Nat) (k : Int) : Nat × Int :=
  if h : c ≠ 0 ∧ c % 10 = 0 then
    stripZeros (c / 10) (k + 1)
  else (c, k)
  termination_by c
  decreasing_by omega

/-- Digits and exponent of the first grid, from coarse to fine, that holds a number reading back. -/
def shortestFrom (m : Nat) (e place : Int) : Nat → Nat → Nat × Int
  | 0, _ => (m, e)
  | fuel + 1, digits =>
    match onGrid? m e (place - digits) with
    | some c => stripZeros c (place - digits)
    | none => shortestFrom m e place fuel (digits + 1)

/-- The fewest decimal digits that read back, with their exponent. -/
def shortest (x : Binary64) : Nat × Int :=
  let place := leadingPlace x.mantissa x.exponent 700 (-330)
  shortestFrom x.mantissa x.exponent place 18 1

/-- Positional text while the point falls within sixteen digits or at most five places before the
first one; otherwise one digit before the point and an exponent with its sign. -/
def chars (x : Binary64) : List Char :=
  let sign := if x.negative then ['-'] else []
  if x.isZero then sign ++ ['0', '.', '0']
  else
    let (c, k) := x.shortest
    let digits := Text.natChars c
    let point : Int := digits.length + k
    let body :=
      if 0 ≤ k ∧ point ≤ 16 then digits ++ List.replicate k.toNat '0' ++ ['.', '0']
      else if 0 < point ∧ point ≤ 16 then
        digits.take point.toNat ++ '.' :: digits.drop point.toNat
      else if -5 < point ∧ point ≤ 0 then
        '0' :: '.' :: List.replicate (-point).toNat '0' ++ digits
      else
        let fraction := match digits.drop 1 with
          | [] => []
          | rest => '.' :: rest
        let plus := if 0 < point then ['+'] else []
        digits.take 1 ++ fraction ++ 'e' :: plus ++ Text.intChars (point - 1)
    sign ++ body

end Binary64

end JupyterWorkloads
