import JupyterWorkloads.Text.Decimal

/-! Decimal numbers with perhaps a point and perhaps an exponent, without a sign. Digits may be missing on
one side of the point. -/
namespace JupyterWorkloads.Text

/-- The number `significand * 10 ^ exponent`. -/
structure Scientific where
  significand : Nat
  exponent : Int
  deriving DecidableEq, Inhabited

namespace Scientific

/-- Reads an exponent after its letter, up to the end. -/
def exponent? (cs : List Char) : Option Int :=
  let (negative, digits) := match cs with
    | '-' :: rest => (true, rest)
    | '+' :: rest => (false, rest)
    | _ => (false, cs)
  if digits.isEmpty || !digits.all Char.isDigit then none
  else
    let n : Int := digitsValue digits
    some (if negative then -n else n)

def ofChars? (cs : List Char) : Option Scientific := do
  let whole := cs.takeWhile Char.isDigit
  let rest := cs.drop whole.length
  let (fraction, rest) := match rest with
    | '.' :: rest => (rest.takeWhile Char.isDigit, rest.dropWhile Char.isDigit)
    | _ => ([], rest)
  let digits := whole ++ fraction
  guard !digits.isEmpty
  let exponent ← match rest with
    | [] => some 0
    | 'e' :: rest | 'E' :: rest => exponent? rest
    | _ => none
  return ⟨digitsValue digits, exponent - fraction.length⟩

end Scientific

end JupyterWorkloads.Text
