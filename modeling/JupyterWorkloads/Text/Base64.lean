/-! Octets written with sixty-four letters, three octets as four letters. The last group is filled up with
equals signs, and the bits that it does not need are zero, so that octets have one form only. -/
namespace JupyterWorkloads.Text.Base64

def bits? (c : Char) : Option Nat :=
  if 'A' ≤ c ∧ c ≤ 'Z' then some (c.toNat - 'A'.toNat)
  else if 'a' ≤ c ∧ c ≤ 'z' then some (c.toNat - 'a'.toNat + 26)
  else if '0' ≤ c ∧ c ≤ '9' then some (c.toNat - '0'.toNat + 52)
  else if c = '+' then some 62
  else if c = '/' then some 63
  else none

def decode? : List Char → Option (List UInt8)
  | [] => some []
  | [a, b, '=', '='] => do
    let n := 64 * (← bits? a) + (← bits? b)
    guard (n % 16 = 0)
    return [(n / 16).toUInt8]
  | [a, b, c, '='] => do
    let n := 4096 * (← bits? a) + 64 * (← bits? b) + (← bits? c)
    guard (n % 4 = 0)
    return [(n / 1024).toUInt8, (n / 4).toUInt8]
  | a :: b :: c :: d :: rest => do
    let n := 262144 * (← bits? a) + 4096 * (← bits? b) + 64 * (← bits? c) + (← bits? d)
    let octets ← decode? rest
    return (n / 65536).toUInt8 :: (n / 256).toUInt8 :: n.toUInt8 :: octets
  | _ => none

end JupyterWorkloads.Text.Base64
