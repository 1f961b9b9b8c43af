import JupyterWorkloads.Json.Text
import JupyterWorkloads.SipHash

/-! The fingerprint of a generated object: a hash of its compact text, which changes with every
change of what is generated, a field that is no longer set included. -/
namespace JupyterWorkloads.Fingerprint

/-- The hashed bytes: the text in UTF-8, closed by a byte that no text contains. -/
def bytes (v : Json) : List UInt8 := v.text.toUTF8.toList ++ [0xff]

/-- Sixteen lower-case hexadecimal digits. -/
def hexWord (w : UInt64) : String :=
  let digits := Nat.toDigits 16 w.toNat
  String.ofList (List.replicate (16 - digits.length) '0' ++ digits)

def ofJson (v : Json) : String := hexWord (SipHash.hash (bytes v))

end JupyterWorkloads.Fingerprint
