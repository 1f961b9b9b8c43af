import JupyterWorkloads.Der

/-! Certificates of authorities, as far as their form goes. -/
namespace JupyterWorkloads.Certificate

open Der

/-- An extension by its identifier. A critical one must be understood. -/
structure Extension where
  id : List UInt8
  critical : Bool
  content : List UInt8
  deriving DecidableEq, Inhabited

def Extension.ofItem? (d : Der) : Option Extension := do
  match ← d.inside? sequence with
  | [id, content] =>
    guard (id.tag = identifier && content.tag = octets)
    return ⟨id.content, false, content.content⟩
  | [id, critical, content] =>
    guard (id.tag = identifier && critical.tag = boolean && content.tag = octets)
    guard (critical.content = [0] ∨ critical.content = [0xff])
    return ⟨id.content, critical.content = [0xff], content.content⟩
  | _ => none

def keyUsage : List UInt8 := [0x55, 0x1d, 15]

/-- The extensions that are understood, all of which are sequences but the uses of a key: names, basic
constraints, constraints on names, lists of revoked certificates, and extended uses. -/
def understood : List (List UInt8) :=
  keyUsage :: [17, 19, 30, 31, 37].map fun (n : UInt8) => [0x55, 0x1d, n]

def Extension.isAccepted (e : Extension) : Bool :=
  if !understood.contains e.id then !e.critical
  else if e.id = keyUsage then true
  else match items? e.content with
    | some [d] => d.tag = sequence
    | _ => false

/-- Whether the extensions are accepted. One that is understood may come once. -/
def areAccepted (extensions : List Extension) : Bool :=
  extensions.all Extension.isAccepted &&
    understood.all fun id => (extensions.filter (·.id = id)).length ≤ 1

def extensions? (d : Der) : Option (List Extension) := do
  match ← d.inside? (field 3) with
  | [list] => (← list.inside? sequence).mapM Extension.ofItem?
  | _ => none

/-- The algorithm, the issuer, the time of validity, the subject and its key. -/
def isBody (items : List Der) : Bool := items.length = 5 && items.all fun d => d.tag = sequence

/-- Whether the signed part of a certificate of the third version is well formed. Its algorithm is the one
that is named outside too. -/
def isThirdVersion (algorithm : Der) (signed : List Der) : Bool :=
  match signed with
  | version :: serial :: rest =>
    version = ⟨field 0, [integer, 1, 2]⟩ && serial.tag = integer && isBody (rest.take 5) &&
      rest.head? = some algorithm &&
      match rest.drop 5 with
      | [] => true
      | [d] => (extensions? d).any areAccepted
      | _ => false
  | _ => false

def isFirstVersion (signed : List Der) : Bool :=
  match signed with
  | serial :: rest => serial.tag = integer && isBody rest
  | [] => false

def isCertificate (certificate : List UInt8) : Bool :=
  match only? sequence certificate with
  | some [signed, algorithm, signature] =>
    algorithm.tag = sequence && signature.tag = bits &&
      match signed.inside? sequence with
      | some signed =>
        isFirstVersion signed ||
          (signature.content.head? = some 0 && isThirdVersion algorithm signed)
      | none => false
  | _ => false

end JupyterWorkloads.Certificate
