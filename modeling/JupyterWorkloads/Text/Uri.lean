/-! Addresses: a scheme, an authority and a path with perhaps a query; or a path alone, or an authority
alone. What follows a hash does not count. -/
namespace JupyterWorkloads.Text.Uri

def isPathChar (c : Char) : Bool :=
  let n := c.toNat
  n = 0x21 || (0x24 ≤ n && n ≤ 0x3b) || n = 0x3d || (0x40 ≤ n && n ≤ 0x5f) ||
    (0x61 ≤ n && n ≤ 0x7a) || n = 0x7c || n = 0x7e || 0x80 ≤ n ||
    c = '"' || c = '\x7b' || c = '\x7d'

def isQueryChar (c : Char) : Bool :=
  let n := c.toNat
  n = 0x21 || (0x24 ≤ n && n ≤ 0x3b) || n = 0x3d || (0x3f ≤ n && n ≠ 0x7f)

/-- The path at the start of a text. It ends at a question mark or a hash, and all that comes before the
hash must be made of characters that may stand there. -/
def path? (cs : List Char) : Option (List Char) :=
  let before := cs.takeWhile (· != '#')
  let path := before.takeWhile (· != '?')
  let query := before.drop (path.length + 1)
  if path.all isPathChar && query.all isQueryChar then some path else none

def isSchemeChar (c : Char) : Bool := c.isAlphanum || ['+', '-', '.', '~'].contains c

def longestScheme : Nat := 64

def longest : Nat := 65534

def afterScheme? (cs : List Char) : Option (Option (List Char)) :=
  let scheme := cs.takeWhile isSchemeChar
  match cs.drop scheme.length with
  | ':' :: '/' :: '/' :: rest => if longestScheme < scheme.length then none else some (some rest)
  | _ => some none

def isAuthorityChar (c : Char) : Bool :=
  c.isAlphanum ||
    ['!', '$', '&', '\'', '(', ')', '*', '+', ',', '-', '.', ':', ';', '=', '@', '[', ']', '_',
      '~'].contains c

/-- What has been seen of an authority. -/
structure Authority where
  /-- The colons after the user and after the brackets. -/
  colons : Nat
  opened : Bool
  closed : Bool
  /-- A percent sign came after the user and after the brackets. -/
  percent : Bool
  /-- The last character was the sign after the user. -/
  endsUser : Bool
  deriving DecidableEq, Inhabited

namespace Authority

/-- The greatest number of colons in an address of a network between brackets. -/
def mostColons : Nat := 8

def step? (a : Authority) (c : Char) : Option Authority :=
  let a := { a with endsUser := c = '@' }
  match c with
  | ':' => if mostColons ≤ a.colons then none else some { a with colons := a.colons + 1 }
  | '[' => if a.percent || a.opened then none else some { a with opened := true }
  | ']' =>
    if !a.opened || a.closed then none
    else some { a with closed := true, colons := 0, percent := false }
  | '@' => some { a with colons := 0, percent := false }
  | '%' => some { a with percent := true }
  | c => if isAuthorityChar c then some a else none

/-- An authority has a colon at most, before the port, and its brackets close. -/
def isComplete (a : Authority) : Bool :=
  a.opened = a.closed && a.colons ≤ 1 && !a.endsUser && !a.percent

end Authority

/-- What follows an authority, which may be empty. -/
def afterAuthority? (cs : List Char) : Option (List Char) := do
  let authority := cs.takeWhile fun c => !(['/', '?', '#'].contains c)
  let seen ← authority.foldlM Authority.step? ⟨0, false, false, false, false⟩
  if seen.isComplete then some (cs.drop authority.length) else none

/-- Whether a text is an address. A star alone is one. -/
def isUri (text : String) : Bool :=
  let cs := text.toList
  if text.isEmpty || longest < text.utf8ByteSize then false
  else if cs = ['*'] then true
  else if cs.head? = some '/' then (path? cs).isSome
  else match afterScheme? cs with
    | none => false
    | some none => afterAuthority? cs = some []
    | some (some rest) =>
      (afterAuthority? rest).any fun after => after.length < rest.length && (path? after).isSome

end JupyterWorkloads.Text.Uri
