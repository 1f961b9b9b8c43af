import JupyterWorkloads.Json.Basic

/-! Reading JSON text. A number without fraction and exponent is an integer as long as it fits in 64
bits, signed or unsigned. A whole value is read with the last member of each name. A document for the
reader of a record keeps all members as they are written, and holds a blot in the place of what is well
formed but cannot be read: such a reader may pass over it. -/
namespace JupyterWorkloads.Json

def isBlank (c : Char) : Bool := c == ' ' || c == '\n' || c == '\t' || c == '\r'

def skipBlanks (cs : List Char) : List Char := cs.dropWhile isBlank

def hexValue? (c : Char) : Option Nat :=
  if '0' ≤ c ∧ c ≤ '9' then some (c.toNat - '0'.toNat)
  else if 'a' ≤ c ∧ c ≤ 'f' then some (c.toNat - 'a'.toNat + 10)
  else if 'A' ≤ c ∧ c ≤ 'F' then some (c.toNat - 'A'.toNat + 10)
  else none

def hexUnit? (a b c d : Char) : Option Nat := do
  return ((← hexValue? a) * 16 + (← hexValue? b)) * 256 + (← hexValue? c) * 16 + (← hexValue? d)

def simpleEscape? : Char → Option Char
  | '"' => some '"'
  | '\\' => some '\\'
  | '/' => some '/'
  | 'b' => some '\x08'
  | 'f' => some '\x0c'
  | 'n' => some '\n'
  | 'r' => some '\r'
  | 't' => some '\t'
  | _ => none

def isHighUnit (n : Nat) : Bool := 0xD800 ≤ n && n < 0xDC00

def isLowUnit (n : Nat) : Bool := 0xDC00 ≤ n && n < 0xE000

/-- The character above the sixteen-bit range that two units stand for. -/
def pairedChar (high low : Nat) : Char :=
  Char.ofNat (0x10000 + (high - 0xD800) * 0x400 + (low - 0xDC00))

/-- The rest of a string after its opening quote. Two escaped units that form a pair give one
character; a unit of a pair that stands alone is refused. -/
def readString : List Char → Option (List Char × List Char)
  | [] => none
  | '"' :: rest => some ([], rest)
  | '\\' :: 'u' :: a :: b :: c :: d :: tail =>
    match hexUnit? a b c d with
    | none => none
    | some unit =>
      if isHighUnit unit then
        match tail with
        | '\\' :: 'u' :: a' :: b' :: c' :: d' :: rest =>
          match hexUnit? a' b' c' d' with
          | none => none
          | some low =>
            if isLowUnit low then do
              let (s, rest) ← readString rest
              return (pairedChar unit low :: s, rest)
            else none
        | _ => none
      else if isLowUnit unit then none
      else do
        let (s, rest) ← readString tail
        return (Char.ofNat unit :: s, rest)
  | '\\' :: e :: rest => do
    let c ← simpleEscape? e
    let (s, rest) ← readString rest
    return (c :: s, rest)
  | c :: rest =>
    if c.toNat < 0x20 ∨ c = '\\' then none
    else do
      let (s, rest) ← readString rest
      return (c :: s, rest)

def maxWord : Nat := UInt64.size - 1

/-- Takes digits into a significand while it fits in a word; the second result counts them. -/
def absorbDigits (significand taken : Nat) : List Char → Nat × Nat
  | [] => (significand, taken)
  | c :: rest =>
    let next := significand * 10 + (c.toNat - '0'.toNat)
    if maxWord < next then (significand, taken) else absorbDigits next (taken + 1) rest

def splitDigits (cs : List Char) : List Char × List Char :=
  (cs.takeWhile Char.isDigit, cs.dropWhile Char.isDigit)

def readExponent (cs : List Char) : Option (Int × List Char) :=
  let (negative, cs) := match cs with
    | '-' :: rest => (true, rest)
    | '+' :: rest => (false, rest)
    | _ => (false, cs)
  match splitDigits cs with
  | ([], _) => none
  | (digits, rest) =>
    let n : Int := Text.digitsValue digits
    some (if negative then -n else n, rest)

/-- The value of an integer text, if it is one that stays an integer. -/
def wholeNumber? (negative : Bool) (n : Nat) : Option Json :=
  if negative then
    if 0 < n ∧ n ≤ Nat.pow 2 63 then some (.int (-(n : Int))) else none
  else if n ≤ maxWord then some (.int n) else none

def readNumber (cs : List Char) : Option (Json × List Char) := do
  let (negative, cs) := match cs with
    | '-' :: rest => (true, rest)
    | _ => (false, cs)
  let (whole, rest) := splitDigits cs
  match whole with
  | [] => none
  | '0' :: _ :: _ => none
  | _ =>
    let (significand, taken) := absorbDigits 0 0 whole
    let dropped : Int := whole.length - taken
    let (significand, exponent, rest, fractional) ← match rest with
      | '.' :: rest =>
        let (fraction, rest) := splitDigits rest
        if fraction.isEmpty then none
        else
          let (significand, taken) := absorbDigits significand 0 fraction
          some (significand, dropped - taken, rest, true)
      | _ => some (significand, dropped, rest, false)
    let (exponent, rest, scaled) ← match rest with
      | 'e' :: rest => (readExponent rest).map fun (e, rest) => (exponent + e, rest, true)
      | 'E' :: rest => (readExponent rest).map fun (e, rest) => (exponent + e, rest, true)
      | _ => some (exponent, rest, false)
    let float := (Binary64.ofDecimal negative significand exponent).map (.float ·, rest)
    if fractional || scaled then float
    else match wholeNumber? negative (Text.digitsValue whole) with
      | some n => some (n, rest)
      | none => float

/-- The text after a string that is well formed but for units that stand alone. -/
def skipString : List Char → Option (List Char)
  | [] => none
  | '"' :: rest => some rest
  | '\\' :: 'u' :: a :: b :: c :: d :: rest =>
    match hexUnit? a b c d with
    | some _ => skipString rest
    | none => none
  | '\\' :: e :: rest => if (simpleEscape? e).isSome then skipString rest else none
  | c :: rest => if c.toNat < 0x20 ∨ c = '\\' then none else skipString rest

/-- The text after a number that is well formed but may be out of range. -/
def skipNumber (cs : List Char) : Option (List Char) := do
  let cs := match cs with
    | '-' :: rest => rest
    | _ => cs
  let (whole, rest) := splitDigits cs
  match whole with
  | [] => none
  | '0' :: _ :: _ => none
  | _ =>
    let rest ← match rest with
      | '.' :: rest =>
        match splitDigits rest with
        | ([], _) => none
        | (_, rest) => some rest
      | _ => some rest
    match rest with
    | 'e' :: rest => (readExponent rest).map Prod.snd
    | 'E' :: rest => (readExponent rest).map Prod.snd
    | _ => some rest

/-- Stands for what is well formed but cannot be read. No record has a member that is a fraction. -/
def blot : Json := .float (Binary64.zero false)

/-- How the parts of a value are read. -/
structure Style where
  /-- The rest of a string after its opening quote, or nothing in the place of its text. -/
  string : List Char → Option (Option String × List Char)
  number : List Char → Option (Json × List Char)
  object : List (Option String × Json) → Json

namespace Style

/-- All of a value is read, and the last member of each name counts. -/
def whole : Style where
  string cs := (readString cs).map fun (s, rest) => (some (String.ofList s), rest)
  number := readNumber
  object members := .ofFields (members.filterMap fun (name, value) => name.map (·, value))

/-- Members stay as they are written, and what cannot be read is a blot. -/
def document : Style where
  string cs := (skipString cs).map fun rest => ((readString cs).map fun (s, _) => .ofList s, rest)
  number cs := (skipNumber cs).map fun rest => (((readNumber cs).map Prod.fst).getD blot, rest)
  object members :=
    match members.mapM fun (name, value) => name.map (·, value) with
    | some fields => .obj fields
    | none => blot

end Style

mutual

/-- Reads one value; `fuel` bounds the nesting. -/
def readValue (style : Style) : Nat → List Char → Option (Json × List Char)
  | 0, _ => none
  | fuel + 1, cs =>
    match skipBlanks cs with
    | 'n' :: 'u' :: 'l' :: 'l' :: rest => some (.null, rest)
    | 't' :: 'r' :: 'u' :: 'e' :: rest => some (.bool true, rest)
    | 'f' :: 'a' :: 'l' :: 's' :: 'e' :: rest => some (.bool false, rest)
    | '"' :: rest => (style.string rest).map fun (s, rest) => (s.elim blot .str, rest)
    | '[' :: rest =>
      match skipBlanks rest with
      | ']' :: rest => some (.arr [], rest)
      | rest => (readItems style fuel rest).map fun (items, rest) => (.arr items, rest)
    | '\x7b' :: rest =>
      match skipBlanks rest with
      | '\x7d' :: rest => some (.obj [], rest)
      | rest => (readMembers style fuel rest).map fun (members, rest) => (style.object members, rest)
    | rest => style.number rest

def readItems (style : Style) : Nat → List Char → Option (List Json × List Char)
  | 0, _ => none
  | fuel + 1, cs => do
    let (item, rest) ← readValue style fuel cs
    match skipBlanks rest with
    | ']' :: rest => some ([item], rest)
    | ',' :: rest =>
      let (items, rest) ← readItems style fuel rest
      some (item :: items, rest)
    | _ => none

def readMembers (style : Style) :
    Nat → List Char → Option (List (Option String × Json) × List Char)
  | 0, _ => none
  | fuel + 1, cs =>
    match skipBlanks cs with
    | '"' :: rest => do
      let (name, rest) ← style.string rest
      match skipBlanks rest with
      | ':' :: rest =>
        let (value, rest) ← readValue style fuel rest
        match skipBlanks rest with
        | '\x7d' :: rest => some ([(name, value)], rest)
        | ',' :: rest =>
          let (members, rest) ← readMembers style fuel rest
          some ((name, value) :: members, rest)
        | _ => none
      | _ => none
    | _ => none

end

def read? (style : Style) (s : String) : Option Json :=
  let cs := s.toList
  match readValue style (cs.length + 1) cs with
  | some (v, rest) => if (skipBlanks rest).isEmpty then some v else none
  | none => none

def ofText? (s : String) : Option Json := read? .whole s

/-- The document that a whole text holds for the reader of a record. -/
def document? (s : String) : Option Json := read? .document s

end JupyterWorkloads.Json
