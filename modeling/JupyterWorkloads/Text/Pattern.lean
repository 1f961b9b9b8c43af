import JupyterWorkloads.Json.Reader
import JupyterWorkloads.Text.Alphanumeric

/-! Which texts are patterns for a search without look-around: characters, escapes, sets in brackets,
groups, choices and repetitions. Only the form is checked. A brace would begin a repetition by number and
is refused, and so are the boundaries of words. -/
namespace JupyterWorkloads.Text

namespace Pattern

/-- What an escape or a plain character stands for. -/
inductive Piece where
  | char (c : Char)
  | set
  /-- A place between characters. -/
  | place
  deriving DecidableEq, Inhabited

def hexChar? (digits : Nat) (cs : List Char) : Option (Piece × List Char) := do
  guard (digits ≤ cs.length)
  let values ← (cs.take digits).mapM Json.hexValue?
  let code := values.foldl (fun n d => 16 * n + d) 0
  if code.isValidChar then some (.char (Char.ofNat code), cs.drop digits) else none

/-- The letters of the general categories. -/
def categories : List Char := ['C', 'L', 'M', 'N', 'P', 'S', 'Z']

def escape? : List Char → Option (Piece × List Char)
  | [] => none
  | 'x' :: rest => hexChar? 2 rest
  | 'u' :: rest => hexChar? 4 rest
  | 'U' :: rest => hexChar? 8 rest
  | 'p' :: c :: rest | 'P' :: c :: rest =>
    if categories.contains c.toUpper then some (.set, rest) else none
  | c :: rest =>
    if ['d', 'D', 's', 'S', 'w', 'W'].contains c then some (.set, rest)
    else if c = 'A' ∨ c = 'z' then some (.place, rest)
    else if ['a', 'f', 'n', 'r', 't', 'v'].contains c then some (.char c, rest)
    else if c.toNat < 0x80 ∧ !c.isAlphanum ∧ c ≠ '<' ∧ c ≠ '>' then some (.char c, rest)
    else none

def member? : List Char → Option (Piece × List Char)
  | [] => none
  | '\\' :: rest => (escape? rest).filter fun (piece, _) => piece ≠ .place
  | c :: rest => some (.char c, rest)

/-- Reads one member of a set, or a range from one character to another. -/
def range? (cs : List Char) : Option (List Char) := do
  let (first, rest) ← member? cs
  match rest with
  | '-' :: ']' :: _ | '-' :: '-' :: _ => some rest
  | '-' :: rest =>
    match first, ← member? rest with
    | .char a, (.char b, rest) => if a ≤ b then some rest else none
    | _, _ => none
  | _ => some rest

/-- What follows the opening bracket of a set and stands for itself there. -/
def afterBracket (cs : List Char) : List Char :=
  let cs := match cs with
    | '^' :: rest => rest
    | _ => cs
  match cs.takeWhile (· == '-'), cs with
  | [], ']' :: rest => rest
  | [], rest => rest
  | dashes, rest => rest.drop dashes.length

/-- The text after a set with the given number of open brackets. -/
def afterSet? : Nat → Nat → List Char → Option (List Char)
  | 0, _, _ => none
  | fuel + 1, brackets, cs =>
    match cs with
    | [] => none
    | ']' :: rest => if brackets ≤ 1 then some rest else afterSet? fuel (brackets - 1) rest
    | '[' :: rest => afterSet? fuel (brackets + 1) (afterBracket rest)
    | '&' :: '&' :: rest | '-' :: '-' :: rest | '~' :: '~' :: rest => afterSet? fuel brackets rest
    | cs => range? cs >>= afterSet? fuel brackets

def isNameStart (c : Char) : Bool := c = '_' || (isAlphanumeric c && !c.isDigit)

def isNameChar (c : Char) : Bool := isNameStart c || c.isDigit || ['.', '[', ']'].contains c

def name? (cs : List Char) : Option (List Char × List Char) :=
  match cs, (cs.dropWhile isNameChar) with
  | c :: _, '>' :: rest => if isNameStart c then some (cs.takeWhile isNameChar, rest) else none
  | _, _ => none

/-- Flags without repetition, where a dash is followed by at least one. -/
def areFlags (flags : List Char) : Bool :=
  flags.Nodup && flags.getLast? != some '-' &&
    flags.all ['i', 'm', 's', 'U', 'u', 'R', 'x', '-'].contains

/-- What follows a parenthesis and a question mark. -/
inductive Special where
  /-- A group opens, which may have a name. -/
  | group (name : Option (List Char))
  | flags
  deriving DecidableEq, Inhabited

def special? (cs : List Char) : Option (Special × List Char) :=
  match cs with
  | 'P' :: '<' :: rest | '<' :: rest => (name? rest).map fun (name, rest) => (.group (some name), rest)
  | _ =>
    let isEnd (c : Char) : Bool := c = ':' || c = ')'
    let flags := cs.takeWhile (!isEnd ·)
    if !areFlags flags then none
    else match cs.dropWhile (!isEnd ·) with
      | ':' :: rest => some (.group none, rest)
      | _ :: rest => if flags.isEmpty then none else some (.flags, rest)
      | [] => none

/-- Checks the rest of a pattern inside the given number of groups, after groups with the names. Only after
an operand may there be a repetition. -/
def check : Nat → List (List Char) → Nat → Bool → List Char → Bool
  | 0, _, _, _, _ => false
  | _ + 1, _, groups, _, [] => groups = 0
  | fuel + 1, names, groups, operand, c :: rest =>
    match c, rest with
    | '(', '?' :: rest =>
      match special? rest with
      | some (.group (some name), rest) =>
        !names.contains name && check fuel (name :: names) (groups + 1) false rest
      | some (.group none, rest) => check fuel names (groups + 1) false rest
      | some (.flags, rest) => check fuel names groups false rest
      | none => false
    | '(', rest => check fuel names (groups + 1) false rest
    | ')', rest => groups ≠ 0 && check fuel names (groups - 1) true rest
    | '|', rest => check fuel names groups false rest
    | '*', rest | '+', rest | '?', rest => operand && check fuel names groups true rest
    | '\x7b', _ => false
    | '\\', rest =>
      match escape? rest with
      | some (_, rest) => check fuel names groups true rest
      | none => false
    | '[', rest =>
      match afterSet? (rest.length + 1) 1 (afterBracket rest) with
      | some rest => check fuel names groups true rest
      | none => false
    | _, rest => check fuel names groups true rest

end Pattern

def isPattern (text : List Char) : Bool := Pattern.check (text.length + 1) [] 0 false text

end JupyterWorkloads.Text
