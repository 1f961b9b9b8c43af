import JupyterWorkloads.Log
import JupyterWorkloads.Text.Alphanumeric
import JupyterWorkloads.Text.Blank
import JupyterWorkloads.Text.Pattern
import JupyterWorkloads.Text.Pieces
import JupyterWorkloads.Text.Scientific

/-! Filters on log lines. A filter is a list of directives between commas: a level, a target, or a
target with a level after an equals sign. In brackets behind the target a directive may name a span and
fields. Of the directives that apply to a target, the most special one decides. -/
namespace JupyterWorkloads

/-- The levels let through: all down to the given one, or none. -/
abbrev LogLimit := Option LogLevel

namespace LogLimit

def names : List (String × LogLimit) := [
  ("off", none),
  ("error", some .error),
  ("warn", some .warn),
  ("info", some .info),
  ("debug", some .debug),
  ("trace", some .trace)]

/-- Reads the name of a limit, in any case, or its number. -/
def ofText? (text : List Char) : Option LogLimit :=
  match names.lookup (String.ofList (text.map Char.toLower)) with
  | some limit => some limit
  | none =>
    match Text.toWord64? (String.ofList text) with
    | some n => names[n]?.map Prod.snd
    | none => none

def allows (limit : LogLimit) (level : LogLevel) : Bool :=
  match limit with
  | none => false
  | some least => level.rank ≤ least.rank

end LogLimit

structure LogField where
  name : List Char
  value : Option (List Char)
  deriving DecidableEq, Inhabited

namespace LogField

def isPlusNumber : List Char → Bool
  | '+' :: rest =>
    ["inf", "infinity", "nan"].contains (String.ofList (rest.map Char.toLower)) ||
      (Text.Scientific.ofChars? rest).isSome
  | _ => false

/-- Reads a name with perhaps a value after an equals sign, which is a number or a pattern. What follows
another equals sign is left out. -/
def ofText? (text : List Char) : Option LogField :=
  match Text.pieces '=' text with
  | name :: value :: _ =>
    if isPlusNumber value || Text.isPattern value then some ⟨name, some value⟩ else none
  | _ => some ⟨text, none⟩

end LogField

structure LogDirective where
  /-- It applies to targets that start with the text. -/
  target : Option (List Char)
  span : Option (List Char)
  fields : List LogField
  limit : LogLimit
  deriving DecidableEq

namespace LogDirective

/-- Applies to everything and lets all through. -/
def all : LogDirective := ⟨none, none, [], some .trace⟩

instance : Inhabited LogDirective := ⟨all⟩

def isTargetStart (c : Char) : Bool :=
  c = '-' || c = ':' || c = '_' || Text.isAlphanumeric c

/-- The text of a directive. White space at its ends is no mark, but what a mark ends is cut from the
text with the white space. So each character that may be a mark stands with the one that is cut out in its
place, and some more may follow at the end. -/
structure Source where
  chars : List (Char × Char)
  tail : List Char

def Source.ofText (text : List Char) : Source :=
  let body := Text.trimmed text
  ⟨body.zip text, text.drop body.length⟩

def Source.remaining (tail : List Char) (chars : List (Char × Char)) : List Char :=
  chars.map Prod.snd ++ tail

/-- Reads what follows an equals sign: no level is all levels. -/
def withLimit? (d : LogDirective) (text : List Char) : Option LogDirective :=
  if text.isEmpty then some { d with limit := some .trace }
  else (LogLimit.ofText? text).map fun limit => { d with limit }

mutual

/-- Reads what follows an opening bracket: the name of a span, then perhaps fields in braces. -/
def span? (tail : List Char) (d : LogDirective) (name : List Char) :
    List (Char × Char) → Option LogDirective
  | [] => none
  | (mark, c) :: rest =>
    if mark = ']' then afterSpan? tail { d with span := some name } rest
    else if mark = '\x7b' then
      field? tail { d with span := if name.isEmpty then none else some name } [] rest
    else span? tail d (name ++ [c]) rest

def field? (tail : List Char) (d : LogDirective) (text : List Char) :
    List (Char × Char) → Option LogDirective
  | [] => none
  | (mark, c) :: rest =>
    if mark = '\x7d' then
      if text.isEmpty then none
      else match LogField.ofText? text, rest with
        | some field, (']', _) :: rest =>
          afterSpan? tail { d with fields := d.fields ++ [field] } rest
        | _, _ => none
    else field? tail d (text ++ [c]) rest

/-- Reads what follows a closing bracket. Only an equals sign and another bracket mean something. -/
def afterSpan? (tail : List Char) (d : LogDirective) : List (Char × Char) → Option LogDirective
  | [] => some d
  | (mark, _) :: rest =>
    if mark = '=' then withLimit? d (Source.remaining tail rest)
    else if mark = '[' then span? tail d [] rest
    else afterSpan? tail d rest

end

/-- Reads a name that may turn out to be a level or a target. -/
def name? (tail text : List Char) : List (Char × Char) → Option LogDirective
  | [] =>
    let text := text ++ tail
    match LogLimit.ofText? text with
    | some limit => some { all with limit }
    | none => some { all with target := some text }
  | (mark, c) :: rest =>
    if mark = '=' then withLimit? { all with target := some text } (Source.remaining tail rest)
    else if mark = '[' then span? tail { all with target := some text } [] rest
    else name? tail (text ++ [c]) rest

def ofSource? (s : Source) : Option LogDirective :=
  match s.chars with
  | [] => none
  | (mark, _) :: rest =>
    if mark = '[' then span? s.tail all [] rest
    else if isTargetStart mark then name? s.tail [] s.chars
    else none

def ofText? (text : List Char) : Option LogDirective := ofSource? (Source.ofText text)

/-- Whether the directive depends on the span in which a line is logged. There are no spans, so such a
directive lets nothing through. -/
def needsSpan (d : LogDirective) : Bool :=
  d.span.isSome || d.fields.any fun field => field.value.isSome

def covers (d : LogDirective) (target : List Char) : Bool :=
  !d.needsSpan && d.target.all fun name => name.isPrefixOf target

/-- How special the directive is: a longer target comes first, then the number of fields. -/
def weight (d : LogDirective) : Nat × Nat :=
  (d.target.elim 0 fun name => name.length + 1, d.fields.length)

/-- Whether the second of two directives is preferred to the first. Where both are as special, the later
names of fields are preferred, and of the same names the second directive. -/
def yields (first second : LogDirective) : Bool :=
  match (compare first.weight.1 second.weight.1).then (compare first.weight.2 second.weight.2) with
  | .lt => true
  | .gt => false
  | .eq => !(second.fields.map LogField.name).lex (first.fields.map LogField.name) fun a b => a < b

end LogDirective

structure LogFilter where
  directives : List LogDirective
  deriving DecidableEq

namespace LogFilter

def standard : LogFilter := ⟨[{ LogDirective.all with limit := some .info }]⟩

instance : Inhabited LogFilter := ⟨standard⟩

/-- Reads a filter. Nothing between two commas is no directive. -/
def ofText? (text : String) : Option LogFilter :=
  let pieces := (Text.pieces ',' text.toList).filter fun piece => !piece.isEmpty
  (pieces.mapM LogDirective.ofText?).map (⟨·⟩)

/-- The filter that a setting asks for: the standard one where there is no setting or it cannot be
read. -/
def ofSetting (setting : Option String) : LogFilter := (setting.bind ofText?).getD standard

def preferred (best : Option LogDirective) (d : LogDirective) : Option LogDirective :=
  match best with
  | none => some d
  | some b => if b.yields d then some d else some b

def deciding? (f : LogFilter) (target : String) : Option LogDirective :=
  (f.directives.filter fun d => d.covers target.toList).foldl preferred none

def allows (f : LogFilter) (target : String) (level : LogLevel) : Bool :=
  (f.deciding? target).any fun d => d.limit.allows level

/-- The levels let through for a target, the most severe one first. -/
def levels (f : LogFilter) (target : String) : List LogLevel := LogLevel.all.filter (f.allows target)

end LogFilter

end JupyterWorkloads
