import JupyterWorkloads.Text.Decimal

/-! Points in time: a date, a time of day and how far the clock is off. -/
namespace JupyterWorkloads.Text.Instant

def isLeap (year : Nat) : Bool := year % 4 = 0 ∧ (year % 100 ≠ 0 ∨ year % 400 = 0)

def daysOfMonth (year month : Nat) : Nat :=
  if month = 2 then if isLeap year then 29 else 28
  else if [4, 6, 9, 11].contains month then 30
  else 31

def daysBefore (year : Nat) : Nat :=
  let past := year - 1
  if year = 0 then 0 else 366 + 365 * past + past / 4 - past / 100 + past / 400

/-- The days since the start of the year zero. -/
def days (year month day : Nat) : Nat :=
  let months := (List.range (month - 1)).map fun m => daysOfMonth year (m + 1)
  daysBefore year + months.foldl (fun total n => total + n) 0 + (day - 1)

def twoDigits? (greatest : Nat) (a b : Char) : Option Nat :=
  let n := digitsValue [a, b]
  if a.isDigit && b.isDigit && n ≤ greatest then some n else none

/-- Reads how far a clock is off in seconds: not at all, or by hours and minutes. -/
def offset? : List Char → Option Int
  | ['Z'] | ['z'] => some 0
  | [sign, a, b, ':', c, d] => do
    let n : Int := 3600 * (← twoDigits? 23 a b) + 60 * (← twoDigits? 59 c d)
    if sign = '+' then some n else if sign = '-' then some (-n) else none
  | _ => none

/-- Reads how far a clock is off, after perhaps parts of a second. -/
def offsetAfterParts? : List Char → Option Int
  | '.' :: c :: rest => if c.isDigit then offset? (rest.dropWhile Char.isDigit) else none
  | rest => offset? rest

def date? (cs : List Char) : Option Nat :=
  match cs with
  | [y₁, y₂, y₃, y₄, '-', m₁, m₂, '-', d₁, d₂] => do
    guard ([y₁, y₂, y₃, y₄].all Char.isDigit)
    let year := digitsValue [y₁, y₂, y₃, y₄]
    let month ← twoDigits? 12 m₁ m₂
    let day ← twoDigits? (daysOfMonth year month) d₁ d₂
    if month = 0 ∨ day = 0 then none else some (days year month day)
  | _ => none

/-- Reads a time of day as seconds. A minute may have one second more. -/
def time? (cs : List Char) : Option Nat :=
  match cs with
  | [h₁, h₂, ':', m₁, m₂, ':', s₁, s₂] => do
    return 3600 * (← twoDigits? 23 h₁ h₂) + 60 * (← twoDigits? 59 m₁ m₂) + (← twoDigits? 60 s₁ s₂)
  | _ => none

/-- Reads a point in time as seconds since the start of the year zero. Parts of a second do not count. -/
def ofText? (text : String) : Option Int := do
  let cs := text.toList
  let day ← date? (cs.take 10)
  guard (cs[10]?.any ['T', 't', ' '].contains)
  let second ← time? ((cs.drop 11).take 8)
  let offset ← offsetAfterParts? (cs.drop 19)
  return (86400 * day + second : Nat) - offset

example : ofText? "1970-01-01T00:00:00Z" = some 62167219200 := by decide

end JupyterWorkloads.Text.Instant
