/-! Command lines of long options, switches and nothing else. An option takes its value from the same
word, after an equals sign, or from the next word, which must not look like an option. Each option is
given once. Where an option is not given, a variable of the environment can stand in for it. -/
namespace JupyterWorkloads.CommandLine

/-- Why a command line is not run, two requests of the user among the reasons. -/
inductive UsageError where
  | unknownArgument
  /-- An option without its value. -/
  | invalidValue
  /-- A value that the option does not take. -/
  | valueValidation
  /-- An option given twice. -/
  | argumentConflict
  /-- A switch with a value. -/
  | tooManyValues
  | displayHelp
  | displayVersion
  deriving DecidableEq, Inhabited

def UsageError.name : UsageError → String
  | unknownArgument => "UnknownArgument"
  | invalidValue => "InvalidValue"
  | valueValidation => "ValueValidation"
  | argumentConflict => "ArgumentConflict"
  | tooManyValues => "TooManyValues"
  | displayHelp => "DisplayHelp"
  | displayVersion => "DisplayVersion"

/-- What an option does. -/
inductive Role where
  /-- Takes a value that passes the test. -/
  | value (accepts : String → Bool)
  | switch
  | help
  | version

structure Flag where
  long : String
  short : Option Char := none
  /-- The variable that stands in for the option. -/
  envName : Option String := none
  role : Role

def helpFlag : Flag where
  long := "help"
  short := some 'h'
  role := .help

def versionFlag : Flag where
  long := "version"
  short := some 'V'
  role := .version

abbrev Given := List (String × String)

structure State where
  given : Given := []
  /-- The option that was read last while nothing was done about it yet, with its value if that has
  been read too. -/
  pending : Option (Flag × Option String) := none
  /-- Two lone dashes have been read. -/
  closed : Bool := false

namespace State

def isGiven (s : State) (flag : Flag) : Bool := s.given.any fun row => row.1 = flag.long

def record (s : State) (flag : Flag) (value : String) : Except UsageError State :=
  if s.isGiven flag then .error .argumentConflict
  else match flag.role with
    | .value accepts =>
      if accepts value then .ok { s with given := s.given ++ [(flag.long, value)] }
      else .error .valueValidation
    | .switch => .ok { s with given := s.given ++ [(flag.long, value)] }
    | .help => .error .displayHelp
    | .version => .error .displayVersion

/-- Takes note of the pending option, which needs its value by now. -/
def settle (s : State) : Except UsageError State :=
  match s.pending with
  | none => .ok s
  | some (_, none) => .error .invalidValue
  | some (flag, some value) => { s with pending := none }.record flag value

/-- Takes note of an option without a value. -/
def react (s : State) (flag : Flag) : Except UsageError State := do
  (← s.settle).record flag "true"

def long (flags : List Flag) (s : State) (name : String) (value : Option String) :
    Except UsageError State :=
  match flags.find? fun flag => flag.long = name with
  | none => .error .unknownArgument
  | some flag =>
    match flag.role, value with
    | .value _, some value => do (← s.settle).record flag value
    | .value _, none => do return { (← s.settle) with pending := some (flag, none) }
    | _, some _ => .error .tooManyValues
    | _, none => s.react flag

def short (flags : List Flag) (s : State) : List Char → Except UsageError State
  | [] => .ok s
  | c :: rest =>
    match flags.find? fun flag => flag.short = some c with
    | none => .error .unknownArgument
    | some flag => do short flags (← s.react flag) rest

/-- Reads a word that is no option: only a pending option can take it. -/
def plain (s : State) (word : String) : Except UsageError State :=
  match s.pending with
  | some (flag, none) => .ok { s with pending := some (flag, some word) }
  | _ => .error .unknownArgument

def splitValue (word : List Char) : String × Option String :=
  match word.dropWhile (· != '=') with
  | [] => (String.ofList word, none)
  | _ :: value => (String.ofList (word.takeWhile (· != '=')), some (String.ofList value))

def word (flags : List Flag) (s : State) (w : String) : Except UsageError State :=
  if s.closed then .error .unknownArgument
  else match w.toList with
    | ['-', '-'] => .ok { s with closed := true }
    | '-' :: '-' :: rest =>
      let (name, value) := splitValue rest
      s.long flags name value
    | ['-'] => s.plain w
    | '-' :: letters => s.short flags letters
    | _ => s.plain w

def words (flags : List Flag) (s : State) : List String → Except UsageError State
  | [] => s.settle
  | w :: rest => do words flags (← s.word flags w) rest

end State

/-- The values of the environment for the options that were not given. -/
def standIns (environment : List (String × String)) (given : Given) :
    List Flag → Except UsageError Given
  | [] => .ok given
  | flag :: rest =>
    let stand := if given.any (fun row => row.1 = flag.long) then none
      else flag.envName.bind fun name => environment.lookup name
    match stand with
    | none => standIns environment given rest
    | some value => do
      let s ← { given := given : State }.record flag value
      standIns environment s.given rest

def read (flags : List Flag) (environment : List (String × String)) (words : List String) :
    Except UsageError Given := do
  let s ← ({} : State).words flags words
  standIns environment s.given flags

end JupyterWorkloads.CommandLine
