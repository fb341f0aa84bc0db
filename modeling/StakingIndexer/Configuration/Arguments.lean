import StakingIndexer.Configuration.Option

/-!
# Arguments

The arguments of a command line are read from left to right, and what they leave open is
taken from the environment. A value that stands apart from its option is read only when
the next option begins, so an unknown argument behind it is noticed first.
-/

namespace StakingIndexer

/-- Why arguments are no configuration: an option that has to be given is given neither as
an argument nor in the environment, a text is not of the form of the option's values, an
option lacks its value or a flag's variable is neither true nor false, a flag is given a
value, an option of one value is given twice, or help is asked for. -/
inductive ArgumentError where
  | missingRequired
  | unknownArgument
  | invalidText
  | invalidValue
  | tooManyValues
  | repeated
  | helpRequested
deriving DecidableEq

namespace ArgumentError

def message : ArgumentError → String
  | missingRequired => "a required option is missing"
  | unknownArgument => "an argument is unknown"
  | invalidText => "a value is not of the form of its option"
  | invalidValue => "an option has no value that it admits"
  | tooManyValues => "a flag takes no value"
  | repeated => "an option is given twice"
  | helpRequested => "help is asked for"

end ArgumentError

/-- What the arguments read so far have set, and the last option if its value is yet to come
or has not been read. -/
structure ArgumentState where
  configuration : Configuration
  given : List String
  pending : Option (ConfigurationOption × Option String)

namespace ArgumentState

abbrev Result := Except ArgumentError

def start : ArgumentState := ⟨.standard, [], none⟩

/-- The values between the commas of a text. -/
def splitValues (raw : String) : List String :=
  (raw.toList.splitOn ',').map String.ofList

/-- Set what an option says. -/
def set (s : ArgumentState) (o : ConfigurationOption)
    (change : Configuration → Configuration) : ArgumentState :=
  { s with configuration := change s.configuration, given := o.name :: s.given }

/-- Give an option that has a value. Only one with a list may be given again. -/
def give (s : ArgumentState) (o : ConfigurationOption) (raw : String) : Result ArgumentState :=
  match o.form with
  | .list append => .ok (s.set o (append (splitValues raw)))
  | .single read =>
    if s.given.contains o.name then .error .repeated
    else match read raw with
      | some change => .ok (s.set o change)
      | none => .error .invalidText
  | .flag change =>
    match raw with
    | "true" => .ok (s.set o (change true))
    | "false" => .ok (s.set o (change false))
    | _ => .error .invalidValue

/-- Read the value that an earlier option has waited for. -/
def settle (s : ArgumentState) : Result ArgumentState :=
  let done := { s with pending := none }
  match s.pending with
  | none => .ok done
  | some (o, some raw) => done.give o raw
  | some (_, none) => .error .invalidValue

/-- An argument that begins with two dashes: a name, and a value behind an equals sign. -/
def splitName (cs : List Char) : String × Option String :=
  let name := String.ofList (cs.takeWhile (· ≠ '='))
  match cs.dropWhile (· ≠ '=') with
  | _ :: value => (name, some (String.ofList value))
  | [] => (name, none)

/-- Read an option, with the value that is attached to it. -/
def takeOption (s : ArgumentState) (o : ConfigurationOption) (attached : Option String) :
    Result ArgumentState :=
  match o.form, attached with
  | .flag _, some _ => .error .tooManyValues
  | .flag change, none => do
    let s ← s.settle
    if s.given.contains o.name then throw .repeated
    return s.set o (change true)
  | _, some raw => do (← s.settle).give o raw
  | _, none => return { ← s.settle with pending := some (o, none) }

/-- Read an argument that begins with two dashes. -/
def takeLong (s : ArgumentState) (cs : List Char) : Result ArgumentState :=
  let (name, attached) := splitName cs
  match ConfigurationOption.all.find? (·.name = name) with
  | some o => s.takeOption o attached
  | none =>
    if name ≠ "help" then .error .unknownArgument
    else if attached.isSome then .error .tooManyValues
    else do
      let _ ← s.settle
      throw .helpRequested

/-- Read an argument. No argument stands for itself: it is an option or the value of one. -/
def take (s : ArgumentState) (arg : String) : Result ArgumentState :=
  match arg.toList, s.pending with
  | '-' :: '-' :: cs, _ => s.takeLong cs
  | '-' :: 'h' :: _, _ => do
    let _ ← s.settle
    throw .helpRequested
  | '-' :: _ :: _, _ => .error .unknownArgument
  | _, some (o, none) => .ok { s with pending := some (o, some arg) }
  | _, _ => .error .unknownArgument

/-- Read all arguments. Nothing may follow two dashes that stand alone. -/
def takeAll (s : ArgumentState) : List String → Result ArgumentState
  | [] => s.settle
  | "--" :: rest => if rest.isEmpty then s.settle else .error .unknownArgument
  | arg :: rest => do (← s.take arg).takeAll rest

/-- Take an option from the environment unless an argument has given it. -/
def takeVariable (environment : String → Option String) (s : ArgumentState)
    (o : ConfigurationOption) : Result ArgumentState :=
  if s.given.contains o.name then .ok s
  else match environment o.environment with
    | some raw => s.give o raw
    | none => .ok s

end ArgumentState

namespace Configuration

/-- The configuration that arguments and an environment give. -/
def ofArguments (arguments : List String) (environment : String → Option String) :
    Except ArgumentError Configuration := do
  let s ← ArgumentState.start.takeAll arguments
  let s ← ConfigurationOption.all.foldlM (ArgumentState.takeVariable environment) s
  if ConfigurationOption.all.any fun o => o.required && !s.given.contains o.name then
    throw .missingRequired
  return s.configuration

end Configuration
end StakingIndexer
