import SensorGateway.Text.Digits

namespace SensorGateway

/-- An option that takes a value. -/
inductive ValueOption where
  | config | logLevel | refreshMs
  deriving DecidableEq, Repr

/-- What the options say; an option that was not given says nothing. -/
structure Options where
  config : Option String
  logLevel : Option String
  refreshMs : Option UInt64
  deriving DecidableEq, Repr

/-- What the command line asks for. -/
inductive Invocation where
  | run (options : Options)
  | help
  | version
  deriving DecidableEq, Repr

/-- What is wrong with a command line. -/
inductive UsageError where
  | unexpected (argument : String)
  | unexpectedValue (value : String)
  | valueMissing (option : ValueOption)
  | badValue (option : ValueOption) (value : String)
  | repeated (option : ValueOption)
  deriving DecidableEq, Repr

namespace ValueOption

/-- Every option that takes a value. -/
def all : List ValueOption :=
  [.config, .logLevel, .refreshMs]

/-- The name of the option, which follows two hyphens. -/
def name : ValueOption → String
  | .config => "config"
  | .logLevel => "log-level"
  | .refreshMs => "refresh-ms"

end ValueOption

namespace UsageError

/-- The cause in words. -/
def message : UsageError → String
  | .unexpected argument => "unexpected argument " ++ argument
  | .unexpectedValue value => "unexpected value " ++ value
  | .valueMissing option => "a value is required for --" ++ option.name
  | .badValue option value => "invalid value " ++ value ++ " for --" ++ option.name
  | .repeated option => "--" ++ option.name ++ " cannot be used multiple times"

end UsageError

namespace Options

/-- No option given. -/
def none : Options := ⟨.none, .none, .none⟩

/-- The configuration file when none is given. -/
def defaultConfig : String := "mysgw.yaml"

/-- The configuration file. -/
def configPath (options : Options) : String :=
  options.config.getD defaultConfig

/-- Whether an option was given. -/
def has (options : Options) : ValueOption → Bool
  | .config => options.config.isSome
  | .logLevel => options.logLevel.isSome
  | .refreshMs => options.refreshMs.isSome

/-- A whole number of 64 bits without a sign, or behind a plus sign. -/
def readPeriod? (value : String) : Option UInt64 :=
  let digits := match value.toList with
    | '+' :: rest => rest
    | cs => cs
  if Text.isDigits digits && Text.digitsValue digits < UInt64.size then some (UInt64.ofNat (Text.digitsValue digits))
  else .none

/-- The options with one more. A path must not be empty, and a period has to be a number. -/
def set (options : Options) (option : ValueOption) (value : String) : Except UsageError Options :=
  if options.has option then .error (.repeated option)
  else match option with
    | .config => if value.isEmpty then .error (.badValue option value) else .ok { options with config := value }
    | .logLevel => .ok { options with logLevel := value }
    | .refreshMs =>
      match readPeriod? value with
      | some period => .ok { options with refreshMs := some period }
      | .none => .error (.badValue option value)

end Options

/-- What one argument says: an option with its value, an option whose value is the next argument, a
request that ends the reading, or that no more options follow. -/
inductive Argument where
  | valued (option : ValueOption) (value : String)
  | open (option : ValueOption)
  | request (invocation : Invocation)
  | noMore
  deriving DecidableEq, Repr

namespace Argument

/-- Whether an argument may be the value of the option before it. -/
def mayBeValue (argument : String) : Bool :=
  match argument.toList with
  | ['-'] => true
  | '-' :: _ => false
  | _ => true

/-- An argument behind two hyphens: a name, and a value if there is an equals sign. -/
def ofLong (argument : String) (body : List Char) : Except UsageError Argument :=
  let name := String.ofList (body.takeWhile (· != '='))
  let value := match body.dropWhile (· != '=') with
    | _ :: rest => some (String.ofList rest)
    | [] => none
  match ValueOption.all.find? (·.name = name), value with
  | some option, some value => .ok (.valued option value)
  | some option, none => .ok (.open option)
  | none, some value =>
    if name = "help" ∨ name = "version" then .error (.unexpectedValue value) else .error (.unexpected argument)
  | none, none =>
    if name = "help" then .ok (.request .help)
    else if name = "version" then .ok (.request .version)
    else .error (.unexpected argument)

/-- An argument behind one hyphen: the first letter decides, and what follows a letter that takes a
value is the value. -/
def ofShort (argument : String) : List Char → Except UsageError Argument
  | 'h' :: _ => .ok (.request .help)
  | 'V' :: _ => .ok (.request .version)
  | ['c'] => .ok (.open .config)
  | 'c' :: '=' :: value => .ok (.valued .config (String.ofList value))
  | 'c' :: value => .ok (.valued .config (String.ofList value))
  | _ => .error (.unexpected argument)

/-- Reads an argument that is not the value of another. -/
def parse (argument : String) : Except UsageError Argument :=
  match argument.toList with
  | ['-', '-'] => .ok .noMore
  | '-' :: '-' :: body => ofLong argument body
  | '-' :: c :: body => ofShort argument (c :: body)
  | _ => .error (.unexpected argument)

end Argument

namespace Invocation

/-- Reads arguments behind those that gave some options. -/
def parseFrom (options : Options) : List String → Except UsageError Invocation
  | [] => .ok (.run options)
  | argument :: rest =>
    match Argument.parse argument, rest with
    | .error cause, _ => .error cause
    | .ok (.request invocation), _ => .ok invocation
    | .ok .noMore, [] => .ok (.run options)
    | .ok .noMore, next :: _ => .error (.unexpected next)
    | .ok (.valued option value), rest => do parseFrom (← options.set option value) rest
    | .ok (.open option), value :: rest =>
      if Argument.mayBeValue value then do parseFrom (← options.set option value) rest
      else .error (.valueMissing option)
    | .ok (.open option), [] => .error (.valueMissing option)

/-- Reads the arguments of the program. -/
def parse (arguments : List String) : Except UsageError Invocation :=
  parseFrom .none arguments

/-- What the program says about itself. -/
def versionText : String := "mysgw 0.1.0"

/-- How the program is used, a line each. -/
def helpLines : List String :=
  ["Bridge a sensor-network gateway to host items",
   "",
   "Usage: mysgw [OPTIONS]",
   "",
   "Options:",
   "  -c, --config <CONFIG>          Configuration file (YAML) [default: " ++ Options.defaultConfig ++ "]",
   "      --log-level <LOG_LEVEL>    Log filter, e.g. \x60debug\x60 or \x60mysgw_link=trace\x60. \x60RUST_LOG\x60 wins if set",
   "      --refresh-ms <REFRESH_MS>  Health check period in milliseconds, overriding the configuration",
   "  -h, --help                     Print help",
   "  -V, --version                  Print version"]

end Invocation

end SensorGateway
