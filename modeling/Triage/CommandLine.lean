import Triage.Bot
import Triage.Text.Decimal

namespace Triage

/-!
# The command line

* `Setting` — what can be set, by an option or by a variable of the environment.
* `UsageStop` — why the command line leads to no run.
* `readArguments` — the options that are given, each with its value.
* `Config.ofCommandLine` — the configuration: an option comes before a variable, a variable before the
  default.
-/

/-- What can be set. -/
inductive Setting
  | repository
  | token
  | eventPath
  | apiBase
  | requestTimeout
  | retryAttempts
  | retryDelay
  | scriptsDirectory
  | scriptEnding
  deriving DecidableEq, Repr

/-- What a setting takes. -/
inductive SettingKind
  | text
  | path
  | positive
  deriving DecidableEq, Repr

/-- Why the command line leads to no run: a fault, or a request for help or for the version. -/
inductive UsageStop
  | missingRequired
  | unknownArgument
  | repeatedOption
  | missingValue
  | tooManyValues
  | badValue (reason : String)
  | help
  | version
  deriving DecidableEq, Repr

namespace Setting

/-- All settings, in the order in which their variables are looked up. -/
def all : List Setting :=
  [.repository, .token, .eventPath, .apiBase, .requestTimeout, .retryAttempts, .retryDelay,
    .scriptsDirectory, .scriptEnding]

/-- The option without its dashes. -/
def optionName : Setting → String
  | .repository => "github-repo"
  | .token => "github-token"
  | .eventPath => "github-event-path"
  | .apiBase => "github-api-base"
  | .requestTimeout => "request-timeout-ms"
  | .retryAttempts => "retry-max-attempts"
  | .retryDelay => "retry-base-delay-ms"
  | .scriptsDirectory => "scripts-dir"
  | .scriptEnding => "script-extension"

/-- The variable of the environment. -/
def variableName : Setting → String
  | .repository => "GITHUB_REPOSITORY"
  | .token => "GITHUB_TOKEN"
  | .eventPath => "GITHUB_EVENT_PATH"
  | .apiBase => "GITHUB_API_URL"
  | .requestTimeout => "ISSUEBOT_REQUEST_TIMEOUT_MS"
  | .retryAttempts => "ISSUEBOT_RETRY_MAX_ATTEMPTS"
  | .retryDelay => "ISSUEBOT_RETRY_BASE_DELAY_MS"
  | .scriptsDirectory => "ISSUEBOT_SCRIPTS_DIR"
  | .scriptEnding => "ISSUEBOT_SCRIPT_EXTENSION"

/-- What the setting takes. -/
def kind : Setting → SettingKind
  | .eventPath | .scriptsDirectory => .path
  | .requestTimeout | .retryAttempts | .retryDelay => .positive
  | _ => .text

/-- The setting of an option. -/
def ofOption? (name : String) : Option Setting := all.find? (·.optionName == name)

end Setting

/-! ### Values -/

/-- A positive number of 64 bits. -/
def readPositive (text : String) : Except UsageStop Nat :=
  match Text.readWord text.toList with
  | .error e => .error (.badValue ("failed to parse integer: " ++ e.message))
  | .ok 0 => .error (.badValue "value must be greater than 0")
  | .ok n => .ok n

/-- Whether a setting takes a value: a path has to hold something, a number has to be positive. -/
def Setting.check (setting : Setting) (value : String) : Except UsageStop Unit :=
  match setting.kind with
  | .text => .ok ()
  | .path => if value.isEmpty then .error .missingValue else .ok ()
  | .positive => (readPositive value).map fun _ => ()

/-! ### Arguments -/

/-- The settings that have a value, with it. -/
abbrev Assignment := List (Setting × String)

/-- Gives a setting its value. -/
def assign (given : Assignment) (setting : Setting) (value : String) :
    Except UsageStop Assignment :=
  if given.any (·.1 == setting) then .error .repeatedOption
  else do
    setting.check value
    return given ++ [(setting, value)]

/-- An argument by its form. -/
inductive Argument
  | plain (text : String)
  | long (name : String) (value : Option String)
  | short (flag : Char)
  | separator
  deriving DecidableEq, Repr

/-- The form of an argument: two dashes alone, two dashes and a name, one dash and letters, or a plain
text. A single dash is plain. -/
def Argument.ofString (text : String) : Argument :=
  match text.toList with
  | ['-', '-'] => .separator
  | '-' :: '-' :: rest =>
    match Text.cutAt '=' rest with
    | some (name, value) => .long (String.ofList name) (some (String.ofList value))
    | none => .long (String.ofList rest) none
  | '-' :: c :: _ => .short c
  | _ => .plain text

/-- How far the arguments have been read: the settings given, and the option whose value is due or
has come but is not taken in yet. -/
structure ArgumentReader where
  given : Assignment
  pending : Option (Setting × Option String)

namespace ArgumentReader

/-- Nothing has been read. -/
def start : ArgumentReader := ⟨[], none⟩

/-- Takes in the option that is pending. -/
def settle (reader : ArgumentReader) : Except UsageStop Assignment :=
  match reader.pending with
  | none => .ok reader.given
  | some (_, none) => .error .missingValue
  | some (setting, some value) => assign reader.given setting value

/-- An option that takes no value. -/
def flag (reader : ArgumentReader) (stop : UsageStop) (value : Option String) :
    Except UsageStop ArgumentReader :=
  match value with
  | some _ => .error .tooManyValues
  | none => do
    let _ ← reader.settle
    .error stop

/-- An option by its name. -/
def long (reader : ArgumentReader) (name : String) (value : Option String) :
    Except UsageStop ArgumentReader :=
  if name = "help" then reader.flag .help value
  else if name = "version" then reader.flag .version value
  else
    match Setting.ofOption? name with
    | none => .error .unknownArgument
    | some setting => do
      let given ← reader.settle
      match value with
      | some value => return ⟨← assign given setting value, none⟩
      | none => return ⟨given, some (setting, none)⟩

/-- One more argument. -/
def step (reader : ArgumentReader) : Argument → Except UsageStop ArgumentReader
  | .long name value => reader.long name value
  | .short c =>
    if c = 'h' then reader.flag .help none
    else if c = 'V' then reader.flag .version none
    else .error .unknownArgument
  | .plain text =>
    match reader.pending with
    | some (setting, none) => .ok { reader with pending := some (setting, some text) }
    | _ => .error .unknownArgument
  | .separator => .ok reader

/-- Reads the arguments in turn. After a separator nothing may come. -/
def read (reader : ArgumentReader) : List Argument → Except UsageStop Assignment
  | [] => reader.settle
  | .separator :: [] => reader.settle
  | .separator :: _ => .error .unknownArgument
  | argument :: rest => do (← reader.step argument).read rest

end ArgumentReader

/-- The options that are given, each with its value. -/
def readArguments (arguments : List String) : Except UsageStop Assignment :=
  ArgumentReader.start.read (arguments.map Argument.ofString)

/-! ### Configuration -/

/-- Adds the variables of the environment for the settings that are not given. A variable that is not
needed is not looked at. -/
def addVariables (environment : String → Option String) (given : Assignment) :
    List Setting → Except UsageStop Assignment
  | [] => .ok given
  | setting :: rest =>
    if given.any (·.1 == setting) then addVariables environment given rest
    else
      match environment setting.variableName with
      | none => addVariables environment given rest
      | some value => do
        setting.check value
        addVariables environment (given ++ [(setting, value)]) rest

/-- The value of a setting, which has to be there. -/
def required (given : Assignment) (setting : Setting) : Except UsageStop String :=
  match given.lookup setting with
  | some value => .ok value
  | none => .error .missingRequired

/-- The number of a setting, or its default. -/
def number (given : Assignment) (setting : Setting) (default : Nat) : Except UsageStop Nat :=
  match given.lookup setting with
  | some value => readPositive value
  | none => .ok default

/-- The configuration by the settings that have a value. The ending of script names goes with the
directory of scripts only. -/
def Config.ofAssignment (given : Assignment) : Except UsageStop Config := do
  let repository ← required given .repository
  let token ← required given .token
  let eventPath ← required given .eventPath
  let requestTimeout ← number given .requestTimeout 30000
  let retryAttempts ← number given .retryAttempts 1
  let retryDelay ← number given .retryDelay 500
  if (given.lookup .scriptEnding).isSome && (given.lookup .scriptsDirectory).isNone then
    throw .missingRequired
  return {
    repository, token, eventPath, requestTimeout, retryAttempts, retryDelay
    apiBase := (given.lookup .apiBase).getD "https://api.github.com"
    scriptsDirectory := given.lookup .scriptsDirectory
    scriptEnding := (given.lookup .scriptEnding).getD ".py" }

/-- The configuration by the arguments and the environment. -/
def Config.ofCommandLine (arguments : List String) (environment : String → Option String) :
    Except UsageStop Config := do
  let given ← readArguments arguments
  let given ← addVariables environment given Setting.all
  Config.ofAssignment given

end Triage
