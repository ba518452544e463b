/-
The command line: options with a value, flags, and environment variables.

Arguments are read from left to right and the first mistake decides, so an action asked
for behind a mistake is not taken, nor is a mistake noticed behind an action. A value on
the command line wins over the environment, and the environment over the default.

* `readArguments` — the values on a command line;
* `Request.read` — what a command line and an environment ask for.
-/
import NamedSql.Query.Query

namespace NamedSql.CommandLine

/-- The options that take a value. -/
inductive Setting where
  | root
  | out
  | permissions
  | dialect
  | policy
  | suffix
  deriving DecidableEq, Repr

namespace Setting

/-- All options. -/
def all : List Setting :=
  [.root, .out, .permissions, .dialect, .policy, .suffix]

/-- The name of an option. -/
def name : Setting → String
  | .root => "root"
  | .out => "out"
  | .permissions => "perms"
  | .dialect => "dialect"
  | .policy => "policy"
  | .suffix => "suffix"

/-- The environment variable of an option. -/
def environmentName : Setting → String
  | .root => "SQLGEN_ROOT"
  | .out => "SQLGEN_OUT"
  | .permissions => "SQLGEN_PERMS"
  | .dialect => "SQLGEN_DIALECT"
  | .policy => "SQLGEN_POLICY"
  | .suffix => "SQLGEN_SUFFIX"

/-- The option of a name. -/
def ofName? (text : String) : Option Setting :=
  all.find? fun setting => setting.name = text

/-- Whether an option takes a value. Only policies are checked at once. -/
def takes (setting : Setting) (value : String) : Bool :=
  setting != .policy || (Sql.NumberingPolicy.parse? value).isSome

end Setting

/-- Values of options, and how often more messages are asked for. -/
structure Settings where
  values : List (Setting × String)
  verbosity : Nat
  deriving DecidableEq, Repr

/-- What the arguments of a command line come to. -/
inductive Reading where
  | settings (settings : Settings)
  | showVersion
  | showHelp
  /-- The arguments make no sense. -/
  | rejected
  deriving DecidableEq, Repr

namespace Settings

/-- No values. -/
def empty : Settings :=
  { values := [], verbosity := 0 }

/-- The value of an option. -/
def get? (settings : Settings) (setting : Setting) : Option String :=
  settings.values.lookup setting

/-- One more value, unless the option has one or does not take it. -/
def give? (settings : Settings) (setting : Setting) (value : String) : Option Settings :=
  if (settings.get? setting).isSome || !setting.takes value then none
  else some { settings with values := settings.values ++ [(setting, value)] }

/-- One more flag for more messages. -/
def moreVerbose (settings : Settings) : Settings :=
  { settings with verbosity := settings.verbosity + 1 }

end Settings

/-- What an argument is. -/
inductive Argument where
  /-- `--`, behind which no option stands. -/
  | endOfOptions
  | long (name : String) (value : Option String)
  | short (letters : List Char)
  | other
  deriving DecidableEq, Repr

/-- What an argument is. A single dash is no option. -/
def Argument.ofText (text : String) : Argument :=
  match text.toList with
  | ['-', '-'] => .endOfOptions
  | '-' :: '-' :: rest =>
    let value := (rest.dropWhile (· != '=')).tail?
    .long (String.ofList (rest.takeWhile (· != '='))) (value.map String.ofList)
  | '-' :: first :: rest => .short (first :: rest)
  | _ => .other

/-- The flags of a cluster of letters. -/
def readLetters (settings : Settings) : List Char → Reading
  | [] => .settings settings
  | 'v' :: rest => readLetters settings.moreVerbose rest
  | 'V' :: _ => .showVersion
  | 'h' :: _ => .showHelp
  | _ :: _ => .rejected

/-- A flag that takes no value. -/
def readFlag (settings : Settings) (name : String) : Reading :=
  if name = "verbose" then .settings settings.moreVerbose
  else if name = "version" then .showVersion
  else if name = "help" then .showHelp
  else .rejected

/-- The settings that arguments add to given ones. An option whose value did not come with
it awaits the next argument, which must not look like an option. -/
def readArguments (settings : Settings) (awaiting : Option Setting) : List String → Reading
  | [] => if awaiting.isSome then .rejected else .settings settings
  | text :: rest =>
    match awaiting, Argument.ofText text with
    | some setting, .other =>
      match settings.give? setting text with
      | some settings => readArguments settings none rest
      | none => .rejected
    | some _, _ => .rejected
    | none, .other => .rejected
    | none, .endOfOptions => if rest.isEmpty then .settings settings else .rejected
    | none, .short letters =>
      match readLetters settings letters with
      | .settings settings => readArguments settings none rest
      | reading => reading
    | none, .long name value =>
      match Setting.ofName? name, value with
      | some setting, some value =>
        match settings.give? setting value with
        | some settings => readArguments settings none rest
        | none => .rejected
      | some setting, none => readArguments settings (some setting) rest
      | none, some _ => .rejected
      | none, none =>
        match readFlag settings name with
        | .settings settings => readArguments settings none rest
        | reading => reading

/-- The names and values of environment variables. -/
abbrev Environment := List (String × String)

/-- The settings with the values of environment variables where there are none yet. -/
def addEnvironment (environment : Environment) (settings : Settings) :
    List Setting → Option Settings
  | [] => some settings
  | setting :: rest =>
    match settings.get? setting, environment.lookup setting.environmentName with
    | none, some value =>
      match settings.give? setting value with
      | some settings => addEnvironment environment settings rest
      | none => none
    | _, _ => addEnvironment environment settings rest

/-- What a run is asked to do. -/
structure Invocation where
  root : String
  out : String
  permissions : String
  /-- The name of a dialect, which is looked up when the run starts. -/
  dialect : String
  policy : Option Sql.NumberingPolicy
  suffix : String
  verbosity : Nat
  deriving DecidableEq, Repr

/-- The run that settings ask for. -/
def Settings.invocation (settings : Settings) : Invocation :=
  { root := (settings.get? .root).getD "."
    out := (settings.get? .out).getD "stdout"
    permissions := (settings.get? .permissions).getD "0644"
    dialect := (settings.get? .dialect).getD "dollar"
    policy := (settings.get? .policy).bind Sql.NumberingPolicy.parse?
    suffix := (settings.get? .suffix).getD Query.defaultSuffix
    verbosity := settings.verbosity }

/-- What is asked for. -/
inductive Request where
  | run (invocation : Invocation)
  | showVersion
  | showHelp
  | rejected
  deriving DecidableEq, Repr

/-- What a command line and an environment ask for. -/
def Request.read (arguments : List String) (environment : Environment) : Request :=
  match readArguments Settings.empty none arguments with
  | .showVersion => .showVersion
  | .showHelp => .showHelp
  | .rejected => .rejected
  | .settings settings =>
    match addEnvironment environment settings Setting.all with
    | some settings => .run settings.invocation
    | none => .rejected

end NamedSql.CommandLine
