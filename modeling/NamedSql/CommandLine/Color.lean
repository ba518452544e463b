/-
Colors in messages.

Colors are for terminals that can show them. Environment variables overrule what is known
of the terminal: some ask for colors wherever a message goes, others refuse them.

* `showsColor` — whether colors are to be used;
* `paintRed` — a text in red.
-/
import NamedSql.CommandLine.Arguments

namespace NamedSql.CommandLine.Color

/-- Whether a text spells the number zero. -/
def spellsZero (text : String) : Bool :=
  match text.toList with
  | '+' :: digits => !digits.isEmpty && digits.all (· == '0')
  | digits => !digits.isEmpty && digits.all (· == '0')

/-- Whether a variable is set to anything but zero. -/
def isOn (environment : Environment) (variableName : String) : Bool :=
  (environment.lookup variableName).any (· != "0")

/-- Whether colors are asked for wherever a message goes. `FORCE_COLOR` gives a level, and
if it is set it alone decides. -/
def isForced (environment : Environment) : Bool :=
  match environment.lookup "FORCE_COLOR" with
  | some level => level != "false" && !spellsZero level
  | none => isOn environment "CLICOLOR_FORCE"

/-- Whether colors are refused. -/
def isRefused (environment : Environment) : Bool :=
  isOn environment "NO_COLOR" || environment.lookup "TERM" == some "dumb"

/-- The variables by which build servers make themselves known. -/
def buildServerVariables : List String :=
  ["CI_NAME", "GITHUB_ACTION", "GITLAB_CI", "NETLIFY", "TRAVIS", "CODEBUILD_SRC_DIR",
    "BUILDER_OUTPUT", "GITLAB_DEPLOYMENT", "NOW_GITHUB_DEPLOYMENT", "NOW_BUILDER",
    "BITBUCKET_DEPLOYMENT", "GERRIT_PROJECT", "SYSTEM_TEAMFOUNDATIONCOLLECTIONURI", "BITRISE_IO",
    "BUDDY_WORKSPACE_ID", "BUILDKITE", "CIRRUS_CI", "APPVEYOR", "CIRCLECI", "SEMAPHORE", "DRONE",
    "DSARI", "TDDIUM", "STRIDER", "TASKCLUSTER_ROOT_URL", "JENKINS_URL", "bamboo.buildKey",
    "GO_PIPELINE_NAME", "HUDSON_URL", "WERCKER", "MAGNUM", "NEVERCODE", "RENDER", "SAIL_CI",
    "SHIPPABLE"]

/-- The values of the variable `CI` that stand for a build server. -/
def buildServerValues : List String :=
  ["true", "1", "woodpecker"]

/-- Where some build servers keep an interpreter, to which the variable `NODE` points. -/
def buildServerPath : String :=
  "//heroku/node/bin/node"

/-- Whether a text has a given end. -/
def endsIn (text ending : String) : Bool :=
  ending.toList.isSuffixOf text.toList

/-- Whether the program runs on a build server, whose logs show colors. -/
def onBuildServer (environment : Environment) : Bool :=
  (environment.lookup "CI").any buildServerValues.contains
    || (environment.lookup "NODE").any (endsIn · buildServerPath)
    || buildServerVariables.any fun variableName => (environment.lookup variableName).isSome

/-- Whether the terminal is one that shows colors. -/
def isCapable (environment : Environment) : Bool :=
  (environment.lookup "COLORTERM").isSome || (environment.lookup "TERM").isSome
    || environment.lookup "TERM_PROGRAM" == some "iTerm.app"
    || environment.lookup "TERM_PROGRAM" == some "Apple_Terminal"
    || isOn environment "CLICOLOR" || onBuildServer environment

/-- Whether messages are colored, given whether they go to a terminal. -/
def showsColor (terminal : Bool) (environment : Environment) : Bool :=
  isForced environment
    || !isRefused environment && (terminal || isOn environment "IGNORE_IS_TERMINAL")
      && isCapable environment

/-- The variables that matter to colors. -/
def variableNames : List String :=
  ["FORCE_COLOR", "CLICOLOR_FORCE", "NO_COLOR", "TERM", "IGNORE_IS_TERMINAL", "COLORTERM",
    "TERM_PROGRAM", "CLICOLOR", "CI", "NODE"] ++ buildServerVariables

/-- A text in red. -/
def paintRed (text : String) : String :=
  "\x1b[31m" ++ text ++ "\x1b[39m"

end NamedSql.CommandLine.Color
