import ShapeGraph.Files.Path
import ShapeGraph.Model.Check
import ShapeGraph.Text.Blank
import ShapeGraph.Text.Casing

namespace ShapeGraph

abbrev Environment := Fields String

inductive LogLevel
  | critical
  | error
  | warning
  | info
  | debug
  | notset
  deriving DecidableEq, Repr

namespace LogLevel

def all : List LogLevel := [.critical, .error, .warning, .info, .debug, .notset]

def name : LogLevel → String
  | .critical => "CRITICAL"
  | .error => "ERROR"
  | .warning => "WARNING"
  | .info => "INFO"
  | .debug => "DEBUG"
  | .notset => "NOTSET"

def rank : LogLevel → Nat
  | .critical => 50
  | .error => 40
  | .warning => 30
  | .info => 20
  | .debug => 10
  | .notset => 0

def ofText? (s : String) : Option LogLevel :=
  all.find? fun level => level.name = Text.upper (Text.trim s)

end LogLevel

structure Settings where
  level : LogLevel
  logFile : Option String
  checks : Checks
  modelPath : String
  deriving DecidableEq, Repr

inductive Variable
  | logLevel
  | logFile
  | checkReferences
  | validateTraits
  | validateMemberTraits
  | modelPath
  deriving DecidableEq, Repr

def Variable.key : Variable → String
  | .logLevel => "LOG_LEVEL"
  | .logFile => "LOG_FILE"
  | .checkReferences => "SMITHY_CHECK_REFERENCES"
  | .validateTraits => "SMITHY_VALIDATE_TRAITS"
  | .validateMemberTraits => "SMITHY_VALIDATE_MEMBER_TRAITS"
  | .modelPath => "SMITHY_MODEL_PATH"

structure SwitchWarning where
  switch : Variable
  given : String
  deriving DecidableEq, Repr

def SwitchWarning.message (w : SwitchWarning) : String :=
  "Invalid boolean value for " ++ w.switch.key ++ ": " ++ Text.quoted w.given
    ++ ", using default True"

namespace Settings

def trueWords : List String := ["1", "true", "yes", "on"]

def falseWords : List String := ["0", "false", "no", "off"]

def defaultLevel : LogLevel := .info

def defaultModelPath : String := "./models"

def truth? (s : String) : Option Bool :=
  let word := Text.lower (Text.trim s)
  if word ∈ trueWords then some true else if word ∈ falseWords then some false else none

/-- A switch is on unless it is set to a word for false. -/
def switch (env : Environment) (v : Variable) : Bool := ((env.get? v.key).bind truth?).getD true

def switchWarning? (env : Environment) (v : Variable) : Option SwitchWarning :=
  (env.get? v.key).bind fun given =>
    if Text.trim given = "" ∨ (truth? given).isSome then none else some ⟨v, given⟩

def switches : List Variable := [.checkReferences, .validateTraits, .validateMemberTraits]

def logFile? (env : Environment) (places : Files.Places) : Option (Option String) :=
  match env.get? Variable.logFile.key with
  | none => some none
  | some path => if path = "" then some none else (places (env.get? "HOME") path).map some

def modelPath? (env : Environment) (places : Files.Places) : Option String :=
  places (env.get? "HOME") ((env.get? Variable.modelPath.key).getD defaultModelPath)

/-- Switches are looked at once there is a place for the log file. -/
def warnings (env : Environment) (places : Files.Places) : List SwitchWarning :=
  if (logFile? env places).isSome then switches.filterMap (switchWarning? env) else []

def level? (env : Environment) : Option LogLevel :=
  match env.get? Variable.logLevel.key with
  | none => some defaultLevel
  | some s => LogLevel.ofText? s

def ofEnvironment? (env : Environment) (places : Files.Places) : Option Settings :=
  (logFile? env places).bind fun logFile =>
    (modelPath? env places).bind fun modelPath =>
      (level? env).map fun level =>
        { level
          logFile
          checks :=
            { references := switch env .checkReferences
              traits := switch env .validateTraits
              memberTraits := switch env .validateMemberTraits }
          modelPath }

def checksWith (s : Settings) (references : Option Bool) : Checks :=
  { s.checks with references := references.getD s.checks.references }

end Settings

end ShapeGraph
