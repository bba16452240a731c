import ScopedGrants.Cluster.Store
import ScopedGrants.CommandLine.Arguments
import ScopedGrants.CommandLine.Libraries
import ScopedGrants.Config.Resolve
import ScopedGrants.Fixture

/-!
Running a command. A check that allows something ends with the code 0. Everything else a check can
come to, denials and failures alike, ends with another code.
-/

namespace ScopedGrants.CommandLine

open Config

structure World where
  files : String → Option File
  environment : Environment
  clock : Instant
  libraries : Libraries

structure Result where
  code : Nat
  output : String := ""
deriving DecidableEq, Repr

inductive RunError where
  /-- The runtime does not come up. -/
  | runtime
  | config (error : ConfigError)
  /-- The log cannot be set up. -/
  | log
  | fixture (error : Fixture.LoadError)
  | check (error : Fixture.CheckError)
  | offCalendar (instant : Instant)
  | noCluster
  | needsSecret (permission : Permission)
  | cluster (failure : Cluster.Failure)
  | unreadable (path : String)
  | action (error : Grants.ActionError)
deriving DecidableEq, Repr

def RunError.message : RunError → String
  | runtime => "the runtime does not come up"
  | config error => error.message
  | log => "the log cannot be set up"
  | fixture error => error.message
  | check error => ": ".intercalate error.causes
  | offCalendar instant => "timestamp " ++ toString instant.toInt ++ " is out of range"
  | noCluster => "there is no cluster to ask"
  | needsSecret permission => "--secret is required for " ++ permission.name
  | cluster failure => failure.message
  | unreadable path => "failed to read " ++ path
  | action error => error.message

/-- The code that a failed command ends with, which is another one where a library panics. -/
def RunError.code : RunError → Nat
  | runtime | log => 101
  | _ => 1

def Result.ofDecision : Decision → Result
  | .allowed => { code := 0, output := "allowed\n" }
  | .denied => { code := 1, output := AccessError.permissionDenied.message ++ "\n" }

/-- The instant to go by, which has to be on the calendar. -/
def referenceTime (world : World) : Option Instant → Except RunError Instant
  | none => .ok world.clock
  | some instant => if instant.OnCalendar then .ok instant else .error (.offCalendar instant)

def loadConfig (world : World) (path : Option String) : Except RunError Resolved :=
  let path := path.getD systemPath
  (resolveFile path (world.files path) world.environment).mapError .config

/-- Sets up the log by the filter in the variables or, where there is none that is well formed, by
the level that is configured. -/
def setUpLog (world : World) (config : Resolved) : Except RunError Unit :=
  match world.libraries.filterOfVariables world.environment with
  | .accepted => .ok ()
  | .refused => if world.libraries.acceptsLevel config.logLevel then .ok () else .error .log
  | .panicked => .error .log

def runCheck (world : World) (config : Resolved) (path : String) (query : Query) :
    Except RunError Result := do
  let fixture ← (Fixture.load path (world.files path)).mapError .fixture
  let now ← referenceTime world query.now
  let outcome ← (fixture.evaluate config.access query.caller query.permission now).mapError .check
  return .ofDecision outcome.decision

def clusterDecision (config : Resolved) (space : String) (secret : Option String) (query : Query)
    (now : Instant) : Cluster.Program (Except RunError Decision) :=
  let store : Cluster.Store := { keys := config.access.keys, labels := config.labels }
  let { caller, permission, .. } := query
  match permission.scope, secret with
  | .organization, _ =>
    Except.ok <$> store.checkOrganization caller space permission now
  | .project, _ =>
    (·.mapError .cluster) <$>
      (store.checkProject config.access.organizationCascade caller space permission now).run
  | .secret, none => return .error (.needsSecret permission)
  | .secret, some name =>
    (·.mapError .cluster) <$> (store.checkSecret caller space name permission now).run

def runGrants (world : World) (path : String) (now : Option Instant) (action : Grants.Action) :
    Except RunError Result := do
  let some text := (world.files path).bind File.text? | .error (.unreadable path)
  let now ← referenceTime world now
  return { code := 0, output := (← (action.apply text now).mapError .action) ++ "\n" }

def Invocation.paths (invocation : Invocation) : List String :=
  let config := invocation.config.getD systemPath
  match invocation.command with
  | .check path _ | .grants path _ _ => [config, path]
  | .clusterCheck .. => [config]

/-- The environment variables that a run looks at. -/
def variableNames : List String :=
  workersVariable :: configVariable :: filterVariable :: Layer.variableNames

variable {m : Type → Type} [Monad m]

/-- Carries out a command, once the log is set up. The client for the cluster is set up only where
it is needed. -/
def Invocation.run (world : World) (connect : m (Option (Cluster.Client m)))
    (invocation : Invocation) : ExceptT RunError m Result := do
  let config ← loadConfig world invocation.config
  setUpLog world config
  match invocation.command with
  | .check path query => runCheck world config path query
  | .clusterCheck space secret query =>
    let now ← referenceTime world query.now
    let some client ← (connect : ExceptT RunError m _) | throw .noCluster
    return .ofDecision (← ExceptT.mk ((clusterDecision config space secret query now).run client))
  | .grants path now action => runGrants world path now action

def usage : String :=
  "Warden authorization tooling\n\nUsage: warden [--config FILE] COMMAND\n\n"
    ++ "Commands: check, cluster-check, grants, help\n"

def versionLine : String := "warden 0.1.0\n"

/-- A failure leaves nothing but its message for the log. -/
def RunError.report (error : RunError) : Result × Option String :=
  ({ code := error.code }, some error.message)

/-- Runs the program on its arguments, which are not looked at before the runtime has come up. -/
def run (world : World) (connect : m (Option (Cluster.Client m))) (arguments : List String) :
    m (Result × Option String) := do
  if ¬ world.libraries.starts world.environment then return RunError.runtime.report
  match Invocation.ofArguments world.environment arguments with
  | .error .help => return ({ code := 0, output := usage }, none)
  | .error .version => return ({ code := 0, output := versionLine }, none)
  | .error .rejected => return ({ code := 2 }, some usage)
  | .ok invocation =>
    match ← (invocation.run world connect).run with
    | .ok result => return (result, none)
    | .error error => return error.report

end ScopedGrants.CommandLine
