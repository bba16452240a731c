import ScopedGrants.CommandLine.Run
import ScopedGrants.Proofs.Cluster.FailClosed
import ScopedGrants.Proofs.Config.Validation

/-!
What a check comes to as a run of the whole program. Unless everything on the way to a decision goes
through, a run prints nothing and ends with a code other than 0.
-/

namespace ScopedGrants.CommandLine

open Config

def Command.IsCheck : Command → Prop
  | check .. | clusterCheck .. => True
  | grants .. => False

/-- The log can be set up, by the filter in the variables or else by a level. -/
def Libraries.Logs (libraries : Libraries) (environment : Environment) (level : String) : Prop :=
  libraries.filterOfVariables environment = .accepted ∨
    libraries.filterOfVariables environment = .refused ∧ libraries.acceptsLevel level = true

/-- The libraries do as they promise: the runtime comes up under the variables, and no filter for
the log makes them panic. -/
structure Libraries.Reliable (libraries : Libraries) (environment : Environment) : Prop where
  starts : libraries.starts environment = true
  filtered : libraries.filterOfVariables environment ≠ .panicked
  leveled : ∀ level, libraries.acceptsLevel level = true

def Resolves (world : World) (path : Option String) (config : Resolved) : Prop :=
  resolveFile (path.getD systemPath) (world.files (path.getD systemPath)) world.environment =
    .ok config

/-- The configuration that a run goes by, once it has started and set up its log. -/
structure Prepared (world : World) (path : Option String) (config : Resolved) : Prop where
  started : world.libraries.starts world.environment = true
  resolved : Resolves world path config
  logged : world.libraries.Logs world.environment config.logLevel

variable {world : World} {connection : Option (Cluster.Client Id)} {path : Option String}
  {config : Resolved} {command : Command} {query : Query} {decision : Decision} {result : Result}
  {asked : Option Instant} {now : Instant}

/-- What a check decides under a configuration. It goes by the instant that is asked for, or else by
the present one. -/
inductive Decides (world : World) (connection : Option (Cluster.Client Id)) (config : Resolved) :
    Command → Decision → Prop
  | fixture {file text : String} {query : Query} {fixture : Fixture} {outcome : Fixture.Outcome}
      (found : (world.files file).bind File.text? = some text)
      (decoded : Json.decode Fixture.decode text = .ok fixture)
      (dated : ∀ instant ∈ query.now, instant.OnCalendar)
      (evaluated : fixture.evaluate config.access query.caller query.permission
        (query.now.getD world.clock) = .ok outcome) :
      Decides world connection config (.check file query) outcome.decision
  | cluster {space : String} {secret : Option String} {query : Query}
      {client : Cluster.Client Id} {decision : Decision}
      (connected : connection = some client)
      (dated : ∀ instant ∈ query.now, instant.OnCalendar)
      (checked : Cluster.outcome client config space secret query (query.now.getD world.clock) =
        .ok decision) :
      Decides world connection config (.clusterCheck space secret query) decision

def Concludes (world : World) (connection : Option (Cluster.Client Id)) (path : Option String)
    (command : Command) (decision : Decision) : Prop :=
  ∃ config, Prepared world path config ∧ Decides world connection config command decision

/-! ### Steps -/

theorem run_lift_bind {ε α β : Type} (first : Except ε α) (next : α → ExceptT ε Id β) :
    ((liftM first : ExceptT ε Id α) >>= next).run = first >>= fun value => (next value).run := by
  cases first <;> rfl

theorem referenceTime_eq_ok :
    referenceTime world asked = .ok now ↔
      (∀ instant ∈ asked, instant.OnCalendar) ∧ asked.getD world.clock = now := by
  cases asked with
  | none => simp [referenceTime]
  | some instant => by_cases on : instant.OnCalendar <;> simp [referenceTime, on]

theorem load_eq_ok {file : String} {content : Option File} {fixture : Fixture} :
    Fixture.load file content = .ok fixture ↔
      ∃ text, content.bind File.text? = some text ∧
        Json.decode Fixture.decode text = .ok fixture := by
  unfold Fixture.load
  cases content.bind File.text? with
  | none => simp
  | some text => simp [mapError_eq_ok]

theorem runCheck_eq_ok {file : String} :
    runCheck world config file query = .ok result ↔
      ∃ decision, Decides world connection config (.check file query) decision ∧
        .ofDecision decision = result := by
  simp only [runCheck, bind_eq_ok, mapError_eq_ok, load_eq_ok, referenceTime_eq_ok]
  constructor
  · rintro ⟨fixture, ⟨text, found, decoded⟩, _, ⟨dated, rfl⟩, outcome, evaluated, same⟩
    exact ⟨_, .fixture found decoded dated evaluated, Except.ok.inj same⟩
  · rintro ⟨_, decides, rfl⟩
    cases decides with
    | fixture found decoded dated evaluated =>
      exact ⟨_, ⟨_, found, decoded⟩, _, ⟨dated, rfl⟩, _, evaluated, rfl⟩

def runClusterCheck (world : World) (connection : Option (Cluster.Client Id)) (config : Resolved)
    (space : String) (secret : Option String) (query : Query) : Except RunError Result := do
  let now ← referenceTime world query.now
  let some client := connection | .error .noCluster
  return .ofDecision (← Cluster.outcome client config space secret query now)

theorem runClusterCheck_eq_ok {space : String} {secret : Option String} :
    runClusterCheck world connection config space secret query = .ok result ↔
      ∃ decision, Decides world connection config (.clusterCheck space secret query) decision ∧
        .ofDecision decision = result := by
  simp only [runClusterCheck, bind_eq_ok, referenceTime_eq_ok]
  constructor
  · rintro ⟨_, ⟨dated, rfl⟩, went⟩
    cases connection with
    | none => cases went
    | some client =>
      obtain ⟨decision, checked, same⟩ := bind_eq_ok.mp went
      exact ⟨_, .cluster rfl dated checked, Except.ok.inj same⟩
  · rintro ⟨_, decides, rfl⟩
    cases decides with
    | cluster connected dated checked =>
      subst connected
      exact ⟨_, ⟨dated, rfl⟩, bind_eq_ok.mpr ⟨_, checked, rfl⟩⟩

theorem run_clusterCheck {space : String} {secret : Option String} :
    (Invocation.run world (pure connection : Id _) ⟨path, .clusterCheck space secret query⟩).run =
      loadConfig world path >>= fun config => setUpLog world config >>= fun _ =>
        runClusterCheck world connection config space secret query := by
  refine (run_lift_bind _ _).trans (bind_congr fun config => ?_)
  refine (run_lift_bind _ _).trans (bind_congr fun _ => ?_)
  refine (run_lift_bind _ _).trans (bind_congr fun now => ?_)
  cases connection with
  | none => rfl
  | some client =>
    exact run_lift_bind (Cluster.outcome client config space secret query now) _

theorem run_check {file : String} :
    (Invocation.run world (pure connection : Id _) ⟨path, .check file query⟩).run =
      loadConfig world path >>= fun config => setUpLog world config >>= fun _ =>
        runCheck world config file query := by
  refine (run_lift_bind _ _).trans (bind_congr fun config => ?_)
  refine (run_lift_bind _ _).trans (bind_congr fun _ => ?_)
  rfl

theorem setUpLog_eq_ok :
    setUpLog world config = .ok () ↔ world.libraries.Logs world.environment config.logLevel := by
  unfold setUpLog Libraries.Logs
  cases world.libraries.filterOfVariables world.environment <;> simp

theorem setUpLog_eq_error (fails : ¬ world.libraries.Logs world.environment config.logLevel) :
    setUpLog world config = .error .log := by
  obtain ⟨unset, panics⟩ := not_or.mp fails
  unfold setUpLog
  cases found : world.libraries.filterOfVariables world.environment with
  | accepted => exact absurd found unset
  | refused => exact if_neg fun taken => panics ⟨found, taken⟩
  | panicked => rfl

theorem prepared_iff (started : world.libraries.starts world.environment = true) :
    Prepared world path config ↔
      loadConfig world path = .ok config ∧ setUpLog world config = .ok () := by
  rw [loadConfig, mapError_eq_ok, setUpLog_eq_ok]
  exact ⟨fun ⟨_, resolved, logged⟩ => ⟨resolved, logged⟩,
    fun ⟨resolved, logged⟩ => ⟨started, resolved, logged⟩⟩

theorem prepare_eq_ok {next : Resolved → Except RunError Result}
    (started : world.libraries.starts world.environment = true)
    (decides : ∀ config, next config = .ok result ↔
      ∃ decision, Decides world connection config command decision ∧
        .ofDecision decision = result) :
    (loadConfig world path >>= fun config => setUpLog world config >>= fun _ => next config) =
        .ok result ↔
      ∃ decision, Concludes world connection path command decision ∧
        .ofDecision decision = result := by
  simp only [bind_eq_ok, decides]
  constructor
  · rintro ⟨config, resolved, _, logged, decision, decided, same⟩
    exact ⟨decision, ⟨config, (prepared_iff started).mpr ⟨resolved, logged⟩, decided⟩, same⟩
  · rintro ⟨decision, ⟨config, prepared, decided⟩, same⟩
    obtain ⟨resolved, logged⟩ := (prepared_iff started).mp prepared
    exact ⟨config, resolved, (), logged, decision, decided, same⟩

/-! ### Runs -/

theorem carriedOut_eq_ok (started : world.libraries.starts world.environment = true)
    (check : command.IsCheck) :
    (Invocation.run world (pure connection : Id _) ⟨path, command⟩).run = .ok result ↔
      ∃ decision, Concludes world connection path command decision ∧
        .ofDecision decision = result := by
  cases command with
  | check file query =>
    rw [run_check]
    exact prepare_eq_ok started fun config => runCheck_eq_ok
  | clusterCheck space secret query =>
    rw [run_clusterCheck]
    exact prepare_eq_ok started fun config => runClusterCheck_eq_ok
  | grants file now action => exact check.elim

theorem code_ne_zero (error : RunError) : error.code ≠ 0 := by
  cases error <;> simp [RunError.code]

variable {arguments : List String}

/-- Whatever is asked for, nothing comes of it where the runtime does not come up. -/
theorem run_unstarted (stays : world.libraries.starts world.environment = false) :
    (Id.run (run world (pure connection) arguments)).1 = ⟨101, ""⟩ := by
  rw [run, stays]
  rfl

theorem run_asked {invocation : Invocation}
    (started : world.libraries.starts world.environment = true)
    (asked : Invocation.ofArguments world.environment arguments = .ok invocation) :
    (Id.run (run world (pure connection) arguments)).1 =
      match (invocation.run world (pure connection : Id _)).run with
      | .ok result => result
      | .error error => { code := error.code } := by
  rw [run, started, asked]
  show (match (invocation.run world (pure connection : Id _)).run with
    | .ok result => (result, none)
    | .error error => error.report).1 = _
  cases (invocation.run world (pure connection : Id _)).run <;> rfl

theorem run_unlogged {invocation : Invocation}
    (started : world.libraries.starts world.environment = true)
    (asked : Invocation.ofArguments world.environment arguments = .ok invocation)
    (resolved : Resolves world invocation.config config)
    (fails : ¬ world.libraries.Logs world.environment config.logLevel) :
    (Id.run (run world (pure connection) arguments)).1 = ⟨101, ""⟩ := by
  have loaded : loadConfig world invocation.config = .ok config := mapError_eq_ok.mpr resolved
  have ran : (invocation.run world (pure connection : Id _)).run = .error .log := by
    refine (run_lift_bind _ _).trans ?_
    rw [loaded]
    refine (run_lift_bind (setUpLog world config) _).trans ?_
    rw [setUpLog_eq_error fails]
    rfl
  rw [run_asked started asked, ran]
  rfl

theorem run_concludes
    (asked : Invocation.ofArguments world.environment arguments = .ok ⟨path, command⟩)
    (check : command.IsCheck) (concludes : Concludes world connection path command decision) :
    (Id.run (run world (pure connection) arguments)).1 = .ofDecision decision := by
  obtain ⟨config, prepared, decided⟩ := concludes
  have ran := (carriedOut_eq_ok prepared.started check).mpr
    ⟨decision, ⟨config, prepared, decided⟩, rfl⟩
  rw [run_asked prepared.started asked, ran]

theorem run_inconclusive
    (asked : Invocation.ofArguments world.environment arguments = .ok ⟨path, command⟩)
    (check : command.IsCheck)
    (nothing : ∀ decision, ¬ Concludes world connection path command decision) :
    let result := (Id.run (run world (pure connection) arguments)).1
    result.output = "" ∧ result.code ≠ 0 := by
  cases started : world.libraries.starts world.environment with
  | false =>
    rw [run_unstarted started]
    decide
  | true =>
    rw [run_asked started asked]
    cases ran : (Invocation.run world (pure connection : Id _) ⟨path, command⟩).run with
    | ok result =>
      obtain ⟨decision, concludes, -⟩ := (carriedOut_eq_ok started check).mp ran
      exact absurd concludes (nothing decision)
    | error error => exact ⟨rfl, code_ne_zero error⟩

theorem ofDecision_inj {one other : Decision} (same : Result.ofDecision one = .ofDecision other) :
    one = other := by
  cases one <;> cases other <;> first | rfl | simp [Result.ofDecision] at same

theorem ofDecision_denied : Result.ofDecision .denied = ⟨1, "permission denied\n"⟩ := by
  decide

theorem output_ofDecision_ne : (Result.ofDecision decision).output ≠ "" := by
  cases decision <;> decide

theorem concludes_iff
    (asked : Invocation.ofArguments world.environment arguments = .ok ⟨path, command⟩)
    (check : command.IsCheck) :
    Concludes world connection path command decision ↔
      (Id.run (run world (pure connection) arguments)).1 = .ofDecision decision := by
  refine ⟨run_concludes asked check, fun came => ?_⟩
  by_cases some : ∃ other, Concludes world connection path command other
  · obtain ⟨other, concludes⟩ := some
    have same : other = decision :=
      ofDecision_inj ((run_concludes asked check concludes).symm.trans came)
    rwa [← same]
  · have silent := (run_inconclusive asked check (not_exists.mp some)).1
    exact absurd (came ▸ silent) output_ofDecision_ne

theorem not_concludes_secret {space : String} (scope : query.permission.scope = .secret) :
    ¬ Concludes world connection path (.clusterCheck space none query) decision := by
  rintro ⟨config, -, decides⟩
  cases decides with
  | @cluster _ _ _ client _ connected dated checked =>
    have missing : ¬ ∃ name grants outer, none = some name ∧ Cluster.FoundSecret client
        config.access.keys config.labels space name grants outer := by
      rintro ⟨name, grants, outer, impossible, -⟩
      cases impossible
    obtain ⟨error, failed⟩ := Cluster.outcome_secret_missing scope missing
    rw [failed] at checked
    cases checked

/-- With libraries that do as they promise, the configuration and the decision are all there is. -/
theorem concludes_of_reliable (reliable : world.libraries.Reliable world.environment) :
    Concludes world connection path command decision ↔
      ∃ config, Resolves world path config ∧
        Decides world connection config command decision := by
  refine exists_congr fun config => and_congr_left fun _ => ⟨Prepared.resolved, fun resolved => ?_⟩
  refine ⟨reliable.starts, resolved, ?_⟩
  have leveled := reliable.leveled config.logLevel
  cases found : world.libraries.filterOfVariables world.environment with
  | accepted => exact Or.inl found
  | refused => exact Or.inr ⟨found, leveled⟩
  | panicked => exact absurd found reliable.filtered

/-- A check prints that it allows something, and ends with the code 0, exactly if everything on the
way goes through and the check decides so. It prints a denial exactly if all goes through and ends
in one. Otherwise it prints nothing and ends with another code. With libraries that do as they
promise, what has to go through is the configuration and the check itself. -/
theorem run_failsClosed (world : World) (connection : Option (Cluster.Client Id))
    (arguments : List String) (path : Option String) (command : Command)
    (asked : Invocation.ofArguments world.environment arguments = .ok ⟨path, command⟩)
    (check : command.IsCheck) :
    let result := (Id.run (run world (pure connection) arguments)).1
    (result.code = 0 ↔ Concludes world connection path command .allowed) ∧
    (result = ⟨0, "allowed\n"⟩ ↔ Concludes world connection path command .allowed) ∧
    (result = ⟨1, "permission denied\n"⟩ ↔ Concludes world connection path command .denied) ∧
    ((∀ decision, ¬ Concludes world connection path command decision) →
      result.output = "" ∧ result.code ≠ 0) ∧
    (∀ space query, command = .clusterCheck space none query → query.permission.scope = .secret →
      result.output = "" ∧ result.code ≠ 0) ∧
    (world.libraries.Reliable world.environment → ∀ decision,
      result = .ofDecision decision ↔
        ∃ config, Resolves world path config ∧
          Decides world connection config command decision) := by
  intro result
  have allows : result = ⟨0, "allowed\n"⟩ ↔
      Concludes world connection path command .allowed := by
    show result = .ofDecision .allowed ↔ _
    exact (concludes_iff asked check).symm
  have denies : result = ⟨1, "permission denied\n"⟩ ↔
      Concludes world connection path command .denied := by
    rw [← ofDecision_denied]
    exact (concludes_iff asked check).symm
  have silent : (∀ decision, ¬ Concludes world connection path command decision) →
      result.output = "" ∧ result.code ≠ 0 := run_inconclusive asked check
  refine ⟨⟨fun zero => ?_, fun concludes => ?_⟩, allows, denies, silent, ?_, ?_⟩
  · -- Neither a denial nor silence ends with 0.
    by_contra other
    have denied : ¬ Concludes world connection path command .denied := by
      intro concludes
      rw [denies.mpr concludes] at zero
      cases zero
    refine (silent fun decision => ?_).2 zero
    cases decision with
    | allowed => exact other
    | denied => exact denied
  · rw [allows.mpr concludes]
  · rintro space query rfl scope
    exact silent fun decision => not_concludes_secret scope
  · intro reliable decision
    exact (concludes_iff asked check).symm.trans (concludes_of_reliable reliable)

/-! ### A viewer -/

def viewed : Fixture where
  project := some ⟨"p", .ofList
    [("warden.dev/user-grants", Grants.write [{ principal := "e", role := .viewer }])]⟩

def viewedText : String :=
  "\x7b\"project\":\x7b\"name\":\"p\",\"annotations\":\x7b\"warden.dev/user-grants\":"
    ++ "\"[\x7b\\\"principal\\\":\\\"e\\\",\\\"role\\\":\\\"viewer\\\"\x7d]\"\x7d\x7d\x7d"

def viewedIn (libraries : Libraries) (environment : Environment) : World where
  files path := if path = "f.json" then some (.ofText viewedText) else none
  environment
  clock := 0
  libraries

def viewing : List String :=
  ["check", "--fixture", "f.json", "--email", "e", "--permission", "projects.read", "--now", "1"]

def viewingQuery : Query := ⟨{ email := "e" }, .project .read, some 1⟩

theorem decides_viewed (libraries : Libraries) (environment : Environment) (level : String) :
    Decides (viewedIn libraries environment) none { logLevel := level }
      (.check "f.json" viewingQuery) .allowed := by
  have found : ((viewedIn libraries environment).files "f.json").bind File.text? =
      some viewedText := by
    show (File.ofText viewedText).text? = some viewedText
    decide +kernel
  have decoded : Json.decode Fixture.decode viewedText = .ok viewed := by
    decide +kernel
  have evaluated : viewed.evaluate {} { email := "e" } (.project .read) 1 =
      .ok ⟨.allowed, .viewer⟩ := by
    decide +kernel
  have dated : ∀ instant ∈ viewingQuery.now, instant.OnCalendar := by
    rintro _ ⟨⟩
    decide
  exact @Decides.fixture _ _ _ _ _ _ _ ⟨.allowed, .viewer⟩ found decoded dated evaluated

theorem run_failsClosed_viewer :
    Libraries.lenient.Reliable [] ∧
    (Id.run (run (viewedIn .lenient []) (pure none) viewing)).1 = ⟨0, "allowed\n"⟩ := by
  have reliable : Libraries.lenient.Reliable [] := ⟨rfl, nofun, fun _ => rfl⟩
  have asked : Invocation.ofArguments [] viewing = .ok ⟨none, .check "f.json" viewingQuery⟩ := by
    decide +kernel
  have resolved : Resolves (viewedIn .lenient []) none {} := by
    show resolveFile systemPath none [] = .ok {}
    rw [resolveFile, resolve_of_sorted (by decide)]
    decide +kernel
  obtain ⟨-, -, -, -, -, comes⟩ :=
    run_failsClosed (viewedIn .lenient []) none viewing none _ asked trivial
  exact ⟨reliable, (comes reliable .allowed).mpr ⟨{}, resolved, decides_viewed .lenient [] "info"⟩⟩

/-! ### Runs that are spoiled -/

/-- A level for the log that is cut into parts within a character. -/
def tornLevel : String := " é=info"

/-- The library for the log panics on the torn level. -/
def brittle : Libraries := { Libraries.lenient with acceptsLevel := fun level => level ≠ tornLevel }

def torn : Environment := [("WARDEN_SERVER_LOG_LEVEL", tornLevel.toUTF8)]

def threadless : Environment := [("TOKIO_WORKER_THREADS", "0".toUTF8)]

/-- Everything on the way to a decision goes through under the variables, and yet the run ends with
nothing. -/
def Spoils (environment : Environment) : Prop :=
  Invocation.ofArguments environment viewing = .ok ⟨none, .check "f.json" viewingQuery⟩ ∧
  (∃ config, Resolves (viewedIn brittle environment) none config ∧
    Decides (viewedIn brittle environment) none config (.check "f.json" viewingQuery) .allowed) ∧
  (Id.run (run (viewedIn brittle environment) (pure none) viewing)).1 = ⟨101, ""⟩

/-- A level that the library for the log panics on spoils a run, and so does a runtime that is to
work on no thread at all. -/
theorem run_torn : Spoils torn ∧ Spoils threadless := by
  constructor
  · have asked : Invocation.ofArguments torn viewing =
        .ok ⟨none, .check "f.json" viewingQuery⟩ := by
      decide +kernel
    have resolved : Resolves (viewedIn brittle torn) none { logLevel := tornLevel } := by
      show resolveFile systemPath none torn = .ok { logLevel := tornLevel }
      rw [resolveFile, resolve_of_sorted (by decide)]
      decide +kernel
    have panics : ¬ brittle.Logs torn tornLevel := by
      rintro (accepted | ⟨-, taken⟩)
      · cases accepted
      · exact absurd taken (by decide)
    exact ⟨asked, ⟨_, resolved, decides_viewed brittle torn tornLevel⟩,
      run_unlogged rfl asked resolved panics⟩
  · have asked : Invocation.ofArguments threadless viewing =
        .ok ⟨none, .check "f.json" viewingQuery⟩ := by
      decide +kernel
    have resolved : Resolves (viewedIn brittle threadless) none {} := by
      show resolveFile systemPath none threadless = .ok {}
      rw [resolveFile, resolve_of_sorted (by decide)]
      decide +kernel
    have stays : brittle.starts threadless = false := by
      decide +kernel
    exact ⟨asked, ⟨_, resolved, decides_viewed brittle threadless "info"⟩, run_unstarted stays⟩

end ScopedGrants.CommandLine
