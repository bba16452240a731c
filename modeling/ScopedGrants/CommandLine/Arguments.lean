import ScopedGrants.Access.Decision
import ScopedGrants.CommandLine.Options
import ScopedGrants.Files
import ScopedGrants.Grant.Text
import ScopedGrants.Permission

/-!
The commands of the program and their arguments.
-/

namespace ScopedGrants.CommandLine

structure Query where
  caller : Caller
  permission : Permission
  now : Option Instant := none
deriving DecidableEq, Repr

inductive Command where
  | check (fixture : String) (query : Query)
  | clusterCheck (space : String) (secret : Option String) (query : Query)
  | grants (file : String) (now : Option Instant) (action : Grants.Action)
deriving DecidableEq, Repr

structure Invocation where
  config : Option String
  command : Command
deriving DecidableEq, Repr

/-- The integer of 64 bits that decimal digits spell after an optional sign. -/
def integer? (text : String) : Option Int64 :=
  let (negative, digits) : Bool × List Char := match text.toList with
    | '-' :: digits => (true, digits)
    | '+' :: digits => (false, digits)
    | digits => (false, digits)
  let magnitude : Int := Text.ofDigits 10 digits
  let value := if negative then -magnitude else magnitude
  if digits ≠ [] ∧ digits.all Char.isDigit ∧ Int64.minValue.toInt ≤ value
      ∧ value ≤ Int64.maxValue.toInt then
    some (Int64.ofInt value)
  else none

/-! ### The options of each command -/

def pathOption (name : String) : OptionSpec := { name, accepts := (· ≠ "") }

def textOption (name : String) : OptionSpec := { name }

def integerOption (name : String) : OptionSpec :=
  { name, accepts := fun text => (integer? text).isSome }

def queryOptions : List OptionSpec :=
  [textOption "email", { name := "group", form := .repeated },
   { name := "permission", accepts := fun name => (Permission.ofName? name).isSome },
   integerOption "now"]

def mainLevel : Level where
  options := [pathOption "config"]
  commands := ["check", "cluster-check", "grants", "help"]
  showsVersion := true

def checkLevel : Level where
  options := [pathOption "config", pathOption "fixture"] ++ queryOptions

def clusterCheckLevel : Level where
  options := [pathOption "config", textOption "namespace", textOption "secret"] ++ queryOptions

def grantsLevel : Level where
  options := [pathOption "config", pathOption "file", integerOption "now"]
  commands := ["dedup", "upsert", "revoke", "prune", "help"]

def actionOptions : String → List OptionSpec
  | "upsert" =>
    [textOption "principal", textOption "role", integerOption "not-before",
     integerOption "expires", { name := "replace", form := .flag }]
  | "revoke" => [textOption "principal"]
  | _ => []

def actionLevel (name : String) : Level where
  options := [pathOption "config", integerOption "now"] ++ actionOptions name

/-! ### Values -/

namespace Given

def required (given : Given) (name : String) : Except Stop String :=
  match given.lookup name with
  | some value => .ok value
  | none => .error .rejected

def integer? (given : Given) (name : String) : Option Int64 :=
  (given.lookup name).bind CommandLine.integer?

/-- Every value of an option, in the order in which they were given. -/
def all (given : Given) (name : String) : List String :=
  ((given.filter (·.1 = name)).map (·.2)).reverse

def query (given : Given) : Except Stop Query := do
  let email ← given.required "email"
  match Permission.ofName? (← given.required "permission") with
  | none => .error .rejected
  | some permission =>
    return { caller := { email, groups := given.all "group" }, permission,
             now := given.integer? "now" }

end Given

def action (name : String) (given : Given) : Except Stop Grants.Action :=
  match name with
  | "dedup" => .ok .deduplicate
  | "prune" => .ok .prune
  | "revoke" => do return .revoke (← given.required "principal")
  | "upsert" => do
    return .grant {
      principal := ← given.required "principal"
      roleName := ← given.required "role"
      notBefore := given.integer? "not-before"
      expires := given.integer? "expires"
      replace := (given.lookup "replace").isSome }
  | _ => .error .rejected

def configVariable : String := "WARDEN_SERVER_CONFIG"

/-- The path of the configuration: the one given at the innermost level, or else the value of the
variable that stands for it. A level that gives none looks at the variable, whose value must not
be empty then. A value that is no text leads nowhere, as the empty path does. -/
def configPath (environment : Environment) (levels : List Given) : Except Stop (Option String) :=
  let given := levels.map (·.lookup "config")
  match environment.lookup configVariable with
  | none => .ok (given.findSome? id)
  | some value =>
    if value.isEmpty ∧ given.any Option.isNone then .error .rejected
    else .ok (some ((given.findSome? id).getD ((String.fromUTF8? value).getD "")))

def helpOn (commands rest : List String) : Stop :=
  match rest with
  | [] => .help
  | [name] => if commands.contains name then .help else .rejected
  | ["grants", name] =>
    if commands.contains "grants" ∧ grantsLevel.commands.contains name then .help else .rejected
  | _ => .rejected

def Level.readAll (level : Level) (arguments : List String) : Except Stop Given :=
  (level.read [] arguments).map (·.1)

def Invocation.ofArguments (environment : Environment) (arguments : List String) :
    Except Stop Invocation := do
  let (main, next) ← mainLevel.read [] arguments
  match next with
  | some ("check", rest) =>
    let given ← checkLevel.readAll rest
    let config ← configPath environment [given, main]
    return { config, command := .check (← given.required "fixture") (← given.query) }
  | some ("cluster-check", rest) =>
    let given ← clusterCheckLevel.readAll rest
    let config ← configPath environment [given, main]
    return { config
             command := .clusterCheck (← given.required "namespace") (given.lookup "secret")
              (← given.query) }
  | some ("grants", rest) =>
    let (outer, next) ← grantsLevel.read [] rest
    match next with
    | some ("help", rest) => .error (helpOn grantsLevel.commands rest)
    | some (name, rest) =>
      let inner ← (actionLevel name).readAll rest
      let config ← configPath environment [inner, outer, main]
      let now := (inner.integer? "now").or (outer.integer? "now")
      return { config, command := .grants (← outer.required "file") now (← action name inner) }
    | none => .error .rejected
  | some ("help", rest) => .error (helpOn mainLevel.commands rest)
  | _ => .error .rejected

end ScopedGrants.CommandLine
