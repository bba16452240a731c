import ScopedGrants.Config.Source

/-!
The configuration that some sources amount to. Their layers are laid over each other by
precedence, those of one precedence in the order in which they are given, and the first source
that fails in this order decides.
-/

namespace ScopedGrants.Config

/-- The values that must not be blank, by their names. -/
def Resolved.namedValues (config : Resolved) : List (String × String) :=
  [("authz.user_grants_annotation", config.access.keys.user),
   ("authz.group_grants_annotation", config.access.keys.group),
   ("authz.legacy_group_grants_annotation", config.access.keys.legacyGroup),
   ("k8s.organization_label", config.labels.organization),
   ("k8s.project_label", config.labels.project)]

def sharedKey (key : String) : ConfigError :=
  .validation ("authz.user_grants_annotation '" ++ key ++ "' collides with a group grants "
    ++ "annotation; user and group grants must be stored under different keys")

/-- The configuration, unless a value is blank or users share a key with groups. -/
def Resolved.validate (config : Resolved) : Except ConfigError Resolved :=
  let keys := config.access.keys
  match config.namedValues.find? (Text.blank ·.2) with
  | some (name, _) => .error (.validation (name ++ " must not be empty"))
  | none =>
    if keys.user = keys.group ∨ keys.user = keys.legacyGroup then .error (sharedKey keys.user)
    else .ok config

/-- The layers of sources in order, each laid over the ones before. -/
def mergeSources (sources : List Source) : Except ConfigError Layer :=
  sources.foldlM (fun below source => return below.merge (← source.layer)) {}

def resolve (sources : List Source) : Except ConfigError Resolved := do
  let merged ← mergeSources (sources.mergeSort fun a b => a.precedence.rank ≤ b.precedence.rank)
  merged.finish.validate

def resolveEnvironment (environment : Environment) : Except ConfigError Resolved := do
  (← Layer.ofEnvironment environment).finish.validate

def systemPath : String := "/etc/warden/server.toml"

def resolveFile (path : String) (file : Option File) (environment : Environment) :
    Except ConfigError Resolved :=
  resolve [.defaults, .file path file, .environment environment]

end ScopedGrants.Config
