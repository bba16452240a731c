import ScopedGrants.Config.Layer
import ScopedGrants.Files
import ScopedGrants.Text.Blank
import ScopedGrants.Toml.Parser

/-!
Where layers of configuration come from: a TOML file, and environment variables.
-/

namespace ScopedGrants.Config

inductive ConfigError where
  | invalidValue (key message : String)
  | malformedFile (path : String)
  | unreadableFile (path : String)
  | validation (message : String)
deriving DecidableEq, Repr

def ConfigError.message : ConfigError → String
  | invalidValue key message => "Invalid value for " ++ key ++ ": " ++ message
  | malformedFile path => "Failed to parse TOML config at " ++ path
  | unreadableFile path => "Failed to read config file " ++ path
  | validation message => "Validation error: " ++ message

inductive Precedence where
  | defaults
  | file
  | environment
deriving DecidableEq, Repr

def Precedence.rank : Precedence → Nat
  | defaults => 10
  | file => 20
  | environment => 50

structure Source where
  name : String
  precedence : Precedence
  layer : Except ConfigError Layer

/-! ### Files -/

/-- The fields of a section by their names. In an array they stand one after the other, and none
may be missing; what follows them does not matter. A date has none of them. -/
def sectionFields (names : List String) : Toml.Node → Option (List (Option Toml.Node))
  | .table _ entries => some (names.map fun name => entries.lookup name)
  | .tables latest before => ofItems ((latest :: before).reverse.map (.table .header))
  | .array items => ofItems items
  | .moment => some (names.map fun _ => none)
  | _ => none
where
  ofItems (items : List Toml.Node) : Option (List (Option Toml.Node)) :=
    if items.length < names.length then none else some ((items.take names.length).map some)

def textField : Option Toml.Node → Option (Option String)
  | none => some none
  | some (.text content) => some (some content)
  | some _ => none

def flagField : Option Toml.Node → Option (Option Bool)
  | none => some none
  | some (.flag value) => some (some value)
  | some _ => none

def accessSection (node : Toml.Node) : Option AccessLayer := do
  match ← sectionFields ["org_cascade_enabled", "user_grants_annotation",
    "group_grants_annotation", "legacy_group_grants_annotation"] node with
  | [cascade, user, group, legacy] =>
    return { cascade := ← flagField cascade, userKey := ← textField user,
             groupKey := ← textField group, legacyGroupKey := ← textField legacy }
  | _ => none

def labelSection (node : Toml.Node) : Option LabelLayer := do
  match ← sectionFields ["organization_label", "project_label"] node with
  | [organization, project] =>
    return { organization := ← textField organization, project := ← textField project }
  | _ => none

def logSection (node : Toml.Node) : Option LogLayer := do
  match ← sectionFields ["level"] node with
  | [level] => return { level := ← textField level }
  | _ => none

/-- The layer in a document. Keys and tables that are not known are passed over. -/
def Layer.ofToml? (entries : Toml.Entries) : Option Layer := do
  return { access := ← (entries.lookup "authz").mapM accessSection
           labels := ← (entries.lookup "k8s").mapM labelSection
           log := ← (entries.lookup "logging").mapM logSection }

def Layer.ofText? (text : String) : Option Layer := do ofToml? (← Toml.parse? text)

/-- The layer in a file at a path; a file that is missing sets nothing. -/
def Layer.ofFile (path : String) : Option File → Except ConfigError Layer
  | none => .ok {}
  | some file =>
    match file.text? with
    | none => .error (.unreadableFile path)
    | some text =>
      match ofText? text with
      | none => .error (.malformedFile path)
      | some layer => .ok layer

/-! ### Environment variables -/

/-- The flag that a word stands for, whatever its case and the white space around it. -/
def flagOfWord? (word : String) : Option Bool :=
  match (Text.trim word).toLower with
  | "1" | "true" | "yes" | "on" => some true
  | "0" | "false" | "no" | "off" => some false
  | _ => none

def flagVariable (environment : Environment) (name : String) :
    Except ConfigError (Option Bool) :=
  match environment.get? name with
  | none => .ok none
  | some value =>
    match flagOfWord? value with
    | some flag => .ok (some flag)
    | none => .error (.invalidValue name ("invalid bool value '" ++ value ++ "'"))

def cascadeVariable : String := "WARDEN_SERVER_AUTHZ_ORG_CASCADE_ENABLED"

def userKeyVariable : String := "WARDEN_SERVER_AUTHZ_USER_GRANTS_ANNOTATION"

def groupKeyVariable : String := "WARDEN_SERVER_AUTHZ_GROUP_GRANTS_ANNOTATION"

def legacyGroupKeyVariable : String := "WARDEN_SERVER_AUTHZ_LEGACY_GROUP_GRANTS_ANNOTATION"

def organizationLabelVariable : String := "WARDEN_SERVER_K8S_ORGANIZATION_LABEL"

def projectLabelVariable : String := "WARDEN_SERVER_K8S_PROJECT_LABEL"

def logLevelVariable : String := "WARDEN_SERVER_LOG_LEVEL"

def Layer.variableNames : List String :=
  [cascadeVariable, userKeyVariable, groupKeyVariable, legacyGroupKeyVariable,
   organizationLabelVariable, projectLabelVariable, logLevelVariable]

/-- The layer in the variables, which always has all sections. -/
def Layer.ofEnvironment (environment : Environment) : Except ConfigError Layer := do
  let cascade ← flagVariable environment cascadeVariable
  return {
    access := some {
      cascade
      userKey := environment.get? userKeyVariable
      groupKey := environment.get? groupKeyVariable
      legacyGroupKey := environment.get? legacyGroupKeyVariable }
    labels := some {
      organization := environment.get? organizationLabelVariable
      project := environment.get? projectLabelVariable }
    log := some { level := environment.get? logLevelVariable } }

namespace Source

def defaults : Source := ⟨"defaults", .defaults, .ok {}⟩

def file (path : String) (content : Option File) : Source :=
  ⟨"toml-config", .file, Layer.ofFile path content⟩

def environment (given : Environment) : Source :=
  ⟨"environment", .environment, Layer.ofEnvironment given⟩

def fixed (precedence : Precedence) (layer : Layer) : Source := ⟨"fixed", precedence, .ok layer⟩

end Source
end ScopedGrants.Config
