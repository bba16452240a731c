import ScopedGrants.Access.Authorizer
import ScopedGrants.Cluster.Object

/-!
Layers of configuration. A layer sets some of the values and leaves the others to the layers below
it and in the end to the defaults.
-/

namespace ScopedGrants.Config

structure AccessLayer where
  cascade : Option Bool := none
  userKey : Option String := none
  groupKey : Option String := none
  legacyGroupKey : Option String := none
deriving DecidableEq, Repr

structure LabelLayer where
  organization : Option String := none
  project : Option String := none
deriving DecidableEq, Repr

structure LogLayer where
  level : Option String := none
deriving DecidableEq, Repr

structure Layer where
  access : Option AccessLayer := none
  labels : Option LabelLayer := none
  log : Option LogLayer := none
deriving DecidableEq, Repr

structure Resolved where
  access : Settings := {}
  labels : Cluster.LabelKeys := {}
  logLevel : String := "info"
deriving DecidableEq, Repr

/-! ### Laying one layer over another -/

def AccessLayer.merge (below above : AccessLayer) : AccessLayer where
  cascade := above.cascade.or below.cascade
  userKey := above.userKey.or below.userKey
  groupKey := above.groupKey.or below.groupKey
  legacyGroupKey := above.legacyGroupKey.or below.legacyGroupKey

def LabelLayer.merge (below above : LabelLayer) : LabelLayer where
  organization := above.organization.or below.organization
  project := above.project.or below.project

def LogLayer.merge (below above : LogLayer) : LogLayer where
  level := above.level.or below.level

/-- Every value is the one set above, or else the one set below. -/
def Layer.merge (below above : Layer) : Layer where
  access := below.access.merge AccessLayer.merge above.access
  labels := below.labels.merge LabelLayer.merge above.labels
  log := below.log.merge LogLayer.merge above.log

/-! ### Filling in the defaults -/

/-- How access is decided by the layer; grants cascade unless it says otherwise. -/
def AccessLayer.finish (layer : AccessLayer) : Settings where
  organizationCascade := layer.cascade.getD true
  keys :=
    let default : GrantKeys := {}
    { user := layer.userKey.getD default.user
      group := layer.groupKey.getD default.group
      legacyGroup := layer.legacyGroupKey.getD default.legacyGroup }

def LabelLayer.finish (layer : LabelLayer) : Cluster.LabelKeys :=
  let default : Cluster.LabelKeys := {}
  { organization := layer.organization.getD default.organization
    project := layer.project.getD default.project }

def LogLayer.finish (layer : LogLayer) : String := layer.level.getD "info"

def Layer.finish (layer : Layer) : Resolved where
  access := (layer.access.getD {}).finish
  labels := (layer.labels.getD {}).finish
  logLevel := (layer.log.getD {}).finish

end ScopedGrants.Config
