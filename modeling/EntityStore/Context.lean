import EntityStore.Config
import EntityStore.Entity.Registry
import EntityStore.Predicate.Translation

/-!
# Contexts

A context has what all operations on a database share: the entities and the settings.
-/

namespace EntityStore

/-- The entities and the settings of a database. -/
structure Context where
  registry : Registry
  config : Config := {}
  deriving DecidableEq

namespace Context

/-- The name of the database, under which joins are stored. -/
def source (c : Context) : String :=
  c.config.path

/-- How predicates are translated. -/
def rules (c : Context) : TranslationRules :=
  .ofConfig c.config

end Context

end EntityStore
