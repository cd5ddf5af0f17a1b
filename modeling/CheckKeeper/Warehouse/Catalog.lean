import CheckKeeper.Config.Basic
import CheckKeeper.Program.Service
import CheckKeeper.Warehouse.Changes
import CheckKeeper.Warehouse.Definitions
import CheckKeeper.Warehouse.Results

namespace CheckKeeper.Warehouse

/-! The collaborators of the reconciler on the tables of the warehouse. -/

/-- The paths of the four tables, between back quotes. -/
structure Catalog where
  definitions : String
  changes : String
  jobs : String
  results : String
deriving DecidableEq, Repr

/-- The tables that a configuration names; a path that is none is refused. -/
def Catalog.of (config : Config) : Except Failure Catalog := do
  let definitions ← Sql.path (config.tablePath config.definitionsTable)
  let changes ← Sql.path (config.tablePath config.changesTable)
  let jobs ← Sql.path (config.tablePath config.jobsTable)
  let results ← Sql.path (config.tablePath config.resultsTable)
  return ⟨definitions, changes, jobs, results⟩

/-- What a call of a collaborator does in the warehouse. -/
def Catalog.serve (tables : Catalog) : (c : Service.Call) → Remote (Service.Answer c)
  | .getDefinition checkId => Definitions.get tables.definitions checkId
  | .putDefinition d => Definitions.put tables.definitions d
  | .deleteDefinition checkId => do
      return some (← Definitions.delete tables.definitions checkId)
  | .listDefinitions => Definitions.list tables.definitions
  | .hasPending => do return some (← Changes.hasPending tables.changes)
  | .drain limit => do return some (← Changes.drain tables.changes limit)
  | .acknowledge batch => Changes.acknowledge tables.changes batch
  | .putJob job => do return some (← Jobs.put tables.jobs job)
  | .deleteJob name => do return some (← Jobs.delete tables.jobs name)
  | .findJob checkId => Jobs.find tables.jobs checkId
  | .getJob name => Jobs.get tables.jobs name
  | .recentResults checkId limit => Results.recent tables.results checkId limit
  | .loop c => Program.perform (I := interface) (.loop c)

/-- A program of the reconciler as a program that asks the warehouse. -/
def Catalog.remote {α : Type} (tables : Catalog) (work : Work α) : Remote α :=
  work.embed tables.serve

end CheckKeeper.Warehouse
