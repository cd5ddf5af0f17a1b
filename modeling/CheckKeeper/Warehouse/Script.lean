import CheckKeeper.Warehouse.Catalog
import CheckKeeper.Sync.Request

namespace CheckKeeper.Warehouse

/-! A client that answers from a script.

Each statement takes the next answer of the script; when there is none left, the
client answers nothing.  What was asked is kept in order.
-/

abbrev ScriptedAnswer : Type :=
  Except Failure Completion

structure Script where
  answers : List ScriptedAnswer
  asked : List Query
  loop : Loop.State

namespace Script

def start (answers : List ScriptedAnswer) : Script :=
  ⟨answers, [], .start⟩

def handle : Program.Handler interface Script
  | .query query, s =>
      (s.answers.headD (.ok .silent),
        { s with answers := s.answers.tail, asked := s.asked ++ [query] })
  | .loop c, s =>
      let (answer, loop) := Loop.handle c s.loop
      (answer, { s with loop })

end Script

/-- One step on the warehouse: a request, or an acknowledgement of the batch that was
read last, or of other events. -/
inductive Step where
  | ask (request : Sync.Request)
  | acknowledge (events : Option (List Value)) (except : List String)
  | tables

inductive StepReply where
  | to (reply : Sync.Reply)
  | nothing
  | tables (tables : Catalog)

/-- What a step answered, what was asked for it, and how much of its script was left. -/
structure StepAccount where
  reply : Except Failure StepReply
  asked : List Query
  unused : Nat

/-- The batch of events that were not read from a feed. -/
def batchOfRows (rows : List Value) : Except Failure Batch := do
  let events ← rows.mapM fun row => row.toRow >>= ChangeEvent.ofRow
  return ⟨events, none, []⟩

/-- The program of a step; `remembered` is the batch that was read last. -/
def Step.work (settings : Sync.Settings) (tables : Catalog) (remembered : Batch) :
    Step → Work StepReply
  | .ask request => do return .to (← request.work settings)
  | .acknowledge events except => do
      let batch ← .ofExcept (events.elim (.ok remembered) batchOfRows)
      let kept ← .ofExcept (batch.excluding? except)
      Work.acknowledge kept
      return .nothing
  | .tables => return .tables tables

def rememberedAfter (remembered : Batch) : Except Failure StepReply → Batch
  | .ok (.to (.batch batch)) => batch.getD .empty
  | _ => remembered

/-- Carries out steps, each with a script of its own. -/
def rehearse (settings : Sync.Settings) (tables : Catalog) (remembered : Batch) :
    List (Step × List ScriptedAnswer) → List StepAccount
  | [] => []
  | (step, answers) :: rest =>
      let work := tables.remote (step.work settings tables remembered)
      let (reply, after) := work.run Script.handle (.start answers)
      ⟨reply, after.asked, after.answers.length⟩ ::
        rehearse settings tables (rememberedAfter remembered reply) rest

end CheckKeeper.Warehouse
