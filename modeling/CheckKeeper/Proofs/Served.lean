import CheckKeeper.Proofs.Calls
import CheckKeeper.Warehouse.Catalog

namespace CheckKeeper

open Program

/-! What the collaborators ask of the warehouse.

Of all their calls, only an acknowledgement sends an update; the others read, merge and
delete.
-/

/-- Whether a statement is an update, by the word that it starts with. -/
def Query.isUpdate (query : Query) : Bool :=
  "UPDATE ".toList.isPrefixOf query.sql.toList

namespace Warehouse

variable {α β σ : Type} {client : Handler interface σ} {asked : σ → List Query} {s : σ}
  {next : Completion → Remote β} {done : β → Prop} {query : Query}

/-- The collaborators, as they act on what stands behind the client. -/
def Catalog.served (tables : Catalog) (client : Handler interface σ) :
    Handler Service.interface σ :=
  fun c s => (tables.serve c).run client s

/-- The reconciler runs against the warehouse as it does against its collaborators. -/
theorem Catalog.run_remote (tables : Catalog) (client : Handler interface σ) (work : Work α) (s : σ) :
    (tables.remote work).run client s = work.run (tables.served client) s :=
  run_embed (I := Service.interface) (J := interface) client tables.serve work s

structure Asks (client : Handler interface σ) (asked : σ → List Query) : Prop where
  query : ∀ query s, asked (client (.query query) s).2 = asked s ++ [query]
  loop : ∀ c s, asked (client (.loop c) s).2 = asked s

def updates (queries : List Query) : List Query :=
  queries.filter Query.isUpdate

theorem updates_append (queries : List Query) (query : Query) :
    updates (queries ++ [query]) = updates queries ++ if query.isUpdate then [query] else [] := by
  unfold updates
  rw [List.filter_append, List.filter_cons, List.filter_nil]

/-- A statement that does not start as an update does. -/
def Differs (sql : String) : Prop :=
  ∃ c, sql.toList.head? = some c ∧ c ≠ 'U'

theorem Differs.append {sql : String} (differs : Differs sql) (rest : String) :
    Differs (sql ++ rest) := by
  obtain ⟨c, starts, other⟩ := differs
  exact ⟨c, by rw [String.toList_append, List.head?_append, starts, Option.some_or], other⟩

theorem Differs.not_isUpdate (differs : Differs query.sql) : query.isUpdate = false := by
  obtain ⟨c, starts, other⟩ := differs
  rw [Bool.eq_false_iff]
  intro update
  obtain ⟨rest, whole⟩ := List.isPrefixOf_iff_prefix.mp update
  rw [← whole] at starts
  simp at starts
  exact other starts.symm

theorem isUpdate_acknowledgeQuery (table : String) (seqs : List Int) :
    (Changes.acknowledgeQuery table seqs).isUpdate = true := by
  rw [Query.isUpdate, List.isPrefixOf_iff_prefix]
  unfold Changes.acknowledgeQuery
  simp only [String.toList_append, List.append_assoc]
  exact List.prefix_append _ _

def modest (c : interface.Call) : Prop :=
  match (c : Warehouse.Call) with
  | .query query => Differs query.sql
  | .loop _ => True

abbrev Modest (program : Remote α) : Prop :=
  program.Behaves modest (fun _ _ => True) fun _ => True

theorem modest_ofExcept (found : Except Failure α) : Modest (.ofExcept found) :=
  behaves_ofExcept fun _ _ => trivial

theorem modest_loop (c : Loop.Call) : Modest (Program.perform (I := interface) (.loop c)) :=
  behaves_perform (I := interface) (c := .loop c) trivial fun _ _ => trivial

theorem modest_bind {program : Remote α} {next : α → Remote β} (first : Modest program)
    (rest : ∀ value, Modest (next value)) : Modest (program >>= next) :=
  behaves_bind first fun value _ => rest value

theorem modest_execute (differs : Differs query.sql) (wrap : String → Failure) (deed : String) :
    Modest (Remote.execute wrap deed query) := by
  have asks : Modest (Program.perform (I := interface) (.query query)).attempt :=
    (behaves_attempt (behaves_perform (I := interface) (c := .query query) differs
      fun _ _ => trivial)).mono fun _ _ => trivial
  refine modest_bind asks fun found => ?_
  cases found with
  | ok completion => trivial
  | error failure => cases failure <;> trivial

/-- A program that reads a row, and goes on if there is one. -/
theorem modest_row {found : Remote Completion} {absent : α} {next : Row → Remote α}
    (reads : Modest found) (rest : ∀ row, Modest (next row)) :
    Modest (do
      let read ← found
      match read.rows with
      | [] => return absent
      | row :: _ => next row) := by
  refine modest_bind reads fun read => ?_
  split
  · trivial
  · exact rest _

theorem differs_definitionsMerge (table : String) (row : List (String × Value)) :
    Differs (Definitions.merge table row).sql := by
  unfold Definitions.merge Definitions.mergeText
  dsimp only
  iterate 10 refine Differs.append ?_ _
  exact ⟨'M', by decide, by decide⟩

theorem differs_jobsMerge (table : String) (job : Job) (parameters : String) :
    Differs (Jobs.merge table job parameters).sql := by
  unfold Jobs.merge Jobs.mergeText
  dsimp only
  iterate 8 refine Differs.append ?_ _
  exact ⟨'M', by decide, by decide⟩

theorem differs_drainQuery (table : String) (limit : Option Int) :
    Differs (Changes.drainQuery table limit).sql := by
  have all : Differs ("SELECT seq, action, check_id, changed_at FROM " ++ table ++
      " WHERE acknowledged_at IS NULL ORDER BY seq") :=
    .append (.append ⟨'S', by decide, by decide⟩ _) _
  cases limit with
  | none => exact all
  | some most => exact all.append _

theorem modest_getDefinition (table checkId : String) : Modest (Definitions.get table checkId) :=
  modest_row (modest_execute (.append (.append ⟨'S', by decide, by decide⟩ _) _) _ _)
    fun _ => modest_ofExcept _

theorem modest_putDefinition (table : String) (d : Definition) : Modest (Definitions.put table d) := by
  refine modest_bind (modest_getDefinition table d.checkId) fun existing => ?_
  have writes : Modest (do
      let row ← .ofExcept d.toRow
      let _ ← Remote.execute .store ("Upserting definition " ++ d.checkId)
        (Definitions.merge table row)) := by
    refine modest_bind (modest_ofExcept _) fun row => ?_
    exact modest_bind (modest_execute (differs_definitionsMerge table row) _ _) fun _ => trivial
  split
  · exact modest_bind (modest_ofExcept _) fun _ => writes
  · exact writes

/-- Of all calls, only an acknowledgement sends an update. -/
theorem modest_serve (tables : Catalog) (c : Service.Call)
    (other : ∀ batch, c ≠ .acknowledge batch) : Modest (tables.serve c) := by
  cases c with
  | getDefinition checkId => exact modest_getDefinition tables.definitions checkId
  | putDefinition d => exact modest_putDefinition tables.definitions d
  | deleteDefinition checkId =>
      refine modest_bind (modest_bind (modest_execute ?_ _ _) fun _ => trivial) fun _ => trivial
      exact .append (.append ⟨'D', by decide, by decide⟩ _) _
  | listDefinitions =>
      refine modest_bind (modest_execute ?_ _ _) fun _ => modest_ofExcept _
      exact .append (.append ⟨'S', by decide, by decide⟩ _) _
  | hasPending =>
      refine modest_bind (modest_row (modest_execute ?_ _ _) fun _ => modest_ofExcept _)
        fun _ => trivial
      exact .append (.append ⟨'S', by decide, by decide⟩ _) _
  | drain limit =>
      refine modest_bind ?_ fun _ => trivial
      refine modest_bind (modest_execute (differs_drainQuery _ limit) _ _) fun found => ?_
      exact modest_bind (modest_ofExcept _) fun events => modest_ofExcept _
  | acknowledge batch => exact absurd rfl (other batch)
  | putJob job =>
      refine modest_bind (modest_bind (modest_ofExcept _) fun parameters => ?_) fun _ => trivial
      exact modest_bind (modest_execute (differs_jobsMerge _ job parameters) _ _) fun _ => trivial
  | deleteJob name =>
      refine modest_bind (modest_bind (modest_execute ?_ _ _) fun _ => trivial) fun _ => trivial
      exact .append (.append ⟨'D', by decide, by decide⟩ _) _
  | findJob checkId =>
      refine modest_row (modest_execute ?_ _ _) fun _ => modest_ofExcept _
      exact .append (.append ⟨'S', by decide, by decide⟩ _) _
  | getJob name =>
      refine modest_row (modest_execute ?_ _ _) fun _ => modest_ofExcept _
      exact .append (.append ⟨'S', by decide, by decide⟩ _) _
  | recentResults checkId limit =>
      refine modest_bind (modest_execute ?_ _ _) fun _ => modest_ofExcept _
      exact .append (.append ⟨'S', by decide, by decide⟩ _) _
  | loop c => exact modest_loop c

theorem updates_of_modest {program : Remote α} (asks : Asks client asked) (holds : Modest program)
    (s : σ) : updates (asked (program.run client s).2) = updates (asked s) := by
  refine (run_of_behaves (fun after => updates (asked after) = updates (asked s)) ?_ holds rfl).2
  intro c after same permitted
  refine ⟨trivial, ?_⟩
  cases c with
  | query query =>
      have refused := Differs.not_isUpdate permitted
      rw [asks.query, updates_append, refused, if_neg Bool.false_ne_true, List.append_nil, same]
  | loop c => rw [asks.loop, same]

theorem run_execute (client : Handler interface σ) (wrap : String → Failure) (deed : String)
    (query : Query) (s : σ) :
    ((Remote.execute wrap deed query).run client s).2 = (client (.query query) s).2 := by
  change (Program.run client (Program.bind _ _) s).2 = _
  rw [run_bind, run_attempt]
  simp only [perform, run]
  cases (client (.query query) s).1 with
  | ok completion => rfl
  | error failure => cases failure <;> rfl

theorem run_execute_of_ok {completion : Completion} (wrap : String → Failure) (deed : String)
    (answered : (client (.query query) s).1 = .ok completion) :
    ((Remote.execute wrap deed query).run client s).1 = .ok completion := by
  change (Program.run client (Program.bind _ _) s).1 = _
  rw [run_bind, run_attempt]
  simp only [perform, run, answered]
  rfl

/-- A drain reads the rows that the client answers as events, in their order. -/
theorem run_drain {table : String} {limit : Option Int} {completion : Completion}
    {events : List ChangeEvent} {batch : Batch}
    (answered : (client (.query (Changes.drainQuery table limit)) s).1 = .ok completion)
    (rows : completion.rows.mapM ChangeEvent.ofRow = .ok events)
    (whole : Changes.batchOf events = .ok batch) :
    ((Changes.drain table limit).run client s).1 = .ok batch := by
  change (Program.run client (Program.bind _ _) s).1 = _
  have read := run_execute_of_ok .store "Draining change feed" answered
  rcases ran : (Remote.execute .store "Draining change feed"
    (Changes.drainQuery table limit)).run client s with ⟨answer, after⟩
  rw [ran] at read
  cases read
  rw [run_bind, ran]
  simp only [rows]
  change (Program.run client (Program.ofExcept (Changes.batchOf events)) _).1 = _
  rw [whole]
  rfl

theorem served_drain {tables : Catalog} {limit : Option Int} {batch : Batch}
    (read : ((Changes.drain tables.changes limit).run client s).1 = .ok batch) :
    (tables.served client (.drain limit) s).1 = .ok (some batch) := by
  refine (congrArg Prod.fst (run_bind client (Changes.drain tables.changes limit)
    (fun batch => .done (some batch)) s)).trans ?_
  rcases ran : (Changes.drain tables.changes limit).run client s with ⟨answer, after⟩
  rw [ran] at read
  cases read
  rfl

/-- An acknowledgement sends one update of what is pending, whose only parameter is the array of
the numbers of its events, in their order, and none if there are no events. -/
theorem updates_acknowledge (asks : Asks client asked) (table : String) {batch : Batch}
    {seqs : List Int} (numbered : batch.events.map (·.seq) = seqs.map some) (s : σ) :
    updates (asked ((Changes.acknowledge table batch).run client s).2) =
      updates (asked s) ++ if seqs = [] then [] else
        [⟨"UPDATE " ++ table ++ " SET acknowledged_at = CURRENT_TIMESTAMP() " ++
            "WHERE acknowledged_at IS NULL AND seq IN UNNEST(@seqs)",
          [⟨"seqs", "ARRAY<INT64>", .list (seqs.map .int)⟩]⟩] := by
  have own : batch.events.filterMap (·.seq) = seqs := by
    have listed := congrArg (List.filterMap id) numbered
    simpa only [List.filterMap_map, Function.id_comp, Function.comp_def, id_eq,
      List.filterMap_some] using listed
  unfold Changes.acknowledge
  simp only [own]
  by_cases empty : seqs = []
  · simp only [empty, List.isEmpty_nil, Bool.not_true, Bool.false_eq_true, if_false, if_true,
      List.append_nil]
    rfl
  · have filled : seqs.isEmpty = false := by simpa using empty
    simp only [filled, Bool.not_false, if_true, if_neg empty]
    change updates (asked (Program.run client (Program.bind _ _) s).2) = _
    rw [run_bind]
    have sent : updates (asked (client (.query (Changes.acknowledgeQuery table seqs)) s).2) =
        updates (asked s) ++ [Changes.acknowledgeQuery table seqs] := by
      rw [asks.query, updates_append, isUpdate_acknowledgeQuery, if_pos rfl]
    have ended := run_execute client .store "Acknowledging change feed"
      (Changes.acknowledgeQuery table seqs) s
    rcases ran : (Remote.execute .store "Acknowledging change feed"
      (Changes.acknowledgeQuery table seqs)).run client s with ⟨answer, after⟩
    rw [ran] at ended
    subst ended
    cases answer with
    | error failure => exact sent
    | ok completion =>
        exact (updates_of_modest asks (modest_loop _) _).trans sent

end Warehouse

end CheckKeeper
