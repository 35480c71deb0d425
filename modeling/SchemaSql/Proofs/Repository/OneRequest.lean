import SchemaSql.Proofs.Repository.Binding
import SchemaSql.Proofs.Repository.RowReading

/-!
# One request for each operation

An operation whose statement cannot be rendered takes no step. Any other logs its statement at most
once and hands its text and its values to its client exactly once; what comes of it is then settled
by the answer alone. That statements are valid is a fact of how they are rendered, so that no
operation stops between its log and its client.
-/

namespace SchemaSql

/-! ## Runs of sessions -/

namespace Session

variable {α β : Type} {client : Client}

theorem run_ofExcept (result : Except Error α) :
    (ofExcept result).run client = ([], result) := rfl

theorem ofExcept_bind (x : Except Error α) (f : α → Except Error β) :
    (ofExcept x >>= fun a ↦ ofExcept (f a)) = ofExcept (x >>= f) := by
  cases x <;> rfl

/-- A session whose result is passed on as it is. -/
theorem bind_ok (s : Session α) : (s >>= fun a ↦ ofExcept (.ok a)) = s := by
  funext client
  change Session.bind s _ client = s client
  rw [Session.bind]
  rcases s client with ⟨steps, _ | a⟩
  · rfl
  · exact congrArg (fun all ↦ (all, Except.ok a)) (List.append_nil steps)

theorem run_log (events : List LogEvent) :
    (log events).run client = (events.map .logged, .ok ()) := rfl

theorem run_bind_of_ok {s : Session α} {f : α → Session β} {steps : List Step} {a : α}
    (h : s.run client = (steps, .ok a)) :
    (s >>= f).run client = (steps ++ ((f a).run client).1, ((f a).run client).2) := by
  change Session.bind s f client = _
  rw [Session.bind, show s client = (steps, .ok a) from h]
  rfl

theorem run_bind_of_error {s : Session α} {f : α → Session β} {steps : List Step} {e : Error}
    (h : s.run client = (steps, .error e)) : (s >>= f).run client = (steps, .error e) := by
  change Session.bind s f client = _
  rw [Session.bind, show s client = (steps, .error e) from h]

theorem run_explaining_of_ok {s : Session α} {explain : Error → List LogEvent × Error}
    {steps : List Step} {a : α} (h : s.run client = (steps, .ok a)) :
    (s.explaining explain).run client = (steps, .ok a) := by
  rw [run, explaining, show s client = (steps, .ok a) from h]

theorem run_explaining_of_error {s : Session α} {explain : Error → List LogEvent × Error}
    {steps : List Step} {e : Error} (h : s.run client = (steps, .error e)) :
    (s.explaining explain).run client =
      (steps ++ (explain e).1.map .logged, .error (explain e).2) := by
  rw [run, explaining, show s client = (steps, .error e) from h]

end Session

namespace Statement

/-- A valid statement is handed to the client. -/
theorem run_fetchAll {s : Statement} (h : s.validate = .ok ()) (client : Client) :
    s.fetchAll.run client = ([.asked ⟨s.sql, s.params⟩], client.rows ⟨s.sql, s.params⟩) := by
  rw [fetchAll, h, Session.run_bind_of_ok (Session.run_ofExcept _)]
  rfl

theorem run_execute {s : Statement} (h : s.validate = .ok ()) (client : Client) :
    s.execute.run client = ([.asked ⟨s.sql, s.params⟩], client.count ⟨s.sql, s.params⟩) := by
  rw [execute, h, Session.run_bind_of_ok (Session.run_ofExcept _)]
  rfl

end Statement

/-! ## What an operation does -/

/-- What is logged before a statement is executed: one event if the log is on, else none. -/
inductive LogConfig.Announces (c : LogConfig) (s : Statement) : List Step → Prop where
  | enabled (on : c.enabled = true) :
      c.Announces s
        [.logged (.statement c.level (s.tag.getD noTag) s.params.length (c.truncate s.sql))]
  | disabled (off : c.enabled = false) : c.Announces s []

theorem LogConfig.announces_events (c : LogConfig) (s : Statement) :
    c.Announces s ((c.events s).map .logged) := by
  cases h : c.enabled with
  | true =>
    rw [events, if_pos h]
    exact .enabled h
  | false =>
    rw [events, h]
    exact .disabled h

namespace Repository

variable {α β : Type}

/-- The steps and the result of an operation with one statement, where `Reads` tells what may come
of an answer. -/
inductive OneRequest (r : Repository) (statement : Except Error Statement)
    (reply : Request → Except Error α) (Reads : α → Except Error β → Prop) :
    List Step × Except Error β → Prop where
  /-- Without a statement nothing is logged and nobody is asked. -/
  | unstated {e} (refused : statement = .error e) :
      r.OneRequest statement reply Reads ([], .error e)
  /-- The error of the client is explained; what is found out about it is logged afterwards. -/
  | failed {s before e} (stated : statement = .ok s) (valid : s.validate = .ok ())
      (announced : r.config.log.Announces s before) (fails : reply ⟨s.sql, s.params⟩ = .error e) :
      r.OneRequest statement reply Reads
        (before ++ .asked ⟨s.sql, s.params⟩ :: (r.explainError e).1.map .logged,
          .error (r.explainError e).2)
  /-- Nothing else is done once there is an answer. -/
  | answered {s before a result} (stated : statement = .ok s) (valid : s.validate = .ok ())
      (announced : r.config.log.Announces s before) (replies : reply ⟨s.sql, s.params⟩ = .ok a)
      (reads : Reads a result) :
      r.OneRequest statement reply Reads (before ++ [.asked ⟨s.sql, s.params⟩], result)

/-! ## One operation -/

section

variable {r : Repository} {client : Client} {s : Statement}

theorem run_asking_of_ok {ask : Session α} {a : α}
    (h : ask.run client = ([.asked ⟨s.sql, s.params⟩], .ok a)) :
    (do
      Session.log (r.config.log.events s)
      ask.explaining r.explainError : Session α).run client =
      ((r.config.log.events s).map .logged ++ [.asked ⟨s.sql, s.params⟩], .ok a) := by
  rw [Session.run_bind_of_ok (Session.run_log _), Session.run_explaining_of_ok h]

theorem run_asking_of_error {ask : Session α} {e : Error}
    (h : ask.run client = ([.asked ⟨s.sql, s.params⟩], .error e)) :
    (do
      Session.log (r.config.log.events s)
      ask.explaining r.explainError : Session α).run client =
      ((r.config.log.events s).map .logged ++ .asked ⟨s.sql, s.params⟩ ::
        (r.explainError e).1.map .logged, .error (r.explainError e).2) := by
  rw [Session.run_bind_of_ok (Session.run_log _), Session.run_explaining_of_error h,
    List.singleton_append]

/-- An operation that states, asks and then reads asks once, as what it states is valid. -/
theorem oneRequest_run (plan : JoinPlan) (call : Call) {ask : Statement → Session α}
    {reply : Request → Except Error α} {Reads : α → Except Error β → Prop}
    {read : α → Except Error β}
    (hask : ∀ s : Statement, s.validate = .ok () →
      (ask s).run client = ([.asked ⟨s.sql, s.params⟩], reply ⟨s.sql, s.params⟩))
    (hread : ∀ a, Reads a (read a)) :
    r.OneRequest (r.statement plan call) reply Reads ((do
      let s ← Session.ofExcept (r.statement plan call)
      let a ← (do
        Session.log (r.config.log.events s)
        (ask s).explaining r.explainError)
      Session.ofExcept (read a) : Session β).run client) := by
  cases hstated : r.statement plan call with
  | error e =>
    rw [Session.run_bind_of_error (Session.run_ofExcept _)]
    exact .unstated rfl
  | ok s =>
    have hvalid := (binds_of_statement hstated).validate_eq_ok
    have hannounced := r.config.log.announces_events s
    have hasked := hask s hvalid
    rw [Session.run_bind_of_ok (Session.run_ofExcept _), List.nil_append]
    cases hreply : reply ⟨s.sql, s.params⟩ with
    | error e =>
      rw [hreply] at hasked
      rw [Session.run_bind_of_error (run_asking_of_error hasked)]
      exact .failed rfl hvalid hannounced hreply
    | ok a =>
      rw [hreply] at hasked
      rw [Session.run_bind_of_ok (run_asking_of_ok hasked), Session.run_ofExcept, List.append_nil]
      exact .answered rfl hvalid hannounced hreply (hread a)

/-- An operation that reads rows asks for them once. -/
theorem oneRequest_fetch (plan : JoinPlan) (call : Call)
    {Reads : List Wire.Row → Except Error β → Prop} {read : List Wire.Row → Except Error β}
    (hread : ∀ rows, Reads rows (read rows)) :
    r.OneRequest (r.statement plan call) client.rows Reads ((do
      let s ← Session.ofExcept (r.statement plan call)
      let rows ← r.fetch s
      Session.ofExcept (read rows) : Session β).run client) :=
  oneRequest_run plan call (fun _ hvalid ↦ Statement.run_fetchAll hvalid client) hread

end

/-! ## All operations -/

section

variable (r : Repository) (client : Client)

theorem oneRequest_add (payload : Json) :
    r.OneRequest (r.insertStatement payload) client.rows
      (FirstRow (readAlone r.plan) (.error (.notFound (.inserted r.schema.displayName))))
      ((r.add payload).run client) := by
  simp only [add, Session.ofExcept_bind]
  exact oneRequest_fetch r.plan (.insert payload) (firstRow_orMissing r.plan _)

theorem oneRequest_save (key payload : Json) :
    r.OneRequest (r.updateStatement key payload) client.rows
      (FirstRow (readAlone r.plan)
        (.error (.notFound (.byKey r.schema.displayName r.schema.key.text key.render))))
      ((r.save key payload).run client) := by
  simp only [save, Session.ofExcept_bind]
  exact oneRequest_fetch r.plan (.update key payload) (firstRow_orMissing r.plan _)

theorem oneRequest_get (key : Json) :
    r.OneRequest (r.getStatement key) client.rows
      (FirstRow (fun row ↦ (readAlone r.plan row).map some) (.ok none))
      ((r.get key).run client) :=
  oneRequest_fetch r.plan (.get key) (firstRow_readFirst r.plan)

theorem oneRequest_all (request : ListRequest) :
    r.OneRequest (r.listStatement r.plan request none) client.rows (ReadsList r.plan)
      ((r.all request).run client) :=
  oneRequest_fetch r.plan (.list request none) (readsList_readAll r.plan)

theorem oneRequest_filter (hs : r.schema.Declared) (request : ListRequest) :
    r.OneRequest (r.listStatement r.plan.withTotal request (some (r.page request))) client.rows
      (ReadsPage r.schema r.plan.withTotal) ((r.filter request).run client) := by
  have hp : JoinPlan.Prepared r.schema r.plan.withTotal := (JoinPlan.Prepared.ofSchema _).withTotal
  exact oneRequest_fetch r.plan.withTotal (.list request (some (r.page request)))
    (readsPage_readPage hs hp rfl)

theorem oneRequest_delete (key : Json) :
    r.OneRequest (r.deleteStatement key) client.count (fun n result ↦ result = .ok n)
      ((r.delete key).run client) := by
  have hdelete : r.delete key = (do
      let s ← Session.ofExcept (r.deleteStatement key)
      let n ← (do
        Session.log (r.config.log.events s)
        s.execute.explaining r.explainError)
      Session.ofExcept (.ok n)) := by
    simp only [delete, Session.bind_ok]
  rw [hdelete]
  exact oneRequest_run r.plan (.delete key)
    (fun _ hvalid ↦ Statement.run_execute hvalid client) fun _ ↦ rfl

end

/-- Every operation has one outcome of three: it is refused before anything is logged or asked, its
client fails, or its client answers and the answer is read. -/
theorem operations_ask_once (r : Repository) (hs : r.schema.Declared) (client : Client) :
    (∀ payload, r.OneRequest (r.insertStatement payload) client.rows
      (FirstRow (readAlone r.plan) (.error (.notFound (.inserted r.schema.displayName))))
      ((r.add payload).run client)) ∧
    (∀ key payload, r.OneRequest (r.updateStatement key payload) client.rows
      (FirstRow (readAlone r.plan)
        (.error (.notFound (.byKey r.schema.displayName r.schema.key.text key.render))))
      ((r.save key payload).run client)) ∧
    (∀ key, r.OneRequest (r.getStatement key) client.rows
      (FirstRow (fun row ↦ (readAlone r.plan row).map some) (.ok none))
      ((r.get key).run client)) ∧
    (∀ request, r.OneRequest (r.listStatement r.plan request none) client.rows
      (ReadsList r.plan) ((r.all request).run client)) ∧
    (∀ request, r.OneRequest
      (r.listStatement r.plan.withTotal request (some (r.page request))) client.rows
      (ReadsPage r.schema r.plan.withTotal) ((r.filter request).run client)) ∧
    ∀ key, r.OneRequest (r.deleteStatement key) client.count (fun n result ↦ result = .ok n)
      ((r.delete key).run client) :=
  ⟨r.oneRequest_add client, r.oneRequest_save client, r.oneRequest_get client,
    r.oneRequest_all client, r.oneRequest_filter client hs, r.oneRequest_delete client⟩

/-- A team that is added while whole statements are logged: one text goes to the log and, with the
title, to the client, who gives no row back. -/
theorem operations_ask_once_teams :
    ∃ (r : Repository) (client : Client) (text : String),
      r = ⟨{ toTable := .teams, joins := [] }, { log := { greatestLength := none } }⟩ ∧
      r.schema.Declared ∧ (∀ request, client.rows request = .ok []) ∧
      text = "WITH \"teams\" AS (INSERT INTO \"teams\" (\"title\") VALUES ($1) RETURNING *) " ++
        "SELECT \"teams\".\"id\", \"teams\".\"title\" FROM \"teams\"" ∧
      (r.add (.object [("title", .string "red")])).run client =
        ([.logged (.statement .debug "teams.add" 1 text), .asked ⟨text, [.text "red"]⟩],
          .error (.notFound (.inserted "teams"))) ∧
      r.OneRequest (r.insertStatement (.object [("title", .string "red")])) client.rows
        (FirstRow (readAlone r.plan) (.error (.notFound (.inserted "teams"))))
        ((r.add (.object [("title", .string "red")])).run client) := by
  let r : Repository := ⟨{ toTable := .teams, joins := [] }, { log := { greatestLength := none } }⟩
  let client : Client := ⟨fun _ ↦ .ok [], fun _ ↦ .ok 0⟩
  have hs : r.schema.Declared :=
    ⟨{ name := "teams", fields := [{ name := "id", type := .int }, { name := "title" }] }, rfl, nofun⟩
  have honce := (operations_ask_once r hs client).1 (.object [("title", .string "red")])
  exact ⟨r, client, _, rfl, hs, fun _ ↦ rfl, by decide +kernel, rfl, honce⟩

end Repository

end SchemaSql
