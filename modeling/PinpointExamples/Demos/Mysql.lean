import Mathlib
import PinpointExamples.Server.WrapHandler

/-!
# The MySQL demo

`handle_db_demo` connects to the database and runs a fixed list of SQL statements, grouped into operations that are
reported one by one.  What the connector does is a parameter: the construction of the session, and the outcome of
the `k`-th statement of the request.
-/

namespace PinpointExamples.Mysql

open Scoped

def traceRequest (lib : HttplibHeaders) : Request → WorkerThread → SpanId × WorkerThread :=
  traceRequestAs lib "C++ DB Demo"

def wrapHandler (lib : HttplibHeaders) :
    Handler → Request → Response → WorkerThread → Except Exn Unit × Response × WorkerThread :=
  wrapHandlerAs lib "C++ DB Demo"

structure DatabaseConfig where
  host : Str
  port : Str
  database : Str

inductive QueryType
  | select
  | insert
  | update
  | delete
  | other
  deriving DecidableEq, Repr

def queryTypeToString : QueryType → Str
  | .select => "SELECT"
  | .insert => "INSERT"
  | .update => "UPDATE"
  | .delete => "DELETE"
  | .other => "OTHER"

/-! ### Traced statements -/

def initSqlSpanEvent {S : Type} (config : DatabaseConfig) (spanEvent : EventId) : Traced S Unit := do
  .call (.setEndPoint spanEvent (config.host ++ ":" ++ config.port))
  .call (.setDestination spanEvent config.database)

def traceSqlExecution {S : Type} (spanEvent : EventId) (sql : Str) (params : List Str) (success : Bool)
    (error : Str) : Traced S Unit := do
  .call (.setSqlQuery spanEvent sql params)
  if !success && !error.isEmpty then
    .call (.setError spanEvent (some "DB_ERROR") error)

/-- The text that the two `catch` clauses leave in `error`. -/
def errorText : Exn → Str
  | .mysqlxError what => "MySQL X DevAPI Error: " ++ what
  | .stdException what => "Exception: " ++ what

/-- A statement under a span event with the name of its type; its exception stays in here. -/
def executeQueryAs {S : Type} (queryTypeName : Str) (config : DatabaseConfig) (span : SpanPtr) (sql : Str)
    (params : List Str) (outcome : Except Exn Unit) : Traced S Unit :=
  scopedSpanEvent span ("SQL_" ++ queryTypeName) .mysqlQuery fun spanEvent => do
    initSqlSpanEvent config spanEvent
    match outcome with
    | .ok () => traceSqlExecution spanEvent sql params true []
    | .error e => traceSqlExecution spanEvent sql params false (errorText e)

def executeSelectQuery {S : Type} :
    DatabaseConfig → SpanPtr → Str → List Str → Except Exn Unit → Traced S Unit :=
  executeQueryAs "SELECT"

def executeDMLQuery {S : Type} (type : QueryType) :
    DatabaseConfig → SpanPtr → Str → List Str → Except Exn Unit → Traced S Unit :=
  executeQueryAs (queryTypeToString type)

/-- A call of `executeSelectQuery` (`dml` is `none`) or of `executeDMLQuery`. -/
structure Statement where
  dml : Option QueryType
  sql : Str
  params : List Str
  deriving DecidableEq, Repr

def Statement.execute {S : Type} (statement : Statement) (config : DatabaseConfig) (span : SpanPtr)
    (outcome : Except Exn Unit) : Traced S Unit :=
  match statement.dml with
  | none => executeSelectQuery config span statement.sql statement.params outcome
  | some type => executeDMLQuery type config span statement.sql statement.params outcome

def selectQuery (sql : Str) (params : List Str) : Statement := ⟨none, sql, params⟩
def insertQuery (sql : Str) (params : List Str) : Statement := ⟨some .insert, sql, params⟩
def updateQuery (sql : Str) (params : List Str) : Statement := ⟨some .update, sql, params⟩
def deleteQuery (sql : Str) (params : List Str) : Statement := ⟨some .delete, sql, params⟩

/-! ### The demo -/

/-- The statements of an operation, and the `addOperation` call that follows them. -/
structure DemoOperation where
  statements : List Statement
  op : Str
  status : Str
  details : Str

/-- What the `try` block of `runDemoHandler` does, in order. -/
def demoOperations : List DemoOperation :=
  [⟨[updateQuery ("\n            CREATE TABLE IF NOT EXISTS demo_users (\n" ++
        "                id INT AUTO_INCREMENT PRIMARY KEY,\n" ++
        "                name VARCHAR(100) NOT NULL,\n" ++
        "                email VARCHAR(100) UNIQUE,\n" ++
        "                age INT,\n" ++
        "                created_at TIMESTAMP DEFAULT CURRENT_TIMESTAMP\n" ++
        "            )\n        ") []],
      "create_table", "success", "demo_users table created/verified"⟩,
    ⟨[deleteQuery "DELETE FROM demo_users" []], "clear_data", "success", "Existing data cleared"⟩,
    ⟨[insertQuery "INSERT INTO demo_users (name, email, age) VALUES (?, ?, ?)"
          ["John Doe", "john@example.com", "25"],
        insertQuery "INSERT INTO demo_users (name, email, age) VALUES (?, ?, ?)"
          ["Jane Smith", "jane@example.com", "30"],
        insertQuery "INSERT INTO demo_users (name, email, age) VALUES (?, ?, ?)"
          ["Bob Johnson", "bob@example.com", "35"]],
      "insert_data", "success", "3 users inserted"⟩,
    ⟨[selectQuery "SELECT * FROM demo_users" [],
        selectQuery "SELECT * FROM demo_users WHERE age > ?" ["25"],
        selectQuery "SELECT name, email FROM demo_users WHERE name LIKE ?" ["%John%"]],
      "select_queries", "success", "Multiple SELECT queries executed"⟩,
    ⟨[updateQuery "UPDATE demo_users SET age = ? WHERE name = ?" ["26", "John Doe"],
        selectQuery "SELECT * FROM demo_users WHERE name = ?" ["John Doe"]],
      "update_queries", "success", "UPDATE and verification completed"⟩,
    ⟨[selectQuery ("\n            SELECT \n" ++
          "                name, \n" ++
          "                email, \n" ++
          "                age,\n" ++
          "                CASE \n" ++
          "                    WHEN age < 30 THEN 'Young'\n" ++
          "                    WHEN age < 40 THEN 'Middle'\n" ++
          "                    ELSE 'Senior'\n" ++
          "                END as age_group\n" ++
          "            FROM demo_users \n" ++
          "            ORDER BY age DESC\n        ") [],
        selectQuery "SELECT COUNT(*) as total_users, AVG(age) as avg_age FROM demo_users" []],
      "complex_queries", "success", "Complex SELECT with CASE and aggregation"⟩,
    ⟨[selectQuery "SELECT * FROM non_existent_table" []],
      "error_handling", "tested", "Error handling with non-existent table"⟩,
    ⟨[deleteQuery "DELETE FROM demo_users WHERE age > ?" ["30"],
        selectQuery "SELECT COUNT(*) as remaining_users FROM demo_users" []],
      "delete_data", "success", "Conditional DELETE executed"⟩]

/-- All statements of a request, in order. -/
def demoStatements : List Statement := demoOperations.flatMap DemoOperation.statements

example : demoStatements.length = 15 := rfl

/-- The text written so far, and the local `first`. -/
structure DemoResult where
  text : Str
  first : Bool

def DemoResult.addOperation (r : DemoResult) (op status details : Str) : DemoResult where
  text :=
    let separator : Str := if r.first then [] else ",\n"
    let detailsField : Str := if details.isEmpty then [] else ",\n      \"details\": \"" ++ details ++ "\""
    r.text ++ separator ++ "    \x7b\n" ++ "      \"operation\": \"" ++ op ++ "\",\n" ++
      "      \"status\": \"" ++ status ++ "\"" ++ detailsField ++ "\n    \x7d"
  first := false

/-- Executes statements one after the other; the next one is the `k`-th of the request. -/
def executeStatements {S : Type} (config : DatabaseConfig) (span : SpanPtr) (outcome : Nat → Except Exn Unit) :
    Nat → List Statement → Traced S Unit
  | _, [] => pure ()
  | k, statement :: rest => do
    statement.execute config span (outcome k)
    executeStatements config span outcome (k + 1) rest

/-- The `try` block of `runDemoHandler`, with its `catch` clause. -/
def runOperations {S : Type} (config : DatabaseConfig) (span : SpanPtr) (outcome : Nat → Except Exn Unit) :
    Nat → List DemoOperation → DemoResult → Traced S DemoResult
  | _, [], r => pure r
  | k, o :: rest, r => do
    match ← (executeStatements config span outcome k o.statements).attempt with
    | .ok () =>
      runOperations config span outcome (k + o.statements.length) rest (r.addOperation o.op o.status o.details)
    | .error e => pure (r.addOperation "demo_execution" "failed" ("Error: " ++ e.what))

def runDemoHandler {S : Type} (config : DatabaseConfig) (outcome : Nat → Except Exn Unit) (timestamp : Int)
    (span : SpanPtr) : Traced S Str :=
  scopedSpanEvent span "runDemoHandler" .unspecified fun _ => do
    let result : Str := "\x7b\n" ++ "  \"status\": \"running\",\n" ++
      "  \"message\": \"Database Demo Starting\",\n" ++ "  \"operations\": [\n"
    let r ← runOperations config span outcome 0 demoOperations ⟨result, true⟩
    pure (r.text ++ "\n  ],\n" ++ "  \"demo_status\": \"completed\",\n" ++
      "  \"timestamp\": \"" ++ (toString timestamp).toList ++ "\"\n" ++ "\x7d")

/-! ### The handler -/

/-- `connect`: whether it opened a session. -/
def connect (session : Except Exn Unit) : Bool :=
  match session with
  | .ok () => true
  | .error _ => false

def successBody (demoResult : Str) : Str :=
  "\x7b\n" ++ "  \"success\": true,\n" ++ "  \"database\": \"tcp://localhost:33060/test\",\n" ++
    "  \"demo_result\": " ++ demoResult ++ "\n" ++ "\x7d"

def connectionFailedBody : Str :=
  "\x7b\n" ++ "  \"success\": false,\n" ++ "  \"error\": \"Database connection failed\",\n" ++
    "  \"message\": \"Please ensure MySQL is running and accessible\",\n" ++ "  \"instructions\": [\n" ++
    "    \"Install MySQL Server 8.0+ with X Protocol\",\n" ++
    "    \"Start MySQL service on localhost:3306\",\n" ++
    "    \"Create test database: CREATE DATABASE test;\",\n" ++
    "    \"Update connection settings if needed\"\n" ++ "  ]\n" ++ "\x7d"

def executionFailedBody (what : Str) : Str :=
  "\x7b\n" ++ "  \"success\": false,\n" ++ "  \"error\": \"Demo execution failed\",\n" ++
    "  \"details\": \"" ++ what ++ "\"\n" ++ "\x7d"

/-- `handle_db_demo` around its `try` block, which answers a status and a body. -/
def handleDbDemoAround (lib : HttplibHeaders) (block : SpanPtr → Traced Response (Int × Str)) : Handler :=
  fun _ span =>
    scopedSpanEvent span "handle_db_demo" .unspecified fun spanEvent => do
      match ← (block span).attempt with
      | .ok (status, body) =>
        .modify fun res => { res with status := status }.setContent lib body "application/json"
      | .error e =>
        .call (.setError spanEvent none ("Demo failed: " ++ e.what))
        .modify fun res =>
          { res with status := 500 }.setContent lib (executionFailedBody e.what) "application/json"

/-- The `try` block of `handle_db_demo`. -/
def dbDemoBlock (config : DatabaseConfig) (session : Except Exn Unit) (outcome : Nat → Except Exn Unit)
    (timestamp : Int) (span : SpanPtr) : Traced Response (Int × Str) :=
  if connect session then do
    let demoResult ← runDemoHandler config outcome timestamp span
    pure (200, successBody demoResult)
  else
    pure (503, connectionFailedBody)

def handleDbDemo (lib : HttplibHeaders) (config : DatabaseConfig) (session : Except Exn Unit)
    (outcome : Nat → Except Exn Unit) (timestamp : Int) : Handler :=
  handleDbDemoAround lib (dbDemoBlock config session outcome timestamp)

/-- The body of `handle_db_status`. -/
def dbStatusBody (timestamp : Int) : Str :=
  "\x7b\n" ++ "  \"service\": \"MySQL Database Demo with Pinpoint Tracing\",\n" ++ "  \"version\": \"1.0.0\",\n" ++
    "  \"database\": \x7b\n" ++ "    \"host\": \"localhost\",\n" ++ "    \"port\": \"3306\",\n" ++
    "    \"database\": \"test\",\n" ++ "    \"protocol\": \"MySQL X DevAPI\"\n" ++ "  \x7d,\n" ++
    "  \"endpoints\": \x7b\n" ++ "    \"/db-demo\": \"Run complete database demo with tracing\",\n" ++
    "    \"/status\": \"Get service status and configuration\"\n" ++ "  \x7d,\n" ++
    "  \"timestamp\": \"" ++ (toString timestamp).toList ++ "\"\n" ++ "\x7d"

def handleDbStatus (lib : HttplibHeaders) (timestamp : Int) : Handler := fun _ span =>
  scopedSpanEvent span "handle_db_status" .unspecified fun _ =>
    .modify fun res => { res.setContent lib (dbStatusBody timestamp) "application/json" with status := 200 }

/-! ### What a request runs -/

/-- The statement that an entry of the log records. -/
def sqlQuery : Entry EventLabel AgentCall → Option (Str × List Str)
  | .call (.event (.setSqlQuery _ sql args)) => some (sql, args)
  | _ => none

def Statement.query (statement : Statement) : Str × List Str := (statement.sql, statement.params)

private theorem initSqlSpanEvent_records {S : Type} (config : DatabaseConfig) (spanEvent : EventId) :
    (initSqlSpanEvent (S := S) config spanEvent).Records AgentCall.event sqlQuery () [] := by
  unfold initSqlSpanEvent
  exact Prog.Records.bind (Prog.Records.call_of_none rfl) (Prog.Records.call_of_none rfl)

private theorem traceSqlExecution_records {S : Type} (spanEvent : EventId) (sql : Str) (params : List Str)
    (success : Bool) (error : Str) :
    (traceSqlExecution (S := S) spanEvent sql params success error).Records AgentCall.event sqlQuery ()
      [(sql, params)] := by
  have hsql : (Prog.call (.setSqlQuery spanEvent sql params) : Traced S Unit).Records AgentCall.event sqlQuery ()
      [(sql, params)] := .call_of_some rfl
  unfold traceSqlExecution
  by_cases h : (!success && !error.isEmpty) = true
  · simp only [if_pos h]
    exact hsql.bind (.call_of_none rfl)
  · simp only [if_neg h]
    exact hsql.bind (.pure _)

/-- A statement is recorded once, whatever its outcome. -/
theorem executeQueryAs_records {S : Type} (queryTypeName : Str) (config : DatabaseConfig) (span : SpanPtr) (sql : Str)
    (params : List Str) (outcome : Except Exn Unit) :
    (executeQueryAs (S := S) queryTypeName config span sql params outcome).Records AgentCall.event sqlQuery ()
      [(sql, params)] := by
  unfold executeQueryAs
  apply Prog.Records.scope (fun _ => rfl) (fun _ => rfl)
  intro spanEvent
  cases outcome with
  | ok _ => exact (initSqlSpanEvent_records config spanEvent).bind (traceSqlExecution_records _ _ _ _ _)
  | error e => exact (initSqlSpanEvent_records config spanEvent).bind (traceSqlExecution_records _ _ _ _ _)

private theorem Statement.execute_records {S : Type} (statement : Statement) (config : DatabaseConfig)
    (span : SpanPtr) (outcome : Except Exn Unit) :
    (statement.execute (S := S) config span outcome).Records AgentCall.event sqlQuery () [statement.query] := by
  unfold Statement.execute
  cases statement.dml with
  | none => exact executeQueryAs_records _ _ _ _ _ _
  | some type => exact executeQueryAs_records _ _ _ _ _ _

private theorem executeStatements_records {S : Type} (config : DatabaseConfig) (span : SpanPtr)
    (outcome : Nat → Except Exn Unit) (k : Nat) (statements : List Statement) :
    (executeStatements (S := S) config span outcome k statements).Records AgentCall.event sqlQuery ()
      (statements.map Statement.query) := by
  induction statements generalizing k with
  | nil => exact .pure _
  | cons statement rest ih => exact (statement.execute_records config span (outcome k)).bind (ih (k + 1))

/-- No outcome of a statement gets out of it, so every operation is reported as planned. -/
theorem runOperations_records {S : Type} (config : DatabaseConfig) (span : SpanPtr)
    (outcome : Nat → Except Exn Unit) (k : Nat) (operations : List DemoOperation) (r : DemoResult) :
    (runOperations (S := S) config span outcome k operations r).Records AgentCall.event sqlQuery
      (operations.foldl (fun r o => r.addOperation o.op o.status o.details) r)
      ((operations.flatMap DemoOperation.statements).map Statement.query) := by
  induction operations generalizing k r with
  | nil => exact .pure _
  | cons o rest ih =>
    have hstatements := (executeStatements_records (S := S) config span outcome k o.statements).attempt
    rw [List.flatMap_cons, List.map_append]
    exact hstatements.bind (ih _ _)

private theorem runDemoHandler_records {S : Type} (config : DatabaseConfig) (outcome : Nat → Except Exn Unit)
    (timestamp : Int) (span : SpanPtr) :
    ∃ demoResult, (runDemoHandler (S := S) config outcome timestamp span).Records AgentCall.event sqlQuery demoResult
      (demoStatements.map Statement.query) := by
  have hoperations := runOperations_records (S := S) config span outcome 0 demoOperations
  have hqueries : demoStatements.map Statement.query ++ [] = demoStatements.map Statement.query := List.append_nil _
  rw [← hqueries]
  apply Exists.intro
  apply Prog.Records.scope (fun _ => rfl) (fun _ => rfl)
  intro id
  exact (hoperations _).bind (.pure _)

/-- The `try` block returns whatever the connector does, so the exception branch of the handler is not taken. -/
theorem dbDemoBlock_records (config : DatabaseConfig) (session : Except Exn Unit) (outcome : Nat → Except Exn Unit)
    (timestamp : Int) (span : SpanPtr) :
    ∃ answer, (dbDemoBlock config session outcome timestamp span).Records AgentCall.event sqlQuery answer
      (if connect session then demoStatements.map Statement.query else []) := by
  unfold dbDemoBlock
  cases connect session with
  | true =>
    obtain ⟨demoResult, h⟩ := runDemoHandler_records (S := Response) config outcome timestamp span
    refine ⟨(200, successBody demoResult), ?_⟩
    rw [if_pos rfl, ← List.append_nil (demoStatements.map Statement.query)]
    exact h.bind (.pure _)
  | false => exact ⟨(503, connectionFailedBody), .pure _⟩

/-- How the handler answers when its `try` block returns. -/
theorem handleDbDemoAround_run (lib : HttplibHeaders) {block : SpanPtr → Traced Response (Int × Str)} (req : Request)
    {span : SpanPtr} {w w' : World EventLabel AgentCall Response} {status : Int} {body : Str}
    (h : (block span).attempt.run AgentCall.event (w.opening ⟨span, "handle_db_demo", .unspecified⟩) =
      (.ok (.ok (status, body)), w')) :
    (handleDbDemoAround lib block req span).run AgentCall.event w =
      (.ok (), { w' with state := { w'.state with status := status }.setContent lib body "application/json" }.emit
        (.closed w.next)) := by
  unfold handleDbDemoAround scopedSpanEvent
  rw [Prog.run_scope, Prog.run_bind, h]
  rfl

/-- A request that connects runs the statements of the demo in order, and one that does not runs none. -/
theorem handleDbDemo_queries (lib : HttplibHeaders) (config : DatabaseConfig) (session : Except Exn Unit)
    (outcome : Nat → Except Exn Unit) (timestamp : Int) (req : Request) (span : SpanPtr)
    (w : World EventLabel AgentCall Response) :
    ∃ w', (handleDbDemo lib config session outcome timestamp req span).run AgentCall.event w = (.ok (), w') ∧
      w'.log.filterMap sqlQuery = w.log.filterMap sqlQuery ++
        if connect session then demoStatements.map Statement.query else [] := by
  obtain ⟨⟨status, body⟩, hblock⟩ := dbDemoBlock_records config session outcome timestamp span
  obtain ⟨w', hw, -, hl⟩ := hblock.attempt (w.opening ⟨span, "handle_db_demo", .unspecified⟩)
  refine ⟨_, handleDbDemoAround_run lib req hw, ?_⟩
  have hopened (label : EventLabel) : (w.log ++ [Entry.opened w.next label]).filterMap sqlQuery =
      w.log.filterMap sqlQuery := by
    rw [List.filterMap_append, List.filterMap_cons_none rfl, List.filterMap_nil, List.append_nil]
  rw [World.emit_log, List.filterMap_append, hl, World.opening_log, hopened, List.filterMap_cons_none rfl,
    List.filterMap_nil, List.append_nil]

end PinpointExamples.Mysql
