import Mathlib
import PinpointExamples.Server.CallTrees
import PinpointExamples.Demos.Cpptrace
import PinpointExamples.Demos.Mongo
import PinpointExamples.Demos.Mysql
import PinpointExamples.Demos.Redis

/-!
# The call trees of the demos

What the Redis, MongoDB, MySQL and cpptrace servers record of a request is computed here from the request and the
outcomes of the calls behind it, as a tree: one event for each command, statement or outgoing call, nested under the
event of its handler.  The log of a worker thread that serves any requests in any order has these trees and no
others.
-/

namespace PinpointExamples

open Scoped Transition TracedRequest

/-! ### The `/run_demo` endpoints -/

/-- The event of the handler, with what the demo adds, and its error if the demo failed. -/
def runDemoTree (inner : EventId → EventForest) (result : Bool × Str) (span : SpanId) (n : EventId) : EventForest :=
  .scope n (runDemoLabel (some span))
    (inner (n + 1) ++ .calls (if result.1 then [] else [.event (.setError n none result.2)])) .nil

/-- The response of the handler. -/
def runDemoRespond (lib : HttplibHeaders) (successBody : Str) (result : Bool × Str) (res : Response) : Response :=
  if result.1 then { res with status := 200 }.setContent lib successBody "application/json"
  else { res with status := 503 }.setContent lib (runDemoFailureBody result.2) "application/json"

private theorem handleRunDemoAs_grows (lib : HttplibHeaders) {demo : SpanPtr → Traced Response (Bool × Str)}
    (successBody : Str) {result : Bool × Str} {inner : EventId → EventForest} (req : Request) {span : SpanId}
    (h : (demo (some span)).Grows AgentCall.event result inner id) :
    (handleRunDemoAs lib demo successBody req (some span)).Grows AgentCall.event ()
      (runDemoTree inner result span) (runDemoRespond lib successBody result) := by
  intro w
  have hdemo := h (w.opening ⟨some span, "handle_run_demo", .unspecified⟩)
  rw [handleRunDemoAs, scopedSpanEvent, Prog.run_scope, Prog.run_bind, hdemo, andThen_ok]
  obtain ⟨_ | _, error⟩ := result
  · simp [runDemoTree, runDemoRespond, runDemoLabel, Forest.entries, Forest.size, Forest.calls, World.emit,
      Nat.add_assoc]
  · simp [runDemoTree, runDemoRespond, runDemoLabel, Forest.entries, Forest.size, Forest.calls, World.emit,
      Nat.add_assoc]

/-- What a served `/run_demo` request comes to. -/
def runDemoTraced (lib : HttplibHeaders) (demo : SpanPtr → Traced Response (Bool × Str)) (successBody : Str)
    (result : Bool × Str) (inner : SpanId → EventId → EventForest)
    (grows : ∀ span, (demo (some span)).Grows AgentCall.event result (inner span) id) (req : Request) :
    TracedRequest where
  handler := handleRunDemoAs lib demo successBody
  req
  forest span := runDemoTree (inner span) result span
  respond := runDemoRespond lib successBody result
  grows span := handleRunDemoAs_grows lib successBody req (grows span)

/-! ### Redis -/

namespace Redis

/-- The commands as they are recorded. -/
def commandTexts : List Str :=
  ["PING", "SET foo hello world", "GET foo", "INCR counter", "INCR counter", "DEL mylist", "LPUSH mylist element-0",
    "LPUSH mylist element-1", "LPUSH mylist element-2", "LPUSH mylist element-3", "LPUSH mylist element-4",
    "LRANGE mylist 0 -1"]

private theorem demoCommands_texts : demoCommands.map (fun c => (format c.fmt c.args).take 1023) = commandTexts := by
  decide

/-- The error of a reply, if it is NULL or an error. -/
def errorCalls (n : EventId) : Reply → List AgentCall
  | .null errstr => [.event (.setError n none errstr)]
  | .reply .error str => [.event (.setError n none str)]
  | .reply _ _ => []

def commandTree (endpoint text : Str) (reply : Reply) (span : SpanId) (n : EventId) : EventForest :=
  .scope n ⟨some span, "redis_command", .redis⟩
    (.calls ([.event (.setEndPoint n endpoint), .event (.setDestination n "redis-server"),
      .event (.setAnnotationStr n .api text)] ++ errorCalls n reply)) .nil

/-- One event after the other; the first reply is the `k`-th of the connection. -/
def commandTrees (endpoint : Str) (reply : Nat → Reply) (span : SpanId) : Nat → List Str → EventId → EventForest
  | _, [], _ => .nil
  | k, text :: texts, n =>
    commandTree endpoint text (reply k) span n ++ commandTrees endpoint reply span (k + 1) texts (n + 1)

/-- The events of the commands, if there is a connection. -/
def demoTree (endpoint : Str) (o : RedisOutcomes) (span : SpanId) (n : EventId) : EventForest :=
  match o.connection with
  | .connected => commandTrees endpoint o.reply span 0 commandTexts n
  | _ => .nil

private theorem executeCommand_grows {S : Type} (endpoint : Str) (reply : Reply) (span : SpanId) (fmt : Str)
    (args : List Str) :
    (executeCommand (S := S) endpoint reply (some span) fmt args).Grows AgentCall.event ()
      (commandTree endpoint ((format fmt args).take 1023) reply span) id := by
  refine Prog.Grows.congr (Prog.Grows.scope fun n =>
    Prog.Grows.call_bind (Prog.Grows.call_bind (Prog.Grows.call_bind (f := fun _ => .calls (errorCalls n reply)) ?_)))
    (fun _ => rfl) fun _ => rfl
  split
  · exact .call _
  · exact .call _
  · rename_i type str htype
    have hnone : errorCalls n (.reply type str) = [] := by
      cases type with
      | error => exact absurd rfl htype
      | _ => rfl
    rw [hnone]
    exact .pure ()

private theorem executeCommands_grows {S : Type} (endpoint : Str) (reply : Nat → Reply) (span : SpanId) (k : Nat)
    (commands : List Command) :
    (executeCommands (S := S) endpoint reply (some span) k commands).Grows AgentCall.event ()
      (commandTrees endpoint reply span k (commands.map fun c => (format c.fmt c.args).take 1023)) id := by
  induction commands generalizing k with
  | nil => exact .pure ()
  | cons c cs ih =>
    exact ((executeCommand_grows endpoint (reply k) span c.fmt c.args).bind (ih (k + 1))).congr
      (fun n => by simp [commandTrees, commandTree, Forest.size]) fun _ => rfl

private theorem runRedisDemo_grows {S : Type} (endpoint : Str) (o : RedisOutcomes) (span : SpanId) :
    (runRedisDemo (S := S) endpoint o (some span)).Grows AgentCall.event o.connection.result
      (demoTree endpoint o span) id := by
  unfold runRedisDemo demoTree
  cases o.connection with
  | null => exact .pure _
  | failed errstr => exact .pure _
  | connected =>
    have hcommands := executeCommands_grows (S := S) endpoint o.reply span 0 demoCommands
    rw [demoCommands_texts] at hcommands
    refine Prog.Grows.congr (hcommands.bind (.pure _)) (fun n => ?_) fun _ => rfl
    simp

/-- A request to `/run_demo` with what the server answers to its commands. -/
def traced (lib : HttplibHeaders) (endpoint : Str) (r : Request × RedisOutcomes) : TracedRequest :=
  runDemoTraced lib (runRedisDemo endpoint r.2) (successBody endpoint) r.2.connection.result
    (demoTree endpoint r.2) (runRedisDemo_grows endpoint r.2) r.1

/-- A command is traced once and under its own request, whatever is answered. -/
theorem redis_call_trees (lib : HttplibHeaders) (endpoint : Str) (requests : List (Request × RedisOutcomes)) :
    Records lib "RedisDemo" (requests.map fun r => ⟨handleRunDemo lib endpoint r.2, r.1, ⟨-1, [], []⟩⟩)
      (trees lib "RedisDemo" (requests.map (traced lib endpoint)) 0 0) := by
  have h := records_trees lib "RedisDemo" (requests.map (traced lib endpoint))
  rw [List.map_map] at h
  exact h

end Redis

/-! ### MongoDB -/

namespace Mongo

def operationTree (name desc : Str) (outcome : Except Exn Unit) (span : SpanId) (n : EventId) : EventForest :=
  .scope n ⟨some span, name, .mongodbQuery⟩
    (.calls ([.event (.setEndPoint n "localhost:27017"), .event (.setDestination n "mongodb-demo"),
      .event (.setSqlQuery n ("Collection: testcollection, Query: " ++ desc) [])] ++
        match outcome with
        | .ok () => []
        | .error e => [.event (.setError n none e.what)])) .nil

/-- The events of the four operations, if there is a client. -/
def demoTree (o : MongoOutcomes) (span : SpanId) (n : EventId) : EventForest :=
  match o.uri, o.client with
  | .ok (), .ok () =>
    operationTree "Insert" "Insert \x7bname: 'MongoDB', type: 'database'\x7d" o.insert span n ++
      (operationTree "Find" "Find \x7bname: 'MongoDB'\x7d" o.find span (n + 1) ++
        (operationTree "Update" "Update \x7bname: 'MongoDB'\x7d set \x7bi: 110\x7d" o.update span (n + 2) ++
          operationTree "Delete" "Delete \x7bname: 'MongoDB'\x7d" o.delete span (n + 3)))
  | _, _ => .nil

private theorem traceMongoOp_grows {S : Type} (span : SpanId) (name desc : Str) (outcome : Except Exn Unit) :
    (traceMongoOp (S := S) (some span) name "testcollection" desc outcome).Grows AgentCall.event ()
      (operationTree name desc outcome span) id := by
  cases outcome with
  | ok a =>
    refine Prog.Grows.congr (Prog.Grows.scope fun n =>
      Prog.Grows.call_bind (Prog.Grows.call_bind (Prog.Grows.call_bind (.tryCatch (.pure ())))))
      (fun _ => rfl) fun _ => rfl
  | error e =>
    refine Prog.Grows.congr (Prog.Grows.scope fun n =>
      Prog.Grows.call_bind (Prog.Grows.call_bind (Prog.Grows.call_bind (.tryCatch_throw (.call _)))))
      (fun _ => rfl) fun _ => rfl

private theorem runMongoDemo_grows {S : Type} (o : MongoOutcomes) (span : SpanId) :
    (runMongoDemo (S := S) o (some span)).Grows AgentCall.event o.result (demoTree o span) id := by
  unfold MongoOutcomes.result runMongoDemo demoTree
  rcases o.uri with e | _
  · exact fun w => by simp [orThrow, Forest.entries, Forest.size]
  · rcases o.client with e | _
    · exact fun w => by simp [orThrow, Forest.entries, Forest.size]
    · have hop := fun name desc outcome => traceMongoOp_grows (S := S) span name desc outcome
      refine Prog.Grows.congr (.tryCatch (.bind (.pure ()) (.bind (.pure ()) ((hop _ _ _).bind ((hop _ _ _).bind
        ((hop _ _ _).bind ((hop _ _ _).bind (.pure _)))))))) (fun n => ?_) fun _ => rfl
      simp [operationTree, Forest.size, Nat.add_assoc]

/-- A request to `/run_demo` with the outcomes of the driver. -/
def traced (lib : HttplibHeaders) (mongoUri : Str) (r : Request × MongoOutcomes) : TracedRequest :=
  runDemoTraced lib (runMongoDemo r.2) (successBody mongoUri) r.2.result (demoTree r.2) (runMongoDemo_grows r.2) r.1

/-- An operation is traced once and under its own request, also if it throws. -/
theorem mongo_call_trees (lib : HttplibHeaders) (mongoUri : Str) (requests : List (Request × MongoOutcomes)) :
    Records lib "MongoDBDemo" (requests.map fun r => ⟨handleRunDemo lib mongoUri r.2, r.1, ⟨-1, [], []⟩⟩)
      (trees lib "MongoDBDemo" (requests.map (traced lib mongoUri)) 0 0) := by
  have h := records_trees lib "MongoDBDemo" (requests.map (traced lib mongoUri))
  rw [List.map_map] at h
  exact h

end Mongo

/-! ### MySQL -/

namespace Mysql

def Statement.typeName (statement : Statement) : Str :=
  match statement.dml with
  | none => "SELECT"
  | some type => queryTypeToString type

/-- The event of a statement; its error has the text of the `catch` clause. -/
def statementTree (config : DatabaseConfig) (statement : Statement) (outcome : Except Exn Unit) (span : SpanId)
    (n : EventId) : EventForest :=
  .scope n ⟨some span, "SQL_" ++ statement.typeName, .mysqlQuery⟩
    (.calls ([.event (.setEndPoint n (config.host ++ ":" ++ config.port)), .event (.setDestination n config.database),
      .event (.setSqlQuery n statement.sql statement.params)] ++
        match outcome with
        | .ok () => []
        | .error e => [.event (.setError n (some "DB_ERROR") (errorText e))])) .nil

/-- One event after the other; the first outcome is the `k`-th of the request. -/
def statementTrees (config : DatabaseConfig) (outcome : Nat → Except Exn Unit) (span : SpanId) :
    Nat → List Statement → EventId → EventForest
  | _, [], _ => .nil
  | k, statement :: rest, n =>
    statementTree config statement (outcome k) span n ++ statementTrees config outcome span (k + 1) rest (n + 1)

/-- The event of the handler, and in it, if there is a session, that of `runDemoHandler` with the statements. -/
def dbDemoTree (config : DatabaseConfig) (session : Except Exn Unit) (outcome : Nat → Except Exn Unit)
    (span : SpanId) (n : EventId) : EventForest :=
  .scope n ⟨some span, "handle_db_demo", .unspecified⟩
    (if connect session then
      .scope (n + 1) ⟨some span, "runDemoHandler", .unspecified⟩
        (statementTrees config outcome span 0 demoStatements (n + 2)) .nil
    else .nil) .nil

/-- The `demo_result`, which no outcome of a statement changes. -/
def demoReport (timestamp : Int) : Str :=
  let r : DemoResult := demoOperations.foldl (fun r o => r.addOperation o.op o.status o.details)
    ⟨"\x7b\n" ++ "  \"status\": \"running\",\n" ++ "  \"message\": \"Database Demo Starting\",\n" ++
      "  \"operations\": [\n", true⟩
  r.text ++ "\n  ],\n" ++ "  \"demo_status\": \"completed\",\n" ++
    "  \"timestamp\": \"" ++ (toString timestamp).toList ++ "\"\n" ++ "\x7d"

def dbDemoRespond (lib : HttplibHeaders) (session : Except Exn Unit) (timestamp : Int) (res : Response) : Response :=
  if connect session then
    { res with status := 200 }.setContent lib (successBody (demoReport timestamp)) "application/json"
  else { res with status := 503 }.setContent lib connectionFailedBody "application/json"

section grows

variable {S : Type} (config : DatabaseConfig) (outcome : Nat → Except Exn Unit) (span : SpanId)

private theorem executeQueryAs_grows (queryTypeName sql : Str) (params : List Str) (o : Except Exn Unit) :
    (executeQueryAs (S := S) queryTypeName config (some span) sql params o).Grows AgentCall.event ()
      (fun n => .scope n ⟨some span, "SQL_" ++ queryTypeName, .mysqlQuery⟩
        (.calls ([.event (.setEndPoint n (config.host ++ ":" ++ config.port)),
          .event (.setDestination n config.database), .event (.setSqlQuery n sql params)] ++
            match o with
            | .ok () => []
            | .error e => [.event (.setError n (some "DB_ERROR") (errorText e))])) .nil) id := by
  have hinit (n : EventId) : (initSqlSpanEvent (S := S) config n).Grows AgentCall.event ()
      (fun _ => .calls [.event (.setEndPoint n (config.host ++ ":" ++ config.port)),
        .event (.setDestination n config.database)]) id :=
    .call_bind (.call _)
  cases o with
  | ok a =>
    have hsql (n : EventId) : (traceSqlExecution (S := S) n sql params true []).Grows AgentCall.event ()
        (fun _ => .calls [.event (.setSqlQuery n sql params)]) id := .call_bind (.pure ())
    exact Prog.Grows.congr (.scope fun n => (hinit n).bind (hsql n)) (fun _ => rfl) fun _ => rfl
  | error e =>
    have herror (n : EventId) : (traceSqlExecution (S := S) n sql params false (errorText e)).Grows AgentCall.event ()
        (fun _ => .calls [.event (.setSqlQuery n sql params),
          .event (.setError n (some "DB_ERROR") (errorText e))]) id := by
      unfold traceSqlExecution
      -- no exception has an empty text
      have hne : (!false && !(errorText e).isEmpty) = true := by
        cases e with
        | mysqlxError what => rfl
        | stdException what => rfl
      simp only [if_pos hne]
      exact .call_bind (.call _)
    exact Prog.Grows.congr (.scope fun n => (hinit n).bind (herror n)) (fun _ => rfl) fun _ => rfl

private theorem Statement.execute_grows (statement : Statement) (o : Except Exn Unit) :
    (statement.execute (S := S) config (some span) o).Grows AgentCall.event ()
      (statementTree config statement o span) id := by
  unfold Statement.execute statementTree Statement.typeName
  cases statement.dml with
  | none => exact executeQueryAs_grows config span _ _ _ o
  | some type => exact executeQueryAs_grows config span _ _ _ o

private theorem executeStatements_grows (k : Nat) (statements : List Statement) :
    (executeStatements (S := S) config (some span) outcome k statements).Grows AgentCall.event ()
      (statementTrees config outcome span k statements) id := by
  induction statements generalizing k with
  | nil => exact .pure ()
  | cons statement rest ih =>
    refine Prog.Grows.congr ((statement.execute_grows config span (outcome k)).bind (ih (k + 1))) (fun n => ?_)
      fun _ => rfl
    simp [statementTrees, statementTree, Forest.size]

private theorem size_statementTrees (k : Nat) (statements : List Statement) (n : EventId) :
    (statementTrees config outcome span k statements n).size = statements.length := by
  induction statements generalizing k n with
  | nil => rfl
  | cons statement rest ih =>
    have hsize : (statementTree config statement (outcome k) span n).size = 1 := by
      simp [statementTree, Forest.size]
    rw [statementTrees, Forest.size_append, ih, List.length_cons, hsize, Nat.add_comm]

private theorem statementTrees_append (k : Nat) (statements statements' : List Statement) (n : EventId) :
    statementTrees config outcome span k (statements ++ statements') n =
      statementTrees config outcome span k statements n ++
        statementTrees config outcome span (k + statements.length) statements' (n + statements.length) := by
  induction statements generalizing k n with
  | nil => rfl
  | cons statement rest ih =>
    rw [List.cons_append, statementTrees, ih, statementTrees, Forest.append_assoc, List.length_cons]
    rw [Nat.add_assoc, Nat.add_comm 1, Nat.add_assoc n, Nat.add_comm 1]

private theorem runOperations_grows (k : Nat) (operations : List DemoOperation) (r : DemoResult) :
    (runOperations (S := S) config (some span) outcome k operations r).Grows AgentCall.event
      (operations.foldl (fun r o => r.addOperation o.op o.status o.details) r)
      (statementTrees config outcome span k (operations.flatMap DemoOperation.statements)) id := by
  induction operations generalizing k r with
  | nil => exact .pure _
  | cons o rest ih =>
    have hstatements := (executeStatements_grows (S := S) config outcome span k o.statements).attempt
    refine Prog.Grows.congr (hstatements.bind (ih _ _)) (fun n => ?_) fun _ => rfl
    rw [List.flatMap_cons, statementTrees_append, size_statementTrees]

private theorem runDemoHandler_grows (timestamp : Int) :
    (runDemoHandler (S := S) config outcome timestamp (some span)).Grows AgentCall.event (demoReport timestamp)
      (fun n => .scope n ⟨some span, "runDemoHandler", .unspecified⟩
        (statementTrees config outcome span 0 demoStatements (n + 1)) .nil) id := by
  have hoperations := runOperations_grows (S := S) config outcome span 0 demoOperations
  refine Prog.Grows.congr (.scope fun _ => (hoperations _).bind (.pure _)) (fun n => ?_) fun s => ?_
  · simp [demoStatements]
  · rfl

private theorem handleDbDemo_grows (lib : HttplibHeaders) (session : Except Exn Unit) (timestamp : Int)
    (req : Request) :
    (handleDbDemo lib config session outcome timestamp req (some span)).Grows AgentCall.event ()
      (dbDemoTree config session outcome span) (dbDemoRespond lib session timestamp) := by
  have hrun := runDemoHandler_grows (S := Response) config outcome span timestamp
  unfold dbDemoTree dbDemoRespond
  cases hconnect : connect session with
  | true =>
    have hblock : (dbDemoBlock config session outcome timestamp (some span)).Grows AgentCall.event
        (200, successBody (demoReport timestamp))
        (fun n => .scope n ⟨some span, "runDemoHandler", .unspecified⟩
          (statementTrees config outcome span 0 demoStatements (n + 1)) .nil) id := by
      rw [dbDemoBlock, if_pos hconnect]
      exact Prog.Grows.congr (hrun.bind (.pure _)) (fun n => by simp) fun _ => rfl
    refine Prog.Grows.congr (.scope fun _ => hblock.attempt.bind (.modify _)) (fun n => ?_) fun _ => rfl
    simp
  | false =>
    have hblock : (dbDemoBlock config session outcome timestamp (some span)).Grows AgentCall.event
        (503, connectionFailedBody) (fun _ => .nil) id := by
      rw [dbDemoBlock, if_neg (by simp [hconnect])]
      exact .pure _
    refine Prog.Grows.congr (.scope fun _ => hblock.attempt.bind (.modify _)) (fun n => ?_) fun _ => rfl
    simp

end grows

/-- The event of `handle_db_status`. -/
def dbStatusTree (span : SpanId) (n : EventId) : EventForest :=
  .scope n ⟨some span, "handle_db_status", .unspecified⟩ .nil .nil

def dbStatusRespond (lib : HttplibHeaders) (timestamp : Int) (res : Response) : Response :=
  { res.setContent lib (dbStatusBody timestamp) "application/json" with status := 200 }

private theorem handleDbStatus_grows (lib : HttplibHeaders) (timestamp : Int) (req : Request) (span : SpanId) :
    (handleDbStatus lib timestamp req (some span)).Grows AgentCall.event () (dbStatusTree span)
      (dbStatusRespond lib timestamp) :=
  .scope fun _ => .modify _

/-- A request to one of the two endpoints, with the time; for `/db-demo` also what becomes of the connection and of
the statements. -/
inductive Served
  | dbDemo (req : Request) (session : Except Exn Unit) (outcome : Nat → Except Exn Unit) (timestamp : Int)
  | dbStatus (req : Request) (timestamp : Int)

def Served.handler (lib : HttplibHeaders) (config : DatabaseConfig) : Served → Handler
  | .dbDemo _ session outcome timestamp => handleDbDemo lib config session outcome timestamp
  | .dbStatus _ timestamp => handleDbStatus lib timestamp

def Served.req : Served → Request
  | .dbDemo req _ _ _ => req
  | .dbStatus req _ => req

def Served.traced (lib : HttplibHeaders) (config : DatabaseConfig) : Served → TracedRequest
  | .dbDemo req session outcome timestamp =>
    ⟨handleDbDemo lib config session outcome timestamp, req, dbDemoTree config session outcome,
      dbDemoRespond lib session timestamp,
      fun span => handleDbDemo_grows config outcome span lib session timestamp req⟩
  | .dbStatus req timestamp =>
    ⟨handleDbStatus lib timestamp, req, dbStatusTree, dbStatusRespond lib timestamp,
      handleDbStatus_grows lib timestamp req⟩

end Mysql

/-! ### cpptrace -/

namespace Cpptrace

/-- `handle_users` has an event of its own and nothing in it. -/
def usersTree (span : SpanId) (n : EventId) : EventForest :=
  .scope n ⟨some span, "handle_users", .unspecified⟩ .nil .nil

/-- The event of the outgoing call: the request, the context, and the response if there is one. -/
def callTree (lib : HttplibHeaders) (host targetUrl : Str) (response : Option Response) (span : SpanId)
    (n : EventId) : EventForest :=
  .scope n ⟨some span, "httplib::Client.Get", .unspecified⟩
    (.calls ([.event (.traceHttpClientRequest n host targetUrl (outgoingHeaders lib)), .event (.injectContext n)] ++
      match response with
      | some r => [.event (.traceHttpClientResponse n r.status r.headers)]
      | none => [])) .nil

def requestHost (req : Request) : Str := req.paramOr "host" "localhost:9000"

def requestPath (req : Request) : Str := req.paramOr "path" "/bar"

def targetUrl (req : Request) : Str := "http://" ++ requestHost req ++ requestPath req

/-- What the client answers to a request for `/outgoing`. -/
def callResult (lib : HttplibHeaders) (client : HttplibClient) (context : List (Str × Str)) (req : Request) :
    HttplibResult :=
  client.get (requestHost req) (requestPath req) (HttpHeaderReaderWriter.setAll lib (outgoingHeaders lib) context)

/-- The error of a call that failed. -/
def outgoingErrors (req : Request) (n : EventId) : HttplibError → List AgentCall
  | .success => []
  | .failure errorMsg => [.event (.setError n (some "HandleOutgoingError")
      ("Outgoing call failed: " ++ errorMsg ++ " - Unable to connect to " ++ requestHost req))]

/-- The event of `handle_outgoing`: the outgoing call, and an error if it failed. -/
def outgoingTree (lib : HttplibHeaders) (client : HttplibClient) (context : List (Str × Str)) (req : Request)
    (span : SpanId) (n : EventId) : EventForest :=
  let result := callResult lib client context req
  .scope n ⟨some span, "handle_outgoing", .unspecified⟩
    (callTree lib (requestHost req) (targetUrl req) result.response span (n + 1) ++
      .calls (outgoingErrors req n result.error)) .nil

def usersRespond (lib : HttplibHeaders) (req : Request) (res : Response) : Response :=
  { res.setContent lib (usersBody (userId req) (req.paramOr "name" "unknown") req.remoteAddr) "application/json" with
    status := 200 }

def outgoingText (req : Request) (result : HttplibResult) : Str :=
  match result.response with
  | some r => outgoingBody (targetUrl req) r.status r.body
  | none => outgoingBody (targetUrl req) 0 []

def outgoingRespond (lib : HttplibHeaders) (client : HttplibClient) (context : List (Str × Str)) (req : Request)
    (res : Response) : Response :=
  { res.setContent lib (outgoingText req (callResult lib client context req)) "application/json" with status := 200 }

private theorem handleUsers_grows (lib : HttplibHeaders) (req : Request) (span : SpanId) :
    (handleUsers lib req (some span)).Grows AgentCall.event () (usersTree span) (usersRespond lib req) :=
  .scope fun _ => .modify _

private theorem callOutgoing_grows (lib : HttplibHeaders) (client : HttplibClient) (context : List (Str × Str))
    (span : SpanId) {req : Request} (h : client.construct (requestHost req) = .ok ()) :
    (callOutgoing lib client context (some span) (requestHost req) (requestPath req) (targetUrl req)).Grows
      AgentCall.event (callResult lib client context req)
      (callTree lib (requestHost req) (targetUrl req) (callResult lib client context req).response span) id := by
  rcases hresult : callResult lib client context req with ⟨_ | r, error⟩
  · have hget : client.get (requestHost req) (requestPath req)
        (HttpHeaderReaderWriter.setAll lib (outgoingHeaders lib) context) = ⟨none, error⟩ := hresult
    simp only [callOutgoing, h, hget]
    exact Prog.Grows.congr (.scope fun n => .call_bind (.call_bind (.bind (.pure ()) (.pure _))))
      (fun _ => rfl) fun _ => rfl
  · have hget : client.get (requestHost req) (requestPath req)
        (HttpHeaderReaderWriter.setAll lib (outgoingHeaders lib) context) = ⟨some r, error⟩ := hresult
    simp only [callOutgoing, h, hget]
    exact Prog.Grows.congr (.scope fun n => .call_bind (.call_bind (.bind (.pure ()) (.call_bind (.pure _)))))
      (fun _ => rfl) fun _ => rfl

private theorem handleOutgoing_grows (lib : HttplibHeaders) (client : HttplibClient) (context : List (Str × Str))
    (span : SpanId) {req : Request} (h : client.construct (requestHost req) = .ok ()) :
    (handleOutgoing lib client context req (some span)).Grows AgentCall.event ()
      (outgoingTree lib client context req span) (outgoingRespond lib client context req) := by
  have hcall := callOutgoing_grows lib client context span h
  -- what is left to do after the call
  have hrest (n : EventId) (result : HttplibResult) :
      Prog.Grows (show Traced Response Unit from do
        match result.error with
        | .success => pure ()
        | .failure errorMsg =>
          .call (.setError n (some "HandleOutgoingError")
            ("Outgoing call failed: " ++ errorMsg ++ " - Unable to connect to " ++ requestHost req))
        .modify fun res => { res.setContent lib (outgoingText req result) "application/json" with status := 200 })
      AgentCall.event () (fun _ => .calls (outgoingErrors req n result.error))
      (fun res => { res.setContent lib (outgoingText req result) "application/json" with status := 200 }) := by
    cases result.error with
    | success => exact .modify _
    | failure errorMsg => exact .call_bind (.modify _)
  exact Prog.Grows.congr (.scope fun n => hcall.bind (hrest n _)) (fun _ => rfl) fun _ => rfl

/-- A request to one of the two endpoints.  The client of an outgoing call can be built for its host. -/
inductive Served
  | users (req : Request)
  | outgoing (req : Request) (client : HttplibClient) (context : List (Str × Str))
      (constructs : client.construct (requestHost req) = .ok ())

def Served.handler (lib : HttplibHeaders) : Served → Handler
  | .users _ => handleUsers lib
  | .outgoing _ client context _ => handleOutgoing lib client context

def Served.req : Served → Request
  | .users req => req
  | .outgoing req _ _ _ => req

def Served.traced (lib : HttplibHeaders) : Served → TracedRequest
  | .users req => ⟨handleUsers lib, req, usersTree, usersRespond lib req, handleUsers_grows lib req⟩
  | .outgoing req client context constructs =>
    ⟨handleOutgoing lib client context, req, outgoingTree lib client context req,
      outgoingRespond lib client context req, fun span => handleOutgoing_grows lib client context span constructs⟩

/-- An outgoing call is traced under the event of its own request, with the response it got. -/
theorem cpptrace_call_trees (lib : HttplibHeaders) (requests : List Served) :
    Records lib "C++ Cpptrace Demo" (requests.map fun r => ⟨r.handler lib, r.req, ⟨-1, [], []⟩⟩)
      (trees lib "C++ Cpptrace Demo" (requests.map (Served.traced lib)) 0 0) := by
  have h := records_trees lib "C++ Cpptrace Demo" (requests.map (Served.traced lib))
  have hjob (r : Served) : (r.traced lib).job = ⟨r.handler lib, r.req, ⟨-1, [], []⟩⟩ := by
    cases r with
    | users req => rfl
    | outgoing req client context constructs => rfl
  rw [List.map_map] at h
  simpa only [Function.comp_def, hjob] using h

end Cpptrace

end PinpointExamples
