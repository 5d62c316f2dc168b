import Mathlib
import PinpointExamples.Demos.RunDemo

/-!
# The MongoDB demo

`handle_run_demo` runs four traced operations on a client made for the request.  What the driver does is a
parameter (`MongoOutcomes`): each of its calls returns or throws.
-/

namespace PinpointExamples.Mongo

open Scoped

def traceRequest (lib : HttplibHeaders) : Request → WorkerThread → SpanId × WorkerThread :=
  traceRequestAs lib "MongoDBDemo"

def wrapHandler (lib : HttplibHeaders) :
    Handler → Request → Response → WorkerThread → Except Exn Unit × Response × WorkerThread :=
  wrapHandlerAs lib "MongoDBDemo"

/-- The construction of the `mongocxx::uri` and of the client, and the four operations. -/
structure MongoOutcomes where
  uri : Except Exn Unit
  client : Except Exn Unit
  insert : Except Exn Unit
  find : Except Exn Unit
  update : Except Exn Unit
  delete : Except Exn Unit

def traceMongoOp {S : Type} (span : SpanPtr) (operationName collectionName queryDesc : Str)
    (func : Except Exn Unit) : Traced S Unit :=
  scopedSpanEvent span operationName .mongodbQuery fun se => do
    .call (.setEndPoint se "localhost:27017")
    .call (.setDestination se "mongodb-demo")
    let fullDesc := "Collection: " ++ collectionName ++ ", Query: " ++ queryDesc
    .call (.setSqlQuery se fullDesc [])
    -- the exception stays in here: only the event of the operation learns of it
    .tryCatch (orThrow func) fun e => .call (.setError se none e.what)

/-- The result, and the text left in `error`. -/
def runMongoDemo {S : Type} (o : MongoOutcomes) (span : SpanPtr) : Traced S (Bool × Str) :=
  .tryCatch
    (do
      orThrow o.uri
      orThrow o.client
      traceMongoOp span "Insert" "testcollection" "Insert \x7bname: 'MongoDB', type: 'database'\x7d" o.insert
      traceMongoOp span "Find" "testcollection" "Find \x7bname: 'MongoDB'\x7d" o.find
      traceMongoOp span "Update" "testcollection" "Update \x7bname: 'MongoDB'\x7d set \x7bi: 110\x7d" o.update
      traceMongoOp span "Delete" "testcollection" "Delete \x7bname: 'MongoDB'\x7d" o.delete
      pure (true, []))
    fun e => pure (false, e.what)

def successBody (uri : Str) : Str :=
  "\x7b\n" ++ "  \"success\": true,\n" ++ "  \"uri\": \"" ++ uri ++ "\",\n" ++
    "  \"operations\": [\"Insert\", \"Find\", \"Update\", \"Delete\"]\n" ++ "\x7d"

/-- `handle_run_demo`; `mongoUri` is `g_mongo_uri`. -/
def handleRunDemo (lib : HttplibHeaders) (mongoUri : Str) (o : MongoOutcomes) : Handler :=
  handleRunDemoAs lib (runMongoDemo o) (successBody mongoUri)

/-! ### What the demo answers -/

namespace MongoOutcomes

/-- The client was made. -/
def Connected (o : MongoOutcomes) : Prop := o.uri = .ok () ∧ o.client = .ok ()

/-- The four operations completed without an exception. -/
structure OperationsOk (o : MongoOutcomes) : Prop where
  insert : o.insert = .ok ()
  find : o.find = .ok ()
  update : o.update = .ok ()
  delete : o.delete = .ok ()

end MongoOutcomes

/-- A traced operation returns, whatever the driver does. -/
theorem traceMongoOp_yields {S : Type} (span : SpanPtr) (operationName collectionName queryDesc : Str)
    (func : Except Exn Unit) :
    (traceMongoOp (S := S) span operationName collectionName queryDesc func).Yields AgentCall.event () := by
  refine .scope fun se => .bind (.call _) (.bind (.call _) (.bind (.call _) ?_))
  cases func with
  | ok a => exact .tryCatch (.pure ())
  | error e => exact .tryCatch_throw (.call _)

/-- What the demo answers, and the text it leaves in `error`: only the construction of the client counts. -/
def MongoOutcomes.result (o : MongoOutcomes) : Bool × Str :=
  match o.uri, o.client with
  | .error e, _ => (false, e.what)
  | .ok (), .error e => (false, e.what)
  | .ok (), .ok () => (true, [])

theorem runMongoDemo_yields {S : Type} (o : MongoOutcomes) (span : SpanPtr) :
    (runMongoDemo (S := S) o span).Yields AgentCall.event o.result := by
  unfold MongoOutcomes.result runMongoDemo
  rcases o.uri with e | _
  · exact fun w => ⟨w, rfl, rfl, by simp⟩
  · rcases o.client with e | _
    · exact fun w => ⟨w, rfl, rfl, by simp⟩
    · have hop := fun name desc func => traceMongoOp_yields (S := S) span name "testcollection" desc func
      refine .tryCatch (.bind (.pure ()) (.bind (.pure ()) ?_))
      exact .bind (hop _ _ _) (.bind (hop _ _ _) (.bind (hop _ _ _) (.bind (hop _ _ _) (.pure _))))

theorem MongoOutcomes.result_of_connected {o : MongoOutcomes} (h : o.Connected) : o.result = (true, []) := by
  rw [MongoOutcomes.result, h.1, h.2]

theorem MongoOutcomes.result_of_not_connected {o : MongoOutcomes} (h : ¬ o.Connected) :
    ∃ error, o.result = (false, error) := by
  rw [MongoOutcomes.result]
  rcases huri : o.uri with e | _
  · exact ⟨e.what, rfl⟩
  · rcases hclient : o.client with e | _
    · exact ⟨e.what, rfl⟩
    · exact absurd ⟨huri, hclient⟩ h

end PinpointExamples.Mongo
