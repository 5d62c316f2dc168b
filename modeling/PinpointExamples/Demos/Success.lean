import Mathlib
import PinpointExamples.Demos.CurlWeb
import PinpointExamples.Demos.Mongo
import PinpointExamples.Demos.Redis

/-!
# What a reported success says

An endpoint of a demo is honest if it reports success only when the work was done, and otherwise answers with its
failure status and records an error.  The three endpoints look at less than that: the MongoDB demo at the
construction of the client, the Redis demo at the connection, the libcurl demo at a transfer if there was one.  Each
is honest exactly when what it does not look at went well (`demos_honest_iff`).
-/

namespace PinpointExamples

open Scoped

/-- The report of an endpoint whose work was `done` or not. -/
structure HonestReport (done reportsSuccess failureStatus errorRecorded : Prop) : Prop where
  success : reportsSuccess → done
  failure : ¬ done → failureStatus ∧ errorRecorded

/-- An error is recorded on the span event that the handler opened first in the request. -/
def ErrorOnHandlerEvent (t : WorkerThread) (log : AgentLog) : Prop :=
  .opened t.nextEvent (runDemoLabel (some t.nextSpan)) ∈ log ∧
  ∃ message, Entry.call (AgentCall.event (.setError t.nextEvent none message)) ∈ log

/-! ### The `/run_demo` endpoints -/

section runDemo

variable (lib : HttplibHeaders) (operation successBody : Str) (done : Prop) (req : Request) (res : Response)
  (t : WorkerThread)

/-- The answer to a request for a `/run_demo` handler is honest. -/
def RunDemoHonest (handler : Handler) : Prop :=
  let r := answer lib operation t ⟨handler, req, res⟩
  HonestReport done (r.1.status = 200 ∧ r.1.body = successBody) (r.1.status = 503) (ErrorOnHandlerEvent t r.2.log)

variable {demo : SpanPtr → Traced Response (Bool × Str)} {t}

/-- A demo that answers success is honest if the work was done. -/
theorem runDemoHonest_of_success {error : Str}
    (h : (demo (some t.nextSpan)).Yields AgentCall.event (true, error)) :
    RunDemoHonest lib operation successBody done req res t (handleRunDemoAs lib demo successBody) ↔ done := by
  have hanswer := answer_of_success lib successBody req operation res h
  constructor
  · intro hr
    refine hr.success ?_
    rw [hanswer]
    exact ⟨rfl, rfl⟩
  · intro hdone
    exact ⟨fun _ => hdone, fun hn => absurd hdone hn⟩

/-- A demo that answers failure is honest. -/
theorem runDemoHonest_of_failure {error : Str}
    (h : (demo (some t.nextSpan)).Yields AgentCall.event (false, error)) :
    RunDemoHonest lib operation successBody done req res t (handleRunDemoAs lib demo successBody) := by
  obtain ⟨hanswer, hopened, herror⟩ := answer_of_failure lib successBody req operation res h
  constructor
  · intro hs
    rw [hanswer] at hs
    have h503 : (503 : Int) = 200 := hs.1
    omega
  · intro _
    refine ⟨?_, hopened, error, herror⟩
    rw [hanswer]
    rfl

end runDemo

private theorem mongo_honest_iff (lib : HttplibHeaders) (uri : Str) (o : Mongo.MongoOutcomes) (req : Request)
    (res : Response) (t : WorkerThread) :
    RunDemoHonest lib "MongoDBDemo" (Mongo.successBody uri) (o.Connected ∧ o.OperationsOk) req res t
      (Mongo.handleRunDemo lib uri o) ↔ (o.Connected → o.OperationsOk) := by
  have hyields := Mongo.runMongoDemo_yields (S := Response) o (some t.nextSpan)
  by_cases hc : o.Connected
  · rw [Mongo.MongoOutcomes.result_of_connected hc] at hyields
    have h := runDemoHonest_of_success lib "MongoDBDemo" (Mongo.successBody uri) (o.Connected ∧ o.OperationsOk) req
      res hyields
    exact h.trans ⟨fun h _ => h.2, fun h => ⟨hc, h hc⟩⟩
  · obtain ⟨error, herror⟩ := Mongo.MongoOutcomes.result_of_not_connected hc
    rw [herror] at hyields
    exact ⟨fun _ h => absurd h hc, fun _ => runDemoHonest_of_failure lib _ _ _ req res hyields⟩

private theorem redis_honest_iff (lib : HttplibHeaders) (endpoint : Str) (o : Redis.RedisOutcomes) (req : Request)
    (res : Response) (t : WorkerThread) :
    RunDemoHonest lib "RedisDemo" (Redis.successBody endpoint) (o.connection = .connected ∧ o.RepliesGood) req res t
      (Redis.handleRunDemo lib endpoint o) ↔ (o.connection = .connected → o.RepliesGood) := by
  have hyields := Redis.runRedisDemo_yields (S := Response) endpoint o (some t.nextSpan)
  by_cases hc : o.connection = .connected
  · rw [hc] at hyields
    have h := runDemoHonest_of_success lib "RedisDemo" (Redis.successBody endpoint)
      (o.connection = .connected ∧ o.RepliesGood) req res hyields
    exact h.trans ⟨fun h _ => h.2, fun h => ⟨hc, h hc⟩⟩
  · obtain ⟨error, herror⟩ := Redis.Connection.result_of_ne hc
    rw [herror] at hyields
    exact ⟨fun _ h => absurd h hc, fun _ => runDemoHonest_of_failure lib _ _ _ req res hyields⟩

/-! ### The libcurl endpoint -/

namespace CurlWeb

/-- The transfer was performed and ended with `CURLE_OK`. -/
def CurlOutcomes.Done (o : CurlOutcomes) : Prop := o.easyInit = true ∧ o.perform = .ok

/-- The answer of `/run_request` is honest; the error goes to the span of the request. -/
def RunRequestHonest (lib : HttplibHeaders) (gTargetUrl : Str) (context : List (Str × Str)) (o : CurlOutcomes)
    (req : Request) (res : Response) (t : WorkerThread) : Prop :=
  let r := (handleRunRequest lib gTargetUrl context o req res t).2
  HonestReport o.Done (r.1.status = 200) (r.1.status = 500)
    (∃ message, Entry.call (AgentCall.event (.spanSetError (some t.nextSpan) message)) ∈ r.2.log)

/-- What `perform_curl_request` answers: without a handle, that the request succeeded. -/
theorem performCurlRequest_answer (context : List (Str × Str)) (o : CurlOutcomes) (url : Str) (span : SpanPtr)
    (t : WorkerThread) (out : Str) :
    (t.runTraced (performCurlRequest context o url span) out).1 = .ok (!o.easyInit || o.perform = .ok) := by
  rcases o with ⟨_ | _, appends, written, _ | strerror, responseCode⟩ <;> rfl

/-- How `handle_run_request` goes on after `perform_curl_request`. -/
def afterTransfer (lib : HttplibHeaders) (span : SpanId) (req : Request) (res : Response) :
    Except Exn Bool × Str × WorkerThread → Except Exn Unit × Response × WorkerThread
  | (.error e, _, t) => (.error e, res, t)
  | (.ok success, responseBody, t) => (.ok (), reportRunRequest lib success responseBody span req res t)

/-- The request is answered with what `perform_curl_request` answered. -/
theorem handleRunRequest_answer (lib : HttplibHeaders) (gTargetUrl : Str) (context : List (Str × Str))
    (o : CurlOutcomes) (req : Request) (res : Response) (t : WorkerThread) :
    ∃ responseBody t', (handleRunRequest lib gTargetUrl context o req res t).2 =
      reportRunRequest lib (!o.easyInit || o.perform = .ok) responseBody t.nextSpan req res t' := by
  let start := (t.newSpan "CurlWebExample" "/run_request" req.headers).2.record (.traceHttpServerRequest t.nextSpan
    req.remoteAddr (lib.getHeaderValue req.headers "Host") req.headers)
  let target := if req.hasParam "url" then req.getParamValue "url" else gTargetUrl
  have hanswer := performCurlRequest_answer context o target (some t.nextSpan) start []
  have hhandle : handleRunRequest lib gTargetUrl context o req res t =
      afterTransfer lib t.nextSpan req res
        (start.runTraced (performCurlRequest context o target (some t.nextSpan)) []) := rfl
  rw [hhandle]
  rcases hr : start.runTraced (performCurlRequest context o target (some t.nextSpan)) [] with ⟨r, responseBody, t'⟩
  rw [hr] at hanswer
  obtain rfl : r = .ok (!o.easyInit || o.perform = .ok) := hanswer
  exact ⟨responseBody, t', rfl⟩

private theorem curl_honest_iff (lib : HttplibHeaders) (gTargetUrl : Str) (context : List (Str × Str))
    (o : CurlOutcomes) (req : Request) (res : Response) (t : WorkerThread) :
    RunRequestHonest lib gTargetUrl context o req res t ↔ o.easyInit = true := by
  obtain ⟨responseBody, t', hr⟩ := handleRunRequest_answer lib gTargetUrl context o req res t
  unfold RunRequestHonest
  rw [hr]
  cases hi : o.easyInit with
  | false =>
    -- the answer is 200, but there was no transfer
    constructor
    · intro h
      have hdone : o.Done := h.success rfl
      exact hi.symm.trans hdone.1
    · intro h
      cases h
  | true =>
    refine ⟨fun _ => rfl, ?_⟩
    intro _
    cases hp : o.perform with
    | ok =>
      have hdone : o.Done := ⟨hi, hp⟩
      exact ⟨fun _ => hdone, fun hn => absurd hdone hn⟩
    | failed strerror =>
      constructor
      · intro hs
        have h500 : (500 : Int) = 200 := hs
        omega
      · intro _
        refine ⟨rfl, "cURL request failed", ?_⟩
        have hlog : Entry.call (AgentCall.event (.spanSetError (some t.nextSpan) "cURL request failed")) ∈
            (t'.record (.event (.spanSetError (some t.nextSpan) "cURL request failed"))).log :=
          List.mem_append_right _ (List.mem_singleton_self _)
        exact List.mem_append_left _ (List.mem_append_left _ hlog)

end CurlWeb

/-! ### All three -/

/-- The MongoDB endpoint is honest exactly when no client could be made or the four operations went well, the Redis
endpoint exactly when there was no connection or every reply was good, and the libcurl endpoint exactly when
`curl_easy_init` returned a handle. -/
theorem demos_honest_iff (lib : HttplibHeaders) (req : Request) (res : Response) (t : WorkerThread) :
    (∀ uri o, RunDemoHonest lib "MongoDBDemo" (Mongo.successBody uri) (o.Connected ∧ o.OperationsOk) req res t
      (Mongo.handleRunDemo lib uri o) ↔ (o.Connected → o.OperationsOk)) ∧
    (∀ endpoint o, RunDemoHonest lib "RedisDemo" (Redis.successBody endpoint)
      (o.connection = .connected ∧ o.RepliesGood) req res t (Redis.handleRunDemo lib endpoint o) ↔
        (o.connection = .connected → o.RepliesGood)) ∧
    (∀ gTargetUrl context o, CurlWeb.RunRequestHonest lib gTargetUrl context o req res t ↔ o.easyInit = true) :=
  ⟨fun uri o => mongo_honest_iff lib uri o req res t, fun endpoint o => redis_honest_iff lib endpoint o req res t,
    fun gTargetUrl context o => CurlWeb.curl_honest_iff lib gTargetUrl context o req res t⟩

/-- The server is down: the client is made, since the driver connects later, and every operation throws. -/
def serverDown : Mongo.MongoOutcomes where
  uri := .ok ()
  client := .ok ()
  insert := .error (.stdException "No suitable servers found")
  find := .error (.stdException "No suitable servers found")
  update := .error (.stdException "No suitable servers found")
  delete := .error (.stdException "No suitable servers found")

/-- `GET /run_demo`. -/
def runDemoRequest : Request where
  method := "GET"
  path := "/run_demo"
  matchedRoute := "/run_demo"
  remoteAddr := "10.0.0.1"
  localAddr := "10.0.0.2"
  localPort := 8092
  headers := []
  params := []
  captures := []

/-- With the server down the MongoDB endpoint reports success. -/
theorem mongo_reports_success_when_down :
    (answer .firstFound "MongoDBDemo" .fresh ⟨Mongo.handleRunDemo .firstFound "mongodb://localhost:27017" serverDown,
      runDemoRequest, ⟨-1, [], []⟩⟩).1.status = 200 ∧
    ¬ RunDemoHonest .firstFound "MongoDBDemo" (Mongo.successBody "mongodb://localhost:27017")
      (serverDown.Connected ∧ serverDown.OperationsOk) runDemoRequest ⟨-1, [], []⟩ .fresh
      (Mongo.handleRunDemo .firstFound "mongodb://localhost:27017" serverDown) := by
  refine ⟨rfl, ?_⟩
  intro h
  rw [mongo_honest_iff] at h
  have hinsert := (h ⟨rfl, rfl⟩).insert
  cases hinsert

end PinpointExamples
