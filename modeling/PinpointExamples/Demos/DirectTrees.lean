import Mathlib
import PinpointExamples.Demos.CurlWeb
import PinpointExamples.Demos.KafkaProducer
import PinpointExamples.Demos.Success
import PinpointExamples.Server.CallTrees

/-!
# The call trees of the demos without a wrapper

The libcurl demo and the Kafka producer open and end the span of a request in the handler itself.  What they record
of a request is again one tree, computed from the request and from what became of the transfer or of the message, and
so is the answer.  A worker thread that serves any requests in any order has these trees and no others.
-/

namespace PinpointExamples

open Scoped Transition

/-! ### Handlers that open their span themselves -/

/-- A request whose handler returns, whatever was recorded before: with this response, and with this tree under the
next free span. -/
structure DirectRequest where
  handle : WorkerThread → Except Exn Unit × Response × WorkerThread
  response : Response
  inner : SpanId → EventId → EventForest
  tree : SpanId → EventId → EventForest
  handles : ∀ t, handle t = (.ok (), response,
    { t with
      log := t.log ++ (tree t.nextSpan t.nextEvent).entries
      nextEvent := t.nextEvent + (inner t.nextSpan t.nextEvent).size
      nextSpan := t.nextSpan + 1 })

/-- What the server answered so far, and the thread. -/
structure DirectThread where
  answers : List Response
  thread : WorkerThread

/-- The server answers a request on the thread; it catches what leaves the handler. -/
def serveDirect (s : DirectThread) (handle : WorkerThread → Except Exn Unit × Response × WorkerThread) :
    Option DirectThread :=
  match handle s.thread with
  | (.error _, res, t) => some ⟨s.answers ++ [{ res with status := 500 }], t⟩
  | (.ok (), res, t) => some ⟨s.answers ++ [res], t⟩

/-- The trees of several requests, one after the other. -/
def directTrees : List DirectRequest → SpanId → EventId → EventForest
  | [], _, _ => .nil
  | r :: rs, span, event => r.tree span event ++ directTrees rs (span + 1) (event + (r.inner span event).size)

private theorem exec_serveDirect (requests : List DirectRequest) (s : DirectThread) :
    ∃ s', exec serveDirect s (requests.map DirectRequest.handle) = some s' ∧
      s'.answers = s.answers ++ requests.map DirectRequest.response ∧
      s'.thread.log = s.thread.log ++ (directTrees requests s.thread.nextSpan s.thread.nextEvent).entries ∧
      s'.thread.nextSpan = s.thread.nextSpan + requests.length ∧ s'.thread.currentSpan = s.thread.currentSpan := by
  induction requests generalizing s with
  | nil => exact ⟨s, rfl, by simp, by simp [directTrees, Forest.entries], rfl, rfl⟩
  | cons r rs ih =>
    have hstep : serveDirect s r.handle = some ⟨s.answers ++ [r.response],
        { s.thread with
          log := s.thread.log ++ (r.tree s.thread.nextSpan s.thread.nextEvent).entries
          nextEvent := s.thread.nextEvent + (r.inner s.thread.nextSpan s.thread.nextEvent).size
          nextSpan := s.thread.nextSpan + 1 }⟩ := by
      simp only [serveDirect, r.handles]
    obtain ⟨s', hexec, hanswers, hlog, hspan, hcurrent⟩ := ih _
    refine ⟨s', exec_cons_eq_some.2 ⟨_, hstep, hexec⟩, ?_, ?_, ?_, hcurrent⟩
    · rw [hanswers]
      simp
    · rw [hlog]
      simp [directTrees]
    · rw [hspan, List.length_cons]
      exact Nat.add_right_comm s.thread.nextSpan 1 rs.length

/-- The handlers make a worker thread that starts give these responses and record this forest; its log is read back in
no other way, and no span is left current. -/
def DirectRecords (handles : List (WorkerThread → Except Exn Unit × Response × WorkerThread))
    (responses : List Response) (forest : EventForest) : Prop :=
  ∃ s, exec serveDirect ⟨[], .fresh⟩ handles = some s ∧ s.answers = responses ∧ s.thread.log = forest.entries ∧
    (∀ g : EventForest, s.thread.log = g.entries → g = forest) ∧ s.thread.nextSpan = handles.length ∧
    s.thread.currentSpan = none

private theorem directRecords (requests : List DirectRequest) :
    DirectRecords (requests.map DirectRequest.handle) (requests.map DirectRequest.response)
      (directTrees requests 0 0) := by
  obtain ⟨s, hexec, hanswers, hlog, hspan, hcurrent⟩ := exec_serveDirect requests ⟨[], .fresh⟩
  have hentries : s.thread.log = (directTrees requests 0 0).entries := hlog
  refine ⟨s, hexec, hanswers, hentries, ?_, ?_, hcurrent⟩
  · intro g hg
    exact Forest.entries_injective (hg.symm.trans hentries)
  · rw [hspan, List.length_map]
    exact Nat.zero_add _

/-- The tree of a request: the span and the request, what is recorded in between, an error of the span, and the
response. -/
def directTree (lib : HttplibHeaders) (operation rpcPoint : Str) (req : Request) (response : Response)
    (error : Option Str) (inner : SpanId → EventId → EventForest) (span : SpanId) (event : EventId) : EventForest :=
  .calls [.newSpan span operation rpcPoint req.headers,
      .traceHttpServerRequest span req.remoteAddr (lib.getHeaderValue req.headers "Host") req.headers] ++
    (inner span event ++
      .calls ((match error with
        | none => []
        | some message => [.event (.spanSetError (some span) message)]) ++
        [.traceHttpServerResponse span req.matchedRoute req.method response.status response.headers, .endSpan span]))

/-- The thread when the span is open and the request is recorded. -/
def opened (lib : HttplibHeaders) (operation rpcPoint : Str) (req : Request) (t : WorkerThread) : WorkerThread :=
  (t.newSpan operation rpcPoint req.headers).2.record
    (.traceHttpServerRequest t.nextSpan req.remoteAddr (lib.getHeaderValue req.headers "Host") req.headers)

/-- The end of a handler: an error of the span if there is one, the response, and the end of the span. -/
def closeSpan (req : Request) (response : Response) (error : Option Str) (span : SpanId) (t : WorkerThread) :
    WorkerThread :=
  let t := match error with
    | none => t
    | some message => t.record (.event (.spanSetError (some span) message))
  (t.record (.traceHttpServerResponse span req.matchedRoute req.method response.status response.headers)).record
    (.endSpan span)

/-- Between its two ends a handler records its tree. -/
theorem closeSpan_opened (lib : HttplibHeaders) (operation rpcPoint : Str) (req : Request) (response : Response)
    (error : Option Str) (inner : SpanId → EventId → EventForest) (t : WorkerThread) :
    closeSpan req response error t.nextSpan
        { opened lib operation rpcPoint req t with
          log := (opened lib operation rpcPoint req t).log ++ (inner t.nextSpan t.nextEvent).entries
          nextEvent := t.nextEvent + (inner t.nextSpan t.nextEvent).size } =
      { t with
        log := t.log ++
          (directTree lib operation rpcPoint req response error inner t.nextSpan t.nextEvent).entries
        nextEvent := t.nextEvent + (inner t.nextSpan t.nextEvent).size
        nextSpan := t.nextSpan + 1 } := by
  cases error with
  | none =>
    simp [closeSpan, opened, directTree, WorkerThread.newSpan, WorkerThread.record, Forest.calls, Forest.entries]
  | some message =>
    simp [closeSpan, opened, directTree, WorkerThread.newSpan, WorkerThread.record, Forest.calls, Forest.entries]

/-- The response object that the server makes for a request. -/
def newResponse : Response := ⟨-1, [], []⟩

/-! ### The libcurl demo -/

namespace CurlWeb

/-- The event of the transfer. -/
def transferTree (context : List (Str × Str)) (o : CurlOutcomes) (url : Str) (span : SpanId) (n : EventId) :
    EventForest :=
  .scope n ⟨some span, "execute_curl", .cppHttpClient⟩
    (if o.easyInit then
      .calls [.event (.injectContext n), .event (.traceHttpClientRequest n (extractHost url) url
          (CurlHeaderReader.pairs (SetCall.run [] (o.setCalls context)))),
        match o.perform with
        | .failed strerror => .event (.setError n none strerror)
        | .ok => .event (.traceHttpClientResponse n o.responseCode [])]
    else .nil) .nil

/-- What `perform_curl_request` returns. -/
def CurlOutcomes.success (o : CurlOutcomes) : Bool := !o.easyInit || o.perform = .ok

/-- What the transfer wrote to `out_response`. -/
def CurlOutcomes.received (o : CurlOutcomes) : Str := if o.easyInit then o.written.flatten else []

def targetOf (gTargetUrl : Str) (req : Request) : Str :=
  if req.hasParam "url" then req.getParamValue "url" else gTargetUrl

def transferResponse (lib : HttplibHeaders) (o : CurlOutcomes) : Response :=
  if o.success then
    { newResponse with status := 200 }.setContent lib
      ("cURL request successful\nResponse body preview: " ++ o.received.take 200) "text/plain"
  else { newResponse with status := 500 }.setContent lib "cURL request failed" "text/plain"

/-- The chunks of the body are put together in their order. -/
theorem foldl_writeCallback (chunks : List Str) (out : Str) :
    chunks.foldl (fun out contents => writeCallback contents out) out = out ++ chunks.flatten := by
  induction chunks generalizing out with
  | nil => simp
  | cons chunk chunks ih =>
    rw [List.foldl_cons, ih, writeCallback, List.flatten_cons, List.append_assoc]

private theorem performCurlRequest_grows (context : List (Str × Str)) (o : CurlOutcomes) (url : Str) (span : SpanId) :
    (performCurlRequest context o url (some span)).Grows AgentCall.event o.success (transferTree context o url span)
      (fun out => out ++ o.received) := by
  rcases o with ⟨easyInit, appends, written, perform, responseCode⟩
  cases easyInit with
  | false =>
    refine Prog.Grows.congr (.scope fun _ => .pure true) (fun _ => rfl) fun out => ?_
    simp [CurlOutcomes.received]
  | true =>
    cases perform with
    | ok =>
      refine Prog.Grows.congr (.scope fun n => .call_bind (.call_bind ((Prog.Grows.modify _).bind
        (.call_bind (.pure true))))) (fun _ => rfl) fun out => ?_
      exact foldl_writeCallback written out
    | failed strerror =>
      refine Prog.Grows.congr (.scope fun n => .call_bind (.call_bind ((Prog.Grows.modify _).bind
        (.call_bind (.pure false))))) (fun _ => rfl) fun out => ?_
      exact foldl_writeCallback written out

/-- A request to `/run_request`, with the context that is injected and what becomes of the transfer. -/
structure Transfer where
  req : Request
  context : List (Str × Str)
  outcomes : CurlOutcomes

def Transfer.tree (lib : HttplibHeaders) (gTargetUrl : Str) (r : Transfer) : SpanId → EventId → EventForest :=
  directTree lib "CurlWebExample" "/run_request" r.req (transferResponse lib r.outcomes)
    (if r.outcomes.success then none else some "cURL request failed")
    (transferTree r.context r.outcomes (targetOf gTargetUrl r.req))

private theorem handleRunRequest_tree (lib : HttplibHeaders) (gTargetUrl : Str) (r : Transfer) (t : WorkerThread) :
    handleRunRequest lib gTargetUrl r.context r.outcomes r.req newResponse t =
      (.ok (), transferResponse lib r.outcomes,
        { t with
          log := t.log ++ (r.tree lib gTargetUrl t.nextSpan t.nextEvent).entries
          nextEvent := t.nextEvent +
            (transferTree r.context r.outcomes (targetOf gTargetUrl r.req) t.nextSpan t.nextEvent).size
          nextSpan := t.nextSpan + 1 }) := by
  have hgrows := performCurlRequest_grows r.context r.outcomes (targetOf gTargetUrl r.req) t.nextSpan
  have hhandle : handleRunRequest lib gTargetUrl r.context r.outcomes r.req newResponse t =
      afterTransfer lib t.nextSpan r.req newResponse
        ((opened lib "CurlWebExample" "/run_request" r.req t).runTraced
          (performCurlRequest r.context r.outcomes (targetOf gTargetUrl r.req) (some t.nextSpan)) []) := rfl
  have hclose := closeSpan_opened lib "CurlWebExample" "/run_request" r.req (transferResponse lib r.outcomes)
    (if r.outcomes.success then none else some "cURL request failed")
    (transferTree r.context r.outcomes (targetOf gTargetUrl r.req)) t
  rw [hhandle, runTraced_of_grows hgrows, Transfer.tree, ← hclose]
  cases hsuccess : r.outcomes.success with
  | false =>
    simp [afterTransfer, reportRunRequest, transferResponse, hsuccess, closeSpan, opened, WorkerThread.newSpan]
  | true =>
    simp [afterTransfer, reportRunRequest, transferResponse, hsuccess, closeSpan, opened, WorkerThread.newSpan]

/-- What a served request comes to. -/
def Transfer.direct (lib : HttplibHeaders) (gTargetUrl : Str) (r : Transfer) : DirectRequest where
  handle := handleRunRequest lib gTargetUrl r.context r.outcomes r.req newResponse
  response := transferResponse lib r.outcomes
  inner := transferTree r.context r.outcomes (targetOf gTargetUrl r.req)
  tree := r.tree lib gTargetUrl
  handles := handleRunRequest_tree lib gTargetUrl r

/-- A transfer is traced under its own request, which is answered with what the transfer received. -/
theorem curl_call_trees (lib : HttplibHeaders) (gTargetUrl : Str) (requests : List Transfer) :
    DirectRecords
      (requests.map fun r => handleRunRequest lib gTargetUrl r.context r.outcomes r.req newResponse)
      (requests.map fun r => transferResponse lib r.outcomes)
      (directTrees (requests.map (Transfer.direct lib gTargetUrl)) 0 0) := by
  have h := directRecords (requests.map (Transfer.direct lib gTargetUrl))
  rw [List.map_map, List.map_map] at h
  exact h

end CurlWeb

/-! ### The Kafka producer -/

namespace KafkaProducer

/-- The event of the message, if there is a producer. -/
def produceTree (gBrokers gTopicStr : Str) (o : ProducerOutcomes) (span : SpanId) (n : EventId) : EventForest :=
  if o.producer then
    .scope n ⟨some span, "KafkaProduce", .kafka⟩
      (.calls ([.event (.setEndPoint n gBrokers), .event (.setDestination n gTopicStr), .event (.injectContext n)] ++
        match o.produce with
        | some error => [.event (.setError n none error)]
        | none => [])) .nil
  else .nil

/-- What `produce_message` returns. -/
def ProducerOutcomes.success (o : ProducerOutcomes) : Bool := o.producer && o.produce.isNone

/-- A request to `/run_producer`, with the time of its default message and what becomes of the message. -/
structure Production where
  req : Request
  now : Int
  outcomes : ProducerOutcomes

def Production.payload (r : Production) : Str :=
  if r.req.hasParam "message" then r.req.getParamValue "message"
  else "Message from web producer " ++ (toString r.now).toList

/-- The payloads that are handed to the producer. -/
def Production.sent (r : Production) : List Str := if r.outcomes.producer then [r.payload] else []

def Production.response (lib : HttplibHeaders) (r : Production) : Response :=
  if r.outcomes.success then
    { newResponse with status := 200 }.setContent lib ("Message sent to Kafka: " ++ r.payload) "text/plain"
  else { newResponse with status := 500 }.setContent lib "Failed to send message to Kafka" "text/plain"

def Production.tree (lib : HttplibHeaders) (gBrokers gTopicStr : Str) (r : Production) :
    SpanId → EventId → EventForest :=
  directTree lib "KafkaWebProducer" "/run_producer" r.req (r.response lib)
    (if r.outcomes.success then none else some "Kafka production failed")
    (produceTree gBrokers gTopicStr r.outcomes)

private theorem produceMessage_grows (gBrokers gTopicStr : Str) (r : Production) (span : SpanId) :
    (produceMessage gBrokers gTopicStr r.outcomes r.payload (some span)).Grows AgentCall.event r.outcomes.success
      (produceTree gBrokers gTopicStr r.outcomes span) (fun sent => sent ++ r.sent) := by
  unfold produceMessage produceTree Production.sent ProducerOutcomes.success
  by_cases hproducer : r.outcomes.producer = true
  · rw [if_pos hproducer, if_pos hproducer, hproducer]
    cases hproduce : r.outcomes.produce with
    | none =>
      exact Prog.Grows.congr (.scope fun n => .call_bind (.call_bind (.call_bind ((Prog.Grows.modify _).bind
        (.pure true))))) (fun _ => rfl) fun _ => rfl
    | some error =>
      exact Prog.Grows.congr (.scope fun n => .call_bind (.call_bind (.call_bind ((Prog.Grows.modify _).bind
        (.call_bind (.pure false)))))) (fun _ => rfl) fun _ => rfl
  · have hno : r.outcomes.producer = false := by simpa using hproducer
    rw [if_neg hproducer, if_neg hproducer, hno]
    exact Prog.Grows.congr (.pure false) (fun _ => rfl) fun sent => by simp

/-- How `handle_run_producer` goes on after `produce_message`. -/
def afterProduction (lib : HttplibHeaders) (r : Production) (span : SpanId) :
    Except Exn Bool × List Str × WorkerThread → Except Exn Unit × Response × WorkerThread
  | (.error e, _, t) => (.error e, newResponse, t)
  | (.ok success, _, t) => (.ok (), reportRunProducer lib success r.payload span r.req newResponse t)

private theorem handleRunProducer_tree (lib : HttplibHeaders) (gBrokers gTopicStr : Str) (r : Production)
    (t : WorkerThread) :
    handleRunProducer lib gBrokers gTopicStr r.now r.outcomes r.req newResponse t =
      (.ok (), r.response lib,
        { t with
          log := t.log ++ (r.tree lib gBrokers gTopicStr t.nextSpan t.nextEvent).entries
          nextEvent := t.nextEvent + (produceTree gBrokers gTopicStr r.outcomes t.nextSpan t.nextEvent).size
          nextSpan := t.nextSpan + 1 }) := by
  have hgrows := produceMessage_grows gBrokers gTopicStr r t.nextSpan
  have hhandle : handleRunProducer lib gBrokers gTopicStr r.now r.outcomes r.req newResponse t =
      afterProduction lib r t.nextSpan ((opened lib "KafkaWebProducer" "/run_producer" r.req t).runTraced
        (produceMessage gBrokers gTopicStr r.outcomes r.payload (some t.nextSpan)) []) := rfl
  have hclose := closeSpan_opened lib "KafkaWebProducer" "/run_producer" r.req (r.response lib)
    (if r.outcomes.success then none else some "Kafka production failed")
    (produceTree gBrokers gTopicStr r.outcomes) t
  rw [hhandle, runTraced_of_grows hgrows, Production.tree, ← hclose]
  cases hsuccess : r.outcomes.success with
  | false =>
    simp [afterProduction, reportRunProducer, Production.response, hsuccess, closeSpan, opened, WorkerThread.newSpan]
  | true =>
    simp [afterProduction, reportRunProducer, Production.response, hsuccess, closeSpan, opened, WorkerThread.newSpan]

/-- What a served request comes to. -/
def Production.direct (lib : HttplibHeaders) (gBrokers gTopicStr : Str) (r : Production) : DirectRequest where
  handle := handleRunProducer lib gBrokers gTopicStr r.now r.outcomes r.req newResponse
  response := r.response lib
  inner := produceTree gBrokers gTopicStr r.outcomes
  tree := r.tree lib gBrokers gTopicStr
  handles := handleRunProducer_tree lib gBrokers gTopicStr r

/-- A message is traced under its own request, which is answered with what became of it. -/
theorem producer_call_trees (lib : HttplibHeaders) (gBrokers gTopicStr : Str) (requests : List Production) :
    DirectRecords
      (requests.map fun r => handleRunProducer lib gBrokers gTopicStr r.now r.outcomes r.req newResponse)
      (requests.map fun r => r.response lib)
      (directTrees (requests.map (Production.direct lib gBrokers gTopicStr)) 0 0) := by
  have h := directRecords (requests.map (Production.direct lib gBrokers gTopicStr))
  rw [List.map_map, List.map_map] at h
  exact h

end KafkaProducer

end PinpointExamples
