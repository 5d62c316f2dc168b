import Mathlib
import PinpointExamples.Demos.GrpcClient
import PinpointExamples.Lib.JsonObject
import PinpointExamples.Server.WrapHandler

/-!
# The gRPC client demo

A request for `/run_client` makes three RPCs on the one stub of the process.  The interceptor of an RPC finds the
span of the request in the thread-local `g_current_span`, opens an event under it and ends the event when the status
arrives; the helpers `CallUnary`, `CallServerStreaming` and `CallBidirectional` note a failure on the span.  The
worker threads of the HTTP server take their steps in any order.

The key fact is `Inv.step`: the current span of a thread is the span of the request it works for, and what the thread
has recorded is what its finished requests record and a beginning of that for the one it works for.
-/

namespace PinpointExamples.GrpcClient

open GrpcServer (Status ThreadId)
open History Transition

/-- What a request leaves behind in the agent. -/
inductive ClientRecord
  | agent (c : AgentCall)
  | opened (event : EventId) (label : EventLabel)
  | closed (event : EventId)
  | rpc (c : ClientCall)
  deriving DecidableEq, Repr

/-- The assertion of the interceptor, and a call on a null span. -/
inductive RunFault
  | assertion (f : ClientFault)
  | nullSpan
  deriving DecidableEq, Repr

/-- The locals of `wrap_handler`'s lambda and of `handle_run_client`: in the first `span`, in the second the span it
got, its event, and how the calls so far ended. -/
structure Handling where
  req : Request
  span : SpanId
  handlerSpan : SpanPtr
  event : EventId
  ok : List Bool

/-- Where a worker thread is. -/
inductive Phase
  | idle
  | traced (req : Request) (span : SpanId)
  | handling (h : Handling)
  | calling (h : Handling) (rpc : Interceptor)
  | handled (req : Request) (span : SpanId) (res : Response)

/-- The process: what its threads hold, the numbers the agent hands out, what was recorded and what was answered. -/
structure ClientProcess where
  current : ThreadId → SpanPtr
  phase : ThreadId → Phase
  nextSpan : SpanId
  nextEvent : EventId
  log : List (ThreadId × ClientRecord)
  answered : List (ThreadId × Request × Response)

/-- The methods that `handle_run_client` calls, in the order of the calls. -/
def methodPaths : List Str :=
  ["/grpcdemo.Hello/UnaryCallUnaryReturn", "/grpcdemo.Hello/UnaryCallStreamReturn",
    "/grpcdemo.Hello/StreamCallStreamReturn"]

/-! ### The code -/

def boolText (b : Bool) : Str := if b then "true" else "false"

/-- The `json_response` of `handle_run_client`. -/
def runClientBody (target : Str) (success unaryOk streamOk bidiOk : Bool) : Str :=
  "\x7b\n" ++ "  \"success\": " ++ boolText success ++ ",\n" ++ "  \"target\": \"" ++ target ++ "\",\n" ++
    "  \"calls\": \x7b\n" ++ "    \"unary\": " ++ boolText unaryOk ++ ",\n" ++
    "    \"server_streaming\": " ++ boolText streamOk ++ ",\n" ++
    "    \"bidirectional\": " ++ boolText bidiOk ++ "\n" ++ "  \x7d\n" ++ "\x7d"

/-- The response that `handle_run_client` leaves, for a response object that was just made. -/
def runClientResponse (lib : HttplibHeaders) (target : Str) (ok : List Bool) : Response :=
  let success := ok.all id
  { (⟨-1, [], []⟩ : Response).setContent lib
      (runClientBody target success (ok.getD 0 false) (ok.getD 1 false) (ok.getD 2 false)) "application/json" with
    status := if success then 200 else 502 }

/-- The end point that `trace_request` records. -/
def requestEndPoint (lib : HttplibHeaders) (req : Request) : Str :=
  let endPoint := lib.getHeaderValue req.headers "Host"
  if endPoint.isEmpty then req.localAddr ++ ":" ++ (toString req.localPort).toList else endPoint

namespace ClientProcess

def init : ClientProcess where
  current _ := none
  phase _ := .idle
  nextSpan := 0
  nextEvent := 0
  log := []
  answered := []

def record (p : ClientProcess) (t : ThreadId) (l : List ClientRecord) : ClientProcess :=
  { p with log := p.log ++ ofThread t l }

def enter (p : ClientProcess) (t : ThreadId) (phase : Phase) : ClientProcess :=
  { p with phase := Function.update p.phase t phase }

def setCurrentSpan (p : ClientProcess) (t : ThreadId) (span : SpanPtr) : ClientProcess :=
  { p with current := Function.update p.current t span }

def answer (p : ClientProcess) (t : ThreadId) (req : Request) (res : Response) : ClientProcess :=
  { p with answered := p.answered ++ ofThread t [(req, res)] }

/-- `trace_request`, and `SetCurrentSpan`. -/
def traceRequest (lib : HttplibHeaders) (p : ClientProcess) (t : ThreadId) (req : Request) : ClientProcess :=
  let span := p.nextSpan
  let p := { p with nextSpan := p.nextSpan + 1 }.record t
    [.agent (.newSpan span "gRPC Client Web" req.path req.headers),
      .agent (.traceHttpServerRequest span req.remoteAddr (requestEndPoint lib req) req.headers)]
  (p.setCurrentSpan t (some span)).enter t (.traced req span)

/-- `handle_run_client` up to its first call. -/
def enterHandler (p : ClientProcess) (t : ThreadId) (req : Request) (span : SpanId) : ClientProcess :=
  let handlerSpan := p.current t
  let event := p.nextEvent
  let p := { p with nextEvent := p.nextEvent + 1 }.record t
    [.opened event ⟨handlerSpan, "handle_run_client", .unspecified⟩]
  p.enter t (.handling ⟨req, span, handlerSpan, event, []⟩)

/-- The next RPC starts: its interceptor is made, and runs before the metadata is sent.  `allocated` tells whether
`NewSpanEvent` returns an event. -/
def preSend (target method : Str) (p : ClientProcess) (t : ThreadId) (h : Handling) (allocated : Bool) :
    Except RunFault ClientProcess :=
  let event := if allocated then some p.nextEvent else none
  match (createClientInterceptor target method true).intercept (p.current t) (some event) none with
  | .error f => .error (.assertion f)
  | .ok (rpc, calls) =>
    -- the number is used up only if there is an event
    let p := if allocated then { p with nextEvent := p.nextEvent + 1 } else p
    .ok ((p.record t (calls.map .rpc)).enter t (.calling h rpc))

/-- The status of the RPC arrives, at the interceptor and then at the helper that made the call. -/
def postRecv (p : ClientProcess) (t : ThreadId) (h : Handling) (rpc : Interceptor) (status : Status) :
    Except RunFault ClientProcess :=
  match rpc.intercept (p.current t) none (some (some status)) with
  | .error f => .error (.assertion f)
  | .ok (_, calls) =>
    let p := p.record t (calls.map .rpc)
    if status.ok then .ok (p.enter t (.handling { h with ok := h.ok ++ [true] }))
    else
      -- the helpers do not check the span that the handler gives them
      match h.handlerSpan with
      | none => .error .nullSpan
      | some span =>
        .ok ((p.record t [.agent (.event (.spanSetError (some span) status.message))]).enter t
          (.handling { h with ok := h.ok ++ [false] }))

/-- The end of `handle_run_client`. -/
def leaveHandler (lib : HttplibHeaders) (target : Str) (p : ClientProcess) (t : ThreadId) (h : Handling) :
    ClientProcess :=
  -- `spanEvent->SetError` comes after the body is written, and before the event ends
  let error : List ClientRecord :=
    if h.ok.all id then [] else [.agent (.event (.setError h.event none "one or more gRPC calls failed"))]
  (p.record t (error ++ [.closed h.event])).enter t (.handled h.req h.span (runClientResponse lib target h.ok))

/-- `trace_response`, `ClearCurrentSpan`, and the answer of the server. -/
def traceResponse (p : ClientProcess) (t : ThreadId) (req : Request) (span : SpanId) (res : Response) :
    ClientProcess :=
  let p := p.record t
    [.agent (.traceHttpServerResponse span req.matchedRoute req.method res.status res.headers),
      .agent (.endSpan span)]
  ((p.setCurrentSpan t none).enter t .idle).answer t req res

end ClientProcess

/-! ### The system -/

inductive ClientAction
  | traceRequest (t : ThreadId) (req : Request)
  | enterHandler (t : ThreadId)
  | preSend (t : ThreadId) (allocated : Bool)
  | postRecv (t : ThreadId) (status : Status)
  | leaveHandler (t : ThreadId)
  | traceResponse (t : ThreadId)
  deriving DecidableEq, Repr

open ClientProcess in
/-- A step of a thread, if it is at the place for it; a fault ends the process. -/
def step (lib : HttplibHeaders) (target : Str) :
    Except RunFault ClientProcess → ClientAction → Option (Except RunFault ClientProcess)
  | .error _, _ => none
  | .ok p, .traceRequest t req =>
    match p.phase t with
    | .idle => some (.ok (p.traceRequest lib t req))
    | _ => none
  | .ok p, .enterHandler t =>
    match p.phase t with
    | .traced req span => some (.ok (p.enterHandler t req span))
    | _ => none
  | .ok p, .preSend t allocated =>
    match p.phase t with
    | .handling h => methodPaths[h.ok.length]?.map fun method => p.preSend target method t h allocated
    | _ => none
  | .ok p, .postRecv t status =>
    match p.phase t with
    | .calling h rpc => some (p.postRecv t h rpc status)
    | _ => none
  | .ok p, .leaveHandler t =>
    match p.phase t with
    | .handling h => if h.ok.length = methodPaths.length then some (.ok (p.leaveHandler lib target t h)) else none
    | _ => none
  | .ok p, .traceResponse t =>
    match p.phase t with
    | .handled req span res => some (.ok (p.traceResponse t req span res))
    | _ => none

/-- What a step does. -/
theorem step_cases {lib : HttplibHeaders} {target : Str} {p : ClientProcess} {a : ClientAction}
    {result : Except RunFault ClientProcess} (h : step lib target (.ok p) a = some result) :
    (∃ t req, a = .traceRequest t req ∧ p.phase t = .idle ∧ result = .ok (p.traceRequest lib t req)) ∨
    (∃ t req span, a = .enterHandler t ∧ p.phase t = .traced req span ∧
      result = .ok (p.enterHandler t req span)) ∨
    (∃ t allocated handling method, a = .preSend t allocated ∧ p.phase t = .handling handling ∧
      methodPaths[handling.ok.length]? = some method ∧ result = p.preSend target method t handling allocated) ∨
    (∃ t status handling rpc, a = .postRecv t status ∧ p.phase t = .calling handling rpc ∧
      result = p.postRecv t handling rpc status) ∨
    (∃ t handling, a = .leaveHandler t ∧ p.phase t = .handling handling ∧
      handling.ok.length = methodPaths.length ∧ result = .ok (p.leaveHandler lib target t handling)) ∨
    ∃ t req span res, a = .traceResponse t ∧ p.phase t = .handled req span res ∧
      result = .ok (p.traceResponse t req span res) := by
  cases a with
  | traceRequest t req =>
    simp only [step] at h
    split at h
    · rename_i hphase
      exact .inl ⟨t, req, rfl, hphase, (Option.some.inj h).symm⟩
    · cases h
  | enterHandler t =>
    simp only [step] at h
    split at h
    · rename_i req span hphase
      exact .inr (.inl ⟨t, req, span, rfl, hphase, (Option.some.inj h).symm⟩)
    · cases h
  | preSend t allocated =>
    simp only [step] at h
    split at h
    · rename_i handling hphase
      obtain ⟨method, hmethod, rfl⟩ := Option.map_eq_some_iff.1 h
      exact .inr (.inr (.inl ⟨t, allocated, handling, method, rfl, hphase, hmethod, rfl⟩))
    · cases h
  | postRecv t status =>
    simp only [step] at h
    split at h
    · rename_i handling rpc hphase
      exact .inr (.inr (.inr (.inl ⟨t, status, handling, rpc, rfl, hphase, (Option.some.inj h).symm⟩)))
    · cases h
  | leaveHandler t =>
    simp only [step] at h
    split at h
    · rename_i handling hphase
      rw [Option.ite_none_right_eq_some] at h
      obtain ⟨hdone, h⟩ := h
      exact .inr (.inr (.inr (.inr (.inl ⟨t, handling, rfl, hphase, hdone, (Option.some.inj h).symm⟩))))
    · cases h
  | traceResponse t =>
    simp only [step] at h
    split at h
    · rename_i req span res hphase
      exact .inr (.inr (.inr (.inr (.inr ⟨t, req, span, res, rfl, hphase, (Option.some.inj h).symm⟩))))
    · cases h

/-! ### What a request records -/

/-- An RPC that was made: the event it got, if any, and the status it ended with. -/
structure RpcMade where
  method : Str
  event : Option EventId
  status : Status

/-- A request that was served: its span, the event of its handler, and its RPCs. -/
structure Served where
  req : Request
  span : SpanId
  event : EventId
  rpcs : List RpcMade

/-- At the start of an RPC, an event under the span of the request. -/
def sendCalls (target : Str) (span : SpanId) (method : Str) : Option EventId → List ClientCall
  | none => [.newSpanEvent span none method]
  | some e =>
    [.newSpanEvent span (some e) method, .setServiceTypeGrpcClient e, .setDestination e (resolveGrpcTarget target),
      .setEndPoint e (resolveGrpcTarget target),
      .setAnnotationHttpUrl e ("grpc://" ++ resolveGrpcTarget target ++ method), .injectContext e]

/-- At its end the error, if there is one, and the end of the event. -/
def statusCalls (status : Status) : Option EventId → List ClientCall
  | none => []
  | some e => (if status.ok then [] else [.setError e "grpc error" status.message]) ++ [.endEvent e]

/-- The whole RPC; a failure is also noted on the span. -/
def RpcMade.records (target : Str) (span : SpanId) (rpc : RpcMade) : List ClientRecord :=
  (sendCalls target span rpc.method rpc.event).map .rpc ++ ((statusCalls rpc.status rpc.event).map .rpc ++
    if rpc.status.ok then [] else [.agent (.event (.spanSetError (some span) rpc.status.message))])

namespace Served

variable (lib : HttplibHeaders) (target : Str) (r : Served)

def ok : List Bool := r.rpcs.map fun rpc => rpc.status.ok

def response : Response := runClientResponse lib target r.ok

def requestRecords : List ClientRecord :=
  [.agent (.newSpan r.span "gRPC Client Web" r.req.path r.req.headers),
    .agent (.traceHttpServerRequest r.span r.req.remoteAddr (requestEndPoint lib r.req) r.req.headers)]

/-- Up to the last RPC so far. -/
def begun : List ClientRecord :=
  r.requestRecords lib ++ ([.opened r.event ⟨some r.span, "handle_run_client", .unspecified⟩] ++
    r.rpcs.flatMap (RpcMade.records target r.span))

/-- Up to the end of the handler. -/
def handled : List ClientRecord :=
  r.begun lib target ++
    ((if r.ok.all id then [] else [.agent (.event (.setError r.event none "one or more gRPC calls failed"))]) ++
      [.closed r.event])

def records : List ClientRecord :=
  r.handled lib target ++
    [.agent (.traceHttpServerResponse r.span r.req.matchedRoute r.req.method (r.response lib target).status
      (r.response lib target).headers), .agent (.endSpan r.span)]

/-- All three RPCs were made. -/
def Complete : Prop := r.rpcs.map RpcMade.method = methodPaths

end Served

/-! ### One thread -/

/-- What concerns one thread. -/
structure ThreadView where
  current : SpanPtr
  phase : Phase
  log : List ClientRecord
  answered : List (Request × Response)

def ClientProcess.view (p : ClientProcess) (t : ThreadId) : ThreadView :=
  ⟨p.current t, p.phase t, onThread t p.log, onThread t p.answered⟩

section view

variable (p : ClientProcess) {t t' : ThreadId}

private theorem record_record (l l' : List ClientRecord) : (p.record t l).record t l' = p.record t (l ++ l') := by
  simp [ClientProcess.record, ofThread]

private theorem view_record (l : List ClientRecord) :
    (p.record t l).view t = { p.view t with log := (p.view t).log ++ l } := by
  simp [ClientProcess.view, ClientProcess.record]

private theorem view_enter (phase : Phase) : (p.enter t phase).view t = { p.view t with phase } := by
  simp [ClientProcess.view, ClientProcess.enter]

private theorem view_setCurrentSpan (span : SpanPtr) :
    (p.setCurrentSpan t span).view t = { p.view t with current := span } := by
  simp [ClientProcess.view, ClientProcess.setCurrentSpan]

private theorem view_answer (req : Request) (res : Response) :
    (p.answer t req res).view t = { p.view t with answered := (p.view t).answered ++ [(req, res)] } := by
  simp [ClientProcess.view, ClientProcess.answer]

private theorem view_record_other (h : t ≠ t') (l : List ClientRecord) : (p.record t l).view t' = p.view t' := by
  simp [ClientProcess.view, ClientProcess.record, onThread_other h]

private theorem view_enter_other (h : t ≠ t') (phase : Phase) : (p.enter t phase).view t' = p.view t' := by
  simp [ClientProcess.view, ClientProcess.enter, Function.update_of_ne (Ne.symm h)]

private theorem view_setCurrentSpan_other (h : t ≠ t') (span : SpanPtr) :
    (p.setCurrentSpan t span).view t' = p.view t' := by
  simp [ClientProcess.view, ClientProcess.setCurrentSpan, Function.update_of_ne (Ne.symm h)]

private theorem view_answer_other (h : t ≠ t') (req : Request) (res : Response) :
    (p.answer t req res).view t' = p.view t' := by
  simp [ClientProcess.view, ClientProcess.answer, onThread_other h]

private theorem view_traceRequest_other {p : ClientProcess} {lib : HttplibHeaders} (h : t ≠ t') (req : Request) :
    (p.traceRequest lib t req).view t' = p.view t' := by
  rw [ClientProcess.traceRequest, view_enter_other _ h, view_setCurrentSpan_other _ h, view_record_other _ h]
  rfl

private theorem view_enterHandler_other {p : ClientProcess} (h : t ≠ t') (req : Request) (span : SpanId) :
    (p.enterHandler t req span).view t' = p.view t' := by
  rw [ClientProcess.enterHandler, view_enter_other _ h, view_record_other _ h]
  rfl

private theorem view_leaveHandler_other {p : ClientProcess} {lib : HttplibHeaders} {target : Str} (h : t ≠ t')
    (handling : Handling) : (p.leaveHandler lib target t handling).view t' = p.view t' := by
  rw [ClientProcess.leaveHandler, view_enter_other _ h, view_record_other _ h]

private theorem view_traceResponse_other {p : ClientProcess} (h : t ≠ t') (req : Request) (span : SpanId)
    (res : Response) :
    (p.traceResponse t req span res).view t' = p.view t' := by
  rw [ClientProcess.traceResponse, view_answer_other _ h, view_enter_other _ h, view_setCurrentSpan_other _ h,
    view_record_other _ h]

end view

/-- The locals of the handler are those of the request that is served. -/
structure Handling.Serves (h : Handling) (r : Served) : Prop where
  req : h.req = r.req
  span : h.span = r.span
  handlerSpan : h.handlerSpan = some r.span
  event : h.event = r.event
  ok : h.ok = r.ok
  methods : r.rpcs.map RpcMade.method = methodPaths.take h.ok.length

section progress

variable (lib : HttplibHeaders) (target : Str)

/-- What a thread has recorded of its present request when it is in this phase, under the current span. -/
def Progress (current : SpanPtr) (unfinished : List ClientRecord) : Phase → Prop
  | .idle => unfinished = [] ∧ current = none
  | .traced req span => unfinished = Served.requestRecords lib ⟨req, span, 0, []⟩ ∧ current = some span
  | .handling h => ∃ r, h.Serves r ∧ unfinished = r.begun lib target ∧ current = some r.span
  | .calling h rpc => ∃ r method event, h.Serves r ∧ methodPaths[h.ok.length]? = some method ∧
      rpc.spanEvent = event ∧ rpc.parentSpan = some r.span ∧
      unfinished = r.begun lib target ++ (sendCalls target r.span method event).map .rpc ∧ current = some r.span
  | .handled req span res => ∃ r : Served, r.Complete ∧ req = r.req ∧ span = r.span ∧ res = r.response lib target ∧
      unfinished = r.handled lib target ∧ current = some r.span

/-- The thread has recorded and answered the requests it served, and begun its present one. -/
structure ThreadView.Served (v : ThreadView) (served : List Served) (unfinished : List ClientRecord) : Prop where
  complete : ∀ r ∈ served, r.Complete
  answered : v.answered = served.map fun r => (r.req, r.response lib target)
  log : v.log = served.flatMap (GrpcClient.Served.records lib target) ++ unfinished
  progress : Progress lib target v.current unfinished v.phase

def ThreadView.Ok (v : ThreadView) : Prop := ∃ served unfinished, v.Served lib target served unfinished

end progress

section step

variable {lib : HttplibHeaders} {target : Str} {p : ClientProcess} {t : ThreadId}

/-- The thread goes on with the request it works for. -/
theorem ThreadView.Served.advance {v v' : ThreadView} {served : List GrpcClient.Served}
    {unfinished l : List ClientRecord} (h : v.Served lib target served unfinished)
    (hanswered : v'.answered = v.answered) (hlog : v'.log = v.log ++ l)
    (hprogress : Progress lib target v'.current (unfinished ++ l) v'.phase) : v'.Ok lib target := by
  refine ⟨served, unfinished ++ l, h.complete, ?_, ?_, hprogress⟩
  · rw [hanswered, h.answered]
  · rw [hlog, h.log, List.append_assoc]

/-- What the invariant says of a thread in this phase. -/
theorem ThreadView.Ok.at_phase (h : (p.view t).Ok lib target) {phase : Phase} (hphase : p.phase t = phase) :
    ∃ served unfinished, (p.view t).Served lib target served unfinished ∧
      Progress lib target (p.current t) unfinished phase := by
  obtain ⟨served, unfinished, hserved⟩ := h
  have hprogress := hserved.progress
  rw [show (p.view t).phase = phase from hphase] at hprogress
  exact ⟨served, unfinished, hserved, hprogress⟩

private theorem ok_traceRequest (hok : (p.view t).Ok lib target) (hphase : p.phase t = .idle) (req : Request) :
    ((p.traceRequest lib t req).view t).Ok lib target := by
  obtain ⟨served, unfinished, hserved, rfl, -⟩ := hok.at_phase hphase
  have hview : (p.traceRequest lib t req).view t =
      ⟨some p.nextSpan, .traced req p.nextSpan,
        (p.view t).log ++ Served.requestRecords lib ⟨req, p.nextSpan, 0, []⟩, (p.view t).answered⟩ := by
    rw [ClientProcess.traceRequest, view_enter, view_setCurrentSpan, view_record]
    rfl
  rw [hview]
  exact hserved.advance rfl rfl ⟨rfl, rfl⟩

private theorem ok_enterHandler (hok : (p.view t).Ok lib target) {req : Request} {span : SpanId}
    (hphase : p.phase t = .traced req span) : ((p.enterHandler t req span).view t).Ok lib target := by
  obtain ⟨served, unfinished, hserved, rfl, hcurrent⟩ := hok.at_phase hphase
  have hview : (p.enterHandler t req span).view t =
      ⟨some span, .handling ⟨req, span, some span, p.nextEvent, []⟩,
        (p.view t).log ++ [.opened p.nextEvent ⟨some span, "handle_run_client", .unspecified⟩],
        (p.view t).answered⟩ := by
    rw [ClientProcess.enterHandler, view_enter, view_record, hcurrent, ← hcurrent]
    rfl
  rw [hview]
  exact hserved.advance rfl rfl ⟨⟨req, span, p.nextEvent, []⟩, ⟨rfl, rfl, rfl, rfl, rfl, rfl⟩, rfl, rfl⟩

/-- The interceptor finds the span of the request, and the assertion holds. -/
theorem preSend_eq (h : Handling) {span : SpanId} (hcurrent : p.current t = some span) (method : Str)
    (allocated : Bool) :
    p.preSend target method t h allocated =
      .ok ((ClientProcess.record { p with nextEvent := if allocated then p.nextEvent + 1 else p.nextEvent } t
        ((sendCalls target span method (if allocated then some p.nextEvent else none)).map .rpc)).enter t
          (.calling h ⟨method, true, resolveGrpcTarget target, some span,
            if allocated then some p.nextEvent else none⟩)) := by
  unfold ClientProcess.preSend
  rw [hcurrent]
  cases allocated with
  | false => rfl
  | true => rfl

/-- What the start of an RPC leaves behind, if the current span is that of the request. -/
theorem ok_preSend (hok : (p.view t).Ok lib target) {h : Handling} (hphase : p.phase t = .handling h) {method : Str}
    (hmethod : methodPaths[h.ok.length]? = some method) (nextEvent : EventId) (event : Option EventId) :
    ∃ span, p.current t = some span ∧
      (((ClientProcess.record { p with nextEvent } t ((sendCalls target span method event).map .rpc)).enter t
        (.calling h ⟨method, true, resolveGrpcTarget target, some span, event⟩)).view t).Ok lib target := by
  obtain ⟨served, unfinished, hserved, r, hr, rfl, hcurrent⟩ := hok.at_phase hphase
  refine ⟨r.span, hcurrent, ?_⟩
  rw [view_enter, view_record]
  exact hserved.advance rfl rfl ⟨r, method, _, hr, hmethod, rfl, rfl, rfl, hcurrent⟩

/-- The locals of the handler after another RPC. -/
theorem Handling.Serves.snoc {h : Handling} {r : Served} (hr : h.Serves r) {method : Str}
    (hmethod : methodPaths[h.ok.length]? = some method) (event : Option EventId) (status : Status) :
    Handling.Serves { h with ok := h.ok ++ [status.ok] } { r with rpcs := r.rpcs ++ [⟨method, event, status⟩] } where
  req := hr.req
  span := hr.span
  handlerSpan := hr.handlerSpan
  event := hr.event
  ok := by
    rw [hr.ok]
    simp [Served.ok]
  methods := by
    have htake : methodPaths.take (h.ok.length + 1) = methodPaths.take h.ok.length ++ [method] := by
      rw [List.take_add_one, hmethod]
      rfl
    rw [List.map_append, hr.methods, List.length_append]
    exact htake.symm

private theorem begun_snoc (r : Served) (rpc : RpcMade) :
    Served.begun lib target { r with rpcs := r.rpcs ++ [rpc] } = r.begun lib target ++ rpc.records target r.span := by
  unfold Served.begun
  rw [List.flatMap_append, List.flatMap_singleton]
  simp only [List.append_assoc]
  rfl

private theorem intercept_postRecv (rpc : Interceptor) (current : SpanPtr) {span : SpanId}
    (hparent : rpc.parentSpan = some span) (status : Status) :
    rpc.intercept current none (some (some status)) =
      .ok ({ rpc with spanEvent := none }, statusCalls status rpc.spanEvent) := by
  obtain ⟨method, hasContext, remote, parent, event⟩ := rpc
  obtain rfl : parent = some span := hparent
  cases event with
  | none => rfl
  | some e =>
    rcases hok : status.ok with _ | _
    · simp [Interceptor.intercept, Interceptor.onPostRecvStatus, statusCalls, hok, pure, bind, Except.pure,
        Except.bind]
    · simp [Interceptor.intercept, Interceptor.onPostRecvStatus, statusCalls, hok, pure, bind, Except.pure,
        Except.bind]

/-- The status ends the event of the RPC, and a failure reaches the span of the request. -/
theorem postRecv_eq {h : Handling} {span : SpanId} (hspan : h.handlerSpan = some span) {rpc : Interceptor}
    (hparent : rpc.parentSpan = some span) (status : Status) :
    p.postRecv t h rpc status =
      .ok ((p.record t ((statusCalls status rpc.spanEvent).map .rpc ++
        if status.ok then [] else [.agent (.event (.spanSetError (some span) status.message))])).enter t
          (.handling { h with ok := h.ok ++ [status.ok] })) := by
  unfold ClientProcess.postRecv
  rw [intercept_postRecv rpc (p.current t) hparent status, hspan]
  rcases hok : status.ok with _ | _
  · simp [record_record]
  · simp

private theorem ok_postRecv (hok : (p.view t).Ok lib target) {h : Handling} {rpc : Interceptor}
    (hphase : p.phase t = .calling h rpc) (status : Status) :
    ∃ span, h.handlerSpan = some span ∧ rpc.parentSpan = some span ∧
      (((p.record t ((statusCalls status rpc.spanEvent).map .rpc ++
        if status.ok then [] else [.agent (.event (.spanSetError (some span) status.message))])).enter t
          (.handling { h with ok := h.ok ++ [status.ok] })).view t).Ok lib target := by
  obtain ⟨served, unfinished, hserved, r, method, event, hr, hmethod, rfl, hparent, rfl, hcurrent⟩ :=
    hok.at_phase hphase
  refine ⟨r.span, hr.handlerSpan, hparent, ?_⟩
  rw [view_enter, view_record]
  refine hserved.advance rfl rfl ⟨_, hr.snoc hmethod rpc.spanEvent status, ?_, hcurrent⟩
  rw [begun_snoc, List.append_assoc]
  rfl

private theorem ok_leaveHandler (hok : (p.view t).Ok lib target) {h : Handling} (hphase : p.phase t = .handling h)
    (hdone : h.ok.length = methodPaths.length) : ((p.leaveHandler lib target t h).view t).Ok lib target := by
  obtain ⟨served, unfinished, hserved, r, hr, rfl, hcurrent⟩ := hok.at_phase hphase
  have hcomplete : r.Complete := by
    rw [Served.Complete, hr.methods, hdone, List.take_length]
  -- the span stays current until the response is traced
  have hview : (p.leaveHandler lib target t h).view t = { p.view t with
      phase := .handled r.req r.span (r.response lib target)
      log := (p.view t).log ++
        ((if r.ok.all id then [] else [.agent (.event (.setError r.event none "one or more gRPC calls failed"))]) ++
          [.closed r.event]) } := by
    rw [ClientProcess.leaveHandler, view_enter, view_record, hr.req, hr.span, hr.event, hr.ok]
    rfl
  rw [hview]
  exact hserved.advance rfl rfl ⟨r, hcomplete, rfl, rfl, rfl, rfl, hcurrent⟩

private theorem ok_traceResponse (hok : (p.view t).Ok lib target) {req : Request} {span : SpanId} {res : Response}
    (hphase : p.phase t = .handled req span res) : ((p.traceResponse t req span res).view t).Ok lib target := by
  obtain ⟨served, unfinished, hserved, r, hcomplete, rfl, rfl, rfl, rfl, -⟩ := hok.at_phase hphase
  refine ⟨served ++ [r], [], ?_, ?_, ?_, ?_⟩
  · intro r' hr'
    rcases List.mem_append.1 hr' with hr' | hr'
    · exact hserved.complete r' hr'
    · exact List.mem_singleton.1 hr' ▸ hcomplete
  · rw [ClientProcess.traceResponse, view_answer, view_enter, view_setCurrentSpan, view_record]
    show (p.view t).answered ++ _ = _
    rw [hserved.answered, List.map_append]
    rfl
  · rw [ClientProcess.traceResponse, view_answer, view_enter, view_setCurrentSpan, view_record]
    show (p.view t).log ++ _ = _
    rw [hserved.log, List.flatMap_append, List.flatMap_singleton, List.append_assoc, List.append_nil]
    rfl
  · rw [ClientProcess.traceResponse, view_answer, view_enter, view_setCurrentSpan]
    exact ⟨rfl, rfl⟩

end step

/-! ### The numbers of the agent -/

/-- The span that the record makes. -/
def ClientRecord.newSpan : ClientRecord → Option SpanId
  | .agent (.newSpan span _ _ _) => some span
  | _ => none

/-- The event that the record opens. -/
def ClientRecord.newEvent : ClientRecord → Option EventId
  | .opened event _ => some event
  | .rpc (.newSpanEvent _ event _) => event
  | _ => none

def ClientProcess.spans (p : ClientProcess) : List SpanId := p.log.filterMap fun e => e.2.newSpan

def ClientProcess.events (p : ClientProcess) : List EventId := p.log.filterMap fun e => e.2.newEvent

/-- Every number was given out once. -/
structure ClientProcess.Numbered (p : ClientProcess) : Prop where
  spans : p.spans = List.range p.nextSpan
  events : p.events = List.range p.nextEvent

section numbers

variable {lib : HttplibHeaders} {target : Str} {p p' : ClientProcess} {t : ThreadId}

private theorem spans_record (l : List ClientRecord) :
    (p.record t l).spans = p.spans ++ l.filterMap ClientRecord.newSpan := by
  simp [ClientProcess.spans, ClientProcess.record, ofThread, List.filterMap_map]

private theorem events_record (l : List ClientRecord) :
    (p.record t l).events = p.events ++ l.filterMap ClientRecord.newEvent := by
  simp [ClientProcess.events, ClientProcess.record, ofThread, List.filterMap_map]

/-- Records that make nothing leave the numbers alone. -/
theorem ClientProcess.Numbered.record (h : p.Numbered) {l : List ClientRecord}
    (hspans : l.filterMap ClientRecord.newSpan = []) (hevents : l.filterMap ClientRecord.newEvent = []) :
    (p.record t l).Numbered where
  spans := by
    rw [spans_record, hspans, List.append_nil]
    exact h.spans
  events := by
    rw [events_record, hevents, List.append_nil]
    exact h.events

theorem ClientProcess.Numbered.enter (h : p.Numbered) (phase : Phase) : (p.enter t phase).Numbered :=
  ⟨h.spans, h.events⟩

private theorem numbered_traceRequest (h : p.Numbered) (req : Request) : (p.traceRequest lib t req).Numbered where
  spans := by
    show (ClientProcess.record { p with nextSpan := p.nextSpan + 1 } t _).spans = List.range (p.nextSpan + 1)
    rw [spans_record, List.range_succ, ← h.spans]
    rfl
  events := by
    show (ClientProcess.record { p with nextSpan := p.nextSpan + 1 } t _).events = List.range p.nextEvent
    rw [events_record, ← h.events]
    exact List.append_nil _

private theorem numbered_enterHandler (h : p.Numbered) (req : Request) (span : SpanId) :
    (p.enterHandler t req span).Numbered where
  spans := by
    show (ClientProcess.record { p with nextEvent := p.nextEvent + 1 } t _).spans = List.range p.nextSpan
    rw [spans_record, ← h.spans]
    exact List.append_nil _
  events := by
    show (ClientProcess.record { p with nextEvent := p.nextEvent + 1 } t _).events = List.range (p.nextEvent + 1)
    rw [events_record, List.range_succ, ← h.events]
    rfl

private theorem statusCalls_news (status : Status) (event : Option EventId) :
    ((statusCalls status event).map ClientRecord.rpc).filterMap ClientRecord.newSpan = [] ∧
    ((statusCalls status event).map ClientRecord.rpc).filterMap ClientRecord.newEvent = [] := by
  cases event with
  | none => exact ⟨rfl, rfl⟩
  | some e =>
    rcases hok : status.ok with _ | _
    · simp [statusCalls, hok, ClientRecord.newSpan, ClientRecord.newEvent]
    · simp [statusCalls, hok, ClientRecord.newSpan, ClientRecord.newEvent]

private theorem numbered_preSend (h : p.Numbered) (span : SpanId) (method : Str) (allocated : Bool) :
    (ClientProcess.record { p with nextEvent := if allocated then p.nextEvent + 1 else p.nextEvent } t
      ((sendCalls target span method (if allocated then some p.nextEvent else none)).map .rpc)).Numbered := by
  cases allocated with
  | false => exact h.record rfl rfl
  | true =>
    constructor
    · rw [spans_record]
      exact (List.append_nil _).trans h.spans
    · -- the event has the next number
      rw [events_record]
      show p.events ++ [p.nextEvent] = List.range (p.nextEvent + 1)
      rw [h.events, List.range_succ]

private theorem numbered_postRecv (h : p.Numbered) (span : SpanId) (event : Option EventId) (status : Status) :
    (p.record t ((statusCalls status event).map .rpc ++
      if status.ok then [] else [.agent (.event (.spanSetError (some span) status.message))])).Numbered := by
  obtain ⟨hspans, hevents⟩ := statusCalls_news status event
  apply h.record
  · rw [List.filterMap_append, hspans]
    cases status.ok <;> rfl
  · rw [List.filterMap_append, hevents]
    cases status.ok <;> rfl

private theorem numbered_leaveHandler (h : p.Numbered) (handling : Handling) :
    (p.leaveHandler lib target t handling).Numbered := by
  refine .enter (h.record ?_ ?_) _
  · cases handling.ok.all id <;> rfl
  · cases handling.ok.all id <;> rfl

private theorem numbered_traceResponse (h : p.Numbered) (req : Request) (span : SpanId) (res : Response) :
    (p.traceResponse t req span res).Numbered := by
  have hrecord := h.record (t := t) (l := [.agent (.traceHttpServerResponse span req.matchedRoute req.method
    res.status res.headers), .agent (.endSpan span)]) rfl rfl
  exact ⟨hrecord.spans, hrecord.events⟩

end numbers

/-! ### Every step -/

section invariant

variable (lib : HttplibHeaders) (target : Str)

structure Inv (p : ClientProcess) : Prop where
  thread : ∀ t, (p.view t).Ok lib target
  numbered : p.Numbered

/-- The process runs and the invariant holds. -/
def InvOk : Except RunFault ClientProcess → Prop
  | .ok p => Inv lib target p
  | .error _ => False

theorem inv_init : Inv lib target .init where
  thread _ := ⟨[], [], by simp, rfl, rfl, rfl, rfl⟩
  numbered := ⟨rfl, rfl⟩

variable {lib target} {p p' : ClientProcess} {t : ThreadId}

/-- A step of a thread concerns no other thread. -/
theorem Inv.of_view (h : Inv lib target p) (hother : ∀ t', t ≠ t' → p'.view t' = p.view t')
    (hown : (p'.view t).Ok lib target) (hnumbered : p'.Numbered) : Inv lib target p' where
  thread t' := by
    by_cases ht : t = t'
    · exact ht ▸ hown
    · rw [hother t' ht]
      exact h.thread t'
  numbered := hnumbered

theorem Inv.preSend (h : Inv lib target p) {handling : Handling} (hphase : p.phase t = .handling handling)
    {method : Str} (hmethod : methodPaths[handling.ok.length]? = some method) (allocated : Bool) :
    InvOk lib target (p.preSend target method t handling allocated) := by
  obtain ⟨span, hcurrent, hown⟩ := ok_preSend (h.thread t) hphase hmethod
    (if allocated then p.nextEvent + 1 else p.nextEvent) (if allocated then some p.nextEvent else none)
  rw [preSend_eq handling hcurrent method allocated]
  refine h.of_view (fun t' ht => ?_) hown ((numbered_preSend h.numbered span method allocated).enter _)
  rw [view_enter_other _ ht, view_record_other _ ht]
  rfl

theorem Inv.postRecv (h : Inv lib target p) {handling : Handling} {rpc : Interceptor}
    (hphase : p.phase t = .calling handling rpc) (status : Status) :
    InvOk lib target (p.postRecv t handling rpc status) := by
  obtain ⟨span, hspan, hparent, hown⟩ := ok_postRecv (h.thread t) hphase status
  rw [postRecv_eq hspan hparent status]
  refine h.of_view (fun t' ht => ?_) hown ((numbered_postRecv h.numbered span rpc.spanEvent status).enter _)
  rw [view_enter_other _ ht, view_record_other _ ht]

theorem Inv.step (h : Inv lib target p) (a : ClientAction) {result : Except RunFault ClientProcess}
    (hstep : GrpcClient.step lib target (.ok p) a = some result) : InvOk lib target result := by
  obtain ⟨t, req, rfl, hphase, rfl⟩ | ⟨t, req, span, rfl, hphase, rfl⟩ |
    ⟨t, allocated, handling, method, rfl, hphase, hmethod, rfl⟩ | ⟨t, status, handling, rpc, rfl, hphase, rfl⟩ |
    ⟨t, handling, rfl, hphase, hdone, rfl⟩ | ⟨t, req, span, res, rfl, hphase, rfl⟩ := step_cases hstep
  · refine h.of_view (fun t' ht => ?_) (ok_traceRequest (h.thread t) hphase req)
      (numbered_traceRequest h.numbered req)
    exact view_traceRequest_other ht req
  · refine h.of_view (fun t' ht => ?_) (ok_enterHandler (h.thread t) hphase)
      (numbered_enterHandler h.numbered req span)
    exact view_enterHandler_other ht req span
  · exact h.preSend hphase hmethod allocated
  · exact h.postRecv hphase status
  · refine h.of_view (fun t' ht => ?_) (ok_leaveHandler (h.thread t) hphase hdone)
      (numbered_leaveHandler h.numbered handling)
    exact view_leaveHandler_other ht handling
  · refine h.of_view (fun t' ht => ?_) (ok_traceResponse (h.thread t) hphase)
      (numbered_traceResponse h.numbered req span res)
    exact view_traceResponse_other ht req span res

private theorem invOk_of_exec {as : List ClientAction} {result : Except RunFault ClientProcess}
    (h : exec (GrpcClient.step lib target) (.ok .init) as = some result) : InvOk lib target result := by
  refine exec_invariant ?_ h (inv_init lib target)
  intro s a s' hs hstep
  cases s with
  | error f => cases hs
  | ok p => exact hs.step a hstep

end invariant

/-- However the threads take their turns, nothing faults, no span and no event is made twice, and every thread has
recorded its requests one after the other: each event under the span of its own request, and ended before it. -/
theorem run_client_serialized (lib : HttplibHeaders) (target : Str) (as : List ClientAction)
    {result : Except RunFault ClientProcess} (h : exec (step lib target) (.ok .init) as = some result) :
    ∃ p, result = .ok p ∧ p.spans.Nodup ∧ p.events.Nodup ∧
      ∀ t, ∃ served unfinished, (p.view t).Served lib target served unfinished := by
  have hinv := invOk_of_exec h
  cases result with
  | error f => cases hinv
  | ok p =>
    refine ⟨p, rfl, ?_, ?_, hinv.thread⟩
    · rw [hinv.numbered.spans]
      exact List.nodup_range
    · rw [hinv.numbered.events]
      exact List.nodup_range

/-- A request for `/run_client`. -/
def runClientRequest : Request where
  method := "GET"
  path := "/run_client"
  matchedRoute := "/run_client"
  remoteAddr := "10.0.0.1"
  localAddr := "10.0.0.2"
  localPort := 8094
  headers := []
  params := []
  captures := ["/run_client"]

def unavailable : Status := ⟨14, "failed to connect"⟩

/-- Two threads in turns; the first RPC of the first thread fails, and so does the last one of the second, which has
no event. -/
def twoThreads : List ClientAction :=
  [.traceRequest 0 runClientRequest, .traceRequest 1 runClientRequest, .enterHandler 1, .enterHandler 0,
    .preSend 0 true, .preSend 1 true, .postRecv 0 unavailable, .preSend 0 true, .postRecv 1 ⟨0, []⟩,
    .postRecv 0 ⟨0, []⟩, .preSend 1 true, .preSend 0 true, .postRecv 0 ⟨0, []⟩, .leaveHandler 0, .postRecv 1 ⟨0, []⟩,
    .preSend 1 false, .traceResponse 0, .postRecv 1 unavailable, .leaveHandler 1, .traceResponse 1]

theorem run_client_serialized_twoThreads :
    ∃ p, exec (step .firstFound "localhost:50051") (.ok .init) twoThreads = some (.ok p) ∧
      p.spans = [0, 1] ∧ p.events.Nodup := by
  obtain ⟨p, hp, -, hevents, -⟩ := run_client_serialized .firstFound "localhost:50051" twoThreads rfl
  refine ⟨p, ?_, ?_, hevents⟩
  · rw [← hp]
    rfl
  · obtain rfl := Except.ok.inj hp
    rfl

/-! ### The answer -/

open JsonText in
/-- The members of the answer. -/
def answerMembers (target : Str) (unaryOk streamOk bidiOk : Bool) : List (Str × Value) :=
  [("success", .bool (unaryOk && streamOk && bidiOk)), ("target", .str target),
    ("calls", .obj [("unary", .bool unaryOk), ("server_streaming", .bool streamOk), ("bidirectional", .bool bidiOk)])]

section answer

open JsonText

private theorem reads_boolText (b : Bool) : ReadsAs (boolText b) (.bool b) := by
  cases b with
  | false => exact .false
  | true => exact .true

/-- The object of the three calls, with its indentation. -/
def callsText (unaryOk streamOk bidiOk : Bool) : Str :=
  "\x7b\n" ++ "    \"unary\": " ++ boolText unaryOk ++ ",\n" ++ "    \"server_streaming\": " ++ boolText streamOk ++
    ",\n" ++ "    \"bidirectional\": " ++ boolText bidiOk ++ "\n" ++ "  \x7d"

private theorem reads_callsText (unaryOk streamOk bidiOk : Bool) :
    Reads (callsText unaryOk streamOk bidiOk)
      (.obj [("unary", .bool unaryOk), ("server_streaming", .bool streamOk), ("bidirectional", .bool bidiOk)]) := by
  have hindent : Blank ['\n', ' ', ' ', ' ', ' '] := blank_indent 4
  have hclose : Blank ['\n', ' ', ' '] := blank_indent 2
  have hsep : Blank [' '] := blank_spaces 1
  have hunary : Plain ("unary" : Str) := by simp [Plain]
  have hstream : Plain ("server_streaming" : Str) := by simp [Plain]
  have hbidi : Plain ("bidirectional" : Str) := by simp [Plain]
  have hlast := (reads_boolText bidiOk).lastMember hindent hbidi hsep hclose
  have hmembers := (reads_boolText streamOk).member hindent hstream hsep blank_nil hlast
  have hobject := ((reads_boolText unaryOk).member hindent hunary hsep blank_nil hmembers).object
  have htext : callsText unaryOk streamOk bidiOk = '\x7b' :: (memberText ['\n', ' ', ' ', ' ', ' '] "unary" [' ']
      (boolText unaryOk) ++ [] ++ ',' :: (memberText ['\n', ' ', ' ', ' ', ' '] "server_streaming" [' ']
      (boolText streamOk) ++ [] ++ ',' :: (memberText ['\n', ' ', ' ', ' ', ' '] "bidirectional" [' ']
      (boolText bidiOk) ++ ['\n', ' ', ' '] ++ ['\x7d']))) := by
    unfold callsText
    generalize boolText unaryOk = unary, boolText streamOk = stream, boolText bidiOk = bidi
    simp [memberText]
  rw [htext]
  exact hobject.reads

private theorem runClientBody_faithful_iff (target : Str) (unaryOk streamOk bidiOk : Bool) :
    Faithful (runClientBody target (unaryOk && streamOk && bidiOk) unaryOk streamOk bidiOk)
      (answerMembers target unaryOk streamOk bidiOk) ↔ Plain target := by
  have htext : runClientBody target (unaryOk && streamOk && bidiOk) unaryOk streamOk bidiOk =
      objectText ("success", .literal (boolText (unaryOk && streamOk && bidiOk))
          (.bool (unaryOk && streamOk && bidiOk)))
        [("target", .embedded target), ("calls", .literal (callsText unaryOk streamOk bidiOk)
          (.obj [("unary", .bool unaryOk), ("server_streaming", .bool streamOk),
            ("bidirectional", .bool bidiOk)]))] := by
    unfold runClientBody objectText callsText
    simp [linesText, Member.line, Part.text]
  have hkeys : ∀ k ∈ (["success", "target", "calls"] : List Str), Plain k := by simp [Plain]
  have hdistinct : (["success", "target", "calls"] : List Str).Nodup := by simp
  have hiff : _ ↔ True ∧ Plain target ∧ True := faithful_iff_of_text htext hkeys hdistinct
    ⟨(reads_boolText _).reads, trivial, reads_callsText unaryOk streamOk bidiOk⟩
  rwa [true_and, and_true] at hiff

/-- The answer is about the three statuses. -/
theorem runClientResponse_answer (lib : HttplibHeaders) (target : Str) (first second third : Status) :
    (runClientResponse lib target ([first, second, third].map Status.ok)).status =
        (if first.ok && second.ok && third.ok then 200 else 502) ∧
      (Faithful (runClientResponse lib target ([first, second, third].map Status.ok)).body
        (answerMembers target first.ok second.ok third.ok) ↔ Plain target) := by
  have hall : ([first, second, third].map Status.ok).all id = (first.ok && second.ok && third.ok) := by
    simp [Bool.and_assoc]
  constructor
  · rw [runClientResponse, hall]
  · have hbody : (runClientResponse lib target ([first, second, third].map Status.ok)).body =
        runClientBody target (first.ok && second.ok && third.ok) first.ok second.ok third.ok := by
      rw [runClientResponse, hall]
      rfl
    rw [hbody]
    exact runClientBody_faithful_iff target first.ok second.ok third.ok

end answer

/-! ### What a thread was given -/

/-- The requests that a thread took, in order. -/
def requestsOf (t : ThreadId) (as : List ClientAction) : List Request :=
  as.filterMap fun
    | .traceRequest t' req => if t' = t then some req else none
    | _ => none

/-- The statuses of the RPCs that a thread made, in order. -/
def statusesOf (t : ThreadId) (as : List ClientAction) : List Status :=
  as.filterMap fun
    | .postRecv t' status => if t' = t then some status else none
    | _ => none

section given

variable {lib : HttplibHeaders} {target : Str} {p p' : ClientProcess} {t t' : ThreadId}

/-- The request that a thread works for, and how its RPCs so far ended. -/
def Working (lib : HttplibHeaders) (target : Str) (request : List Request) (statuses : List Status) : Phase → Prop
  | .idle => request = [] ∧ statuses = []
  | .traced req _ => request = [req] ∧ statuses = []
  | .handling h => request = [h.req] ∧ h.ok = statuses.map Status.ok
  | .calling h _ => request = [h.req] ∧ h.ok = statuses.map Status.ok
  | .handled req _ res => request = [req] ∧ statuses.length = 3 ∧
      res = runClientResponse lib target (statuses.map Status.ok)

/-- The thread has answered these requests by the statuses of their RPCs, and is at work on the rest of what it was
given. -/
structure Given (lib : HttplibHeaders) (target : Str) (answered : List (Request × Response)) (phase : Phase)
    (requests : List Request) (statuses : List Status) (done : List (Request × List Status)) (request : List Request)
    (rest : List Status) : Prop where
  three : ∀ d ∈ done, d.2.length = 3
  answered : answered = done.map fun d => (d.1, runClientResponse lib target (d.2.map Status.ok))
  requests : requests = done.map Prod.fst ++ request
  statuses : statuses = done.flatMap Prod.snd ++ rest
  working : Working lib target request rest phase

/-- What is known of a thread after these actions. -/
def GivenAll (lib : HttplibHeaders) (target : Str) (as : List ClientAction) (t : ThreadId) (p : ClientProcess) :
    Prop :=
  ∃ done request rest, Given lib target (onThread t p.answered) (p.phase t) (requestsOf t as) (statusesOf t as) done
    request rest

theorem requestsOf_snoc (past : List ClientAction) (a : ClientAction) :
    requestsOf t (past ++ [a]) = requestsOf t past ++ requestsOf t [a] := List.filterMap_append

private theorem statusesOf_snoc (past : List ClientAction) (a : ClientAction) :
    statusesOf t (past ++ [a]) = statusesOf t past ++ statusesOf t [a] := List.filterMap_append

/-- The thread goes on with the request it works for. -/
theorem Given.advance {answered : List (Request × Response)} {phase phase' : Phase}
    {requests request request' : List Request} {statuses rest rest' : List Status}
    {done : List (Request × List Status)}
    (h : Given lib target answered phase requests statuses done request rest)
    (hworking : Working lib target (request ++ request') (rest ++ rest') phase') :
    Given lib target answered phase' (requests ++ request') (statuses ++ rest') done (request ++ request')
      (rest ++ rest') where
  three := h.three
  answered := h.answered
  requests := by rw [h.requests, List.append_assoc]
  statuses := by rw [h.statuses, List.append_assoc]
  working := hworking

/-- The thread answers by the statuses it was given for the request. -/
theorem Given.answer {answered : List (Request × Response)} {req : Request} {span : SpanId} {res : Response}
    {requests request : List Request} {statuses rest : List Status} {done : List (Request × List Status)}
    (h : Given lib target answered (.handled req span res) requests statuses done request rest) :
    Given lib target (answered ++ [(req, res)]) .idle requests statuses (done ++ [(req, rest)]) [] [] := by
  obtain ⟨rfl, hthree, rfl⟩ := h.working
  refine ⟨?_, ?_, ?_, ?_, rfl, rfl⟩
  · intro d hd
    rcases List.mem_append.1 hd with hd | hd
    · exact h.three d hd
    · rw [List.mem_singleton.1 hd]
      exact hthree
  · rw [h.answered, List.map_append]
    rfl
  · rw [h.requests, List.map_append, List.append_nil]
    rfl
  · rw [h.statuses, List.flatMap_append, List.append_nil, List.flatMap_singleton]

/-- What is given to another thread does not matter. -/
theorem GivenAll.other {past : List ClientAction} {a : ClientAction} (h : GivenAll lib target past t p)
    (hview : p'.view t = p.view t) (ha : requestsOf t [a] = [] ∧ statusesOf t [a] = []) :
    GivenAll lib target (past ++ [a]) t p' := by
  have hphase : p'.phase t = p.phase t := congrArg ThreadView.phase hview
  have hanswered : onThread t p'.answered = onThread t p.answered := congrArg ThreadView.answered hview
  unfold GivenAll
  rw [requestsOf_snoc, statusesOf_snoc, ha.1, ha.2, hphase, hanswered, List.append_nil, List.append_nil]
  exact h

/-- The thread goes on with what it is given, and answers nothing. -/
theorem GivenAll.advance {past : List ClientAction} {a : ClientAction} {phase : Phase}
    (h : GivenAll lib target past t p) (hphase : p'.phase t = phase)
    (hanswered : onThread t p'.answered = onThread t p.answered)
    (hworking : ∀ request rest, Working lib target request rest (p.phase t) →
      Working lib target (request ++ requestsOf t [a]) (rest ++ statusesOf t [a]) phase) :
    GivenAll lib target (past ++ [a]) t p' := by
  obtain ⟨done, request, rest, hgiven⟩ := h
  unfold GivenAll
  rw [requestsOf_snoc, statusesOf_snoc, hphase, hanswered]
  exact ⟨done, _, _, hgiven.advance (hworking request rest hgiven.working)⟩

private theorem preSend_ok {handling : Handling} {method : Str} {allocated : Bool}
    (h : p.preSend target method t handling allocated = .ok p') :
    (∃ rpc, p'.phase t = .calling handling rpc) ∧ onThread t p'.answered = onThread t p.answered ∧
      ∀ t', t ≠ t' → p'.view t' = p.view t' := by
  unfold ClientProcess.preSend at h
  dsimp only at h
  split at h
  · cases h
  · obtain rfl := Except.ok.inj h
    refine ⟨⟨_, Function.update_self ..⟩, ?_, fun t' ht => ?_⟩
    · cases allocated <;> rfl
    · rw [view_enter_other _ ht, view_record_other _ ht]
      cases allocated <;> rfl

private theorem postRecv_ok {handling : Handling} {rpc : Interceptor} {status : Status}
    (h : p.postRecv t handling rpc status = .ok p') :
    p'.phase t = .handling { handling with ok := handling.ok ++ [status.ok] } ∧
      onThread t p'.answered = onThread t p.answered ∧ ∀ t', t ≠ t' → p'.view t' = p.view t' := by
  unfold ClientProcess.postRecv at h
  dsimp only at h
  split at h
  · cases h
  · split at h
    · rename_i hok
      obtain rfl := Except.ok.inj h
      refine ⟨?_, rfl, fun t' ht => ?_⟩
      · rw [hok]
        exact Function.update_self ..
      · rw [view_enter_other _ ht, view_record_other _ ht]
    · rename_i hok
      split at h
      · cases h
      · obtain rfl := Except.ok.inj h
        refine ⟨?_, rfl, fun t' ht => ?_⟩
        · have hfalse : status.ok = false := by simpa using hok
          rw [hfalse]
          exact Function.update_self ..
        · rw [view_enter_other _ ht, view_record_other _ ht, view_record_other _ ht]

/-- Every step keeps what is known of the threads. -/
theorem givenAll_step {past : List ClientAction} {a : ClientAction} (hall : ∀ t, GivenAll lib target past t p)
    (hstep : step lib target (.ok p) a = some (.ok p')) (t' : ThreadId) :
    GivenAll lib target (past ++ [a]) t' p' := by
  obtain ⟨t, req, rfl, hphase, hp⟩ | ⟨t, req, span, rfl, hphase, hp⟩ |
    ⟨t, allocated, handling, method, rfl, hphase, -, hp⟩ | ⟨t, status, handling, rpc, rfl, hphase, hp⟩ |
    ⟨t, handling, rfl, hphase, hdone, hp⟩ | ⟨t, req, span, res, rfl, hphase, hp⟩ := step_cases hstep
  · obtain rfl := Except.ok.inj hp
    by_cases ht : t = t'
    · subst ht
      refine (hall t).advance (Function.update_self ..) rfl fun request rest hworking => ?_
      rw [hphase] at hworking
      obtain ⟨rfl, rfl⟩ := hworking
      simp [requestsOf, statusesOf, Working]
    · exact (hall t').other (view_traceRequest_other ht req) (by simp [requestsOf, statusesOf, ht])
  · obtain rfl := Except.ok.inj hp
    by_cases ht : t = t'
    · subst ht
      refine (hall t).advance (Function.update_self ..) rfl fun request rest hworking => ?_
      rw [hphase] at hworking
      obtain ⟨rfl, rfl⟩ := hworking
      simp [requestsOf, statusesOf, Working]
    · exact (hall t').other (view_enterHandler_other ht req span) (by simp [requestsOf, statusesOf])
  · obtain ⟨⟨rpc, hcalling⟩, hanswered, hother⟩ := preSend_ok hp.symm
    by_cases ht : t = t'
    · subst ht
      refine (hall t).advance hcalling hanswered fun request rest hworking => ?_
      rw [hphase] at hworking
      simpa [requestsOf, statusesOf, Working] using hworking
    · exact (hall t').other (hother t' ht) (by simp [requestsOf, statusesOf])
  · obtain ⟨hhandling, hanswered, hother⟩ := postRecv_ok hp.symm
    by_cases ht : t = t'
    · subst ht
      refine (hall t).advance hhandling hanswered fun request rest hworking => ?_
      rw [hphase] at hworking
      obtain ⟨rfl, hok⟩ := hworking
      simp [requestsOf, statusesOf, Working, hok]
    · exact (hall t').other (hother t' ht) (by simp [requestsOf, statusesOf, ht])
  · obtain rfl := Except.ok.inj hp
    by_cases ht : t = t'
    · subst ht
      refine (hall t).advance (Function.update_self ..) rfl fun request rest hworking => ?_
      rw [hphase] at hworking
      obtain ⟨rfl, hok⟩ := hworking
      have hthree : rest.length = 3 := by
        rw [hok, List.length_map] at hdone
        exact hdone
      simp [requestsOf, statusesOf, Working, hok, hthree]
    · exact (hall t').other (view_leaveHandler_other ht handling) (by simp [requestsOf, statusesOf])
  · obtain rfl := Except.ok.inj hp
    by_cases ht : t = t'
    · subst ht
      obtain ⟨done, request, rest, hgiven⟩ := hall t
      rw [hphase] at hgiven
      -- the request that was worked for is done
      have hidle : (p.traceResponse t req span res).phase t = .idle := Function.update_self ..
      have hanswered : onThread t (p.traceResponse t req span res).answered =
          onThread t p.answered ++ [(req, res)] := by
        simp [ClientProcess.traceResponse, ClientProcess.answer, ClientProcess.enter, ClientProcess.setCurrentSpan,
          ClientProcess.record]
      have hnone : requestsOf t [.traceResponse t] = [] ∧ statusesOf t [.traceResponse t] = [] := ⟨rfl, rfl⟩
      unfold GivenAll
      rw [requestsOf_snoc, statusesOf_snoc, hnone.1, hnone.2, hidle, hanswered, List.append_nil, List.append_nil]
      exact ⟨_, _, _, hgiven.answer⟩
    · exact (hall t').other (view_traceResponse_other ht req span res) (by simp [requestsOf, statusesOf])

private theorem givenAll_of_exec {as : List ClientAction} (h : exec (step lib target) (.ok .init) as = some (.ok p))
    (t : ThreadId) : GivenAll lib target as t p := by
  let known (past : List ClientAction) : Except RunFault ClientProcess → Prop
    | .ok p => ∀ t, GivenAll lib target past t p
    | .error _ => True
  have hinit : known [] (.ok .init) := fun t => ⟨[], [], [], by simp, rfl, rfl, rfl, rfl, rfl⟩
  have hall : known ([] ++ as) (.ok p) := by
    refine exec_invariant_past (fun past s a s' hs hstep => ?_) h hinit
    -- a faulted process takes no step
    rcases s with f | q <;> rcases s' with f' | q'
    · trivial
    · cases hstep
    · trivial
    · exact givenAll_step hs hstep
  exact hall t

private theorem length_flatMap_three {done : List (Request × List Status)} (h : ∀ d ∈ done, d.2.length = 3) :
    (done.flatMap Prod.snd).length = 3 * done.length := by
  induction done with
  | nil => rfl
  | cons d done ih =>
    have hd := h d List.mem_cons_self
    have hrest := ih fun d' hd' => h d' (List.mem_cons_of_mem d hd')
    rw [List.flatMap_cons, List.length_append, List.length_cons]
    omega

/-- The `i`-th answer of a thread is to its `i`-th request, and about the three statuses that follow those of the
requests before. -/
theorem Given.get {answered : List (Request × Response)} {phase : Phase} {requests request : List Request}
    {statuses rest : List Status} {done : List (Request × List Status)}
    (h : Given lib target answered phase requests statuses done request rest) {i : Nat}
    {answer : Request × Response} (hi : answered[i]? = some answer) :
    ∃ first second third, requests[i]? = some answer.1 ∧
      (statuses.drop (3 * i)).take 3 = [first, second, third] ∧
      answer.2 = runClientResponse lib target ([first, second, third].map Status.ok) := by
  rw [h.answered, List.getElem?_map, Option.map_eq_some_iff] at hi
  obtain ⟨d, hd, rfl⟩ := hi
  obtain ⟨hlt, hget⟩ := List.getElem?_eq_some_iff.1 hd
  obtain ⟨first, second, third, hthree⟩ := List.length_eq_three.1 (h.three d (List.mem_of_getElem? hd))
  refine ⟨first, second, third, ?_, ?_, by rw [hthree]⟩
  · rw [h.requests, List.getElem?_append_left (by rwa [List.length_map]), List.getElem?_map, hd]
    rfl
  · have hsplit : done = done.take i ++ d :: done.drop (i + 1) := by
      rw [← hget, ← List.drop_eq_getElem_cons hlt, List.take_append_drop]
    -- each request before has had three statuses
    have hbefore : ((done.take i).flatMap Prod.snd).length = 3 * i := by
      rw [length_flatMap_three fun d' hd' => h.three d' (List.mem_of_mem_take hd'),
        List.length_take_of_le (Nat.le_of_lt hlt)]
    have hstatuses : statuses = (done.take i).flatMap Prod.snd ++
        ([first, second, third] ++ ((done.drop (i + 1)).flatMap Prod.snd ++ rest)) := by
      rw [h.statuses]
      conv_lhs => rw [hsplit]
      rw [List.flatMap_append, List.flatMap_cons, hthree]
      simp only [List.append_assoc]
    rw [hstatuses, ← hbefore, List.drop_left]
    rfl

end given

/-- The `i`-th answer of a thread is to the `i`-th request that it took, and says how the three RPCs of this request
ended: 200 if all of them ended well and 502 otherwise, with a body that reads as such exactly when the target can
stand in JSON as it is.  What is recorded of the requests is in the same order. -/
theorem run_client_answers (lib : HttplibHeaders) (target : Str) {as : List ClientAction} {p : ClientProcess}
    (h : exec (step lib target) (.ok .init) as = some (.ok p)) (t : ThreadId) :
    (∀ (i : Nat) answer, (onThread t p.answered)[i]? = some answer →
      ∃ first second third, (requestsOf t as)[i]? = some answer.1 ∧
        ((statusesOf t as).drop (3 * i)).take 3 = [first, second, third] ∧
        answer.2.status = (if first.ok && second.ok && third.ok then 200 else 502) ∧
        (JsonText.Faithful answer.2.body (answerMembers target first.ok second.ok third.ok) ↔
          JsonText.Plain target)) ∧
    ∃ (served : List Served) (unfinished : List ClientRecord),
      onThread t p.log = served.flatMap (Served.records lib target) ++ unfinished ∧
      onThread t p.answered = served.map fun r => (r.req, r.response lib target) := by
  constructor
  · intro i answer hi
    obtain ⟨done, request, rest, hgiven⟩ := givenAll_of_exec h t
    obtain ⟨first, second, third, hrequest, hstatuses, hresponse⟩ := hgiven.get hi
    obtain ⟨hstatus, hbody⟩ := runClientResponse_answer lib target first second third
    rw [← hresponse] at hstatus hbody
    exact ⟨first, second, third, hrequest, hstatuses, hstatus, hbody⟩
  · have hinv : InvOk lib target (.ok p) := invOk_of_exec h
    obtain ⟨served, unfinished, hserved⟩ := hinv.thread t
    exact ⟨served, unfinished, hserved.log, hserved.answered⟩

/-- In the run of the two threads both requests are answered with 502, for the RPC that failed. -/
theorem run_client_answers_twoThreads :
    ∃ p, exec (step .firstFound "localhost:50051") (.ok .init) twoThreads = some (.ok p) ∧
      p.answered.map (fun answer => answer.2.2.status) = [502, 502] ∧
      ∃ first second third, (statusesOf 1 twoThreads).take 3 = [first, second, third] ∧
        (502 : Int) = if first.ok && second.ok && third.ok then 200 else 502 := by
  have hrun : ∃ p answer, exec (step .firstFound "localhost:50051") (.ok .init) twoThreads = some (.ok p) ∧
      p.answered.map (fun answer => answer.2.2.status) = [502, 502] ∧
      (onThread 1 p.answered)[0]? = some answer ∧ answer.2.status = 502 := ⟨_, _, rfl, rfl, rfl, rfl⟩
  obtain ⟨p, answer, hp, hstatus, hanswer, h502⟩ := hrun
  obtain ⟨hanswers, -⟩ := run_client_answers .firstFound "localhost:50051" hp 1
  obtain ⟨first, second, third, -, hstatuses, heq, -⟩ := hanswers 0 answer hanswer
  exact ⟨p, hp, hstatus, first, second, third, hstatuses, h502 ▸ heq⟩

end PinpointExamples.GrpcClient
