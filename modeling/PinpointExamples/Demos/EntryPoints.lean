import Mathlib
import PinpointExamples.Demos.CivetwebHandlers
import PinpointExamples.Demos.CurlWeb
import PinpointExamples.Demos.KafkaProducer

/-!
# What the entry points record of a request

An entry point of HTTP hands the remote address and the end point of a request to the agent.  The remote address is
the host of the peer, and the end point is the `Host` header, or the local address if there is none
(`serverFacts`).  `trace_request` hands over just these; the handlers that have no `trace_request` hand over the
`Host` header even if there is none, or the peer with its port and the request URI (`entry_points_record_iff`).
-/

namespace PinpointExamples

open Scoped

/-- What is recorded of a request. -/
structure RequestFacts where
  remoteAddr : Str
  endPoint : Str
  deriving DecidableEq, Repr

/-- What is to be recorded of a request; an absent header is empty. -/
def serverFacts (peerHost hostHeader localAddr : Str) (localPort : Nat) : RequestFacts where
  remoteAddr := peerHost
  endPoint := if hostHeader.isEmpty then localAddr ++ ":" ++ (toString localPort).toList else hostHeader

private theorem serverFacts_of_host (peerHost : Str) {hostHeader : Str} (localAddr : Str) (localPort : Nat)
    (h : hostHeader ≠ []) : serverFacts peerHost hostHeader localAddr localPort = ⟨peerHost, hostHeader⟩ := by
  have hne : ¬ hostHeader.isEmpty = true := by simpa using h
  rw [serverFacts, if_neg hne]

private theorem serverFacts_endPoint_ne_nil (peerHost hostHeader localAddr : Str) (localPort : Nat) :
    (serverFacts peerHost hostHeader localAddr localPort).endPoint ≠ [] := by
  by_cases h : hostHeader = []
  · rw [h]
    simp [serverFacts]
  · rw [serverFacts_of_host peerHost localAddr localPort h]
    exact h

/-- The header alone is right when it is there. -/
theorem serverFacts_eq_header_iff (peerHost hostHeader localAddr : Str) (localPort : Nat) :
    (⟨peerHost, hostHeader⟩ : RequestFacts) = serverFacts peerHost hostHeader localAddr localPort ↔
      hostHeader ≠ [] := by
  constructor
  · intro h he
    have hend := congrArg RequestFacts.endPoint h
    exact serverFacts_endPoint_ne_nil peerHost hostHeader localAddr localPort (hend.symm.trans he)
  · intro h
    exact (serverFacts_of_host peerHost localAddr localPort h).symm

/-! ### The demos with cpp-httplib -/

def requestFacts : Entry EventLabel AgentCall → Option RequestFacts
  | .call (.traceHttpServerRequest _ remoteAddr endPoint _) => some ⟨remoteAddr, endPoint⟩
  | _ => none

/-- The facts recorded on the thread so far. -/
def WorkerThread.facts (t : WorkerThread) : List RequestFacts := t.log.filterMap requestFacts

def Request.serverFacts (req : Request) (lib : HttplibHeaders) : RequestFacts :=
  PinpointExamples.serverFacts req.remoteAddr (lib.getHeaderValue req.headers "Host") req.localAddr req.localPort

private theorem WorkerThread.record_facts (t : WorkerThread) {c : AgentCall} (hc : requestFacts (.call c) = none) :
    (t.record c).facts = t.facts := by
  rw [facts, record_log, List.filterMap_append, List.filterMap_cons_none hc, List.filterMap_nil, List.append_nil]
  rfl

@[simp] theorem WorkerThread.record_event_facts (t : WorkerThread) (c : EventCall) :
    (t.record (.event c)).facts = t.facts := t.record_facts rfl

/-- The response and the end of a span add no facts. -/
@[simp] theorem WorkerThread.record_response_facts (t : WorkerThread) (span : SpanId) (urlPattern method : Str)
    (status : Int) (reader : List (Str × Str)) :
    ((t.record (.traceHttpServerResponse span urlPattern method status reader)).record (.endSpan span)).facts =
      t.facts := (record_facts _ rfl).trans (t.record_facts rfl)

private theorem WorkerThread.record_traceHttpServerRequest_facts (t : WorkerThread) (span : SpanId)
    (remoteAddr endPoint : Str) (reader : List (Str × Str)) :
    (t.record (.traceHttpServerRequest span remoteAddr endPoint reader)).facts =
      t.facts ++ [⟨remoteAddr, endPoint⟩] := by
  rw [facts, record_log, List.filterMap_append]
  rfl

private theorem WorkerThread.newSpan_facts (t : WorkerThread) (operation rpcPoint : Str) (reader : List (Str × Str)) :
    (t.newSpan operation rpcPoint reader).2.facts = t.facts :=
  record_facts _ rfl

/-- Traced code records no facts of a request. -/
theorem WorkerThread.facts_of_runTraced {t t' : WorkerThread} {S α : Type} {p : Traced S α} {s s' : S}
    {r : Except Exn α} (h : t.runTraced p s = (r, s', t')) : t'.facts = t.facts := by
  have hrun : (t.runTraced p s).2.2.log.filterMap requestFacts = t.log.filterMap requestFacts :=
    run_filterMap AgentCall.event (fun _ _ => rfl) (fun _ => rfl) (fun _ => rfl) p ⟨t.log, t.nextEvent, s⟩
  rw [h] at hrun
  exact hrun

private theorem traceRequestAs_facts (lib : HttplibHeaders) (operation : Str) (req : Request) (t : WorkerThread) :
    (traceRequestAs lib operation req t).2.facts = t.facts ++ [req.serverFacts lib] := by
  unfold traceRequestAs
  rw [WorkerThread.record_traceHttpServerRequest_facts, WorkerThread.newSpan_facts]
  rfl

private theorem facts_of_handled {lib : HttplibHeaders} {operation : Str} {t t' : WorkerThread} {job : Job}
    {r : Except Exn Unit} {res : Response} (h : job.handled lib operation t = (r, res, t')) :
    t'.facts = t.facts ++ [job.req.serverFacts lib] := by
  have hrun : ((traceRequestAs lib operation job.req t).2.setSpanContext (some t.nextSpan)).runTraced
      (job.handler job.req (some t.nextSpan)) job.res = (r, res, t') := h
  have hfacts := WorkerThread.facts_of_runTraced hrun
  rw [← traceRequestAs_facts lib operation job.req t]
  exact hfacts

/-- Whatever the handler does, the wrapper records the facts once. -/
theorem wrapHandlerAs_facts (lib : HttplibHeaders) (operation : Str) (handler : Handler) (req : Request)
    (res : Response) (t : WorkerThread) :
    (wrapHandlerAs lib operation handler req res t).2.2.facts = t.facts ++ [req.serverFacts lib] := by
  have heq : wrapHandlerAs lib operation handler req res t = _ :=
    @wrapHandlerAs_eq lib operation t ⟨handler, req, res⟩
  rw [heq]
  rcases h : (Job.mk handler req res).handled lib operation t with ⟨e | _, res', t'⟩
  · exact facts_of_handled h
  · have hresponse : (traceResponse req res' t.nextSpan t').facts = t'.facts :=
      WorkerThread.record_response_facts ..
    exact hresponse.trans (facts_of_handled h)

/-- The facts after a span was made and the given end point was recorded with it. -/
theorem facts_of_start (t : WorkerThread) (operation rpcPoint : Str) (req : Request) (endPoint : Str) :
    ((t.newSpan operation rpcPoint req.headers).2.record (.traceHttpServerRequest t.nextSpan req.remoteAddr endPoint
      req.headers)).facts = t.facts ++ [⟨req.remoteAddr, endPoint⟩] := by
  rw [WorkerThread.record_traceHttpServerRequest_facts, WorkerThread.newSpan_facts]

private theorem CurlWeb.reportRunRequest_facts (lib : HttplibHeaders) (success : Bool) (responseBody : Str)
    (span : SpanId) (req : Request) (res : Response) (t : WorkerThread) :
    (reportRunRequest lib success responseBody span req res t).2.facts = t.facts := by
  cases success <;> simp [reportRunRequest]

private theorem CurlWeb.handleRunRequest_facts (lib : HttplibHeaders) (gTargetUrl : Str) (context : List (Str × Str))
    (o : CurlOutcomes) (req : Request) (res : Response) (t : WorkerThread) :
    (handleRunRequest lib gTargetUrl context o req res t).2.2.facts =
      t.facts ++ [⟨req.remoteAddr, lib.getHeaderValue req.headers "Host"⟩] := by
  rw [← facts_of_start t "CurlWebExample" "/run_request" req]
  unfold handleRunRequest
  dsimp only
  split
  · rename_i e out t' h
    exact WorkerThread.facts_of_runTraced h
  · rename_i success out t' h
    exact (reportRunRequest_facts ..).trans (WorkerThread.facts_of_runTraced h)

private theorem KafkaProducer.reportRunProducer_facts (lib : HttplibHeaders) (success : Bool) (payload : Str)
    (span : SpanId) (req : Request) (res : Response) (t : WorkerThread) :
    (reportRunProducer lib success payload span req res t).2.facts = t.facts := by
  cases success <;> simp [reportRunProducer]

private theorem KafkaProducer.handleRunProducer_facts (lib : HttplibHeaders) (gBrokers gTopicStr : Str) (now : Int)
    (o : ProducerOutcomes) (req : Request) (res : Response) (t : WorkerThread) :
    (handleRunProducer lib gBrokers gTopicStr now o req res t).2.2.facts =
      t.facts ++ [⟨req.remoteAddr, lib.getHeaderValue req.headers "Host"⟩] := by
  rw [← facts_of_start t "KafkaWebProducer" "/run_producer" req]
  unfold handleRunProducer
  dsimp only
  split
  · rename_i e out t' h
    exact WorkerThread.facts_of_runTraced h
  · rename_i success out t' h
    exact (reportRunProducer_facts ..).trans (WorkerThread.facts_of_runTraced h)

/-! ### The CivetWeb example -/

namespace Civetweb

def callFacts : PtCall → Option RequestFacts
  | .traceHttpServerRequest _ remoteAddr endPoint _ => some ⟨remoteAddr, endPoint⟩
  | _ => none

def Handled.facts (h : Handled) : List RequestFacts := h.calls.filterMap callFacts

/-- `mg_get_header`; an absent header is empty. -/
def MgRequestInfo.getHeader (req : MgRequestInfo) (key : Str) : Str :=
  (Assoc.first EqIgnoreCase key req.httpHeaders).getD []

def MgRequestInfo.serverFacts (req : MgRequestInfo) (localAddr : Str) (localPort : Nat) : RequestFacts :=
  PinpointExamples.serverFacts req.remoteAddr (req.getHeader "Host") localAddr localPort

private theorem handleUsers_facts (req : MgRequestInfo) (span : SpanId) (event : Option EventId) :
    (handleUsers req (some span) event).facts = [⟨remoteAddrOf req, req.requestUri⟩] := rfl

private theorem handleHealth_facts (req : MgRequestInfo) (span : SpanId) (event : Option EventId) :
    (handleHealth req (some span) event).facts = [⟨remoteAddrOf req, req.requestUri⟩] := rfl

/-- The port is gone from the buffer only if the host fills it. -/
theorem remoteAddrOf_eq_iff (req : MgRequestInfo) :
    remoteAddrOf req = req.remoteAddr ↔ req.remoteAddr.length = 63 := by
  unfold remoteAddrOf snprintf
  rw [List.append_assoc]
  constructor
  · intro h
    have hlen := congrArg List.length h
    have hcolon : (":" : Str).length = 1 := rfl
    rw [List.length_take, List.length_append, List.length_append, hcolon] at hlen
    omega
  · intro h
    have hsize : 64 - 1 = req.remoteAddr.length := by omega
    rw [hsize, List.take_left]

private theorem facts_eq_iff (req : MgRequestInfo) (localAddr : Str) (localPort : Nat) :
    [(⟨remoteAddrOf req, req.requestUri⟩ : RequestFacts)] = [req.serverFacts localAddr localPort] ↔
      req.remoteAddr.length = 63 ∧ req.requestUri = (req.serverFacts localAddr localPort).endPoint := by
  rw [← remoteAddrOf_eq_iff]
  constructor
  · intro h
    have h := List.head_eq_of_cons_eq h
    exact ⟨congrArg RequestFacts.remoteAddr h, congrArg RequestFacts.endPoint h⟩
  · rintro ⟨hremote, hend⟩
    rw [hremote, hend]
    rfl

/-- The array that `remote_addr` of an `mg_request_info` is. -/
def remoteAddrSize : Nat := 48

/-- Whatever the URI is, the port of the peer is recorded. -/
theorem facts_ne (req : MgRequestInfo) (localAddr : Str) (localPort : Nat)
    (h : req.remoteAddr.length < remoteAddrSize) :
    [(⟨remoteAddrOf req, req.requestUri⟩ : RequestFacts)] ≠ [req.serverFacts localAddr localPort] := by
  intro heq
  have hfull := ((facts_eq_iff req localAddr localPort).1 heq).1
  simp only [remoteAddrSize] at h
  omega

end Civetweb

/-! ### All of them -/

/-- The demos with a `trace_request` record the facts of every request; the libcurl and the Kafka demo those of a
request with a `Host` header; and the CivetWeb handlers those of no request: only a peer that fills the buffer, and it
is longer than `remote_addr` can be, would leave no room for the port. -/
theorem entry_points_record_iff (lib : HttplibHeaders) (req : Request) (res : Response) (t : WorkerThread) :
    (∀ operation handler, (wrapHandlerAs lib operation handler req res t).2.2.facts =
      t.facts ++ [req.serverFacts lib]) ∧
    (∀ gTargetUrl context o, (CurlWeb.handleRunRequest lib gTargetUrl context o req res t).2.2.facts =
      t.facts ++ [req.serverFacts lib] ↔ lib.getHeaderValue req.headers "Host" ≠ []) ∧
    (∀ gBrokers gTopicStr now o,
      (KafkaProducer.handleRunProducer lib gBrokers gTopicStr now o req res t).2.2.facts =
        t.facts ++ [req.serverFacts lib] ↔ lib.getHeaderValue req.headers "Host" ≠ []) ∧
    (∀ (mg : Civetweb.MgRequestInfo) localAddr localPort span event,
      ((Civetweb.handleUsers mg (some span) event).facts = [mg.serverFacts localAddr localPort] ↔
        mg.remoteAddr.length = 63 ∧ mg.requestUri = (mg.serverFacts localAddr localPort).endPoint) ∧
      ((Civetweb.handleHealth mg (some span) event).facts = [mg.serverFacts localAddr localPort] ↔
        mg.remoteAddr.length = 63 ∧ mg.requestUri = (mg.serverFacts localAddr localPort).endPoint) ∧
      (mg.remoteAddr.length < Civetweb.remoteAddrSize →
        (Civetweb.handleUsers mg (some span) event).facts ≠ [mg.serverFacts localAddr localPort] ∧
        (Civetweb.handleHealth mg (some span) event).facts ≠ [mg.serverFacts localAddr localPort])) ∧
    ∀ peerHost hostHeader localAddr localPort,
      (serverFacts peerHost hostHeader localAddr localPort).endPoint ≠ [] := by
  -- the two hand-written handlers record the header as it is
  have hheader : t.facts ++ [⟨req.remoteAddr, lib.getHeaderValue req.headers "Host"⟩] =
      t.facts ++ [req.serverFacts lib] ↔ lib.getHeaderValue req.headers "Host" ≠ [] := by
    rw [List.append_cancel_left_eq, List.cons.injEq, and_iff_left rfl]
    exact serverFacts_eq_header_iff ..
  refine ⟨?_, ?_, ?_, ?_, serverFacts_endPoint_ne_nil⟩
  · intro operation handler
    exact wrapHandlerAs_facts lib operation handler req res t
  · intro gTargetUrl context o
    rw [CurlWeb.handleRunRequest_facts]
    exact hheader
  · intro gBrokers gTopicStr now o
    rw [KafkaProducer.handleRunProducer_facts]
    exact hheader
  · intro mg localAddr localPort span event
    rw [Civetweb.handleUsers_facts, Civetweb.handleHealth_facts]
    have hiff := Civetweb.facts_eq_iff mg localAddr localPort
    have hne := Civetweb.facts_ne mg localAddr localPort
    exact ⟨hiff, hiff, fun hsize => ⟨hne hsize, hne hsize⟩⟩

/-- `GET /api/users` from 10.0.0.1, with a `Host` header. -/
def mgUsersRequest : Civetweb.MgRequestInfo where
  requestMethod := "GET"
  requestUri := "/api/users"
  remoteAddr := "10.0.0.1"
  remotePort := 54321
  httpHeaders := [("Host", "localhost:8080")]

/-- The CivetWeb handler records the port of the peer and the URI. -/
theorem civetweb_records_port_and_uri :
    (Civetweb.handleUsers mgUsersRequest (some 0) none).facts = [⟨"10.0.0.1:54321", "/api/users"⟩] ∧
    (Civetweb.handleUsers mgUsersRequest (some 0) none).facts ≠ [mgUsersRequest.serverFacts "10.0.0.2" 8080] := by
  have hfacts : (Civetweb.handleUsers mgUsersRequest (some 0) none).facts = [⟨"10.0.0.1:54321", "/api/users"⟩] := by
    decide
  refine ⟨hfacts, ?_⟩
  rw [hfacts]
  decide

end PinpointExamples
