import Mathlib
import PinpointExamples.Lib.CallTree
import PinpointExamples.Server.WrapHandler

/-!
# The call trees of requests

A handler whose forest is known gives every request a known call tree: the span with what the wrapper records, and
between the forest of the handler.  On a worker thread the trees of the requests follow one another, with
consecutive numbers (`exec_serve_trees`).
-/

namespace PinpointExamples

open Scoped Transition

/-- The forest of traced code that starts with the next free event. -/
abbrev EventForest := Forest EventLabel AgentCall

/-- A request that is answered by a handler that returns, with the forest the handler adds under a span and what it
makes of the response. -/
structure TracedRequest where
  handler : Handler
  req : Request
  forest : SpanId → EventId → EventForest
  respond : Response → Response
  grows : ∀ span, (handler req (some span)).Grows AgentCall.event () (forest span) respond

namespace TracedRequest

/-- The response object is new. -/
def job (r : TracedRequest) : Job := ⟨r.handler, r.req, ⟨-1, [], []⟩⟩

def response (r : TracedRequest) : Response := r.respond ⟨-1, [], []⟩

/-- The call tree of the request. -/
def tree (lib : HttplibHeaders) (operation : Str) (r : TracedRequest) (span : SpanId) (event : EventId) :
    EventForest :=
  let endPoint := lib.getHeaderValue r.req.headers "Host"
  .calls [.newSpan span operation r.req.path r.req.headers,
      .traceHttpServerRequest span r.req.remoteAddr
        (if endPoint.isEmpty then r.req.localAddr ++ ":" ++ (toString r.req.localPort).toList else endPoint)
        r.req.headers] ++
    (r.forest span event ++
      .calls [.traceHttpServerResponse span r.req.matchedRoute r.req.method r.response.status r.response.headers,
        .endSpan span])

/-- The call trees of several requests. -/
def trees (lib : HttplibHeaders) (operation : Str) : List TracedRequest → SpanId → EventId → EventForest
  | [], _, _ => .nil
  | r :: rs, span, event =>
    r.tree lib operation span event ++ trees lib operation rs (span + 1) (event + (r.forest span event).size)

end TracedRequest

open TracedRequest

theorem runTraced_of_grows {S α : Type} {p : Traced S α} {a : α} {f : Nat → EventForest} {g : S → S}
    (h : p.Grows AgentCall.event a f g) (t : WorkerThread) (s : S) :
    t.runTraced p s = (.ok a, g s,
      { t with log := t.log ++ (f t.nextEvent).entries, nextEvent := t.nextEvent + (f t.nextEvent).size }) := by
  rw [WorkerThread.runTraced, h]

section serve

variable (lib : HttplibHeaders) (operation : Str)

/-- A worker thread adds the call tree of a request and is ready for the next one. -/
theorem answer_tree (r : TracedRequest) (t : WorkerThread) :
    answer lib operation t r.job =
      (r.response, ⟨t.log ++ (r.tree lib operation t.nextSpan t.nextEvent).entries,
        t.nextEvent + (r.forest t.nextSpan t.nextEvent).size, t.nextSpan + 1, none⟩) := by
  have hhandled : r.job.handled lib operation t = (.ok (), r.response,
      ⟨(traceRequestAs lib operation r.req t).2.log ++ (r.forest t.nextSpan t.nextEvent).entries,
        t.nextEvent + (r.forest t.nextSpan t.nextEvent).size, t.nextSpan + 1, some t.nextSpan⟩) :=
    runTraced_of_grows (r.grows t.nextSpan) _ _
  have hwrap := @wrapHandlerAs_eq lib operation t r.job
  rw [hhandled] at hwrap
  rw [answer, hwrap]
  simp [traceResponse, tree, traceRequestAs, WorkerThread.newSpan, WorkerThread.record, WorkerThread.setSpanContext,
    Forest.calls, Forest.entries, TracedRequest.job]

/-- In a run of a worker thread the call trees follow one another. -/
theorem exec_serve_trees (requests : List TracedRequest) (t : WorkerThread) :
    ∃ t', exec (serve lib operation) t (requests.map TracedRequest.job) = some t' ∧
      t'.log = t.log ++ (trees lib operation requests t.nextSpan t.nextEvent).entries ∧
      t'.nextSpan = t.nextSpan + requests.length ∧ (requests ≠ [] → t'.currentSpan = none) := by
  induction requests generalizing t with
  | nil => exact ⟨t, rfl, by simp [trees, Forest.entries], rfl, by simp⟩
  | cons r rs ih =>
    obtain ⟨t', hexec, hlog, hspan, hcurrent⟩ := ih (answer lib operation t r.job).2
    refine ⟨t', hexec, ?_, ?_, ?_⟩
    · rw [hlog, answer_tree]
      simp [trees, List.append_assoc]
    · rw [hspan, answer_tree, List.length_cons]
      exact Nat.add_right_comm t.nextSpan 1 rs.length
    · intro _
      by_cases hrs : rs = []
      · subst hrs
        obtain rfl := Option.some.inj hexec
        rw [answer_tree]
      · exact hcurrent hrs

/-- The jobs make a worker thread that starts record this forest, its log is read back in no other way, and no span
is left current. -/
def Records (jobs : List Job) (forest : EventForest) : Prop :=
  ∃ t, exec (serve lib operation) .fresh jobs = some t ∧ t.log = forest.entries ∧
    (∀ g : EventForest, t.log = g.entries → g = forest) ∧ t.nextSpan = jobs.length ∧ t.currentSpan = none

theorem records_trees (requests : List TracedRequest) :
    Records lib operation (requests.map TracedRequest.job) (trees lib operation requests 0 0) := by
  obtain ⟨t, hexec, hlog, hspan, hcurrent⟩ := exec_serve_trees lib operation requests .fresh
  have hentries : t.log = (trees lib operation requests 0 0).entries := hlog
  refine ⟨t, hexec, hentries, ?_, ?_, ?_⟩
  · intro g hg
    exact Forest.entries_injective (hg.symm.trans hentries)
  · rw [hspan, List.length_map]
    exact Nat.zero_add _
  · by_cases hrequests : requests = []
    · subst hrequests
      obtain rfl := Option.some.inj hexec
      rfl
    · exact hcurrent hrequests

end serve

end PinpointExamples
