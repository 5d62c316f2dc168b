import Mathlib
import PinpointExamples.Server.WrapHandler

/-!
# The `/run_demo` handlers

The MongoDB and the Redis demo have the same `handle_run_demo`: it runs the demo, which answers whether it
succeeded, and reports the answer as JSON.  The two differ in the demo and in the body of a success.
-/

namespace PinpointExamples

open Scoped

/-- The body of a failure. -/
def runDemoFailureBody (error : Str) : Str :=
  "\x7b\n" ++ "  \"success\": false,\n" ++ "  \"error\": \"" ++ error ++ "\"\n" ++ "\x7d"

/-- `handle_run_demo` for a demo that answers whether it succeeded and leaves a text in `error`. -/
def handleRunDemoAs (lib : HttplibHeaders) (demo : SpanPtr → Traced Response (Bool × Str)) (successBody : Str) :
    Handler := fun _ span =>
  scopedSpanEvent span "handle_run_demo" .unspecified fun spanEvent => do
    let (success, error) ← demo span
    if success then
      .modify fun res => { res with status := 200 }.setContent lib successBody "application/json"
    else
      .modify fun res => { res with status := 503 }
      .call (.setError spanEvent none error)
      .modify fun res => res.setContent lib (runDemoFailureBody error) "application/json"

/-- The label of the handler's span event. -/
def runDemoLabel (span : SpanPtr) : EventLabel := ⟨span, "handle_run_demo", .unspecified⟩

section report

variable (lib : HttplibHeaders) {demo : SpanPtr → Traced Response (Bool × Str)} (successBody : Str) {error : Str}
  (req : Request)

/-- A demo that succeeds is reported with 200. -/
theorem run_of_success {span : SpanPtr} (h : (demo span).Yields AgentCall.event (true, error))
    (w : World EventLabel AgentCall Response) :
    ∃ w', (handleRunDemoAs lib demo successBody req span).run AgentCall.event w = (.ok (), w') ∧
      w'.state = { w.state with status := 200 }.setContent lib successBody "application/json" := by
  obtain ⟨w', hw, hs⟩ := h.run_eq (w.opening (runDemoLabel span))
  have hrun : (handleRunDemoAs lib demo successBody req span).run AgentCall.event w =
      (.ok (), { w' with state := { w'.state with status := 200 }.setContent lib successBody "application/json" }.emit
        (.closed w.next)) := by
    rw [runDemoLabel] at hw
    rw [handleRunDemoAs, scopedSpanEvent, Prog.run_scope, Prog.run_bind, hw]
    rfl
  refine ⟨_, hrun, ?_⟩
  rw [World.emit_state, hs]
  rfl

/-- A demo that fails is reported with 503, and the event of the handler gets the error. -/
theorem run_of_failure {span : SpanPtr} (h : (demo span).Yields AgentCall.event (false, error))
    (w : World EventLabel AgentCall Response) :
    ∃ w', (handleRunDemoAs lib demo successBody req span).run AgentCall.event w = (.ok (), w') ∧
      w'.state = { w.state with status := 503 }.setContent lib (runDemoFailureBody error) "application/json" ∧
      .opened w.next (runDemoLabel span) ∈ w'.log ∧
      Entry.call (AgentCall.event (.setError w.next none error)) ∈ w'.log := by
  obtain ⟨w', hw, hs⟩ := h.run_eq (w.opening (runDemoLabel span))
  have hopened : .opened w.next (runDemoLabel span) ∈ w'.log := by
    have hm := mem_run_of_mem AgentCall.event (demo span) (w := w.opening (runDemoLabel span))
      (e := .opened w.next (runDemoLabel span)) (by simp)
    rwa [hw] at hm
  have hrun : (handleRunDemoAs lib demo successBody req span).run AgentCall.event w =
      (.ok (), { w' with
        log := w'.log ++ [Entry.call (AgentCall.event (.setError w.next none error))]
        state := { w'.state with status := 503 }.setContent lib (runDemoFailureBody error) "application/json" }.emit
          (.closed w.next)) := by
    rw [runDemoLabel] at hw
    rw [handleRunDemoAs, scopedSpanEvent, Prog.run_scope, Prog.run_bind, hw]
    rfl
  refine ⟨_, hrun, ?_, ?_, ?_⟩
  · rw [World.emit_state, hs]
    rfl
  · exact List.mem_append_left _ (List.mem_append_left _ hopened)
  · exact List.mem_append_left _ (List.mem_append_right _ (List.mem_singleton_self _))

/-- The body that is set, for a demo with the given result. -/
theorem run_body {span : SpanPtr} {result : Bool × Str} (h : (demo span).Yields AgentCall.event result)
    (w : World EventLabel AgentCall Response) :
    ((handleRunDemoAs lib demo successBody req span).run AgentCall.event w).2.state.body =
      if result.1 then successBody else runDemoFailureBody result.2 := by
  obtain ⟨_ | _, error⟩ := result
  · obtain ⟨w', hw, hs, -⟩ := run_of_failure lib successBody req h w
    rw [hw, hs]
    rfl
  · obtain ⟨w', hw, hs⟩ := run_of_success lib successBody req h w
    rw [hw, hs]
    rfl

variable (operation : Str) (res : Response) {t : WorkerThread}

/-- The answer to a request whose demo succeeds. -/
theorem answer_of_success (h : (demo (some t.nextSpan)).Yields AgentCall.event (true, error)) :
    (answer lib operation t (Job.mk (handleRunDemoAs lib demo successBody) req res)).1 =
      { res with status := 200 }.setContent lib successBody "application/json" := by
  obtain ⟨w', hw, hs⟩ := run_of_success lib successBody req h
    ⟨(traceRequestAs lib operation req t).2.log, t.nextEvent, res⟩
  have hret : (Job.mk (handleRunDemoAs lib demo successBody) req res).Returns lib operation t := congrArg Prod.fst hw
  rw [answer_response_of_returns lib operation hret, ← hs]
  exact congrArg (fun r => r.2.state) hw

/-- The answer to a request whose demo fails, and what is recorded on the event of its handler. -/
theorem answer_of_failure (h : (demo (some t.nextSpan)).Yields AgentCall.event (false, error)) :
    (answer lib operation t (Job.mk (handleRunDemoAs lib demo successBody) req res)).1 =
      { res with status := 503 }.setContent lib (runDemoFailureBody error) "application/json" ∧
    .opened t.nextEvent (runDemoLabel (some t.nextSpan)) ∈
      (answer lib operation t (Job.mk (handleRunDemoAs lib demo successBody) req res)).2.log ∧
    Entry.call (AgentCall.event (.setError t.nextEvent none error)) ∈
      (answer lib operation t (Job.mk (handleRunDemoAs lib demo successBody) req res)).2.log := by
  obtain ⟨w', hw, hs, hopened, herror⟩ := run_of_failure lib successBody req h
    ⟨(traceRequestAs lib operation req t).2.log, t.nextEvent, res⟩
  have hret : (Job.mk (handleRunDemoAs lib demo successBody) req res).Returns lib operation t := congrArg Prod.fst hw
  have hlog : ((Job.mk (handleRunDemoAs lib demo successBody) req res).handled lib operation t).2.2.log = w'.log :=
    congrArg (fun r => r.2.log) hw
  refine ⟨?_, mem_answer_log lib operation ?_, mem_answer_log lib operation ?_⟩
  · rw [answer_response_of_returns lib operation hret, ← hs]
    exact congrArg (fun r => r.2.state) hw
  · rw [hlog]
    exact hopened
  · rw [hlog]
    exact herror

end report

end PinpointExamples
