import Mathlib
import PinpointExamples.Lib.Transition
import PinpointExamples.Server.Agent

/-!
# The handler wrapper

`wrap_handler` opens a span for the request, stores it in the thread-local `current_span`, calls the handler, and
only then ends the span and clears the thread-local.  The five demos that have a `wrap_handler` differ in the name
they give the span.  An exception of the handler skips the end of the wrapper: the server catches it, answers 500
and goes on with the next request on the thread.

The key fact is `wrap_handler_exit_iff`: the wrapper leaves the thread in order after a request exactly when the
handler returned.
-/

namespace PinpointExamples

open Scoped Transition

/-- `trace_request` with the name of the demo's spans. -/
def traceRequestAs (lib : HttplibHeaders) (operation : Str) (req : Request) (t : WorkerThread) :
    SpanId × WorkerThread :=
  let (span, t) := t.newSpan operation req.path req.headers
  let endPoint := lib.getHeaderValue req.headers "Host"
  let endPoint := if endPoint.isEmpty then req.localAddr ++ ":" ++ (toString req.localPort).toList else endPoint
  (span, t.record (.traceHttpServerRequest span req.remoteAddr endPoint req.headers))

def traceResponse (req : Request) (res : Response) (span : SpanId) (t : WorkerThread) : WorkerThread :=
  (t.record (.traceHttpServerResponse span req.matchedRoute req.method res.status res.headers)).record
    (.endSpan span)

/-- `wrap_handler` with the name of the demo's spans: how the wrapped handler is left, the response and the
thread. -/
def wrapHandlerAs (lib : HttplibHeaders) (operation : Str) (handler : Handler) (req : Request) (res : Response)
    (t : WorkerThread) : Except Exn Unit × Response × WorkerThread :=
  let (span, t) := traceRequestAs lib operation req t
  let t := t.setSpanContext (some span)
  match t.runTraced (handler req t.getSpanContext) res with
  | (.error e, res, t) => (.error e, res, t)
  | (.ok (), res, t) =>
    let t := traceResponse req res span t
    (.ok (), res, t.setSpanContext none)

/-- A request, the response object made for it, and the handler its route leads to. -/
structure Job where
  handler : Handler
  req : Request
  res : Response

/-- The server answers a request on the thread; it catches what leaves the handler. -/
def answer (lib : HttplibHeaders) (operation : Str) (t : WorkerThread) (job : Job) : Response × WorkerThread :=
  match wrapHandlerAs lib operation job.handler job.req job.res t with
  | (.error _, res, t) => ({ res with status := 500 }, t)
  | (.ok (), res, t) => (res, t)

/-- A worker thread answers one request after the other. -/
def serve (lib : HttplibHeaders) (operation : Str) (t : WorkerThread) (job : Job) : Option WorkerThread :=
  some (answer lib operation t job).2

/-- The wrapped handler, run on the thread under the span of the request. -/
def Job.handled (job : Job) (lib : HttplibHeaders) (operation : Str) (t : WorkerThread) :
    Except Exn Unit × Response × WorkerThread :=
  let (span, t) := traceRequestAs lib operation job.req t
  (t.setSpanContext (some span)).runTraced (job.handler job.req (some span)) job.res

/-- The wrapped handler returns. -/
def Job.Returns (job : Job) (lib : HttplibHeaders) (operation : Str) (t : WorkerThread) : Prop :=
  (job.handled lib operation t).1 = .ok ()

/-- The span is ended exactly once, and every event opened under it is ended before that. -/
structure EndedOnce (log : AgentLog) (span : SpanId) : Prop where
  once : log.count (.call (.endSpan span)) = 1
  events : ∀ before after, log = before ++ .call (.endSpan span) :: after → ∀ id label,
    label.span = some span → .opened id label ∈ log →
      ∃ a b c, before = a ++ .opened id label :: (b ++ .closed id :: c)

/-- The thread after a request with the given span is in order. -/
structure ExitOk (t : WorkerThread) (span : SpanId) : Prop where
  ended : EndedOnce t.log span
  cleared : t.currentSpan = none

/-! ### What a request adds to the log -/

/-- The thread between two requests: all span events are closed, and only spans that exist were ended. -/
structure WorkerThread.Idle (t : WorkerThread) : Prop where
  balanced : Balanced 0 t.nextEvent t.log
  fresh : ∀ span, t.nextSpan ≤ span → t.log.count (.call (.endSpan span)) = 0

private theorem idle_fresh : WorkerThread.fresh.Idle := ⟨.nil 0, fun _ _ => rfl⟩

section request

variable (lib : HttplibHeaders) (operation : Str) (t : WorkerThread)

@[simp] theorem traceRequestAs_span (req : Request) : (traceRequestAs lib operation req t).1 = t.nextSpan := rfl

@[simp] theorem traceRequestAs_nextSpan (req : Request) :
    (traceRequestAs lib operation req t).2.nextSpan = t.nextSpan + 1 := rfl

variable {t}

theorem WorkerThread.Idle.record (h : t.Idle) {c : AgentCall} (hc : ∀ span, c ≠ .endSpan span) :
    (t.record c).Idle where
  balanced := h.balanced.snoc_call c
  fresh span hs := by
    have h0 := h.fresh span hs
    simp [List.count_append, h0, hc]

theorem WorkerThread.Idle.endSpan (h : t.Idle) {span : SpanId} (hs : span < t.nextSpan) :
    (t.record (.endSpan span)).Idle where
  balanced := h.balanced.snoc_call _
  fresh span' hs' := by
    rw [WorkerThread.record_nextSpan] at hs'
    have h0 := h.fresh span' hs'
    have hne : span ≠ span' := Nat.ne_of_lt (Nat.lt_of_lt_of_le hs hs')
    simp [List.count_append, h0, hne]

theorem WorkerThread.Idle.traceRequestAs (h : t.Idle) (req : Request) :
    (traceRequestAs lib operation req t).2.Idle := by
  have h1 : { t with nextSpan := t.nextSpan + 1 }.Idle :=
    ⟨h.balanced, fun span hs => h.fresh span (Nat.le_of_succ_le hs)⟩
  exact (h1.record (by simp)).record (by simp)

/-- Traced code leaves an idle thread idle, however it is left. -/
theorem WorkerThread.Idle.runTraced (h : t.Idle) {S α : Type} (p : Traced S α) (s : S) :
    (t.runTraced p s).2.2.Idle where
  balanced := by
    obtain ⟨l, hl, hb⟩ := run_balanced AgentCall.event p ⟨t.log, t.nextEvent, s⟩
    show Balanced 0 _ (p.run AgentCall.event ⟨t.log, t.nextEvent, s⟩).2.log
    rw [hl]
    exact h.balanced.append hb
  fresh span hs := by
    have hc := run_count_call AgentCall.event (d := .endSpan span) (by simp) p ⟨t.log, t.nextEvent, s⟩
    exact hc.trans (h.fresh span hs)

theorem WorkerThread.Idle.setSpanContext (h : t.Idle) (span : SpanPtr) : (t.setSpanContext span).Idle :=
  ⟨h.balanced, h.fresh⟩

theorem WorkerThread.Idle.handled (h : t.Idle) (job : Job) : (job.handled lib operation t).2.2.Idle :=
  ((h.traceRequestAs lib operation job.req).setSpanContext _).runTraced _ _

private theorem handled_nextSpan (job : Job) : (job.handled lib operation t).2.2.nextSpan = t.nextSpan + 1 := rfl

/-- The handler does not end the span of its request. -/
theorem count_endSpan_handled (h : t.Idle) (job : Job) :
    (job.handled lib operation t).2.2.log.count (.call (.endSpan t.nextSpan)) = 0 := by
  have hc := run_count_call AgentCall.event (d := .endSpan t.nextSpan) (by simp)
    (job.handler job.req (some t.nextSpan))
    ⟨(PinpointExamples.traceRequestAs lib operation job.req t).2.log, t.nextEvent, job.res⟩
  refine hc.trans ?_
  have h0 := h.fresh t.nextSpan le_rfl
  simp [PinpointExamples.traceRequestAs, WorkerThread.newSpan, List.count_append, h0]

end request

/-! ### The exits of the wrapper -/

section exits

variable (lib : HttplibHeaders) (operation : Str) {t : WorkerThread} {job : Job}

theorem wrapHandlerAs_eq :
    wrapHandlerAs lib operation job.handler job.req job.res t =
      match job.handled lib operation t with
      | (.error e, res, t') => (.error e, res, t')
      | (.ok (), res, t') => (.ok (), res, (traceResponse job.req res t.nextSpan t').setSpanContext none) := rfl

private theorem answer_of_returns (h : job.Returns lib operation t) :
    (answer lib operation t job).2 =
      (traceResponse job.req (job.handled lib operation t).2.1 t.nextSpan
        (job.handled lib operation t).2.2).setSpanContext none := by
  rw [answer, wrapHandlerAs_eq]
  rcases hh : job.handled lib operation t with ⟨e | _, res, t'⟩
  · rw [Job.Returns, hh] at h
    simp at h
  · rfl

private theorem answer_of_not_returns (h : ¬ job.Returns lib operation t) :
    (answer lib operation t job).2 = (job.handled lib operation t).2.2 := by
  rw [answer, wrapHandlerAs_eq]
  rcases hh : job.handled lib operation t with ⟨e | _, res, t'⟩
  · rfl
  · rw [Job.Returns, hh] at h
    exact absurd rfl h

theorem answer_response_of_returns (h : job.Returns lib operation t) :
    (answer lib operation t job).1 = (job.handled lib operation t).2.1 := by
  rw [answer, wrapHandlerAs_eq]
  rcases hh : job.handled lib operation t with ⟨e | _, res, t'⟩
  · rw [Job.Returns, hh] at h
    simp at h
  · rfl

/-- The wrapper keeps what the handler recorded. -/
theorem mem_answer_log {e : Entry EventLabel AgentCall} (he : e ∈ (job.handled lib operation t).2.2.log) :
    e ∈ (answer lib operation t job).2.log := by
  by_cases h : job.Returns lib operation t
  · rw [answer_of_returns lib operation h]
    simp [traceResponse, he]
  · rwa [answer_of_not_returns lib operation h]

variable {lib operation}

/-- `EndSpan` after a balanced log that does not end the span. -/
theorem endedOnce_snoc {n : Nat} {l : AgentLog} {span : SpanId} (hb : Balanced 0 n l)
    (hc : l.count (.call (.endSpan span)) = 0) : EndedOnce (l ++ [.call (.endSpan span)]) span where
  once := by simp [List.count_append, hc]
  events before after hlog id label _ hm := by
    have hl : .call (.endSpan span) ∉ l := List.count_eq_zero.1 hc
    -- the only `EndSpan` of the span is the last entry
    have hbefore : l = before := ((List.append_cons_inj_of_notMem hl List.not_mem_nil).1 hlog).1
    rw [← hbefore]
    have hm' : .opened id label ∈ l := by simpa using hm
    exact hb.closed_after hm'

private theorem exitOk_of_returns (ht : t.Idle) (h : job.Returns lib operation t) :
    ExitOk (answer lib operation t job).2 t.nextSpan := by
  have hcount := count_endSpan_handled lib operation ht job
  have hidle := ht.handled lib operation job
  rw [answer_of_returns lib operation h]
  refine ⟨endedOnce_snoc (hidle.balanced.snoc_call _) ?_, rfl⟩
  simp [List.count_append, hcount]

private theorem not_exitOk_of_not_returns (ht : t.Idle) (h : ¬ job.Returns lib operation t) :
    ¬ ExitOk (answer lib operation t job).2 t.nextSpan := by
  intro hok
  have hone := hok.ended.once
  rw [answer_of_not_returns lib operation h, count_endSpan_handled lib operation ht job] at hone
  omega

theorem WorkerThread.Idle.serve (ht : t.Idle) {t' : WorkerThread}
    (h : serve lib operation t job = some t') : t'.Idle := by
  rw [PinpointExamples.serve, Option.some.injEq] at h
  subst h
  have hidle := ht.handled lib operation job
  by_cases hr : job.Returns lib operation t
  · rw [answer_of_returns lib operation hr]
    have hspan : t.nextSpan < (job.handled lib operation t).2.2.nextSpan := by
      rw [handled_nextSpan]
      exact Nat.lt_succ_self _
    exact ((hidle.record (by simp)).endSpan hspan).setSpanContext none
  · rw [answer_of_not_returns lib operation hr]
    exact hidle

end exits

/-- In every run of a worker thread the wrapper leaves the thread in order after exactly those requests whose
handler returned; so it does after every request exactly when every handler of the run returned. -/
theorem wrap_handler_exit_iff (lib : HttplibHeaders) (operation : Str) (jobs : List Job) :
    AllSteps (serve lib operation)
      (fun t job => ExitOk (answer lib operation t job).2 (traceRequestAs lib operation job.req t).1 ↔
        job.Returns lib operation t) .fresh jobs ∧
    (AllSteps (serve lib operation)
        (fun t job => ExitOk (answer lib operation t job).2 (traceRequestAs lib operation job.req t).1) .fresh jobs ↔
      AllSteps (serve lib operation) (fun t job => job.Returns lib operation t) .fresh jobs) := by
  have hexit : AllSteps (serve lib operation)
      (fun t job => ExitOk (answer lib operation t job).2 (traceRequestAs lib operation job.req t).1 ↔
        job.Returns lib operation t) .fresh jobs := by
    refine allSteps_of_invariant (fun t job t' (ht : t.Idle) h => ht.serve h) (fun t job ht => ?_) idle_fresh jobs
    constructor
    · intro hok
      by_contra hr
      exact not_exitOk_of_not_returns ht hr hok
    · exact exitOk_of_returns ht
  exact ⟨hexit, hexit.congr⟩

end PinpointExamples
