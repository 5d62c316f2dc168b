import Mathlib
import PinpointExamples.Demos.CivetwebHandlers
import PinpointExamples.Lib.Typestate

/-!
# The CivetWeb server

The C interface of the agent leaves it to its user to end and destroy spans and events in time, and to shut down and
destroy the agent after the last call on it.  In the CivetWeb example this rests on the handlers, which run on several
threads, and on `main`, which ends the agent only after `mg_stop` returned; `mg_stop` waits for the threads.  The
key fact is `civetweb_server_safe`: in every run all handles are used as the interface wants it.
-/

namespace PinpointExamples.Civetweb

open History Transition Typestate

/-! ### Spans and events -/

inductive PtHandle
  | span (span : SpanId)
  | event (event : EventId)
  deriving DecidableEq, Repr

inductive PtAct
  | make
  | use
  | finish
  | destroy
  deriving DecidableEq, Repr

inductive PtState
  | free
  | live
  | ended
  deriving DecidableEq, Repr

/-- A span or event is used while it is live; it is ended once and then destroyed. -/
def ptProtocol : Protocol PtAct PtState where
  free := .free
  next
    | .free, .make => some .live
    | .live, .use => some .live
    | .live, .finish => some .ended
    | .ended, .destroy => some .free
    | _, _ => none

/-- An action on an event; on a null event nothing is done. -/
def onEvent (act : PtAct) : Option EventId → List (Touch PtHandle PtAct)
  | none => []
  | some event => [⟨.event event, act⟩]

/-- What a call does with spans and events. -/
def PtCall.touches : PtCall → List (Touch PtHandle PtAct)
  | .newSpanWithReader none .. => []
  | .newSpanWithReader (some span) .. => [⟨.span span, .make⟩]
  | .traceHttpServerRequest span .. => [⟨.span span, .use⟩]
  | .newEvent span event _ => ⟨.span span, .use⟩ :: onEvent .make event
  | .eventEnd event => onEvent .finish event
  | .eventDestroy event => onEvent .destroy event
  | .traceHttpServerResponse span .. => [⟨.span span, .use⟩]
  | .spanEnd span => [⟨.span span, .finish⟩]
  | .spanDestroy span => [⟨.span span, .destroy⟩]

/-- The handlers that `main` registers. -/
inductive Route
  | root
  | users
  | health
  deriving DecidableEq, Repr

/-- A request, with what the agent returns when it is asked for a span and for an event. -/
structure Served where
  route : Route
  req : MgRequestInfo
  span : SpanPtr
  event : Option EventId
  deriving DecidableEq, Repr

/-- The calls of the handler; `handle_root` makes none. -/
def Served.calls (r : Served) : List PtCall :=
  match r.route with
  | .root => []
  | .users => (handleUsers r.req r.span r.event).calls
  | .health => (handleHealth r.req r.span r.event).calls

/-- What a handler does with its span and its event. -/
def spanTouches (span : SpanId) (event : Option EventId) : List (Touch PtHandle PtAct) :=
  ⟨.span span, .make⟩ :: ⟨.span span, .use⟩ :: ⟨.span span, .use⟩ :: onEvent .make event ++ onEvent .finish event ++
    onEvent .destroy event ++ [⟨.span span, .use⟩, ⟨.span span, .finish⟩, ⟨.span span, .destroy⟩]

private theorem spanTouches_closed (span : SpanId) (event : Option EventId) :
    ptProtocol.Closed (spanTouches span event) := by
  rintro (s | e)
  · by_cases hs : span = s
    · subst hs
      cases event <;> simp [spanTouches, onEvent, ptProtocol]
    · cases event <;> simp [spanTouches, onEvent, hs]
  · rcases event with _ | e'
    · simp [spanTouches, onEvent]
    · by_cases he : e' = e
      · subst he
        simp [spanTouches, onEvent, ptProtocol]
      · simp [spanTouches, onEvent, he]

/-- Every handler ends and destroys what it made, with and without a span and an event. -/
theorem Served.calls_closed (r : Served) : ptProtocol.Closed (r.calls.flatMap PtCall.touches) := by
  unfold Served.calls
  cases r.route with
  | root => exact Protocol.closed_nil
  | users =>
    cases hspan : r.span with
    | none => exact Protocol.closed_nil
    | some span =>
      have hclosed := spanTouches_closed span r.event
      simpa [handleUsers, PtCall.touches, spanTouches] using hclosed
  | health =>
    cases hspan : r.span with
    | none => exact Protocol.closed_nil
    | some span =>
      have hclosed := spanTouches_closed span r.event
      simpa [handleHealth, PtCall.touches, spanTouches] using hclosed

/-! ### The agent -/

/-- The calls on the agent. -/
inductive AgentAct
  | globalAgent
  | newSpan
  | shutdown
  | destroy
  deriving DecidableEq, Repr

inductive AgentState
  | absent
  | up
  | down
  | gone
  deriving DecidableEq, Repr

/-- An agent makes spans until it is shut down, and then it is only destroyed. -/
def agentNext : AgentState → AgentAct → Option AgentState
  | .absent, .globalAgent => some .up
  | .up, .newSpan => some .up
  | .up, .shutdown => some .down
  | .down, .destroy => some .gone
  | _, _ => none

/-- The calls on the agent that a handler's call is; a null agent is called without effect. -/
def PtCall.agentActs (agent : Bool) : PtCall → List AgentAct
  | .newSpanWithReader .. => if agent then [.newSpan] else []
  | _ => []

/-! ### The server -/

/-- Whether `g_agent` is not null, and whether `mg_start` returns a server. -/
structure MainOutcomes where
  agent : Bool
  mgStart : Bool
  deriving DecidableEq, Repr

/-- How far `main` is: before `pt_global_agent`, before `mg_start`, in `mg_stop` or before it, before
`pt_agent_shutdown`, before `pt_agent_destroy`, at its end. -/
inductive MainPhase
  | starting
  | agentStarted
  | serving
  | stopped
  | shutDown
  | exited
  deriving DecidableEq, Repr

/-- The process: `main`, the calls on the agent, and the threads of the server with their calls. -/
structure Server (numThreads : Nat) where
  phase : MainPhase
  agentCalls : List AgentAct
  threads : State (Fin numThreads) PtCall

inductive ServerAction (numThreads : Nat)
  | main
  | request (t : Fin numThreads) (r : Served)
  | call (t : Fin numThreads)
  deriving DecidableEq, Repr

section server

variable {numThreads : Nat}

def Server.initial : Server numThreads := ⟨.starting, [], ⟨fun _ => [], []⟩⟩

/-- No thread is in a handler. -/
def Server.Joined (s : Server numThreads) : Prop := ∀ t, s.threads.rest t = []

instance (s : Server numThreads) : Decidable s.Joined := inferInstanceAs (Decidable (∀ t, s.threads.rest t = []))

/-- The next step of `main`; `mg_stop` returns when no thread is in a handler. -/
def mainStep (o : MainOutcomes) (s : Server numThreads) : Option (Server numThreads) :=
  match s.phase with
  | .starting =>
    some { s with phase := .agentStarted, agentCalls := s.agentCalls ++ if o.agent then [.globalAgent] else [] }
  | .agentStarted => some { s with phase := if o.mgStart then .serving else .stopped }
  | .serving => if s.Joined then some { s with phase := .stopped } else none
  | .stopped =>
    if o.agent then some { s with phase := .shutDown, agentCalls := s.agentCalls ++ [.shutdown] }
    else some { s with phase := .exited }
  | .shutDown => some { s with phase := .exited, agentCalls := s.agentCalls ++ [.destroy] }
  | .exited => none

/-- One step.  A thread gets a request while the server runs, and a span only if there is an agent. -/
def serverStep (o : MainOutcomes) (s : Server numThreads) : ServerAction numThreads → Option (Server numThreads)
  | .main => mainStep o s
  | .request t r =>
    if s.phase = .serving ∧ (o.agent = false → r.span = none) then
      (step ptProtocol PtCall.touches Served.calls s.threads (.job t r)).map fun threads => { s with threads }
    else none
  | .call t =>
    (step ptProtocol PtCall.touches Served.calls s.threads (.call t)).map fun threads =>
      { s with
        threads
        agentCalls := s.agentCalls ++ ((s.threads.rest t).head?.map (PtCall.agentActs o.agent)).getD [] }

/-- What the threads do in a run. -/
def threadActions (actions : List (ServerAction numThreads)) : List (Action (Fin numThreads) Served) :=
  actions.filterMap fun
    | .main => none
    | .request t r => some (.job t r)
    | .call t => some (.call t)

/-! ### Runs -/

/-- How far the agent is when `main` is in a phase. -/
def agentAt (agent : Bool) (phase : MainPhase) : AgentState :=
  if agent then
    match phase with
    | .starting => .absent
    | .shutDown => .down
    | .exited => .gone
    | _ => .up
  else .absent

/-- Only while the server runs threads are in handlers, and the agent is as far as `main` is. -/
structure ServerInv (o : MainOutcomes) (s : Server numThreads) : Prop where
  joined : s.phase ≠ .serving → s.Joined
  agent : exec agentNext .absent s.agentCalls = some (agentAt o.agent s.phase)
  shutDown : s.phase = .shutDown → o.agent = true

variable {o : MainOutcomes} {s s' : Server numThreads}

theorem inv_initial : ServerInv o (Server.initial : Server numThreads) := by
  refine ⟨fun _ _ => rfl, ?_, nofun⟩
  cases ho : o.agent <;> simp [Server.initial, agentAt]

/-- More calls on the agent. -/
theorem exec_agent_append {acts acts' : List AgentAct} {q q' : AgentState}
    (h : exec agentNext .absent acts = some q) (h' : exec agentNext q acts' = some q') :
    exec agentNext .absent (acts ++ acts') = some q' := by
  rw [exec_append, h]
  exact h'

private theorem ServerInv.mainStep (hinv : ServerInv o s) (h : mainStep o s = some s') :
    ServerInv o s' ∧ s'.threads = s.threads := by
  obtain ⟨hjoined, hagent, halive⟩ := hinv
  cases hphase : s.phase with
  | starting =>
    rw [hphase] at hagent hjoined
    simp only [Civetweb.mainStep, hphase, Option.some.injEq] at h
    subst h
    refine ⟨⟨fun _ => hjoined (by simp), exec_agent_append hagent ?_, nofun⟩, rfl⟩
    cases ho : o.agent <;> simp [agentAt, agentNext]
  | agentStarted =>
    rw [hphase] at hagent hjoined
    simp only [Civetweb.mainStep, hphase, Option.some.injEq] at h
    subst h
    refine ⟨⟨fun _ => hjoined (by simp), ?_, ?_⟩, rfl⟩
    · cases o.mgStart <;> exact hagent
    · cases o.mgStart <;> exact nofun
  | serving =>
    rw [hphase] at hagent
    simp only [Civetweb.mainStep, hphase, Option.ite_none_right_eq_some, Option.some.injEq] at h
    -- `mg_stop` waits until no thread handles a request
    obtain ⟨hidle, rfl⟩ := h
    exact ⟨⟨fun _ => hidle, hagent, nofun⟩, rfl⟩
  | stopped =>
    rw [hphase] at hagent hjoined
    by_cases ho : o.agent = true
    · simp only [Civetweb.mainStep, hphase, if_pos ho, Option.some.injEq] at h
      subst h
      refine ⟨⟨fun _ => hjoined (by simp), exec_agent_append hagent ?_, fun _ => ho⟩, rfl⟩
      simp [agentAt, agentNext, ho]
    · simp only [Civetweb.mainStep, hphase, if_neg ho, Option.some.injEq] at h
      subst h
      refine ⟨⟨fun _ => hjoined (by simp), ?_, nofun⟩, rfl⟩
      simpa [agentAt, ho] using hagent
  | shutDown =>
    rw [hphase] at hagent hjoined
    have ho := halive hphase
    simp only [Civetweb.mainStep, hphase, Option.some.injEq] at h
    subst h
    refine ⟨⟨fun _ => hjoined (by simp), exec_agent_append hagent ?_, nofun⟩, rfl⟩
    simp [agentAt, agentNext, ho]
  | exited => simp [Civetweb.mainStep, hphase] at h

/-- A span is asked for while the agent is up. -/
theorem exec_agentActs (c : PtCall) :
    exec agentNext (agentAt o.agent .serving) (c.agentActs o.agent) = some (agentAt o.agent .serving) := by
  cases ho : o.agent <;> cases c <;> simp [PtCall.agentActs, agentAt, agentNext]

private theorem inv_serverStep (s : Server numThreads) (a : ServerAction numThreads) (s' : Server numThreads)
    (hinv : ServerInv o s) (h : serverStep o s a = some s') : ServerInv o s' := by
  cases a with
  | main => exact (hinv.mainStep h).1
  | request t r =>
    simp only [serverStep, Option.ite_none_right_eq_some, Option.map_eq_some_iff] at h
    obtain ⟨⟨hserving, -⟩, threads, -, rfl⟩ := h
    exact ⟨fun hne => absurd hserving hne, hinv.agent, hinv.shutDown⟩
  | call t =>
    simp only [serverStep, Option.map_eq_some_iff] at h
    obtain ⟨threads, hstep, rfl⟩ := h
    rcases step_cases ptProtocol PtCall.touches Served.calls hstep with ⟨_, _, hjob, -⟩ | ⟨t', c, cs, ht, hcs, -, rfl⟩
    · cases hjob
    · obtain rfl : t = t' := by simpa using ht
      -- a thread that has calls left is in a handler
      have hserving : s.phase = .serving := by
        by_contra hne
        have hidle := hinv.joined hne t
        rw [hcs] at hidle
        cases hidle
      refine ⟨fun hne => absurd hserving hne, ?_, hinv.shutDown⟩
      have hagent := hinv.agent
      rw [hserving] at hagent
      rw [hcs, hserving]
      exact exec_agent_append hagent (exec_agentActs c)

/-- What the threads do in a run of the server is a run of threads. -/
theorem exec_threads {actions : List (ServerAction numThreads)} (hinv : ServerInv o s)
    (h : exec (serverStep o) s actions = some s') :
    exec (step ptProtocol PtCall.touches Served.calls) s.threads (threadActions actions) = some s'.threads := by
  induction actions generalizing s with
  | nil =>
    rw [exec_nil, Option.some.injEq] at h
    rw [h]
    rfl
  | cons a actions ih =>
    obtain ⟨m, hm, hrest⟩ := exec_cons_eq_some.1 h
    have hlater := ih (inv_serverStep s a m hinv hm) hrest
    cases a with
    | main =>
      rw [(hinv.mainStep hm).2] at hlater
      exact hlater
    | request t r =>
      simp only [serverStep, Option.ite_none_right_eq_some, Option.map_eq_some_iff] at hm
      obtain ⟨-, threads, hthreads, rfl⟩ := hm
      exact exec_cons_eq_some.2 ⟨threads, hthreads, hlater⟩
    | call t =>
      simp only [serverStep, Option.map_eq_some_iff] at hm
      obtain ⟨threads, hthreads, rfl⟩ := hm
      exact exec_cons_eq_some.2 ⟨threads, hthreads, hlater⟩

end server

/-- The requests that a thread got. -/
def requestsOf {numThreads : Nat} (t : Fin numThreads) (actions : List (ServerAction numThreads)) : List Served :=
  jobsOf t (threadActions actions)

/-- What the C interface of the agent wants of the server. -/
structure ServerSafe {numThreads : Nat} (o : MainOutcomes) (actions : List (ServerAction numThreads))
    (s : Server numThreads) : Prop where
  /-- A span and an event are used by one thread, ended once and then destroyed, and not used after that. -/
  handles : Respected ptProtocol PtCall.touches s.threads
  /-- The agent is called while it is up, and shut down and destroyed at most once. -/
  agent : ∃ q, exec agentNext .absent s.agentCalls = some q
  /-- A thread makes the calls of its requests, one request after the other. -/
  serves : ∀ t, onThread t s.threads.log ++ s.threads.rest t = (requestsOf t actions).flatMap Served.calls
  /-- At the end nothing is left: no handler runs, no span or event is live, and the agent is destroyed. -/
  ended : s.phase = .exited → s.Joined ∧ (∀ h, ptProtocol.holder PtCall.touches h s.threads.log = some none) ∧
    exec agentNext .absent s.agentCalls = some (if o.agent then .gone else .absent)

/-- In every run the handles of the agent's C interface are used as they should, by all threads and by `main`. -/
theorem civetweb_server_safe (numThreads : Nat) (o : MainOutcomes) (actions : List (ServerAction numThreads))
    {s : Server numThreads} (h : exec (serverStep o) Server.initial actions = some s) : ServerSafe o actions s := by
  have hinv : ServerInv o s := exec_invariant inv_serverStep h inv_initial
  have hthreads := exec_threads inv_initial h
  have hrespected : Respected ptProtocol PtCall.touches s.threads :=
    exec_respects Served.calls_closed (fun _ => Protocol.closed_nil) hthreads
  refine ⟨hrespected, ⟨_, hinv.agent⟩, fun t => ?_, fun hexited => ?_⟩
  · exact exec_onThread ptProtocol PtCall.touches Served.calls hthreads t
  · have hjoined : s.Joined := hinv.joined (by simp [hexited])
    refine ⟨hjoined, fun handle => ?_, ?_⟩
    · obtain ⟨_ | ⟨t, q⟩, ho⟩ := hrespected.used handle
      · exact ho
      · exact absurd ho (hrespected.idle t (hjoined t) handle q)
    · rw [hinv.agent, hexited]
      rfl

def usersRequest : MgRequestInfo := ⟨"GET", "/api/users", "10.0.0.1", 51000, []⟩

/-- Two of four threads serve a request at the same time; a third request gets the span that the first one gave
back. -/
def overlapping : List (ServerAction 4) :=
  [.main, .main, .request 0 ⟨.users, usersRequest, some 1, some 2⟩, .call 0, .call 0, .call 0,
    .request 1 ⟨.health, usersRequest, some 3, none⟩, .call 1, .call 1, .call 0, .call 0, .call 0, .call 1, .call 1,
    .call 0, .call 0, .request 0 ⟨.health, usersRequest, none, none⟩, .call 0,
    .request 2 ⟨.users, usersRequest, some 1, none⟩, .call 2, .call 1, .call 1, .call 1, .call 1, .call 2, .call 2,
    .call 2, .call 2, .call 2, .call 2, .call 2, .main, .main, .main]

theorem civetweb_server_safe_overlapping :
    ∃ s, exec (serverStep ⟨true, true⟩) Server.initial overlapping = some s ∧ s.phase = .exited ∧
      ServerSafe ⟨true, true⟩ overlapping s :=
  ⟨_, rfl, rfl, civetweb_server_safe 4 ⟨true, true⟩ overlapping rfl⟩

end PinpointExamples.Civetweb
