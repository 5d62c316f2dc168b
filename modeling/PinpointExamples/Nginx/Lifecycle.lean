import Mathlib
import PinpointExamples.Lib.Transition
import PinpointExamples.Nginx.Module

/-!
# The pre-fork contract of the nginx module

The processes of an nginx form a tree: a master that forks workers and helpers, each of which starts with a copy of
the memory of the master, or a single process.  A run is any sequence of forks and of callbacks in the processes.
The invariant says of each process how far its agent is (`AgentLife`); since the master never calls `init_process`,
its `g_agent` is null, and so is the one that a child starts with.  `prefork_contract` is the contract.
-/

namespace PinpointExamples.Nginx

open Transition

/-! ### Runs -/

/-- How far a process is: `init_process` and `exit_process` run at most once, in this order. -/
inductive Stage
  | created
  | running
  | exited
  deriving DecidableEq, Repr

/-- A process: what it is, the configuration it started with, and its `g_agent`. -/
structure Process where
  ngxProcess : NgxProcess
  mainConf : Option PinpointMainConf
  gAgent : Option PtAgent
  stage : Stage
  deriving DecidableEq, Repr

inductive Callback
  | initProcess
  | logHandler
  | exitProcess
  deriving DecidableEq, Repr

/-- One call of a callback: where it ran, and what it called. -/
structure Ran where
  pid : Pid
  callback : Callback
  calls : List PtCall
  deriving DecidableEq, Repr

structure State where
  processes : Pid → Option Process
  history : List Ran

/-- The first process: a master or, with `master_process off`, a single process with its configuration. -/
inductive Root
  | master
  | single (mainConf : Option PinpointMainConf)
  deriving DecidableEq, Repr

def Root.process : Root → Process
  | .master => ⟨.master, none, none, .created⟩
  | .single mainConf => ⟨.single, mainConf, none, .created⟩

def initial (pid : Pid) (root : Root) : State where
  processes pid' := if pid' = pid then some root.process else none
  history := []

/-- The processes a master forks; the cache manager and the cache loader are helpers. -/
inductive Child
  | worker
  | cacheManager
  | cacheLoader
  deriving DecidableEq, Repr

def Child.ngxProcess : Child → NgxProcess
  | .worker => .worker
  | .cacheManager => .helper
  | .cacheLoader => .helper

/-- A fork, with the configuration of the cycle in which it happens, or a callback of a process. -/
inductive Action
  | fork (parent pid : Pid) (child : Child) (mainConf : Option PinpointMainConf)
  | initProcess (pid : Pid) (o : InitOutcome)
  | logHandler (pid : Pid) (r : NgxRequest) (now : NgxTime) (o : LogOutcome)
  | exitProcess (pid : Pid)
  deriving DecidableEq, Repr

namespace State

def set (s : State) (pid : Pid) (p : Process) : State :=
  { s with processes := fun pid' => if pid' = pid then some p else s.processes pid' }

/-- A callback ran in the process and left it as `p`. -/
def ran (s : State) (pid : Pid) (p : Process) (callback : Callback) (calls : List PtCall) : State :=
  { s.set pid p with history := s.history ++ [⟨pid, callback, calls⟩] }

end State

/-- One step.  A child starts with the `g_agent` of its parent; requests may end at any time, even when the process
has already run its `exit_process`. -/
def step (nginxVersion : Str) (s : State) : Action → Option State
  | .fork parent pid child mainConf => do
    let p ← s.processes parent
    if p.ngxProcess = .master ∧ s.processes pid = none then
      some (s.set pid ⟨child.ngxProcess, mainConf, p.gAgent, .created⟩)
    else none
  | .initProcess pid o => do
    let p ← s.processes pid
    if p.ngxProcess ≠ .master ∧ p.stage = .created then
      let l := initProcess nginxVersion pid p.ngxProcess p.mainConf o p.gAgent
      some (s.ran pid { p with gAgent := l.gAgent, stage := .running } .initProcess l.calls)
    else none
  | .logHandler pid r now o => do
    let p ← s.processes pid
    if p.ngxProcess ≠ .master then some (s.ran pid p .logHandler (logHandler r now o p.gAgent)) else none
  | .exitProcess pid => do
    let p ← s.processes pid
    if p.stage = .running then
      let l := exitProcess p.gAgent
      some (s.ran pid { p with gAgent := l.gAgent, stage := .exited } .exitProcess l.calls)
    else none

/-- All calls made in a process, in order. -/
def callsOf (pid : Pid) (history : List Ran) : List PtCall :=
  (history.filter fun ran => ran.pid = pid).flatMap Ran.calls

/-! ### What a callback calls -/

/-- The calls that start and end an agent. -/
def isAgentLife : PtCall → Bool
  | .startAgent _ => true
  | .agentShutdown _ => true
  | .agentDestroy _ => true
  | _ => false

/-- The calls that begin and end a span and its event. -/
def isSpanLife : PtCall → Bool
  | .agentNewSpanWithMethod .. => true
  | .spanNewEventWithType .. => true
  | .spanEventEnd _ => true
  | .spanEventDestroy _ => true
  | .spanEnd _ => true
  | .spanDestroy _ => true
  | _ => false

/-- The agent that a call is made on. -/
def agentOf : PtCall → Option PtAgent
  | .agentShutdown agent => some agent
  | .agentDestroy agent => some agent
  | .agentIsEnabled agent _ => some agent
  | .agentNewSpanWithMethod agent .. => some agent
  | _ => none

/-- The span calls of a callback: no span, or one that is ended and then destroyed, with its event ended and
destroyed before. -/
inductive SpanLife : List PtCall → Prop
  | nothing : SpanLife []
  | noSpan (agent : PtAgent) (operation uri method : Str) (reader : List (List (Str × Str))) :
    SpanLife [.agentNewSpanWithMethod agent operation uri method reader none]
  | span (agent : PtAgent) (operation uri method : Str) (reader : List (List (Str × Str))) (span : SpanId) :
    SpanLife [.agentNewSpanWithMethod agent operation uri method reader (some span), .spanEnd span,
      .spanDestroy span]
  | upstream (agent : PtAgent) (operation uri method : Str) (reader : List (List (Str × Str))) (span : SpanId)
    (name : Str) (type : PtServiceType) (event : Option EventId) :
    SpanLife [.agentNewSpanWithMethod agent operation uri method reader (some span),
      .spanNewEventWithType span name type event, .spanEventEnd event, .spanEventDestroy event, .spanEnd span,
      .spanDestroy span]

/-- A call on an event is not one on an agent. -/
theorem agentLife_of_isEventCall {c : PtCall} (h : isEventCall c = true) :
    isAgentLife c = false ∧ agentOf c = none := by
  cases c <;>
    first
    | exact ⟨rfl, rfl⟩
    | cases h

section callbacks

variable (span : SpanId) (r : NgxRequest) (endMs : Int64) (now : NgxTime) (event : Option EventId)

private theorem recordUpstream_spanLife :
    (recordUpstream span r endMs event).filter isSpanLife = [] ∨
      (recordUpstream span r endMs event).filter isSpanLife =
        [.spanNewEventWithType span "upstream" .cppHttpClient event, .spanEventEnd event,
          .spanEventDestroy event] := by
  unfold recordUpstream
  split
  · exact .inl rfl
  · split
    · exact .inl rfl
    · rename_i last _
      refine .inr ?_
      cases last.peer <;> by_cases hs : last.status ≠ 0 <;> simp [hs, isSpanLife, List.filter_cons]

private theorem recordUpstream_agentLife :
    ∀ c ∈ recordUpstream span r endMs event, isAgentLife c = false ∧ agentOf c = none :=
  fun c hc => agentLife_of_isEventCall (isEventCall_recordUpstream span r event endMs c hc)

private theorem spanCalls_agentLife : ∀ c ∈ spanCalls span r now event, isAgentLife c = false ∧ agentOf c = none := by
  have hupstream := recordUpstream_agentLife span r (toMs now.sec now.msec) event
  unfold spanCalls
  simp only [List.forall_mem_cons, List.forall_mem_append]
  refine ⟨⟨rfl, rfl⟩, ⟨rfl, rfl⟩, ?_, ⟨rfl, rfl⟩, ⟨rfl, rfl⟩, hupstream, ⟨rfl, rfl⟩, ⟨rfl, rfl⟩,
    List.forall_mem_nil _⟩
  split <;> simp [isAgentLife, agentOf]

private theorem spanCalls_spanLife : (spanCalls span r now event).filter isSpanLife =
    (recordUpstream span r (toMs now.sec now.msec) event).filter isSpanLife ++
      [.spanEnd span, .spanDestroy span] := by
  unfold spanCalls
  by_cases hs : 0 < r.server.length <;> simp [hs, isSpanLife, List.filter_cons]

/-- The log handler starts and ends no agent, calls the one it is given, and ends the span it makes. -/
theorem logHandler_spec (o : LogOutcome) (gAgent : Option PtAgent) :
    (logHandler r now o gAgent).filter isAgentLife = [] ∧
    (∀ c ∈ logHandler r now o gAgent, ∀ agent, agentOf c = some agent → gAgent = some agent) ∧
    SpanLife ((logHandler r now o gAgent).filter isSpanLife) := by
  cases gAgent with
  | none => exact ⟨rfl, by simp [logHandler], .nothing⟩
  | some agent =>
    unfold logHandler
    dsimp only
    split
    · exact ⟨rfl, by simp [agentOf], .nothing⟩
    · split
      · exact ⟨rfl, by simp [agentOf], .nothing⟩
      · split
        · rename_i hspan
          refine ⟨rfl, by simp [agentOf], ?_⟩
          rw [hspan]
          exact .noSpan ..
        · rename_i span hspan
          have hcalls := spanCalls_agentLife span r now o.event
          refine ⟨?_, ?_, ?_⟩
          · have hnone : (spanCalls span r now o.event).filter isAgentLife = [] :=
              List.filter_eq_nil_iff.2 fun c hc => by simp [(hcalls c hc).1]
            rw [List.filter_append, hnone]
            rfl
          · intro c hc agent' ha
            rcases List.mem_append.1 hc with hc | hc
            · simp only [List.mem_cons, List.not_mem_nil, or_false] at hc
              rcases hc with rfl | rfl
              · exact ha
              · exact ha
            · rw [(hcalls c hc).2] at ha
              cases ha
          · rw [List.filter_append, spanCalls_spanLife, hspan]
            rcases recordUpstream_spanLife span r (toMs now.sec now.msec) o.event with h | h
            · rw [h]
              exact .span ..
            · rw [h]
              exact .upstream ..

end callbacks

private theorem optionCalls_life (nginxVersion : Str) (pmcf : PinpointMainConf) :
    ∀ c ∈ optionCalls nginxVersion pmcf, isAgentLife c = false ∧ isSpanLife c = false ∧ agentOf c = none := by
  unfold optionCalls
  split <;> simp [isAgentLife, isSpanLife, agentOf]

/-- The process serves requests, and started with the module enabled. -/
def Process.Traces (p : Process) : Prop :=
  (p.ngxProcess = .worker ∨ p.ngxProcess = .single) ∧ ∃ pmcf, p.mainConf = some pmcf ∧ pmcf.enable = 1

/-- `init_process` leaves `g_agent` alone, with a failed start or none, or starts the agent of the process; it does
either only in a process that traces. -/
theorem initProcess_spec (nginxVersion : Str) (self : Pid) (p : Process) (o : InitOutcome) :
    let l := initProcess nginxVersion self p.ngxProcess p.mainConf o p.gAgent
    (∀ c ∈ l.calls, isSpanLife c = false ∧ agentOf c = none) ∧ (¬ p.Traces → l.calls = []) ∧
      ((l.gAgent = p.gAgent ∧
          (l.calls.filter isAgentLife = [] ∨ l.calls.filter isAgentLife = [.startAgent false])) ∨
        p.Traces ∧ l.gAgent = some ⟨self⟩ ∧ l.calls.filter isAgentLife = [.startAgent true]) := by
  intro l
  by_cases hkind : p.ngxProcess ≠ .worker ∧ p.ngxProcess ≠ .single
  · have hl : l = ⟨[], [], p.gAgent⟩ := if_pos hkind
    rw [hl]
    exact ⟨by simp, fun _ => rfl, .inl ⟨rfl, .inl rfl⟩⟩
  · rcases hconf : p.mainConf with _ | pmcf
    · have hl : l = ⟨[], [], p.gAgent⟩ := by simp [l, initProcess, hconf]
      rw [hl]
      exact ⟨by simp, fun _ => rfl, .inl ⟨rfl, .inl rfl⟩⟩
    · by_cases henable : pmcf.enable = 1
      · have htraces : p.Traces := by
          refine ⟨?_, pmcf, hconf, henable⟩
          rw [not_and_or, not_not, not_not] at hkind
          exact hkind
        have hopts := optionCalls_life nginxVersion pmcf
        have hlife : (optionCalls nginxVersion pmcf).filter isAgentLife = [] :=
          List.filter_eq_nil_iff.2 fun c hc => by simp [(hopts c hc).1]
        rcases ho : o with ⟨optionsNew, startAgent⟩
        cases optionsNew with
        | false =>
          have hl : l = ⟨[.agentOptionsNew false], ["pinpoint: agent options allocation failed"], p.gAgent⟩ := by
            simp only [l, initProcess, if_neg hkind, hconf, henable, ho]
            rfl
          rw [hl]
          exact ⟨by simp [isSpanLife, agentOf], fun h => absurd htraces h, .inl ⟨rfl, .inl rfl⟩⟩
        | true =>
          -- setting the options makes no span and asks no agent
          have hspans : ∀ c ∈ optionCalls nginxVersion pmcf, isSpanLife c = false ∧ agentOf c = none :=
            fun c hc => (hopts c hc).2
          cases startAgent with
          | false =>
            have hcalls : l.calls =
                .agentOptionsNew true :: optionCalls nginxVersion pmcf ++ [.startAgent false, .agentOptionsFree] := by
              simp only [l, initProcess, if_neg hkind, hconf, henable, ho]
              rfl
            have hagent : l.gAgent = p.gAgent := by
              simp only [l, initProcess, if_neg hkind, hconf, henable, ho]
              rfl
            refine ⟨?_, fun h => absurd htraces h, .inl ⟨hagent, .inr ?_⟩⟩
            · rw [hcalls, List.cons_append, List.forall_mem_cons, List.forall_mem_append]
              exact ⟨⟨rfl, rfl⟩, hspans, by simp [isSpanLife, agentOf]⟩
            · rw [hcalls, List.filter_append, List.filter_cons_of_neg (by simp [isAgentLife]), hlife]
              rfl
          | true =>
            have hcalls : l.calls = .agentOptionsNew true :: optionCalls nginxVersion pmcf ++
                [.startAgent true, .globalAgent, .agentOptionsFree] := by
              simp only [l, initProcess, if_neg hkind, hconf, henable, ho]
              rfl
            have hagent : l.gAgent = some ⟨self⟩ := by
              simp only [l, initProcess, if_neg hkind, hconf, henable, ho]
              rfl
            refine ⟨?_, fun h => absurd htraces h, .inr ⟨htraces, hagent, ?_⟩⟩
            · rw [hcalls, List.cons_append, List.forall_mem_cons, List.forall_mem_append]
              exact ⟨⟨rfl, rfl⟩, hspans, by simp [isSpanLife, agentOf]⟩
            · rw [hcalls, List.filter_append, List.filter_cons_of_neg (by simp [isAgentLife]), hlife]
              rfl
      · have hl : l = ⟨[], [], p.gAgent⟩ := by simp [l, initProcess, hconf, henable]
        rw [hl]
        exact ⟨by simp, fun _ => rfl, .inl ⟨rfl, .inl rfl⟩⟩

/-! ### The invariant -/

/-- How far the agent of a process is, given all calls made in it. -/
inductive AgentLife (pid : Pid) (p : Process) (calls : List PtCall) : Prop
  | created (stage : p.stage = .created) (gAgent : p.gAgent = none) (none : calls = [])
  | untraced (stage : p.stage ≠ .created) (gAgent : p.gAgent = none)
    (life : calls.filter isAgentLife = [] ∨ calls.filter isAgentLife = [.startAgent false])
  | started (stage : p.stage = .running) (gAgent : p.gAgent = some ⟨pid⟩) (traces : p.Traces)
    (life : calls.filter isAgentLife = [.startAgent true])
  | ended (stage : p.stage = .exited) (gAgent : p.gAgent = none) (before : List PtCall)
    (calls : calls = before ++ [.agentDestroy ⟨pid⟩])
    (life : before.filter isAgentLife = [.startAgent true, .agentShutdown ⟨pid⟩])

/-- A process that does not trace makes no calls, and a process calls no agent but its own. -/
structure ProcessInv (pid : Pid) (p : Process) (calls : List PtCall) : Prop where
  quiet : ¬ p.Traces → calls = []
  own : ∀ c ∈ calls, ∀ agent, agentOf c = some agent → agent = ⟨pid⟩
  life : AgentLife pid p calls

/-- What a callback may call: only the log handler makes spans, and only `exit_process` ends agents. -/
structure RanInv (ran : Ran) : Prop where
  spans : SpanLife (ran.calls.filter isSpanLife)
  spansIn : ran.callback ≠ .logHandler → ran.calls.filter isSpanLife = []
  endsIn : ran.callback ≠ .exitProcess → ∀ agent, .agentShutdown agent ∉ ran.calls ∧ .agentDestroy agent ∉ ran.calls

structure Inv (s : State) : Prop where
  processes : ∀ pid p, s.processes pid = some p → ProcessInv pid p (callsOf pid s.history)
  master : ∀ pid p, s.processes pid = some p → p.ngxProcess = .master → p.gAgent = none ∧ p.stage = .created
  known : ∀ ran ∈ s.history, s.processes ran.pid ≠ none
  history : ∀ ran ∈ s.history, RanInv ran

private theorem callsOf_snoc (pid : Pid) (history : List Ran) (ran : Ran) :
    callsOf pid (history ++ [ran]) = callsOf pid history ++ if ran.pid = pid then ran.calls else [] := by
  unfold callsOf
  rw [List.filter_append, List.flatMap_append]
  by_cases h : ran.pid = pid <;> simp [h]

/-- A process that no callback ran in made no calls. -/
theorem callsOf_of_unknown {pid : Pid} {history : List Ran} (h : ∀ ran ∈ history, ran.pid ≠ pid) :
    callsOf pid history = [] := by
  unfold callsOf
  rw [List.filter_eq_nil_iff.2 fun ran hr => by simpa using h ran hr]
  rfl

section inv

variable {s : State} {pid : Pid} {p p' : Process} {calls : List PtCall}

theorem inv_initial (pid : Pid) (root : Root) : Inv (initial pid root) := by
  refine ⟨?_, ?_, by simp [initial], by simp [initial]⟩
  · intro pid' p hp
    unfold initial at hp
    dsimp only at hp
    split at hp
    · cases hp
      cases root
      all_goals exact ⟨fun _ => rfl, by simp [initial, callsOf], .created rfl rfl rfl⟩
    · cases hp
  · intro pid' p hp hmaster
    unfold initial at hp
    dsimp only at hp
    split at hp
    · cases hp
      cases root
      · exact ⟨rfl, rfl⟩
      · cases hmaster
    · cases hp

/-- A forked child starts without an agent, since its parent has none. -/
theorem Inv.fork (h : Inv s) (hfree : s.processes pid = none) (hagent : p.gAgent = none) (hstage : p.stage = .created)
    (hkind : p.ngxProcess ≠ .master) : Inv (s.set pid p) := by
  -- the pid is free, so nothing of it is in the history
  have hunknown : ∀ ran ∈ s.history, ran.pid ≠ pid := by
    rintro ran hr rfl
    exact h.known ran hr hfree
  refine ⟨?_, ?_, ?_, h.history⟩
  · intro pid' p' hp'
    unfold State.set at hp'
    dsimp only at hp'
    split at hp'
    · rename_i he
      cases hp'
      subst he
      have hcalls : callsOf pid' (s.set pid' p).history = [] := callsOf_of_unknown hunknown
      rw [hcalls]
      exact ⟨fun _ => rfl, by simp, .created hstage hagent rfl⟩
    · exact h.processes pid' p' hp'
  · intro pid' p' hp' hmaster
    unfold State.set at hp'
    dsimp only at hp'
    split at hp'
    · cases hp'
      exact absurd hmaster hkind
    · exact h.master pid' p' hp' hmaster
  · intro ran hr
    unfold State.set
    dsimp only
    split
    · exact Option.some_ne_none _
    · exact h.known ran hr

/-- A callback that keeps the invariant of its process keeps the invariant. -/
theorem Inv.ran (h : Inv s) {callback : Callback} (hp : s.processes pid = some p)
    (hp' : ProcessInv pid p' (callsOf pid s.history ++ calls)) (hkind : p'.ngxProcess ≠ .master)
    (hran : RanInv ⟨pid, callback, calls⟩) : Inv (s.ran pid p' callback calls) := by
  refine ⟨?_, ?_, ?_, ?_⟩
  · intro pid' q hq
    have hhistory : (s.ran pid p' callback calls).history = s.history ++ [⟨pid, callback, calls⟩] := rfl
    rw [hhistory, callsOf_snoc]
    unfold State.ran State.set at hq
    dsimp only at hq ⊢
    split at hq
    · rename_i he
      cases hq
      subst he
      rw [if_pos rfl]
      exact hp'
    · rename_i hne
      rw [if_neg (Ne.symm hne), List.append_nil]
      exact h.processes pid' q hq
  · intro pid' q hq hmaster
    unfold State.ran State.set at hq
    dsimp only at hq
    split at hq
    · cases hq
      exact absurd hmaster hkind
    · exact h.master pid' q hq hmaster
  · intro ran hr
    unfold State.ran State.set
    dsimp only
    split
    · exact Option.some_ne_none _
    · rename_i hne
      rcases List.mem_append.1 hr with hr | hr
      · exact h.known ran hr
      · cases List.mem_singleton.1 hr
        exact absurd rfl hne
  · intro ran hr
    rcases List.mem_append.1 hr with hr | hr
    · exact h.history ran hr
    · cases List.mem_singleton.1 hr
      exact hran

theorem ProcessInv.initProcess (nginxVersion : Str) (o : InitOutcome) (h : ProcessInv pid p calls)
    (hstage : p.stage = .created) :
    let l := Nginx.initProcess nginxVersion pid p.ngxProcess p.mainConf o p.gAgent
    ProcessInv pid { p with gAgent := l.gAgent, stage := .running } (calls ++ l.calls) ∧
      RanInv ⟨pid, .initProcess, l.calls⟩ := by
  intro l
  obtain ⟨hnone, hquiet, hlife⟩ := initProcess_spec nginxVersion pid p o
  have hspans : l.calls.filter isSpanLife = [] := List.filter_eq_nil_iff.2 fun c hc => by simp [(hnone c hc).1]
  have hends (agent : PtAgent) : .agentShutdown agent ∉ l.calls ∧ .agentDestroy agent ∉ l.calls := by
    constructor
    · intro hm
      cases (hnone _ hm).2
    · intro hm
      cases (hnone _ hm).2
  refine ⟨?_, ⟨hspans ▸ .nothing, fun _ => hspans, fun _ => hends⟩⟩
  cases h.life with
  | created _ hagent hcalls =>
    rw [hcalls, List.nil_append]
    refine ⟨hquiet, ?_, ?_⟩
    · intro c hc agent ha
      rw [(hnone c hc).2] at ha
      cases ha
    · rcases hlife with ⟨hl, hlife⟩ | ⟨htraces, hl, hlife⟩
      · exact .untraced (fun hs => nomatch hs) (hl.trans hagent) hlife
      · exact .started rfl hl htraces hlife
  | untraced hs => exact absurd hstage hs
  | started hs =>
    rw [hs] at hstage
    cases hstage
  | ended hs =>
    rw [hs] at hstage
    cases hstage

theorem ProcessInv.logHandler (r : NgxRequest) (now : NgxTime) (o : LogOutcome) (h : ProcessInv pid p calls) :
    ProcessInv pid p (calls ++ Nginx.logHandler r now o p.gAgent) ∧
      RanInv ⟨pid, .logHandler, Nginx.logHandler r now o p.gAgent⟩ := by
  obtain ⟨hlife, hagent, hspans⟩ := logHandler_spec r now o p.gAgent
  have hends (agent : PtAgent) : .agentShutdown agent ∉ Nginx.logHandler r now o p.gAgent ∧
      .agentDestroy agent ∉ Nginx.logHandler r now o p.gAgent := by
    rw [List.filter_eq_nil_iff] at hlife
    exact ⟨fun hm => hlife _ hm rfl, fun hm => hlife _ hm rfl⟩
  refine ⟨?_, ⟨hspans, fun hne => absurd rfl hne, fun _ => hends⟩⟩
  -- without an agent the handler does nothing
  have hidle (hnull : p.gAgent = none) : ProcessInv pid p (calls ++ Nginx.logHandler r now o p.gAgent) := by
    have hcalls : calls ++ Nginx.logHandler r now o p.gAgent = calls := by
      rw [hnull]
      exact List.append_nil calls
    rw [hcalls]
    exact h
  cases h.life with
  | created _ hnull => exact hidle hnull
  | untraced _ hnull => exact hidle hnull
  | ended _ hnull => exact hidle hnull
  | started hs hown htraces hstarted =>
    refine ⟨fun hno => absurd htraces hno, ?_, .started hs hown htraces ?_⟩
    · intro c hc agent ha
      rcases List.mem_append.1 hc with hc | hc
      · exact h.own c hc agent ha
      · have hsame := hagent c hc agent ha
        rw [hown, Option.some.injEq] at hsame
        exact hsame.symm
    · rw [List.filter_append, hlife, List.append_nil, hstarted]

theorem ProcessInv.exitProcess (h : ProcessInv pid p calls) (hstage : p.stage = .running) :
    let l := Nginx.exitProcess p.gAgent
    ProcessInv pid { p with gAgent := l.gAgent, stage := .exited } (calls ++ l.calls) ∧
      RanInv ⟨pid, .exitProcess, l.calls⟩ := by
  intro l
  cases h.life with
  | created hs =>
    rw [hs] at hstage
    cases hstage
  | untraced _ hnull hlife =>
    have hl : l = ⟨[], [], none⟩ := by simp [l, Nginx.exitProcess, hnull]
    rw [hl, List.append_nil]
    exact ⟨⟨h.quiet, h.own, .untraced (fun hs => nomatch hs) rfl hlife⟩,
      ⟨.nothing, fun _ => rfl, fun hne => absurd rfl hne⟩⟩
  | started _ hown htraces hlife =>
    have hl : l = ⟨[.agentShutdown ⟨pid⟩, .agentDestroy ⟨pid⟩], [], none⟩ := by simp [l, Nginx.exitProcess, hown]
    rw [hl]
    refine ⟨⟨fun hno => absurd htraces hno, ?_, .ended rfl rfl (calls ++ [.agentShutdown ⟨pid⟩]) (by simp) ?_⟩,
      ⟨.nothing, fun _ => rfl, fun hne => absurd rfl hne⟩⟩
    · intro c hc agent ha
      rcases List.mem_append.1 hc with hc | hc
      · exact h.own c hc agent ha
      · simp only [List.mem_cons, List.not_mem_nil, or_false] at hc
        rcases hc with rfl | rfl
        · exact (Option.some.inj ha).symm
        · exact (Option.some.inj ha).symm
    · rw [List.filter_append, hlife]
      rfl
  | ended hs =>
    rw [hs] at hstage
    cases hstage

/-- Every step keeps the invariant. -/
theorem inv_step (nginxVersion : Str) (s : State) (a : Action) (s' : State) (h : Inv s)
    (hs : step nginxVersion s a = some s') : Inv s' := by
  cases a with
  | fork parent pid child mainConf =>
    obtain ⟨p, hp, hs⟩ := Option.bind_eq_some_iff.1 hs
    split at hs
    · rename_i hcond
      cases hs
      refine h.fork hcond.2 (h.master parent p hp hcond.1).1 rfl ?_
      cases child <;> exact fun hk => nomatch hk
    · cases hs
  | initProcess pid o =>
    obtain ⟨p, hp, hs⟩ := Option.bind_eq_some_iff.1 hs
    split at hs
    · rename_i hcond
      cases hs
      obtain ⟨hinv, hran⟩ := (h.processes pid p hp).initProcess nginxVersion o hcond.2
      exact h.ran hp hinv hcond.1 hran
    · cases hs
  | logHandler pid r now o =>
    obtain ⟨p, hp, hs⟩ := Option.bind_eq_some_iff.1 hs
    split at hs
    · rename_i hkind
      cases hs
      obtain ⟨hinv, hran⟩ := (h.processes pid p hp).logHandler r now o
      exact h.ran hp hinv hkind hran
    · cases hs
  | exitProcess pid =>
    obtain ⟨p, hp, hs⟩ := Option.bind_eq_some_iff.1 hs
    split at hs
    · rename_i hstage
      cases hs
      -- the master never runs
      have hkind : p.ngxProcess ≠ .master := by
        intro hmaster
        rw [(h.master pid p hp hmaster).2] at hstage
        cases hstage
      obtain ⟨hinv, hran⟩ := (h.processes pid p hp).exitProcess hstage
      exact h.ran hp hinv hkind hran
    · cases hs

end inv

/-! ### The contract -/

/-- The calls that start and end agents in a process. -/
def agentLifeOf (pid : Pid) (history : List Ran) : List PtCall := (callsOf pid history).filter isAgentLife

structure PreForkContract (s : State) : Prop where
  /-- There are no calls but in processes that serve requests and started with the module enabled. -/
  quiet : ∀ pid p, s.processes pid = some p → ¬ p.Traces → callsOf pid s.history = []
  /-- A process starts at most one agent; one that was started is shut down and then destroyed once, at the exit. -/
  agent : ∀ pid p, s.processes pid = some p →
    agentLifeOf pid s.history = [] ∨ agentLifeOf pid s.history = [.startAgent false] ∨
      p.stage ≠ .exited ∧ agentLifeOf pid s.history = [.startAgent true] ∨
      p.stage = .exited ∧
        agentLifeOf pid s.history = [.startAgent true, .agentShutdown ⟨pid⟩, .agentDestroy ⟨pid⟩]
  atExit : ∀ ran ∈ s.history, ran.callback ≠ .exitProcess →
    ∀ agent, .agentShutdown agent ∉ ran.calls ∧ .agentDestroy agent ∉ ran.calls
  /-- No agent but that of the process is called. -/
  own : ∀ pid, ∀ c ∈ callsOf pid s.history, ∀ agent, agentOf c = some agent → agent = ⟨pid⟩
  /-- After the agent is destroyed there are no more calls. -/
  last : ∀ pid before agent after, callsOf pid s.history = before ++ .agentDestroy agent :: after → after = []
  /-- A span is ended once and destroyed once in the log handler that made it, and its event before. -/
  spans : ∀ ran ∈ s.history, SpanLife (ran.calls.filter isSpanLife)
  spansIn : ∀ ran ∈ s.history, ran.callback ≠ .logHandler → ran.calls.filter isSpanLife = []

private theorem Inv.callsOf_of_none {s : State} (h : Inv s) {pid : Pid} (hp : s.processes pid = none) :
    callsOf pid s.history = [] := by
  apply callsOf_of_unknown
  rintro ran hr rfl
  exact h.known ran hr hp

private theorem AgentLife.agentLife {pid : Pid} {p : Process} {calls : List PtCall} (h : AgentLife pid p calls) :
    calls.filter isAgentLife = [] ∨ calls.filter isAgentLife = [.startAgent false] ∨
      p.stage ≠ .exited ∧ calls.filter isAgentLife = [.startAgent true] ∨
      p.stage = .exited ∧
        calls.filter isAgentLife = [.startAgent true, .agentShutdown ⟨pid⟩, .agentDestroy ⟨pid⟩] := by
  cases h with
  | created _ _ hcalls =>
    rw [hcalls]
    exact .inl rfl
  | untraced _ _ hlife => exact hlife.imp_right .inl
  | started hs _ _ hlife =>
    refine .inr (.inr (.inl ⟨?_, hlife⟩))
    rw [hs]
    exact fun he => nomatch he
  | ended hs _ before hcalls hlife =>
    refine .inr (.inr (.inr ⟨hs, ?_⟩))
    rw [hcalls, List.filter_append, hlife]
    rfl

/-- What is destroyed is destroyed by the last call. -/
theorem AgentLife.last {pid : Pid} {p : Process} {calls before after : List PtCall} {agent : PtAgent}
    (h : AgentLife pid p calls) (hsplit : calls = before ++ .agentDestroy agent :: after) : after = [] := by
  have hmem : .agentDestroy agent ∈ calls.filter isAgentLife := by
    rw [hsplit]
    simp [isAgentLife]
  cases h with
  | created _ _ hcalls =>
    rw [hcalls] at hmem
    cases hmem
  | untraced _ _ hlife =>
    rcases hlife with hlife | hlife
    · rw [hlife] at hmem
      cases hmem
    · rw [hlife] at hmem
      simp at hmem
  | started _ _ _ hlife =>
    rw [hlife] at hmem
    simp at hmem
  | ended _ _ before' hcalls hlife =>
    rcases List.eq_nil_or_concat after with rfl | ⟨rest, c, rfl⟩
    · rfl
    · -- then the agent was destroyed before the last call, too
      rw [hsplit, List.concat_eq_append, ← List.cons_append, ← List.append_assoc] at hcalls
      have hbefore := (List.append_inj_left' hcalls rfl).symm
      have hearlier : .agentDestroy agent ∈ before'.filter isAgentLife := by
        rw [hbefore]
        simp [isAgentLife]
      rw [hlife] at hearlier
      simp at hearlier

/-- The pre-fork contract holds after every run, from a master or from a single process. -/
theorem prefork_contract (nginxVersion : Str) (pid : Pid) (root : Root) (actions : List Action) {s : State}
    (h : exec (step nginxVersion) (initial pid root) actions = some s) : PreForkContract s := by
  have hinv : Inv s := exec_invariant (inv_step nginxVersion) h (inv_initial pid root)
  refine ⟨fun pid p hp => (hinv.processes pid p hp).quiet, fun pid p hp => (hinv.processes pid p hp).life.agentLife,
    fun ran hr => (hinv.history ran hr).endsIn, ?_, ?_, fun ran hr => (hinv.history ran hr).spans,
    fun ran hr => (hinv.history ran hr).spansIn⟩
  · intro pid c hc
    rcases hp : s.processes pid with _ | p
    · rw [hinv.callsOf_of_none hp] at hc
      cases hc
    · exact (hinv.processes pid p hp).own c hc
  · intro pid before agent after hsplit
    rcases hp : s.processes pid with _ | p
    · rw [hinv.callsOf_of_none hp] at hsplit
      simp at hsplit
    · exact (hinv.processes pid p hp).life.last hsplit

/-- A request that was proxied. -/
def proxiedRequest : NgxRequest where
  isMain := true
  uri := "/api"
  methodName := "GET"
  addrText := "10.0.0.1"
  server := "localhost"
  headersIn := [[("Host", "localhost")]]
  startSec := 1
  startMsec := 0
  errStatus := 0
  status := 200
  upstreamStates := some [⟨some "10.0.0.3:80", 20, 200⟩]

/-- A master forks a worker and a cache manager; the worker serves a request and exits. -/
def workerRun : List Action :=
  [.fork 1 2 .worker (some ⟨1, []⟩), .fork 1 3 .cacheManager (some ⟨1, []⟩), .initProcess 2 ⟨true, true⟩,
    .initProcess 3 ⟨true, true⟩, .logHandler 2 proxiedRequest ⟨1, 30⟩ ⟨true, some 7, some 8⟩, .exitProcess 2]

theorem prefork_contract_workerRun :
    ∃ s, exec (step "1.28.0") (initial 1 .master) workerRun = some s ∧ PreForkContract s :=
  ⟨_, rfl, prefork_contract "1.28.0" 1 .master workerRun rfl⟩

end PinpointExamples.Nginx
