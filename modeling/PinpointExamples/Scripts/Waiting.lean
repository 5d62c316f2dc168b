import Mathlib
import PinpointExamples.Lib.Rounds
import PinpointExamples.Text

/-!
# Waiting for the demos

`wait_for_port`, `wait_for_http` and `wait_agent_ready` are one loop: a probe, a look at `date`, a second of sleep.
They end with the first probe that succeeds, if no look at `date` before it came too late, and with a time-out
otherwise; the first two then end the script, the third only warns (`waits_exact`).
-/

namespace PinpointExamples.Scripts

open Rounds

def decimalText (n : Nat) : Str := (toString n).toList

/-- `date +%s` at a time in milliseconds. -/
def seconds (ms : Nat) : Nat := ms / 1000

/-- What happens in a pass of the loop: how long the probe takes and whether it succeeds, and how much longer than a
second `sleep 1` takes. -/
structure Pass where
  probeMs : Nat
  found : Bool
  oversleepMs : Nat
  deriving DecidableEq, Repr

/-- Whether the wait was successful, and when it ended. -/
structure PollEnd where
  ready : Bool
  endMs : Nat
  deriving DecidableEq, Repr

/-- A pass of the loop; `now` is the time before it. -/
def pollPass (start timeout : Nat) (pass : Pass) (now : Nat) : PollEnd ⊕ Nat :=
  let now := now + pass.probeMs
  if pass.found then .inl ⟨true, now⟩
  else if timeout ≤ seconds now - start then .inl ⟨false, now⟩
  else .inr (now + 1000 + pass.oversleepMs)

/-- How the function ends: it returns, also after a warning, or `die` ends the script. -/
inductive Ending
  | returns
  | warns (message : Str)
  | dies (message : Str)
  deriving DecidableEq, Repr

structure WaitReport where
  log : List Str
  ending : Ending
  endMs : Nat
  deriving DecidableEq, Repr

/-- The loop with the messages around it; `startMs` is the time it begins. -/
def poll (announce : Str) (onReady : List Str) (onTimeout : Ending) (timeout : Nat) (passes : Nat → Pass)
    (startMs : Nat) : Option WaitReport :=
  (run (pollPass (seconds startMs) timeout) passes (timeout + 1) 0 startMs).map fun r =>
    if r.2.ready then ⟨announce :: onReady, .returns, r.2.endMs⟩ else ⟨[announce], onTimeout, r.2.endMs⟩

def portTimeout (host : Str) (port : Nat) : Ending :=
  .dies ("timed out waiting for " ++ host ++ ":" ++ decimalText port)

def waitForPort (host : Str) (port timeout : Nat) : (Nat → Pass) → Nat → Option WaitReport :=
  poll ("waiting for " ++ host ++ ":" ++ decimalText port ++ " (up to " ++ decimalText timeout ++ "s)") []
    (portTimeout host port) timeout

def httpTimeout (url : Str) : Ending := .dies ("timed out waiting for " ++ url)

def waitForHttp (url : Str) (timeout : Nat) : (Nat → Pass) → Nat → Option WaitReport :=
  poll ("waiting for HTTP " ++ url ++ " (up to " ++ decimalText timeout ++ "s)") []
    (httpTimeout url) timeout

/-- A pass of `wait_agent_ready`: the lines that `grep -c` counts, if the log is there. -/
structure AgentPass where
  probeMs : Nat
  registrations : Option Nat
  oversleepMs : Nat
  deriving DecidableEq, Repr

def AgentPass.pass (count : Nat) (p : AgentPass) : Pass where
  probeMs := p.probeMs
  found := count ≤ p.registrations.getD 0
  oversleepMs := p.oversleepMs

def agentLogPath (runDir name : Str) : Str := runDir ++ "/" ++ name ++ ".agent.log"

def agentTimeout (runDir name : Str) (timeout : Nat) : Ending :=
  .warns (name ++ " agent did not register within " ++ decimalText timeout ++
    "s — continuing, but the spans will not show up in the UI (see " ++ agentLogPath runDir name ++ ")")

def waitAgentReady (runDir name : Str) (count timeout : Nat) (passes : Nat → AgentPass) :
    Nat → Option WaitReport :=
  poll ("waiting for " ++ name ++ " agent registration (up to " ++ decimalText timeout ++ "s)")
    ["  " ++ name ++ " agent registered"] (agentTimeout runDir name timeout) timeout fun k => (passes k).pass count

/-- `wait_agents_ready`, with the defaults of `wait_agent_ready`: the reports of its waits. -/
def waitAgentsReady (runDir : Str) (passes : Str → Nat → AgentPass) : List Str → Nat → Option (List WaitReport)
  | [], _ => some []
  | name :: procs, startMs => do
    let report ← waitAgentReady runDir name 1 60 (passes name) startMs
    let reports ← waitAgentsReady runDir passes procs report.endMs
    pure (report :: reports)

/-! ### When a wait ends -/

section poll

variable (passes : Nat → Pass) (startMs timeout : Nat)

/-- When the probe of pass `k` begins, if there is one. -/
def probeStart : Nat → Nat
  | 0 => startMs
  | k + 1 => probeStart k + (passes k).probeMs + 1000 + (passes k).oversleepMs

def probeEnd (k : Nat) : Nat := probeStart passes startMs k + (passes k).probeMs

/-- The wait ends with the probe of pass `k`. -/
structure EndsWith (k : Nat) (ready : Bool) : Prop where
  /-- the probes before it failed, and in time for another one -/
  before : ∀ j < k, (passes j).found = false ∧ seconds (probeEnd passes startMs j) < seconds startMs + timeout
  verdict : ready = (passes k).found
  /-- only a probe that ends too late ends the wait without success -/
  late : ready = false → seconds startMs + timeout ≤ seconds (probeEnd passes startMs k)

private theorem startMs_le_probeStart (k : Nat) : startMs ≤ probeStart passes startMs k := by
  induction k with
  | zero => exact le_rfl
  | succ k ih =>
    rw [probeStart]
    omega

private theorem seconds_startMs_le (k : Nat) : seconds startMs ≤ seconds (probeEnd passes startMs k) := by
  have hstart := startMs_le_probeStart passes startMs k
  unfold seconds probeEnd
  omega

variable {passes startMs timeout}

private theorem pollPass_eq_inr {start now now' : Nat} {pass : Pass}
    (h : pollPass start timeout pass now = .inr now') :
    pass.found = false ∧ seconds (now + pass.probeMs) - start < timeout ∧
      now' = now + pass.probeMs + 1000 + pass.oversleepMs := by
  simp only [pollPass] at h
  split at h
  · cases h
  · rename_i hfound
    split at h
    · cases h
    · rename_i htime
      exact ⟨by simpa using hfound, by omega, (Sum.inr.inj h).symm⟩

private theorem pollPass_eq_inl {start now : Nat} {pass : Pass} {r : PollEnd}
    (h : pollPass start timeout pass now = .inl r) :
    r = ⟨pass.found, now + pass.probeMs⟩ ∧ (pass.found = false → timeout ≤ seconds (now + pass.probeMs) - start) := by
  simp only [pollPass] at h
  split at h
  · rename_i hfound
    exact ⟨by rw [← Sum.inl.inj h, hfound], fun hnot => absurd (hfound.symm.trans hnot) (by decide)⟩
  · rename_i hfound
    split at h
    · rename_i htime
      exact ⟨by rw [← Sum.inl.inj h, Bool.eq_false_iff.2 hfound], fun _ => htime⟩
    · cases h

private theorem before_pollPass {k now : Nat}
    (h : before (pollPass (seconds startMs) timeout) passes startMs k = some now) :
    now = probeStart passes startMs k := by
  refine before_induction (I := fun k now => now = probeStart passes startMs k) rfl ?_ h
  intro k now now' hnow hgo
  obtain ⟨-, -, rfl⟩ := pollPass_eq_inr hgo
  rw [hnow, probeStart]

/-- The loop leaves with a probe after which the wait is over. -/
theorem endsWith_of_leaves {k : Nat} {r : PollEnd}
    (h : Leaves (pollPass (seconds startMs) timeout) passes startMs k r) :
    EndsWith passes startMs timeout k r.ready ∧ r.endMs = probeEnd passes startMs k := by
  obtain ⟨now, hbefore, hleave⟩ := h
  obtain rfl := before_pollPass hbefore
  obtain ⟨rfl, hlate⟩ := pollPass_eq_inl hleave
  refine ⟨⟨?_, rfl, ?_⟩, rfl⟩
  · intro j hj
    obtain ⟨now, now', hj, hgo, -⟩ := exists_before_of_lt hbefore hj
    obtain rfl := before_pollPass hj
    obtain ⟨hfound, htime, -⟩ := pollPass_eq_inr hgo
    have hstart := seconds_startMs_le passes startMs j
    unfold probeEnd at hstart ⊢
    exact ⟨hfound, by omega⟩
  · intro hfound
    have hstart := seconds_startMs_le passes startMs k
    have htime := hlate hfound
    unfold probeEnd at hstart ⊢
    omega

/-- The loop leaves within a pass for each second of the time-out and one more. -/
theorem exists_leaves_pollPass (passes : Nat → Pass) (startMs timeout : Nat) :
    ∃ k ≤ timeout, ∃ r, Leaves (pollPass (seconds startMs) timeout) passes startMs k r := by
  refine exists_leaves_of_deadline id 1000 ((seconds startMs + timeout) * 1000) ?_ ?_ ?_
  · intro k now now' hgo
    obtain ⟨-, -, rfl⟩ := pollPass_eq_inr hgo
    simp only [id]
    omega
  · intro k now now' hgo
    obtain ⟨-, htime, -⟩ := pollPass_eq_inr hgo
    simp only [id, seconds] at htime ⊢
    omega
  · simp only [id, seconds]
    omega

/-- The report of a wait. -/
theorem poll_eq (passes : Nat → Pass) (startMs timeout : Nat) (announce : Str) (onReady : List Str)
    (onTimeout : Ending) :
    ∃ k ≤ timeout, ∃ ready, EndsWith passes startMs timeout k ready ∧
      poll announce onReady onTimeout timeout passes startMs =
        some (if ready then ⟨announce :: onReady, .returns, probeEnd passes startMs k⟩
          else ⟨[announce], onTimeout, probeEnd passes startMs k⟩) := by
  obtain ⟨k, hk, r, hleaves⟩ := exists_leaves_pollPass passes startMs timeout
  obtain ⟨hends, hend⟩ := endsWith_of_leaves hleaves
  refine ⟨k, hk, r.ready, hends, ?_⟩
  rw [poll, run_of_leaves hleaves (by omega), Option.map_some, hend]

/-- A wait does not go on for much longer than its time-out. -/
theorem EndsWith.soon {k : Nat} {ready : Bool} (h : EndsWith passes startMs timeout (k + 1) ready) :
    probeEnd passes startMs (k + 1) <
      startMs + 1000 * timeout + 1000 + (passes k).oversleepMs + (passes (k + 1)).probeMs := by
  obtain ⟨-, htime⟩ := h.before k (Nat.lt_succ_self k)
  unfold seconds probeEnd at htime
  rw [probeEnd, probeStart]
  omega

/-- The probe of pass `k` is the first that succeeds, and none before it ended too late. -/
structure InTime (passes : Nat → Pass) (startMs timeout k : Nat) : Prop where
  found : (passes k).found = true
  before : ∀ j < k, (passes j).found = false ∧ seconds (probeEnd passes startMs j) < seconds startMs + timeout

private theorem EndsWith.ready_iff {k : Nat} {ready : Bool} (h : EndsWith passes startMs timeout k ready) :
    ready = true ↔ ∃ k, InTime passes startMs timeout k := by
  constructor
  · intro hready
    exact ⟨k, h.verdict.symm.trans hready, h.before⟩
  · rintro ⟨k', hk'⟩
    rcases Nat.lt_trichotomy k' k with hlt | rfl | hlt
    · have hfailed := (h.before k' hlt).1
      rw [hk'.found] at hfailed
      cases hfailed
    · exact h.verdict.trans hk'.found
    · by_contra hready
      have hlate := h.late (Bool.eq_false_iff.2 hready)
      have htime := (hk'.before k hlt).2
      omega

/-- What a wait promises: when it is successful, how it ends otherwise, how many probes it makes, and that it gives
up neither early nor much too late. -/
structure ExactWait (passes : Nat → Pass) (startMs timeout : Nat) (onTimeout : Ending) (r : WaitReport) : Prop where
  returns : r.ending = .returns ↔ ∃ k, InTime passes startMs timeout k
  otherwise : r.ending ≠ .returns → r.ending = onTimeout
  probes : ∃ k ≤ timeout, r.endMs = probeEnd passes startMs k
  notEarly : r.ending ≠ .returns → startMs + 1000 * timeout < r.endMs + 1000
  notLate : ∀ probeMs oversleepMs, (∀ k, (passes k).probeMs ≤ probeMs ∧ (passes k).oversleepMs ≤ oversleepMs) →
    r.endMs ≤ startMs + 1000 * timeout + 1000 + oversleepMs + probeMs

private theorem exact_poll (passes : Nat → Pass) (startMs timeout : Nat) (announce : Str) (onReady : List Str)
    {onTimeout : Ending} (hne : onTimeout ≠ .returns) :
    ∃ r, poll announce onReady onTimeout timeout passes startMs = some r ∧
      ExactWait passes startMs timeout onTimeout r := by
  obtain ⟨k, hk, ready, hends, hpoll⟩ := poll_eq passes startMs timeout announce onReady onTimeout
  refine ⟨_, hpoll, ?_⟩
  -- the last sleep starts within the second after the time-out
  have hnotLate : ∀ probeMs oversleepMs,
      (∀ k, (passes k).probeMs ≤ probeMs ∧ (passes k).oversleepMs ≤ oversleepMs) →
      probeEnd passes startMs k ≤ startMs + 1000 * timeout + 1000 + oversleepMs + probeMs := by
    intro probeMs oversleepMs hbound
    cases k with
    | zero =>
      have hprobe := (hbound 0).1
      rw [probeEnd, probeStart]
      omega
    | succ k =>
      have hsoon := hends.soon
      have hprobe := (hbound (k + 1)).1
      have hsleep := (hbound k).2
      omega
  cases ready with
  | true =>
    exact ⟨iff_of_true rfl (hends.ready_iff.1 rfl), fun h => absurd rfl h, ⟨k, hk, rfl⟩, fun h => absurd rfl h,
      hnotLate⟩
  | false =>
    have hnone : ¬ ∃ k, InTime passes startMs timeout k := fun h => by
      cases hends.ready_iff.2 h
    refine ⟨iff_of_false hne hnone, fun _ => rfl, ⟨k, hk, rfl⟩, ?_, hnotLate⟩
    intro _
    have hlate := hends.late rfl
    unfold seconds at hlate
    show startMs + 1000 * timeout < probeEnd passes startMs k + 1000
    omega

end poll

private theorem exact_waitAgentReady (runDir name : Str) (count timeout : Nat) (passes : Nat → AgentPass)
    (startMs : Nat) :
    ∃ r, waitAgentReady runDir name count timeout passes startMs = some r ∧
      ExactWait (fun k => (passes k).pass count) startMs timeout (agentTimeout runDir name timeout) r :=
  exact_poll _ _ _ _ _ (by simp [agentTimeout])

private theorem waitAgentsReady_spec (runDir : Str) (passes : Str → Nat → AgentPass) (procs : List Str)
    (startMs : Nat) :
    ∃ reports, waitAgentsReady runDir passes procs startMs = some reports ∧ reports.length = procs.length ∧
      ∀ r ∈ reports, ∀ message, r.ending ≠ .dies message := by
  induction procs generalizing startMs with
  | nil => exact ⟨[], rfl, rfl, by simp⟩
  | cons name procs ih =>
    obtain ⟨r, hr, hexact⟩ := exact_waitAgentReady runDir name 1 60 (passes name) startMs
    obtain ⟨reports, hreports, hlength, hdies⟩ := ih r.endMs
    refine ⟨r :: reports, ?_, by rw [List.length_cons, List.length_cons, hlength], ?_⟩
    · rw [waitAgentsReady, hr]
      simp [hreports]
    · intro r' hr' message hdie
      rcases List.mem_cons.1 hr' with rfl | hmem
      · have hother := hexact.otherwise (by simp [hdie])
        rw [hdie] at hother
        cases hother
      · exact hdies r' hmem message hdie

/-- The three waits end, exactly as they promise, and waiting for the agents of a demo never ends the script. -/
theorem waits_exact (startMs timeout : Nat) :
    (∀ host port passes, ∃ r, waitForPort host port timeout passes startMs = some r ∧
      ExactWait passes startMs timeout (portTimeout host port) r) ∧
    (∀ url passes, ∃ r, waitForHttp url timeout passes startMs = some r ∧
      ExactWait passes startMs timeout (httpTimeout url) r) ∧
    (∀ runDir name count passes, ∃ r, waitAgentReady runDir name count timeout passes startMs = some r ∧
      ExactWait (fun k => (passes k).pass count) startMs timeout (agentTimeout runDir name timeout) r) ∧
    ∀ runDir passes procs, ∃ reports, waitAgentsReady runDir passes procs startMs = some reports ∧
      reports.length = procs.length ∧ ∀ r ∈ reports, ∀ message, r.ending ≠ .dies message := by
  refine ⟨?_, ?_, ?_, ?_⟩
  · intro host port passes
    exact exact_poll passes startMs timeout _ _ (by simp [portTimeout])
  · intro url passes
    exact exact_poll passes startMs timeout _ _ (by simp [httpTimeout])
  · intro runDir name count passes
    exact exact_waitAgentReady runDir name count timeout passes startMs
  · intro runDir passes procs
    exact waitAgentsReady_spec runDir passes procs startMs

end PinpointExamples.Scripts
