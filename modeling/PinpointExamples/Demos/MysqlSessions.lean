import Mathlib
import PinpointExamples.Demos.Mysql
import PinpointExamples.Lib.Transition

/-!
# Concurrent requests for the MySQL demo

The server runs requests for `/db-demo` on different threads, and all of them use the one `DatabaseDemo` behind
`g_demo`, with its one `session_`.  A step of the system is a `connect()`, which replaces the session or fails, or a
statement that a request runs through the session that is there.  A request that connects runs `demoStatements`, one
that does not runs none (`handleDbDemo_queries`).  The log says which session was opened for whom, which one was
destroyed, and on which one a statement ran.

The key fact is `sessions_isolated_iff`: the sessions of a run are isolated exactly when no request connects while
another one still has statements to run.
-/

namespace PinpointExamples.Mysql

open Transition

abbrev RequestId := Nat
abbrev SessionId := Nat

inductive DbEvent
  | opened (r : RequestId) (session : SessionId)
  | destroyed (session : SessionId)
  | ran (r : RequestId) (statement : Statement) (session : SessionId)
  deriving DecidableEq, Repr

/-- Where a request stands: before its `connect()`, with statements left to run, or answered with 503. -/
inductive Phase
  | idle
  | running (rest : List Statement)
  | failed
  deriving DecidableEq, Repr

/-- The `DatabaseDemo` and the requests that share it. -/
structure Db where
  session : Option SessionId
  nextSession : SessionId
  phase : RequestId → Phase
  log : List DbEvent

inductive Action
  | connect (r : RequestId) (succeeds : Bool)
  | statement (r : RequestId)
  deriving DecidableEq, Repr

namespace Db

def init : Db where
  session := none
  nextSession := 0
  phase _ := .idle
  log := []

/-- `session_ = std::make_unique<mysqlx::Session>(…)`: the old session is destroyed after the new one is made. -/
def replaceSession (s : Db) (r : RequestId) : Db :=
  { s with
    session := some s.nextSession
    nextSession := s.nextSession + 1
    log := s.log ++ .opened r s.nextSession :: s.session.toList.map .destroyed }

def setPhase (s : Db) (r : RequestId) (p : Phase) : Db := { s with phase := Function.update s.phase r p }

def run (s : Db) (r : RequestId) (statement : Statement) (session : SessionId) : Db :=
  { s with log := s.log ++ [.ran r statement session] }

def step (s : Db) : Action → Option Db
  | .connect r succeeds =>
    match s.phase r with
    | .idle =>
      if succeeds then some ((s.replaceSession r).setPhase r (.running demoStatements))
      else some (s.setPhase r .failed)
    | _ => none
  | .statement r =>
    match s.phase r, s.session with
    | .running (statement :: rest), some session => some ((s.run r statement session).setPhase r (.running rest))
    | _, _ => none

/-- The request has statements left to run. -/
def Pending (s : Db) (r : RequestId) : Prop := ∃ statement rest, s.phase r = .running (statement :: rest)

/-- Every statement ran on the session that its own request opened, and no session was destroyed before the last
statement of the request that opened it. -/
structure Isolated (s : Db) : Prop where
  own : ∀ r statement session, .ran r statement session ∈ s.log → .opened r session ∈ s.log
  kept : ∀ r session, .opened r session ∈ s.log → .destroyed session ∈ s.log →
    ¬ s.Pending r ∧ ∀ statement session', ¬ [.destroyed session, .ran r statement session'].Sublist s.log

/-- A `connect()` that succeeds does so while no request has statements left. -/
def ConnectsAlone (s : Db) (a : Action) : Prop := ∀ r, a = .connect r true → ∀ r', ¬ s.Pending r'

/-! ### What a step can do -/

variable {s s' : Db} {a : Action}

theorem step_cases (h : s.step a = some s') :
    (∃ r, a = .connect r true ∧ s.phase r = .idle ∧
      s' = (s.replaceSession r).setPhase r (.running demoStatements)) ∨
    (∃ r, a = .connect r false ∧ s.phase r = .idle ∧ s' = s.setPhase r .failed) ∨
    ∃ r statement rest session, a = .statement r ∧ s.phase r = .running (statement :: rest) ∧
      s.session = some session ∧ s' = (s.run r statement session).setPhase r (.running rest) := by
  cases a with
  | connect r succeeds =>
    simp only [step] at h
    split at h
    · rename_i hidle
      cases succeeds with
      | true => exact .inl ⟨r, rfl, hidle, by simpa using h.symm⟩
      | false => exact .inr (.inl ⟨r, rfl, hidle, by simpa using h.symm⟩)
    · cases h
  | statement r =>
    simp only [step] at h
    split at h
    · rename_i statement rest session hphase hsession
      exact .inr (.inr ⟨r, statement, rest, session, rfl, hphase, hsession, by simpa using h.symm⟩)
    · cases h

@[simp] theorem setPhase_log (r : RequestId) (p : Phase) : (s.setPhase r p).log = s.log := rfl
@[simp] theorem setPhase_session (r : RequestId) (p : Phase) : (s.setPhase r p).session = s.session := rfl
@[simp] theorem setPhase_nextSession (r : RequestId) (p : Phase) :
    (s.setPhase r p).nextSession = s.nextSession := rfl

@[simp] theorem setPhase_phase_self (r : RequestId) (p : Phase) : (s.setPhase r p).phase r = p := by
  simp [setPhase]

private theorem setPhase_phase_of_ne {r r' : RequestId} (hr : r' ≠ r) (p : Phase) :
    (s.setPhase r p).phase r' = s.phase r' := by
  simp [setPhase, hr]

private theorem pending_setPhase_of_ne {r r' : RequestId} (hr : r' ≠ r) (p : Phase) :
    (s.setPhase r p).Pending r' ↔ s.Pending r' := by
  simp only [Pending, setPhase_phase_of_ne hr]

private theorem not_pending_of_idle {r : RequestId} (h : s.phase r = .idle) : ¬ s.Pending r := by
  rintro ⟨statement, rest, hr⟩
  rw [h] at hr
  cases hr

/-- The log only grows. -/
theorem step_log (h : s.step a = some s') : ∃ l, s'.log = s.log ++ l := by
  obtain ⟨r, -, -, rfl⟩ | ⟨r, -, -, rfl⟩ | ⟨r, statement, rest, session, -, -, -, rfl⟩ := step_cases h
  · exact ⟨_, rfl⟩
  · exact ⟨[], (List.append_nil _).symm⟩
  · exact ⟨_, rfl⟩

/-- Two entries of a log that was carried on: both are old, or the first is old and the second new, or both are
new. -/
private theorem pair_sublist_append {a b : DbEvent} {l l' : List DbEvent} (h : [a, b].Sublist (l ++ l')) :
    [a, b].Sublist l ∨ (a ∈ l ∧ b ∈ l') ∨ [a, b].Sublist l' := by
  obtain ⟨l₁, l₂, hl, h₁, h₂⟩ := List.sublist_append_iff.1 h
  rcases l₁ with _ | ⟨x, _ | ⟨y, l₁⟩⟩
  · rw [List.nil_append] at hl
    exact .inr (.inr (hl ▸ h₂))
  · rw [List.singleton_append, List.cons.injEq] at hl
    obtain ⟨rfl, rfl⟩ := hl
    exact .inr (.inl ⟨List.singleton_sublist.1 h₁, List.singleton_sublist.1 h₂⟩)
  · simp only [List.cons_append, List.cons.injEq, List.nil_eq, List.append_eq_nil_iff] at hl
    obtain ⟨rfl, rfl, rfl, rfl⟩ := hl
    exact .inl h₁

/-! ### Runs in which requests connect alone -/

/-- What holds as long as every request connects alone. -/
structure Inv (s : Db) : Prop where
  isolated : s.Isolated
  openedBelow : ∀ r x, .opened r x ∈ s.log → x < s.nextSession
  destroyedBelow : ∀ x, .destroyed x ∈ s.log → x < s.nextSession
  sessionBelow : ∀ x, s.session = some x → x < s.nextSession
  idle : ∀ r, s.phase r = .idle → ∀ x, .opened r x ∉ s.log
  current : ∀ r, s.Pending r → ∃ x, s.session = some x ∧ .opened r x ∈ s.log ∧ .destroyed x ∉ s.log

theorem inv_init : init.Inv where
  isolated := ⟨fun _ _ _ h => absurd h List.not_mem_nil, fun _ _ h => absurd h List.not_mem_nil⟩
  openedBelow _ _ h := absurd h List.not_mem_nil
  destroyedBelow _ h := absurd h List.not_mem_nil
  sessionBelow x h := by cases h
  idle _ _ _ h := absurd h List.not_mem_nil
  current r h := absurd h (not_pending_of_idle rfl)

section replaceSession

variable {r r' : RequestId} {x : SessionId}

private theorem opened_mem_replaceSession :
    .opened r' x ∈ (s.replaceSession r).log ↔ .opened r' x ∈ s.log ∨ r' = r ∧ x = s.nextSession := by
  simp [replaceSession]

private theorem destroyed_mem_replaceSession :
    .destroyed x ∈ (s.replaceSession r).log ↔ .destroyed x ∈ s.log ∨ s.session = some x := by
  simp [replaceSession]

private theorem ran_mem_replaceSession {statement : Statement} :
    .ran r' statement x ∈ (s.replaceSession r).log ↔ .ran r' statement x ∈ s.log := by
  simp [replaceSession]

private theorem sublist_of_replaceSession {statement : Statement} {y : SessionId}
    (h : [.destroyed x, .ran r' statement y].Sublist (s.replaceSession r).log) :
    [.destroyed x, .ran r' statement y].Sublist s.log := by
  rcases pair_sublist_append h with h | ⟨-, h⟩ | h
  · exact h
  · simp at h
  · have hm := h.subset (List.mem_cons_of_mem _ (List.mem_singleton_self _))
    simp at hm

end replaceSession

/-- A `connect()` that succeeds while no request has statements left. -/
theorem Inv.replaceSession (h : s.Inv) {r : RequestId} (hr : s.phase r = .idle) (halone : ∀ r', ¬ s.Pending r') :
    ((s.replaceSession r).setPhase r (.running demoStatements)).Inv := by
  have hpending : ∀ r', ((s.replaceSession r).setPhase r (.running demoStatements)).Pending r' → r' = r := by
    intro r' hp
    by_contra hne
    exact halone r' ((pending_setPhase_of_ne hne _).1 hp)
  -- the number of the new session was never destroyed
  have hfresh : .destroyed s.nextSession ∉ (s.replaceSession r).log := by
    rw [destroyed_mem_replaceSession]
    rintro (hd | hd)
    · exact absurd (h.destroyedBelow _ hd) (Nat.lt_irrefl _)
    · exact absurd (h.sessionBelow _ hd) (Nat.lt_irrefl _)
  constructor
  · constructor
    · intro r' statement x hx
      rw [setPhase_log, ran_mem_replaceSession] at hx
      exact opened_mem_replaceSession.2 (.inl (h.isolated.own r' statement x hx))
    · intro r' x hopened hdestroyed
      rw [setPhase_log] at hopened hdestroyed
      rcases opened_mem_replaceSession.1 hopened with hopened | ⟨rfl, rfl⟩
      · constructor
        · intro hp
          rw [hpending r' hp] at hopened
          exact h.idle r hr x hopened
        · intro statement y hs
          have hold := sublist_of_replaceSession hs
          exact (h.isolated.kept r' x hopened (hold.subset List.mem_cons_self)).2 statement y hold
      · exact absurd hdestroyed hfresh
  · intro r' x hx
    rcases opened_mem_replaceSession.1 hx with hx | ⟨-, rfl⟩
    · exact Nat.lt_succ_of_lt (h.openedBelow r' x hx)
    · exact Nat.lt_succ_self _
  · intro x hx
    rcases destroyed_mem_replaceSession.1 hx with hx | hx
    · exact Nat.lt_succ_of_lt (h.destroyedBelow x hx)
    · exact Nat.lt_succ_of_lt (h.sessionBelow x hx)
  · intro x hx
    obtain rfl : s.nextSession = x := Option.some.inj hx
    exact Nat.lt_succ_self _
  · intro r' hr' x hx
    by_cases hne : r' = r
    · rw [hne, setPhase_phase_self] at hr'
      cases hr'
    · rw [setPhase_phase_of_ne hne] at hr'
      rcases opened_mem_replaceSession.1 hx with hx | ⟨he, -⟩
      · exact h.idle r' hr' x hx
      · exact hne he
  · intro r' hp
    obtain rfl := hpending r' hp
    exact ⟨s.nextSession, rfl, opened_mem_replaceSession.2 (.inr ⟨rfl, rfl⟩), hfresh⟩

/-- A `connect()` that fails. -/
theorem Inv.fail (h : s.Inv) (r : RequestId) : (s.setPhase r .failed).Inv := by
  have hpending : ∀ r', (s.setPhase r .failed).Pending r' → s.Pending r' := by
    intro r' hp
    by_cases hne : r' = r
    · obtain ⟨statement, rest, hr'⟩ := hp
      rw [hne, setPhase_phase_self] at hr'
      cases hr'
    · exact (pending_setPhase_of_ne hne _).1 hp
  refine ⟨⟨h.isolated.own, ?_⟩, h.openedBelow, h.destroyedBelow, h.sessionBelow, ?_, ?_⟩
  · intro r' x ho hd
    have hkept := h.isolated.kept r' x ho hd
    exact ⟨fun hp => hkept.1 (hpending r' hp), hkept.2⟩
  · intro r' hr'
    by_cases hne : r' = r
    · rw [hne, setPhase_phase_self] at hr'
      cases hr'
    · rw [setPhase_phase_of_ne hne] at hr'
      exact h.idle r' hr'
  · intro r' hp
    exact h.current r' (hpending r' hp)

section run

variable {r r' : RequestId} {statement : Statement} {x y : SessionId}

@[simp] theorem opened_mem_run : .opened r' y ∈ (s.run r statement x).log ↔ .opened r' y ∈ s.log := by
  simp [run]

@[simp] theorem destroyed_mem_run : .destroyed y ∈ (s.run r statement x).log ↔ .destroyed y ∈ s.log := by
  simp [run]

private theorem sublist_of_run (hne : r' ≠ r) {statement' : Statement} {z : SessionId}
    (h : [.destroyed y, .ran r' statement' z].Sublist (s.run r statement x).log) :
    [.destroyed y, .ran r' statement' z].Sublist s.log := by
  rcases pair_sublist_append h with h | ⟨-, h⟩ | h
  · exact h
  · rw [List.mem_singleton, DbEvent.ran.injEq] at h
    exact absurd h.1 hne
  · have hlen := h.length_le
    simp at hlen

end run

/-- A statement of a request. -/
theorem Inv.run (h : s.Inv) {r : RequestId} {statement : Statement} {rest : List Statement} {x : SessionId}
    (hr : s.phase r = .running (statement :: rest)) (hx : s.session = some x) :
    ((s.run r statement x).setPhase r (.running rest)).Inv := by
  have hself : s.Pending r := ⟨statement, rest, hr⟩
  have hpending : ∀ r', ((s.run r statement x).setPhase r (.running rest)).Pending r' → s.Pending r' := by
    intro r' hp
    by_cases hne : r' = r
    · exact hne ▸ hself
    · exact (pending_setPhase_of_ne (s := s.run r statement x) hne _).1 hp
  -- the session that is there is the one the request opened
  have hown : .opened r x ∈ s.log := by
    obtain ⟨y, hy, ho, -⟩ := h.current r hself
    rw [hx, Option.some.injEq] at hy
    exact hy ▸ ho
  constructor
  · constructor
    · intro r' statement' y hy
      rw [setPhase_log, opened_mem_run]
      rw [setPhase_log, Db.run, List.mem_append, List.mem_singleton, DbEvent.ran.injEq] at hy
      rcases hy with hy | ⟨rfl, -, rfl⟩
      · exact h.isolated.own r' statement' y hy
      · exact hown
    · intro r' y ho hd
      rw [setPhase_log, opened_mem_run] at ho
      rw [setPhase_log, destroyed_mem_run] at hd
      have hkept := h.isolated.kept r' y ho hd
      have hne : r' ≠ r := by
        rintro rfl
        exact hkept.1 hself
      constructor
      · intro hp
        exact hkept.1 (hpending r' hp)
      · intro statement' z hs
        exact hkept.2 statement' z (sublist_of_run hne hs)
  · intro r' y hy
    exact h.openedBelow r' y (opened_mem_run.1 hy)
  · intro y hy
    exact h.destroyedBelow y (destroyed_mem_run.1 hy)
  · exact h.sessionBelow
  · intro r' hr' y hy
    by_cases hne : r' = r
    · rw [hne, setPhase_phase_self] at hr'
      cases hr'
    · rw [setPhase_phase_of_ne hne] at hr'
      exact h.idle r' hr' y (opened_mem_run.1 hy)
  · intro r' hp
    obtain ⟨y, hy, ho, hd⟩ := h.current r' (hpending r' hp)
    exact ⟨y, hy, opened_mem_run.2 ho, fun hd' => hd (destroyed_mem_run.1 hd')⟩

theorem Inv.step (h : s.Inv) (halone : s.ConnectsAlone a) (hstep : s.step a = some s') : s'.Inv := by
  obtain ⟨r, rfl, hr, rfl⟩ | ⟨r, rfl, -, rfl⟩ | ⟨r, statement, rest, x, rfl, hr, hx, rfl⟩ := step_cases hstep
  · exact h.replaceSession hr (halone r rfl)
  · exact h.fail r
  · exact h.run hr hx

/-! ### Runs in which a request connects too early -/

/-- A session was destroyed before the last statement of its request. -/
def Lost (s : Db) : Prop :=
  ∃ r x, .opened r x ∈ s.log ∧ .destroyed x ∈ s.log ∧
    (s.Pending r ∨ ∃ statement y, [.destroyed x, .ran r statement y].Sublist s.log)

private theorem Isolated.not_lost (h : s.Isolated) : ¬ s.Lost := by
  rintro ⟨r, x, ho, hd, hp | ⟨statement, y, hs⟩⟩
  · exact (h.kept r x ho hd).1 hp
  · exact (h.kept r x ho hd).2 statement y hs

/-- A `connect()` beside a request with statements left destroys the session of that request. -/
theorem Inv.lost (h : s.Inv) (hnot : ¬ s.ConnectsAlone a) (hstep : s.step a = some s') : s'.Lost := by
  obtain ⟨r, rfl, r', hp⟩ : ∃ r, a = .connect r true ∧ ∃ r', s.Pending r' := by
    simpa [ConnectsAlone] using hnot
  obtain ⟨r₀, ha, hr, rfl⟩ | ⟨r₀, ha, -, -⟩ | ⟨r₀, _, _, _, ha, -⟩ := step_cases hstep
  · obtain rfl : r = r₀ := by simpa using ha
    obtain ⟨x, hx, ho, -⟩ := h.current r' hp
    have hne : r' ≠ r := by
      rintro rfl
      exact not_pending_of_idle hr hp
    refine ⟨r', x, opened_mem_replaceSession.2 (.inl ho), destroyed_mem_replaceSession.2 (.inr hx), .inl ?_⟩
    exact (pending_setPhase_of_ne (s := s.replaceSession r) hne _).2 hp
  · simp at ha
  · cases ha

/-- A lost session stays lost. -/
theorem Lost.step (h : s.Lost) (hstep : s.step a = some s') : s'.Lost := by
  obtain ⟨r, x, ho, hd, hlost⟩ := h
  obtain ⟨l, hl⟩ := step_log hstep
  have ho' : .opened r x ∈ s'.log := hl ▸ List.mem_append_left l ho
  have hd' : .destroyed x ∈ s'.log := hl ▸ List.mem_append_left l hd
  refine ⟨r, x, ho', hd', ?_⟩
  rcases hlost with hp | ⟨statement, y, hs⟩
  · obtain ⟨r₀, -, hr, rfl⟩ | ⟨r₀, -, hr, rfl⟩ | ⟨r₀, statement, rest, y, -, hr, -, rfl⟩ := step_cases hstep
    · have hne : r ≠ r₀ := fun he => not_pending_of_idle (he ▸ hr) hp
      exact .inl ((pending_setPhase_of_ne (s := s.replaceSession r₀) hne _).2 hp)
    · have hne : r ≠ r₀ := fun he => not_pending_of_idle (he ▸ hr) hp
      exact .inl ((pending_setPhase_of_ne hne _).2 hp)
    · by_cases hne : r = r₀
      · -- the statement runs after the session of its request was destroyed
        refine .inr ⟨statement, y, ?_⟩
        rw [hne]
        exact (List.singleton_sublist.2 hd).append (List.Sublist.refl _)
      · exact .inl ((pending_setPhase_of_ne (s := s.run r₀ statement y) hne _).2 hp)
  · exact .inr ⟨statement, y, hl ▸ hs.trans (List.sublist_append_left _ l)⟩

/-- In the state after a run the sessions are isolated exactly when every request of the run connected alone. -/
theorem sessions_isolated_iff (actions : List Action) {s : Db} (h : exec step init actions = some s) :
    s.Isolated ↔ AllSteps step ConnectsAlone init actions := by
  constructor
  · intro hi
    exact allSteps_of_exec (fun t a t' ht ha hs => Inv.step ht ha hs) (fun t a t' ht ha hs => Inv.lost ht ha hs)
      (fun t a t' ht hs => Lost.step ht hs) h inv_init hi.not_lost
  · intro hc
    exact (exec_invariant_of_allSteps (fun t a t' ht ha hs => Inv.step ht ha hs) h hc inv_init).isolated

/-- A request that runs beside one that cannot connect. -/
theorem sessions_isolated_beside_failure :
    ∃ s, exec step init [.connect 0 true, .statement 0, .connect 1 false] = some s ∧ s.Isolated := by
  refine ⟨_, rfl, (sessions_isolated_iff [.connect 0 true, .statement 0, .connect 1 false] rfl).2 ?_⟩
  refine ⟨fun _ _ r' => not_pending_of_idle rfl, fun t _ => ⟨?_, fun t' _ => ⟨?_, fun _ _ => trivial⟩⟩⟩
  · intro r hr
    cases hr
  · intro r hr
    cases hr

/-- A second request connects while the first one has statements left. -/
def overlappingRun : List Action := [.connect 0 true, .connect 1 true, .statement 0]

/-- The second `connect()` destroys the session of the first request, whose statement then runs on the session of
the second one. -/
theorem overlapping_requests_share_session :
    ∃ s statement rest, demoStatements = statement :: rest ∧ exec step init overlappingRun = some s ∧
      s.log = [.opened 0 0, .opened 1 1, .destroyed 0, .ran 0 statement 1] ∧ ¬ s.Isolated := by
  have hnot : ∀ statement, DbEvent.opened 0 1 ∉ [.opened 0 0, .opened 1 1, .destroyed 0, .ran 0 statement 1] := by
    simp
  have hran : ∀ statement,
      DbEvent.ran 0 statement 1 ∈ [.opened 0 0, .opened 1 1, .destroyed 0, .ran 0 statement 1] := by
    simp
  exact ⟨_, _, _, rfl, rfl, rfl, fun h => hnot _ (h.own 0 _ 1 (hran _))⟩

end Db

end PinpointExamples.Mysql
