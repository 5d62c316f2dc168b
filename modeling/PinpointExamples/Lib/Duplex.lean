import PinpointExamples.Lib.Commuting

/-!
# Two parties on a duplex connection

Each direction of the connection is a pipe: a queue of messages and, once its sender is done, the value it closed the
pipe with.  A party is a state machine that says in each state what it wants to do next: send, receive, or nothing
any more.  To receive may block.  The two parties run at their own speed, in any order.

A party only ever touches the back of the pipe it sends on and the front of the pipe it receives from, so the steps
of the two commute (`commuting`), and the order in which they run makes no difference to how it ends.  So do they if
the pipes hold only so many messages, and who writes has to wait while its pipe is full (`commuting_within`).
-/

namespace Duplex

open Transition

/-- A pipe for messages in `M`, closed with a value in `C`. -/
structure Pipe (M C : Type) where
  queue : List M
  closed : Option C
  deriving DecidableEq, Repr

inductive Send (M C : Type)
  | write (m : M)
  | close (c : C)

/-- `read` gets the next message, or `none` at the end of the pipe; `await` gets the value it was closed with. -/
inductive Receive (M C S : Type)
  | read (next : Option M → S)
  | await (next : C → S)

/-- What a party wants to do next: it receives messages in `M` and sends messages in `N`. -/
inductive Op (M C N D S : Type)
  | send (w : Send N D) (next : S)
  | receive (r : Receive M C S)
  | stop

section pipe

variable {M C S : Type}

def Pipe.empty : Pipe M C := ⟨[], none⟩

/-- A closed pipe takes nothing. -/
def Pipe.send (p : Pipe M C) (w : Send M C) : Option (Pipe M C) :=
  match p.closed, w with
  | some _, _ => none
  | none, .write m => some { p with queue := p.queue ++ [m] }
  | none, .close c => some { p with closed := some c }

/-- `none` where the receiver has to wait. -/
def Pipe.receive (p : Pipe M C) : Receive M C S → Option (S × Pipe M C)
  | .read next =>
    match p.queue, p.closed with
    | m :: rest, _ => some (next (some m), { p with queue := rest })
    | [], some _ => some (next none, p)
    | [], none => none
  | .await next => p.closed.map fun c => (next c, p)

/-- What is sent does not disturb who receives, and the other way round. -/
theorem Pipe.send_receive {p q p' : Pipe M C} {w : Send M C} {r : Receive M C S} {s : S} (hw : p.send w = some q)
    (hr : p.receive r = some (s, p')) : ∃ q', q.receive r = some (s, q') ∧ p'.send w = some q' := by
  obtain ⟨queue, closed⟩ := p
  cases closed with
  | some c => cases hw
  | none =>
    -- the pipe is still open, so only a message can have been received
    cases r with
    | await next => cases hr
    | read next =>
      cases queue with
      | nil => cases hr
      | cons m rest =>
        cases hr
        cases w with
        | write m' =>
          cases hw
          exact ⟨_, rfl, rfl⟩
        | close c =>
          cases hw
          exact ⟨_, rfl, rfl⟩

end pipe

/-- A party, by what it does in each of its states. -/
structure Party (M C N D : Type) where
  State : Type
  op : State → Op M C N D State

section connection

variable {M C N D : Type}

/-- What a party does with the pipe it receives from and with the pipe it sends on. -/
def Party.step (P : Party M C N D) (s : P.State) (input : Pipe M C) (output : Pipe N D) :
    Option (P.State × Pipe M C × Pipe N D) :=
  match P.op s with
  | .send w next => (output.send w).map fun output => (next, input, output)
  | .receive r => (input.receive r).map fun (next, input) => (next, input, output)
  | .stop => none

section

variable {P : Party M C N D} {s s' : P.State} {input input' : Pipe M C} {output output' : Pipe N D}

theorem Party.step_of_send {w : Send N D} {next : P.State} (h : P.op s = .send w next) :
    P.step s input output = some (s', input', output') ↔
      s' = next ∧ input' = input ∧ output.send w = some output' := by
  simp only [Party.step, h, Option.map_eq_some_iff, Prod.mk.injEq]
  constructor
  · rintro ⟨_, hw, rfl, rfl, rfl⟩
    exact ⟨rfl, rfl, hw⟩
  · rintro ⟨rfl, rfl, hw⟩
    exact ⟨_, hw, rfl, rfl, rfl⟩

private theorem Party.step_of_receive {r : Receive M C P.State} (h : P.op s = .receive r) :
    P.step s input output = some (s', input', output') ↔
      input.receive r = some (s', input') ∧ output' = output := by
  simp only [Party.step, h, Option.map_eq_some_iff, Prod.exists, Prod.mk.injEq]
  constructor
  · rintro ⟨_, _, hr, rfl, rfl, rfl⟩
    exact ⟨hr, rfl⟩
  · rintro ⟨hr, rfl⟩
    exact ⟨_, _, hr, rfl, rfl, rfl⟩

private theorem Party.step_of_stop (h : P.op s = .stop) : P.step s input output = none := by
  rw [Party.step, h]

end

/-- The states of the two parties, and the two pipes between them. -/
structure Connection (L : Party M C N D) (R : Party N D M C) where
  left : L.State
  right : R.State
  toLeft : Pipe M C
  toRight : Pipe N D

inductive Side
  | left
  | right
  deriving DecidableEq, Repr

/-- One of the parties takes a step. -/
def step (L : Party M C N D) (R : Party N D M C) (s : Connection L R) : Side → Option (Connection L R)
  | .left => (L.step s.left s.toLeft s.toRight).map fun (left, toLeft, toRight) => { s with left, toLeft, toRight }
  | .right =>
    (R.step s.right s.toRight s.toLeft).map fun (right, toRight, toLeft) => { s with right, toRight, toLeft }

/-- The steps of the two parties do not get in each other's way. -/
theorem party_step_commute {P : Party M C N D} {Q : Party N D M C} {s s' : P.State} {t t' : Q.State}
    {a a₁ a₂ : Pipe M C} {b b₁ b₂ : Pipe N D} (hP : P.step s a b = some (s', a₁, b₁))
    (hQ : Q.step t b a = some (t', b₂, a₂)) :
    ∃ a' b', P.step s a₂ b₂ = some (s', a', b') ∧ Q.step t b₁ a₁ = some (t', b', a') := by
  cases hp : P.op s with
  | stop =>
    rw [Party.step_of_stop hp] at hP
    cases hP
  | send w next =>
    obtain ⟨rfl, rfl, hw⟩ := (Party.step_of_send hp).1 hP
    cases hq : Q.op t with
    | stop =>
      rw [Party.step_of_stop hq] at hQ
      cases hQ
    | send w' next' =>
      obtain ⟨rfl, rfl, hw'⟩ := (Party.step_of_send hq).1 hQ
      exact ⟨_, _, (Party.step_of_send hp).2 ⟨rfl, rfl, hw⟩, (Party.step_of_send hq).2 ⟨rfl, rfl, hw'⟩⟩
    | receive r =>
      obtain ⟨hr, rfl⟩ := (Party.step_of_receive hq).1 hQ
      -- what one sends goes behind what the other receives
      obtain ⟨_, hr', hw'⟩ := Pipe.send_receive hw hr
      exact ⟨_, _, (Party.step_of_send hp).2 ⟨rfl, rfl, hw'⟩, (Party.step_of_receive hq).2 ⟨hr', rfl⟩⟩
  | receive r =>
    obtain ⟨hr, rfl⟩ := (Party.step_of_receive hp).1 hP
    cases hq : Q.op t with
    | stop =>
      rw [Party.step_of_stop hq] at hQ
      cases hQ
    | send w' next' =>
      obtain ⟨rfl, rfl, hw⟩ := (Party.step_of_send hq).1 hQ
      obtain ⟨_, hr', hw'⟩ := Pipe.send_receive hw hr
      exact ⟨_, _, (Party.step_of_receive hp).2 ⟨hr', rfl⟩, (Party.step_of_send hq).2 ⟨rfl, rfl, hw'⟩⟩
    | receive r' =>
      obtain ⟨hr', rfl⟩ := (Party.step_of_receive hq).1 hQ
      exact ⟨_, _, (Party.step_of_receive hp).2 ⟨hr, rfl⟩, (Party.step_of_receive hq).2 ⟨hr', rfl⟩⟩

variable {L : Party M C N D} {R : Party N D M C}

theorem step_left_eq_some {s t : Connection L R} : step L R s .left = some t ↔
    ∃ left toLeft toRight, L.step s.left s.toLeft s.toRight = some (left, toLeft, toRight) ∧
      t = { s with left, toLeft, toRight } := by
  simp only [step, Option.map_eq_some_iff, Prod.exists]
  exact exists₃_congr fun _ _ _ => and_congr_right fun _ => eq_comm

private theorem step_right_eq_some {s t : Connection L R} : step L R s .right = some t ↔
    ∃ right toRight toLeft, R.step s.right s.toRight s.toLeft = some (right, toRight, toLeft) ∧
      t = { s with right, toRight, toLeft } := by
  simp only [step, Option.map_eq_some_iff, Prod.exists]
  exact exists₃_congr fun _ _ _ => and_congr_right fun _ => eq_comm

/-- The parties may run in any order. -/
theorem commuting (L : Party M C N D) (R : Party N D M C) : Commuting (step L R) := by
  have key : ∀ s t u, step L R s .left = some t → step L R s .right = some u →
      ∃ v, step L R t .right = some v ∧ step L R u .left = some v := by
    intro s t u hl hr
    obtain ⟨left, a₁, b₁, hL, rfl⟩ := step_left_eq_some.1 hl
    obtain ⟨right, b₂, a₂, hR, rfl⟩ := step_right_eq_some.1 hr
    obtain ⟨a', b', hL', hR'⟩ := party_step_commute hL hR
    exact ⟨⟨left, right, a', b'⟩, step_right_eq_some.2 ⟨_, _, _, hR', rfl⟩, step_left_eq_some.2 ⟨_, _, _, hL', rfl⟩⟩
  rintro s (_ | _) (_ | _) t u hne hl hr
  · exact absurd rfl hne
  · exact key s t u hl hr
  · obtain ⟨v, hv, hv'⟩ := key s u t hr hl
    exact ⟨v, hv', hv⟩
  · exact absurd rfl hne

/-- Nothing happens any more once both parties have stopped. -/
theorem final_of_stop {s : Connection L R} (hl : L.op s.left = .stop) (hr : R.op s.right = .stop) :
    Final (step L R) s := by
  rintro (_ | _)
  · rw [step, Party.step_of_stop hl, Option.map_none]
  · rw [step, Party.step_of_stop hr, Option.map_none]

/-! ### Pipes that may be full -/

/-- How many messages the two pipes hold. -/
structure Capacity where
  toLeft : Nat
  toRight : Nat
  toLeft_pos : 0 < toLeft
  toRight_pos : 0 < toRight

def Capacity.one : Capacity := ⟨1, 1, Nat.one_pos, Nat.one_pos⟩

/-- Whether the party wants to write a message. -/
def Op.writes {S : Type} : Op M C N D S → Bool
  | .send (.write _) _ => true
  | _ => false

/-- Whether a party wants to write to a full pipe. -/
def blocked (cap : Capacity) (s : Connection L R) : Side → Bool
  | .left => (L.op s.left).writes && decide (cap.toRight ≤ s.toRight.queue.length)
  | .right => (R.op s.right).writes && decide (cap.toLeft ≤ s.toLeft.queue.length)

/-- One of the parties takes a step, unless it has to wait. -/
def stepWithin (cap : Capacity) (L : Party M C N D) (R : Party N D M C) (s : Connection L R) (side : Side) :
    Option (Connection L R) :=
  if blocked cap s side then none else step L R s side

section within

variable {cap cap' : Capacity} {s t : Connection L R}

theorem stepWithin_eq_some {side : Side} :
    stepWithin cap L R s side = some t ↔ blocked cap s side = false ∧ step L R s side = some t := by
  rw [stepWithin, Option.ite_none_left_eq_some, Bool.not_eq_true]

/-- A party does not fill the pipe it receives from. -/
theorem Party.step_input_le {P : Party M C N D} {x x' : P.State} {input input' : Pipe M C} {output output' : Pipe N D}
    (h : P.step x input output = some (x', input', output')) : input'.queue.length ≤ input.queue.length := by
  cases hop : P.op x with
  | stop =>
    rw [Party.step_of_stop hop] at h
    cases h
  | send w next =>
    obtain ⟨-, rfl, -⟩ := (Party.step_of_send hop).1 h
    exact Nat.le_refl _
  | receive r =>
    obtain ⟨hr, -⟩ := (Party.step_of_receive hop).1 h
    obtain ⟨queue, closed⟩ := input
    cases r with
    | await next =>
      obtain ⟨c, -, hc⟩ := Option.map_eq_some_iff.1 hr
      obtain ⟨-, rfl⟩ := Prod.mk.inj hc
      exact Nat.le_refl _
    | read next =>
      cases queue with
      | nil =>
        cases closed with
        | none => cases hr
        | some c =>
          cases hr
          exact Nat.le_refl _
      | cons m rest =>
        cases hr
        exact Nat.le_succ _

/-- Nobody has to wait because the other one took a step. -/
theorem blocked_of_step {side side' : Side} (hne : side ≠ side') (h : step L R s side = some t)
    (hblocked : blocked cap s side' = false) : blocked cap t side' = false := by
  have hle {n m k : Nat} (hmk : m ≤ k) (h : ¬ n ≤ k) : ¬ n ≤ m := fun hn => h (Nat.le_trans hn hmk)
  rcases side with _ | _ <;> rcases side' with _ | _
  · exact absurd rfl hne
  · obtain ⟨left, toLeft, toRight, hL, rfl⟩ := step_left_eq_some.1 h
    have hshorter := Party.step_input_le hL
    simp only [blocked, Bool.and_eq_false_iff, decide_eq_false_iff_not] at hblocked ⊢
    exact hblocked.imp_right (hle hshorter)
  · obtain ⟨right, toRight, toLeft, hR, rfl⟩ := step_right_eq_some.1 h
    have hshorter := Party.step_input_le hR
    simp only [blocked, Bool.and_eq_false_iff, decide_eq_false_iff_not] at hblocked ⊢
    exact hblocked.imp_right (hle hshorter)
  · exact absurd rfl hne

theorem commuting_within (cap : Capacity) (L : Party M C N D) (R : Party N D M C) :
    Commuting (stepWithin cap L R) := by
  intro s a b t u hne ha hb
  obtain ⟨hblockedA, ha⟩ := stepWithin_eq_some.1 ha
  obtain ⟨hblockedB, hb⟩ := stepWithin_eq_some.1 hb
  obtain ⟨v, hv, hv'⟩ := commuting L R s a b t u hne ha hb
  exact ⟨v, stepWithin_eq_some.2 ⟨blocked_of_step hne ha hblockedB, hv⟩,
    stepWithin_eq_some.2 ⟨blocked_of_step (Ne.symm hne) hb hblockedA, hv'⟩⟩

private theorem blocked_mono (hleft : cap.toLeft ≤ cap'.toLeft) (hright : cap.toRight ≤ cap'.toRight) {side : Side}
    (h : blocked cap s side = false) : blocked cap' s side = false := by
  cases side with
  | left =>
    simp only [blocked, Bool.and_eq_false_iff, decide_eq_false_iff_not] at h ⊢
    exact h.imp_right fun hfull hfull' => hfull (Nat.le_trans hright hfull')
  | right =>
    simp only [blocked, Bool.and_eq_false_iff, decide_eq_false_iff_not] at h ⊢
    exact h.imp_right fun hfull hfull' => hfull (Nat.le_trans hleft hfull')

/-- A run that does with less room does with more. -/
theorem exec_within_mono (hleft : cap.toLeft ≤ cap'.toLeft) (hright : cap.toRight ≤ cap'.toRight) {sides : List Side}
    (h : exec (stepWithin cap L R) s sides = some t) : exec (stepWithin cap' L R) s sides = some t := by
  induction sides generalizing s with
  | nil => exact h
  | cons side sides ih =>
    obtain ⟨u, hu, hrest⟩ := exec_cons_eq_some.1 h
    obtain ⟨hblocked, hstep⟩ := stepWithin_eq_some.1 hu
    exact exec_cons_eq_some.2 ⟨u, stepWithin_eq_some.2 ⟨blocked_mono hleft hright hblocked, hstep⟩, ih hrest⟩

theorem exec_within_of_one (cap : Capacity) {sides : List Side}
    (h : exec (stepWithin .one L R) s sides = some t) : exec (stepWithin cap L R) s sides = some t :=
  exec_within_mono (Nat.succ_le_of_lt cap.toLeft_pos) (Nat.succ_le_of_lt cap.toRight_pos) h

theorem exec_within_cons {u : Connection L R} {side : Side} (hblocked : blocked cap s side = false)
    (hstep : step L R s side = some u) (sides : List Side) :
    exec (stepWithin cap L R) s (side :: sides) = exec (stepWithin cap L R) u sides := by
  rw [exec_cons, stepWithin_eq_some.2 ⟨hblocked, hstep⟩, Option.bind_some]

theorem final_within (h : Final (step L R) s) : Final (stepWithin cap L R) s := by
  intro side
  rw [stepWithin, h side, ite_self]

/-- Two parties that both have to wait do so for ever. -/
theorem final_of_blocked (hleft : blocked cap s .left = true) (hright : blocked cap s .right = true) :
    Final (stepWithin cap L R) s := by
  rintro (_ | _)
  · exact if_pos hleft
  · exact if_pos hright

end within

end connection

end Duplex
