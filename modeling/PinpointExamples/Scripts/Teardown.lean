import Mathlib
import PinpointExamples.Text

/-!
# Teardown of the demo scripts

`down` stops the processes whose pids are in the pid files of `PROCS` and then those with a socket on a port of
`KILL_PORTS`.  It signals exactly these (`down_signalled`), whoever they are, and it waits only for those in a pid
file that are children of the shell.  So the teardown is exact for all delays exactly when the processes it should
stop are such children and it comes across no other process (`teardown_exact_iff`).
-/

namespace PinpointExamples.Scripts

abbrev Pid := Nat
abbrev Port := Nat

/-! ### Processes -/

/-- A process: its parent, the ports it listens on, the local and the remote port of its connections, and whether
`start_demo` started it and wrote its pid. -/
structure Process where
  parent : Pid
  listening : List Port
  connections : List (Port × Port)
  recorded : Bool

/-- Some socket of the process has this local or remote port. -/
def Process.hasSocket (q : Process) (port : Port) : Bool :=
  q.listening.contains port || q.connections.any fun c => c.1 = port || c.2 = port

/-- What does not change during a run: the processes that run at its start, the shell, how long a process takes to
exit after SIGTERM, and how long a command takes. -/
structure System where
  table : Pid → Option Process
  shell : Pid
  delay : Pid → Nat
  lag : Nat

def System.isChild (sys : System) (p : Pid) : Bool := (sys.table p).any fun q => q.parent = sys.shell

def System.hasSocket (sys : System) (port : Port) (p : Pid) : Bool := (sys.table p).any fun q => q.hasSocket port

inductive PidFile
  | missing
  | empty
  | pid (p : Pid)
  deriving DecidableEq, Repr

/-- The time, the pid files, and when each process got its first SIGTERM. -/
structure World where
  now : Nat
  pidFiles : Str → PidFile
  signalled : Pid → Option Nat

namespace World

def start (pidFiles : Str → PidFile) : World where
  now := 0
  pidFiles
  signalled _ := none

variable (sys : System)

/-- The process still runs. -/
def alive (w : World) (p : Pid) : Bool :=
  (sys.table p).isSome && (w.signalled p).all fun t => w.now < t + sys.delay p

/-- The time of one command passes. -/
def pass (w : World) : World := { w with now := w.now + sys.lag }

def remove (w : World) (name : Str) : World :=
  { w with pidFiles := fun name' => if name' = name then .missing else w.pidFiles name' }

/-- `kill`: SIGTERM to those of the processes that still run. -/
def kill (pids : Pid → Bool) (w : World) : World :=
  { w with signalled := fun p => if pids p && w.alive sys p then (w.signalled p).or (some w.now) else w.signalled p }

/-- `wait`: until a child has exited; it returns at once for any other pid. -/
def wait (pid : Pid) (w : World) : World :=
  if sys.isChild pid then
    { w with now := (w.signalled pid).elim w.now fun t => max w.now (t + sys.delay pid) }
  else w

end World

/-! ### The functions of the script -/

section script

variable (sys : System)

/-- `stop_bg`, for the pid file of a name. -/
def stopBg (name : Str) (w : World) : World :=
  match w.pidFiles name with
  | .missing => w
  | .empty => (w.remove name).pass sys
  | .pid pid =>
    let w := (w.remove name).pass sys
    if w.alive sys pid then ((w.kill sys fun p => p = pid).pass sys).wait sys pid else w

/-- `kill_port`: what `lsof` lists is killed by the next command. -/
def killPort (port : Port) (w : World) : World :=
  let pids : Pid → Bool := fun p => w.alive sys p && sys.hasSocket port p
  ((w.pass sys).kill sys pids).pass sys

/-- `down`. -/
def down (procs : List Str) (killPorts : List Port) (w : World) : World :=
  killPorts.foldl (fun w port => killPort sys port w) (procs.foldl (fun w name => stopBg sys name w) w)

end script

/-! ### What is signalled -/

section signalled

variable {sys : System} {w : World} {p : Pid}

theorem alive_of_not_signalled (h : w.signalled p = none) : w.alive sys p = (sys.table p).isSome := by
  simp [World.alive, h]

private theorem isSome_of_alive (h : w.alive sys p = true) : (sys.table p).isSome = true := by
  rw [World.alive, Bool.and_eq_true] at h
  exact h.1

@[simp] theorem pass_signalled : (w.pass sys).signalled = w.signalled := rfl
@[simp] theorem pass_pidFiles : (w.pass sys).pidFiles = w.pidFiles := rfl
@[simp] theorem pass_now : (w.pass sys).now = w.now + sys.lag := rfl
@[simp] theorem remove_signalled (name : Str) : (w.remove name).signalled = w.signalled := rfl
@[simp] theorem remove_now (name : Str) : (w.remove name).now = w.now := rfl
@[simp] theorem kill_now (pids : Pid → Bool) : (w.kill sys pids).now = w.now := rfl
@[simp] theorem kill_pidFiles (pids : Pid → Bool) : (w.kill sys pids).pidFiles = w.pidFiles := rfl

@[simp] theorem wait_signalled (pid : Pid) : (w.wait sys pid).signalled = w.signalled := by
  unfold World.wait
  split <;> rfl

@[simp] theorem wait_pidFiles (pid : Pid) : (w.wait sys pid).pidFiles = w.pidFiles := by
  unfold World.wait
  split <;> rfl

private theorem kill_apply (pids : Pid → Bool) (p : Pid) : (w.kill sys pids).signalled p =
    if pids p && w.alive sys p then (w.signalled p).or (some w.now) else w.signalled p := rfl

theorem kill_signalled (pids : Pid → Bool) :
    (w.kill sys pids).signalled p ≠ none ↔ w.signalled p ≠ none ∨ pids p = true ∧ w.alive sys p = true := by
  rw [kill_apply]
  by_cases h : (pids p && w.alive sys p) = true
  · have hboth := h
    rw [Bool.and_eq_true] at hboth
    simp [hboth]
  · have hnot := h
    rw [Bool.and_eq_true] at hnot
    simp [h, hnot]

private theorem stopBg_pidFiles (name name' : Str) :
    (stopBg sys name w).pidFiles name' = if name' = name then .missing else w.pidFiles name' := by
  unfold stopBg
  split
  · rename_i h
    split
    · rename_i he
      rw [he, h]
    · rfl
  · rfl
  · dsimp only
    split
    · rw [wait_pidFiles, pass_pidFiles, kill_pidFiles]
      rfl
    · rfl

/-- `stop_bg` signals the process in the pid file. -/
theorem stopBg_signalled (name : Str) :
    (stopBg sys name w).signalled p ≠ none ↔
      w.signalled p ≠ none ∨ (sys.table p).isSome = true ∧ w.pidFiles name = .pid p := by
  unfold stopBg
  split
  · rename_i h
    simp [h]
  · rename_i h
    simp [h]
  · rename_i pid h
    dsimp only
    split
    · rename_i halive
      -- only the `kill` signals, and only the pid of the file
      rw [wait_signalled, pass_signalled, kill_signalled, h, PidFile.pid.injEq]
      simp only [pass_signalled, remove_signalled, decide_eq_true_eq]
      constructor
      · rintro (hs | ⟨rfl, hp⟩)
        · exact .inl hs
        · exact .inr ⟨isSome_of_alive hp, rfl⟩
      · rintro (hs | ⟨-, rfl⟩)
        · exact .inl hs
        · exact .inr ⟨rfl, halive⟩
    · rename_i halive
      rw [h, PidFile.pid.injEq]
      constructor
      · exact .inl
      · rintro (hs | ⟨hp, rfl⟩)
        · exact hs
        · intro hs
          rw [alive_of_not_signalled hs, hp] at halive
          exact halive rfl

/-- `kill_port` signals the processes with a socket on the port. -/
theorem killPort_signalled (port : Port) :
    (killPort sys port w).signalled p ≠ none ↔
      w.signalled p ≠ none ∨ (sys.table p).isSome = true ∧ sys.hasSocket port p = true := by
  unfold killPort
  dsimp only
  rw [pass_signalled, kill_signalled, pass_signalled, Bool.and_eq_true]
  constructor
  · rintro (hs | ⟨⟨hp, hsocket⟩, -⟩)
    · exact .inl hs
    · exact .inr ⟨isSome_of_alive hp, hsocket⟩
  · rintro (hs | ⟨hp, hsocket⟩)
    · exact .inl hs
    · by_cases hs : w.signalled p = none
      · have halive : w.alive sys p = true := by rw [alive_of_not_signalled hs, hp]
        have hpassed : (w.pass sys).alive sys p = true := by rw [alive_of_not_signalled (w := w.pass sys) hs, hp]
        exact .inr ⟨⟨halive, hsocket⟩, hpassed⟩
      · exact .inl hs

/-- The pid is in the pid file of one of the names. -/
def Named (procs : List Str) (pidFiles : Str → PidFile) (p : Pid) : Prop := ∃ name ∈ procs, pidFiles name = .pid p

private theorem named_cons {name : Str} {procs : List Str} {pidFiles : Str → PidFile} :
    Named (name :: procs) pidFiles p ↔ pidFiles name = .pid p ∨ Named procs pidFiles p := by
  simp [Named]

/-- Apart from the pid file that was just read, the names mean what they meant before. -/
theorem named_stopBg (sys : System) {name : Str} {procs : List Str} :
    w.pidFiles name = .pid p ∨ Named procs (stopBg sys name w).pidFiles p ↔
      w.pidFiles name = .pid p ∨ Named procs w.pidFiles p := by
  constructor
  · rintro (h | ⟨name', hmem, h⟩)
    · exact .inl h
    · rw [stopBg_pidFiles] at h
      split at h
      · cases h
      · exact .inr ⟨name', hmem, h⟩
  · rintro (h | ⟨name', hmem, h⟩)
    · exact .inl h
    · by_cases he : name' = name
      · exact .inl (he ▸ h)
      · exact .inr ⟨name', hmem, by rw [stopBg_pidFiles, if_neg he, h]⟩

private theorem stopAll_signalled (procs : List Str) :
    (procs.foldl (fun w name => stopBg sys name w) w).signalled p ≠ none ↔
      w.signalled p ≠ none ∨ (sys.table p).isSome = true ∧ Named procs w.pidFiles p := by
  induction procs generalizing w with
  | nil => simp [Named]
  | cons name procs ih =>
    rw [List.foldl_cons, ih, stopBg_signalled, named_cons, ← named_stopBg sys]
    tauto

private theorem killAll_signalled (killPorts : List Port) :
    (killPorts.foldl (fun w port => killPort sys port w) w).signalled p ≠ none ↔
      w.signalled p ≠ none ∨ (sys.table p).isSome = true ∧ ∃ port ∈ killPorts, sys.hasSocket port p = true := by
  induction killPorts generalizing w with
  | nil => simp
  | cons port killPorts ih =>
    rw [List.foldl_cons, ih, killPort_signalled, List.exists_mem_cons_iff]
    tauto

/-- `down` signals the processes that the pid files name and those with a socket on one of the ports. -/
theorem down_signalled (procs : List Str) (killPorts : List Port) (pidFiles : Str → PidFile) :
    (down sys procs killPorts (.start pidFiles)).signalled p ≠ none ↔
      (sys.table p).isSome = true ∧
        (Named procs pidFiles p ∨ ∃ port ∈ killPorts, sys.hasSocket port p = true) := by
  have hstart : (World.start pidFiles).signalled p = none := rfl
  rw [down, killAll_signalled, stopAll_signalled, hstart, ne_self_iff_false, false_or, ← and_or_left]
  rfl

end signalled

/-! ### What has exited -/

section exited

variable {sys : System} {w w' w'' : World} {p : Pid}

/-- Time went on, and a process that was signalled stays so. -/
structure Later (w w' : World) : Prop where
  now : w.now ≤ w'.now
  signalled : ∀ p t, w.signalled p = some t → w'.signalled p = some t

theorem Later.refl (w : World) : Later w w := ⟨le_rfl, fun _ _ h => h⟩

theorem Later.trans (h : Later w w') (h' : Later w' w'') : Later w w'' :=
  ⟨h.now.trans h'.now, fun p t hp => h'.signalled p t (h.signalled p t hp)⟩

/-- A process that does not run does not come back. -/
theorem Later.dead (h : Later w w') (hp : w.alive sys p = false) : w'.alive sys p = false := by
  rw [World.alive, Bool.and_eq_false_iff] at hp ⊢
  rcases hp with hp | hp
  · exact .inl hp
  · rcases hs : w.signalled p with _ | t
    · simp [hs] at hp
    · have hnow := h.now
      simp only [hs, Option.all_some, decide_eq_false_iff_not] at hp
      simp only [h.signalled p t hs, Option.all_some, decide_eq_false_iff_not]
      exact .inr (by omega)

private theorem later_pass (w : World) : Later w (w.pass sys) := ⟨Nat.le_add_right _ _, fun _ _ h => h⟩

private theorem later_remove (w : World) (name : Str) : Later w (w.remove name) := ⟨le_rfl, fun _ _ h => h⟩

private theorem later_kill (w : World) (pids : Pid → Bool) : Later w (w.kill sys pids) := by
  refine ⟨le_rfl, fun p t h => ?_⟩
  rw [kill_apply]
  split
  · rw [h]
    rfl
  · exact h

private theorem later_wait (w : World) (pid : Pid) : Later w (w.wait sys pid) := by
  unfold World.wait
  split
  · refine ⟨?_, fun _ _ h => h⟩
    rcases w.signalled pid with _ | t
    · exact le_rfl
    · exact le_max_left _ _
  · exact .refl w

private theorem later_stopBg (w : World) (name : Str) : Later w (stopBg sys name w) := by
  have hread : Later w ((w.remove name).pass sys) := (later_remove w name).trans (later_pass _)
  unfold stopBg
  split
  · exact .refl w
  · exact hread
  · dsimp only
    split
    · exact ((hread.trans (later_kill _ _)).trans (later_pass _)).trans (later_wait _ _)
    · exact hread

private theorem later_killPort (w : World) (port : Port) : Later w (killPort sys port w) :=
  ((later_pass w).trans (later_kill _ _)).trans (later_pass _)

private theorem later_stopAll (w : World) (procs : List Str) :
    Later w (procs.foldl (fun w name => stopBg sys name w) w) := by
  induction procs generalizing w with
  | nil => exact .refl w
  | cons name procs ih => exact (later_stopBg w name).trans (ih _)

private theorem later_killAll (w : World) (killPorts : List Port) :
    Later w (killPorts.foldl (fun w port => killPort sys port w) w) := by
  induction killPorts generalizing w with
  | nil => exact .refl w
  | cons port killPorts ih => exact (later_killPort w port).trans (ih _)

/-- A child that was signalled has exited when `wait` returns. -/
theorem dead_of_wait {t : Nat} (hchild : sys.isChild p = true) (hs : w.signalled p = some t) :
    (w.wait sys p).alive sys p = false := by
  rw [World.wait, if_pos hchild, hs, World.alive, Bool.and_eq_false_iff]
  refine .inr ?_
  simp [hs]

/-- `stop_bg` returns after the child in the pid file has exited. -/
theorem dead_of_stopBg {name : Str} (hchild : sys.isChild p = true) (h : w.pidFiles name = .pid p) :
    (stopBg sys name w).alive sys p = false := by
  unfold stopBg
  rw [h]
  dsimp only
  split
  · rename_i halive
    have hsignalled : (((w.remove name).pass sys).kill sys fun p' => p' = p).signalled p ≠ none :=
      (kill_signalled _).2 (.inr ⟨by simp, halive⟩)
    obtain ⟨t, ht⟩ := Option.ne_none_iff_exists'.1 hsignalled
    exact dead_of_wait hchild ht
  · rename_i halive
    exact Bool.eq_false_iff.2 halive

private theorem dead_of_stopAll {procs : List Str} (hchild : sys.isChild p = true) (h : Named procs w.pidFiles p) :
    (procs.foldl (fun w name => stopBg sys name w) w).alive sys p = false := by
  induction procs generalizing w with
  | nil =>
    obtain ⟨name, hmem, -⟩ := h
    cases hmem
  | cons name procs ih =>
    rw [named_cons, ← named_stopBg sys] at h
    rcases h with h | h
    · exact (later_stopAll _ procs).dead (dead_of_stopBg hchild h)
    · exact ih h

private theorem dead_of_down {procs : List Str} (killPorts : List Port) {pidFiles : Str → PidFile}
    (hchild : sys.isChild p = true) (h : Named procs pidFiles p) :
    (down sys procs killPorts (.start pidFiles)).alive sys p = false :=
  (later_killAll _ killPorts).dead (dead_of_stopAll hchild h)

end exited

/-! ### What may still run

If all processes but `p` exit at once and `wait` is never called for `p`, then `down` takes no longer than its
commands. -/

section running

variable {sys : System} {w : World} {p : Pid}

/-- What was signalled was signalled by now. -/
def Past (w : World) : Prop := ∀ q t, w.signalled q = some t → t ≤ w.now

private theorem past_pass (h : Past w) : Past (w.pass sys) := fun q t hq => Nat.le_add_right_of_le (h q t hq)

private theorem past_kill (h : Past w) (pids : Pid → Bool) : Past (w.kill sys pids) := by
  intro q t hq
  rw [kill_apply] at hq
  split at hq
  · rcases hs : w.signalled q with _ | t'
    · rw [hs, Option.none_or, Option.some.injEq] at hq
      exact hq.symm.le
    · rw [hs, Option.some_or, Option.some.injEq] at hq
      exact hq ▸ h q t' hs
  · exact h q t hq

private theorem wait_of_no_delay {pid : Pid} (hdelay : sys.isChild pid = true → sys.delay pid = 0) (h : Past w) :
    w.wait sys pid = w := by
  unfold World.wait
  split
  · rename_i hchild
    rcases hs : w.signalled pid with _ | t
    · rfl
    · rw [Option.elim_some, hdelay hchild, Nat.add_zero, Nat.max_eq_left (h pid t hs)]
  · rfl

private theorem stopBg_now {name : Str} (hdelay : ∀ q, q ≠ p → sys.delay q = 0)
    (hp : sys.isChild p = false ∨ w.pidFiles name ≠ .pid p) (h : Past w) :
    (stopBg sys name w).now ≤ w.now + 2 * sys.lag ∧ Past (stopBg sys name w) := by
  have hread : Past ((w.remove name).pass sys) := past_pass h
  have hlag : w.now + sys.lag ≤ w.now + 2 * sys.lag := by omega
  unfold stopBg
  split
  · exact ⟨Nat.le_add_right _ _, h⟩
  · exact ⟨hlag, hread⟩
  · rename_i pid hpid
    dsimp only
    split
    · have hkilled : Past ((((w.remove name).pass sys).kill sys fun p' => p' = pid).pass sys) :=
        past_pass (past_kill hread _)
      -- the `wait` returns at once for a process that is not the late one
      have hnone : sys.isChild pid = true → sys.delay pid = 0 := by
        intro hchild
        apply hdelay pid
        rintro rfl
        rcases hp with hp | hp
        · rw [hp] at hchild
          cases hchild
        · exact hp hpid
      rw [wait_of_no_delay hnone hkilled]
      refine ⟨?_, hkilled⟩
      simp only [pass_now, kill_now, remove_now]
      omega
    · exact ⟨hlag, hread⟩

private theorem stopAll_now {procs : List Str} (hdelay : ∀ q, q ≠ p → sys.delay q = 0)
    (hp : sys.isChild p = false ∨ ¬ Named procs w.pidFiles p) (h : Past w) :
    (procs.foldl (fun w name => stopBg sys name w) w).now ≤ w.now + 2 * sys.lag * procs.length := by
  induction procs generalizing w with
  | nil => exact le_rfl
  | cons name procs ih =>
    rw [named_cons, ← named_stopBg sys, not_or] at hp
    obtain ⟨hnow, hpast⟩ := stopBg_now hdelay (hp.imp id And.left) h
    have hrest := ih (hp.imp id And.right) hpast
    rw [List.foldl_cons, List.length_cons, Nat.mul_add, Nat.mul_one]
    omega

private theorem killAll_now (killPorts : List Port) :
    (killPorts.foldl (fun w port => killPort sys port w) w).now = w.now + 2 * sys.lag * killPorts.length := by
  induction killPorts generalizing w with
  | nil => rfl
  | cons port killPorts ih =>
    have hnow : (killPort sys port w).now = w.now + sys.lag + sys.lag := rfl
    rw [List.foldl_cons, ih, hnow, List.length_cons, Nat.mul_add, Nat.mul_one]
    omega

/-- A process that takes longer to exit than `down` takes is still there. -/
theorem alive_of_delay (hp : (sys.table p).isSome = true) (h : w.now < sys.delay p) : w.alive sys p = true := by
  rw [World.alive, hp, Bool.true_and]
  rcases w.signalled p with _ | t
  · rfl
  · rw [Option.all_some, decide_eq_true_eq]
    omega

end running

/-! ### Exact teardown -/

/-- The processes that `down` is meant for: those that `start_demo` recorded, and those listening on the ports. -/
def Target (sys : System) (killPorts : List Port) (p : Pid) : Prop :=
  ∃ q, sys.table p = some q ∧ (q.recorded = true ∨ ∃ port ∈ killPorts, port ∈ q.listening)

/-- Every process it is meant for has exited, and no other was signalled. -/
structure Exact (sys : System) (killPorts : List Port) (w : World) : Prop where
  exited : ∀ p, Target sys killPorts p → w.alive sys p = false
  spared : ∀ p, w.signalled p ≠ none → Target sys killPorts p

def System.withDelay (sys : System) (delay : Pid → Nat) : System := { sys with delay }

/-- A process that `down` does not wait for may outlast it. -/
theorem exists_delay_alive {sys : System} {p : Pid} {procs : List Str} {pidFiles : Str → PidFile}
    (killPorts : List Port) (hsome : (sys.table p).isSome = true)
    (hwait : sys.isChild p = false ∨ ¬ Named procs pidFiles p) :
    ∃ delay, (down (sys.withDelay delay) procs killPorts (.start pidFiles)).alive (sys.withDelay delay) p = true := by
  -- only `p` takes its time, and that longer than all commands
  let commands := 2 * sys.lag * procs.length + 2 * sys.lag * killPorts.length
  let delay : Pid → Nat := fun q => if q = p then commands + 1 else 0
  let slow := sys.withDelay delay
  have hdelay : ∀ q, q ≠ p → slow.delay q = 0 := fun q hq => if_neg hq
  have hself : slow.delay p = commands + 1 := if_pos rfl
  have hpast : Past (.start pidFiles) := fun _ _ h => nomatch h
  have hwait : slow.isChild p = false ∨ ¬ Named procs (World.start pidFiles).pidFiles p := hwait
  have hstop := stopAll_now hdelay hwait hpast
  have hnow : (down slow procs killPorts (.start pidFiles)).now < slow.delay p := by
    have hstart : (World.start pidFiles).now = 0 := rfl
    have hlag : slow.lag = sys.lag := rfl
    rw [hstart, hlag, Nat.zero_add] at hstop
    rw [down, killAll_now, hself, hlag]
    omega
  exact ⟨delay, alive_of_delay hsome hnow⟩

/-- The teardown is exact for all delays exactly when every process it is meant for is in a pid file and a child of
the shell, and every process in a pid file or with a socket on a port is one it is meant for. -/
theorem teardown_exact_iff (sys : System) (procs : List Str) (killPorts : List Port) (pidFiles : Str → PidFile) :
    (∀ delay, Exact (sys.withDelay delay) killPorts
      (down (sys.withDelay delay) procs killPorts (.start pidFiles))) ↔
      (∀ p, Target sys killPorts p → Named procs pidFiles p ∧ sys.isChild p = true) ∧
      ∀ p, (sys.table p).isSome = true →
        (Named procs pidFiles p ∨ ∃ port ∈ killPorts, sys.hasSocket port p = true) → Target sys killPorts p := by
  constructor
  · intro hexact
    constructor
    · intro p hp
      by_contra hno
      have hwait : sys.isChild p = false ∨ ¬ Named procs pidFiles p := by
        by_cases hchild : sys.isChild p = true
        · exact .inr fun hnamed => hno ⟨hnamed, hchild⟩
        · exact .inl (Bool.eq_false_iff.2 hchild)
      have hsome : (sys.table p).isSome = true := by
        obtain ⟨q, hq, -⟩ := hp
        rw [hq]
        rfl
      -- a process that nobody waits for may take longer than the script
      obtain ⟨delay, halive⟩ := exists_delay_alive killPorts hsome hwait
      rw [(hexact delay).exited p hp] at halive
      cases halive
    · intro p hp htouched
      exact (hexact sys.delay).spared p ((down_signalled procs killPorts pidFiles).2 ⟨hp, htouched⟩)
  · rintro ⟨hstopped, htouched⟩ delay
    constructor
    · intro p hp
      obtain ⟨hnamed, hchild⟩ := hstopped p hp
      exact dead_of_down killPorts hchild hnamed
    · intro p hp
      obtain ⟨hsome, hp⟩ := (down_signalled procs killPorts pidFiles).1 hp
      exact htouched p hsome hp

/-- The Redis demo, started by an earlier shell, and a browser that is connected to it. -/
def redisSystem : System where
  table p :=
    if p = 100 then some ⟨1, [8093], [(8093, 54321)], true⟩
    else if p = 200 then some ⟨1, [], [(54321, 8093)], false⟩
    else none
  shell := 300
  delay _ := 5
  lag := 1

/-- What `down` of the Redis demo leaves. -/
def redisDown : World := down redisSystem ["redis"] [8093] (.start fun _ => .pid 100)

/-- The demo is still there when `down` returns, and the browser was signalled. -/
theorem browser_signalled_and_demo_left :
    redisDown.alive redisSystem 100 = true ∧ redisDown.signalled 200 ≠ none ∧
      ¬ Exact redisSystem [8093] redisDown := by
  have halive : redisDown.alive redisSystem 100 = true := by decide
  have hsignalled : redisDown.signalled 200 ≠ none := by decide
  refine ⟨halive, hsignalled, ?_⟩
  intro h
  obtain ⟨q, hq, hrecorded | ⟨port, -, hport⟩⟩ := h.spared 200 hsignalled
  · cases hq
    cases hrecorded
  · cases hq
    cases hport

end PinpointExamples.Scripts
