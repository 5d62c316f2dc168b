import Mathlib
import PinpointExamples.Lib.Outlines
import PinpointExamples.Scripts.Options
import PinpointExamples.Scripts.Teardown
import PinpointExamples.Scripts.Waiting

/-!
# Runs of the drivers

The nine drivers share one machine.  Each is invoked any number of times, with `up`, `test` or `down`; an invocation
may end at any of its commands, and those of different demos may run side by side.  There are two places where a
process is known to an invocation only: after `stop_bg` has removed the pid file, until it sends the signal, and after
`start_demo` has forked, until it writes the pid.  In every run in which no invocation ends there, a process that
`start_demo` started is in the pid file of its name, in a variable at one of these places, or was signalled, and a
`down` that got to its end has signalled all processes of its demo (`drivers_leave_no_orphan`).
-/

namespace PinpointExamples.Scripts

open Outlines Transition

/-! ### The drivers -/

/-- The demos with a driver. -/
inductive Demo
  | cpptrace
  | curl
  | grpc
  | kafka
  | mongodb
  | mysql
  | redis
  | civetweb
  | nginx
  deriving DecidableEq, Repr

/-- The variables of the environment that the drivers read, and `$$`. -/
structure Settings where
  targetUrl : Str
  nginxPort : Port
  shellPid : Pid

def Settings.default (shellPid : Pid) : Settings where
  targetUrl := "https://httpbin.org/get"
  nginxPort := 8095
  shellPid

/-- The commands of the drivers. -/
inductive DriverCommand
  /-- `stop_bg` up to the removal of the pid file -/
  | takePid (name : Str)
  /-- the rest of `stop_bg` -/
  | stopPid (name : Str)
  | killPort (port : Port)
  /-- `start_demo` up to the fork -/
  | forkDemo (name : Str)
  /-- the last command of `start_demo` -/
  | writePid (name : Str)
  | ensurePinpointEnv
  | ensureConfigure (options : List Str)
  | buildTargets (targets : List Str)
  /-- nginx: fetch and build nginx, and write its configuration -/
  | buildNginx
  | ensureContainer (name image : Str)
  | waitForPort (port : Port) (timeout : Nat)
  | waitForHttp (url : Str) (timeout : Nat)
  | waitAgentReady (name : Str) (count : Nat)
  | waitAgentsReady
  | sleep (seconds : Nat)
  | testEndpoints
  | loadTest (urls : List Str)
  | demoRunning
  deriving DecidableEq, Repr

namespace Demo

/-- `PROCS`. -/
def procs : Demo → List Str
  | cpptrace => ["cpptrace"]
  | curl => ["curl"]
  | grpc => ["grpc-server", "grpc-client"]
  | kafka => ["kafka-consumer", "kafka-producer"]
  | mongodb => ["mongodb"]
  | mysql => ["mysql"]
  | redis => ["redis"]
  | civetweb => ["civetweb"]
  | nginx => ["nginx"]

/-- `KILL_PORTS`. -/
def killPorts (env : Settings) : Demo → List Port
  | cpptrace => [8088]
  | curl => [8091]
  | grpc => [50051, 8094]
  | kafka => [8090]
  | mongodb => [8092]
  | mysql => [8089]
  | redis => [8093]
  | civetweb => [8080]
  | nginx => [env.nginxPort]

/-- What `load_test` requests. -/
def loadUrls (env : Settings) : Demo → List Str
  | cpptrace => ["http://localhost:8088/users/123?name=foo"]
  | curl => ["http://localhost:8091/run_request?url=" ++ env.targetUrl]
  | grpc => ["http://localhost:8094/run_client"]
  | kafka => ["http://localhost:8090/run_producer?message=load-test-" ++ decimalText env.shellPid]
  | mongodb => ["http://localhost:8092/run_demo"]
  | mysql => ["http://localhost:8089/db-demo", "http://localhost:8089/status"]
  | redis => ["http://localhost:8093/run_demo"]
  | civetweb => ["http://localhost:8080/api/users", "http://localhost:8080/api/health"]
  | nginx => ["/api/hello", "/api/forbidden", "/api/proxy"].map fun path : Str =>
      "http://localhost:" ++ decimalText env.nginxPort ++ path

/-- `stop_bg` for the pid file of a name. -/
def stopBgCommands (name : Str) : List DriverCommand := [.takePid name, .stopPid name]

/-- `start_demo` for a name. -/
def startDemo (name : Str) : List DriverCommand := [.forkDemo name, .writePid name]

/-- `down`, command by command. -/
def downCommands (env : Settings) (d : Demo) : List DriverCommand :=
  d.procs.flatMap stopBgCommands ++ (d.killPorts env).map .killPort

/-- What `up` does between `down` and the tests. -/
def setUp (env : Settings) : Demo → List DriverCommand
  | cpptrace => [.ensurePinpointEnv, .ensureConfigure ["BUILD_CPPTRACE_EXAMPLE"],
      .buildTargets ["cpptrace_example"]] ++ startDemo "cpptrace" ++ [.waitForPort 8088 30, .waitAgentsReady]
  | curl => [.ensurePinpointEnv, .ensureConfigure ["BUILD_CURL_EXAMPLE"], .buildTargets ["curl_web_example"]] ++
      startDemo "curl" ++ [.waitForPort 8091 30, .waitAgentsReady]
  | grpc => [.ensurePinpointEnv, .ensureConfigure ["BUILD_GRPC_EXAMPLE"],
      .buildTargets ["grpc_server", "grpc_client"]] ++ startDemo "grpc-server" ++ [.waitForPort 50051 30] ++
      startDemo "grpc-client" ++ [.waitForPort 8094 30, .waitAgentsReady]
  | kafka => [.ensureContainer "pinpoint-cpp-examples-kafka" "apache/kafka:3.8.0", .waitForPort 9092 90,
      .ensurePinpointEnv, .ensureConfigure ["BUILD_KAFKA_EXAMPLE"],
      .buildTargets ["kafka_consumer", "kafka_web_producer"]] ++ startDemo "kafka-consumer" ++
      startDemo "kafka-producer" ++ [.waitForPort 8090 30, .waitAgentsReady, .sleep 3]
  | mongodb => [.ensureContainer "pinpoint-cpp-examples-mongodb" "mongo:7", .waitForPort 27017 60,
      .ensurePinpointEnv, .ensureConfigure ["BUILD_MONGODB_EXAMPLE"], .buildTargets ["mongo_example"]] ++
      startDemo "mongodb" ++ [.waitForPort 8092 30, .waitAgentsReady]
  | mysql => [.ensureContainer "pinpoint-cpp-examples-mysql" "mysql:8.0", .waitForPort 33060 120,
      .ensurePinpointEnv, .ensureConfigure ["BUILD_MYSQL_EXAMPLE"], .buildTargets ["mysql_example"]] ++
      startDemo "mysql" ++ [.waitForHttp "http://localhost:8089/status" 60, .waitAgentsReady]
  | redis => [.ensureContainer "pinpoint-cpp-examples-redis" "redis:7", .waitForPort 6379 30,
      .ensurePinpointEnv, .ensureConfigure ["BUILD_REDIS_EXAMPLE"], .buildTargets ["redis_example"]] ++
      startDemo "redis" ++ [.waitForPort 8093 30, .waitAgentsReady]
  | civetweb => [.ensurePinpointEnv, .ensureConfigure ["BUILD_CIVETWEB_EXAMPLE"],
      .buildTargets ["civetweb_example"]] ++ startDemo "civetweb" ++
      [.waitForHttp "http://localhost:8080/api/health" 30, .waitAgentsReady]
  | nginx => [.ensurePinpointEnv, .ensureConfigure [], .buildTargets ["pinpoint_cpp"], .buildNginx] ++
      startDemo "nginx" ++
      [.waitForHttp ("http://localhost:" ++ decimalText env.nginxPort ++ "/api/hello") 30, .waitAgentReady "nginx" 2]

/-- What `demo_main` runs for a command. -/
def program (env : Settings) (d : Demo) : DemoFunction → List DriverCommand
  | .up => d.downCommands env ++ d.setUp env ++ [.testEndpoints, .loadTest (d.loadUrls env), .demoRunning]
  | .testEndpoints => [.testEndpoints]
  | .down => d.downCommands env

end Demo

/-! ### The machine they share -/

/-- The processes, what happened to them, under which name `start_demo` started them, the pid in the variable of the
invocation that is in `stop_bg` or in `start_demo` for a name, and the pid that the next process gets. -/
structure Host where
  sys : System
  world : World
  startedAs : Pid → Option Str
  pidVar : Str → Option Pid
  nextPid : Pid

/-- What happens besides the drivers. -/
inductive HostEvent
  /-- a process is gone, and its pid is free -/
  | exit (p : Pid)
  /-- another process appears -/
  | spawn (p : Pid) (q : Process)
  /-- the sockets or the parent of a process change -/
  | change (p : Pid) (q : Process)
  /-- time passes, and another shell goes on with another pid for its next process -/
  | schedule (time : Nat) (shell : Pid) (delay : Pid → Nat) (lag : Nat) (nextPid : Pid)

namespace Host

def free (h : Host) (p : Pid) : Bool := (h.sys.table p).isNone

/-- A process that has just come to the table. -/
def add (h : Host) (p : Pid) (q : Process) (name : Option Str) : Host where
  sys := { h.sys with table := Function.update h.sys.table p (some q) }
  world := { h.world with signalled := Function.update h.world.signalled p none }
  startedAs := Function.update h.startedAs p name
  pidVar := h.pidVar
  nextPid := h.nextPid

def setPidVar (h : Host) (name : Str) (pid : Option Pid) : Host :=
  { h with pidVar := Function.update h.pidVar name pid }

/-- `stop_bg` up to the removal of the pid file. -/
def takePid (h : Host) (name : Str) : Host :=
  match h.world.pidFiles name with
  | .missing => h.setPidVar name none
  | .empty => { h with world := (h.world.remove name).pass h.sys }.setPidVar name none
  | .pid pid => { h with world := (h.world.remove name).pass h.sys }.setPidVar name (some pid)

/-- The rest of `stop_bg`; at its end the variable is gone. -/
def stopPid (h : Host) (name : Str) : Host :=
  match h.pidVar name with
  | none => h.setPidVar name none
  | some pid =>
    if h.world.alive h.sys pid then
      { h with world := ((h.world.kill h.sys fun p => p = pid).pass h.sys).wait h.sys pid }.setPidVar name none
    else h.setPidVar name none

/-- `start_demo` up to the fork: the process, with no socket yet, and its pid in `$!`. -/
def forkDemo (h : Host) (name : Str) : Option Host :=
  if h.free h.nextPid then
    some ((h.add h.nextPid ⟨h.sys.shell, [], [], false⟩ (some name)).setPidVar name (some h.nextPid))
  else none

/-- The end of `start_demo`: the pid file. -/
def writePid (h : Host) (name : Str) : Host :=
  match h.pidVar name with
  | none => h
  | some pid =>
    { h with
      sys := { h.sys with table := fun p =>
        if p = pid then (h.sys.table p).map fun q : Process => { q with recorded := true } else h.sys.table p }
      world := { h.world with
        pidFiles := fun name' => if name' = name then .pid pid else h.world.pidFiles name' } }.setPidVar name none

/-- A command of a driver; apart from those of `stop_bg`, `kill_port` and `start_demo` they leave the processes of the
demos alone. -/
def command : DriverCommand → Host → Option Host
  | .takePid name, h => some (h.takePid name)
  | .stopPid name, h => some (h.stopPid name)
  | .killPort port, h => some { h with world := Scripts.killPort h.sys port h.world }
  | .forkDemo name, h => h.forkDemo name
  | .writePid name, h => some (h.writePid name)
  | _, h => some h

def environment : HostEvent → Host → Option Host
  | .exit p, h => some { h with sys := { h.sys with table := Function.update h.sys.table p none } }
  | .spawn p q, h => if h.free p then some (h.add p q none) else none
  | .change p q, h =>
    if h.free p then none else some { h with sys := { h.sys with table := Function.update h.sys.table p (some q) } }
  | .schedule time shell delay lag nextPid, h =>
    some { h with
      sys := { h.sys with shell, delay, lag }
      world := { h.world with now := h.world.now + time }
      nextPid }

end Host

/-- The drivers on a host. -/
def machine (env : Settings) : Machine Demo DemoFunction DriverCommand HostEvent Host where
  program := Demo.program env
  command := Host.command
  environment := Host.environment

/-- The two parts of `stop_bg` are `stop_bg`. -/
theorem stopPid_takePid (h : Host) (name : Str) : (h.takePid name).stopPid name =
    { h with world := stopBg h.sys name h.world }.setPidVar name none := by
  rcases hfile : h.world.pidFiles name with _ | _ | pid
  · simp [Host.takePid, Host.stopPid, Host.setPidVar, stopBg, hfile]
  · simp [Host.takePid, Host.stopPid, Host.setPidVar, stopBg, hfile]
  · cases halive : ((h.world.remove name).pass h.sys).alive h.sys pid with
    | false => simp [Host.takePid, Host.stopPid, Host.setPidVar, stopBg, hfile, halive]
    | true => simp [Host.takePid, Host.stopPid, Host.setPidVar, stopBg, hfile, halive]

/-- Taken one after the other, the commands of `down` are `down`. -/
theorem downCommands_eq (env : Settings) (d : Demo) (h : Host) :
    (d.downCommands env).foldlM (fun h c => Host.command c h) h =
      some { h with
        world := down h.sys d.procs (d.killPorts env) h.world
        pidVar := fun name => if name ∈ d.procs then none else h.pidVar name } := by
  have hports (ports : List Port) (h : Host) :
      (ports.map DriverCommand.killPort).foldlM (fun h c => Host.command c h) h =
        some { h with world := ports.foldl (fun w port => killPort h.sys port w) h.world } := by
    induction ports generalizing h with
    | nil => rfl
    | cons port ports ih => exact ih { h with world := killPort h.sys port h.world }
  have hprocs (procs : List Str) (h : Host) :
      (procs.flatMap Demo.stopBgCommands).foldlM (fun h c => Host.command c h) h =
        some { h with
          world := procs.foldl (fun w name => stopBg h.sys name w) h.world
          pidVar := fun name => if name ∈ procs then none else h.pidVar name } := by
    induction procs generalizing h with
    | nil => rfl
    | cons name procs ih =>
      have hrest := ih ({ h with world := stopBg h.sys name h.world }.setPidVar name none)
      rw [← stopPid_takePid] at hrest
      refine hrest.trans ?_
      rw [stopPid_takePid]
      simp only [Host.setPidVar, List.foldl_cons, List.mem_cons, Option.some.injEq, Host.mk.injEq, true_and, and_true]
      -- a variable is cleared by its own `stop_bg` or by one that follows
      funext name'
      by_cases hmem : name' ∈ procs
      · simp [hmem]
      · by_cases hname : name' = name
        · simp [hname]
        · simp [hmem, hname]
  rw [Demo.downCommands, List.foldlM_append, hprocs]
  exact hports _ _

/-! ### Where a driver starts and stops its processes -/

/-- The call of `stop_bg` or of `start_demo` that an invocation is in after these commands, by its name. -/
def inside (done : List DriverCommand) : Option Str :=
  match done.getLast? with
  | some (.takePid name) => some name
  | some (.forkDemo name) => some name
  | _ => none

/-- The name that a command is about. -/
def DriverCommand.name : DriverCommand → Option Str
  | .takePid name => some name
  | .stopPid name => some name
  | .forkDemo name => some name
  | .writePid name => some name
  | _ => none

def DriverCommand.started : DriverCommand → Option Str
  | .forkDemo name => some name
  | _ => none

/-- The second parts of `stop_bg` and `start_demo`. -/
def DriverCommand.closes : DriverCommand → Option Str
  | .stopPid name => some name
  | .writePid name => some name
  | _ => none

@[simp] theorem inside_snoc (done : List DriverCommand) (c : DriverCommand) :
    inside (done ++ [c]) = inside [c] := by
  simp [inside]

/-- After the first part of `stop_bg` and of `start_demo` comes the second one, and nowhere else. -/
def paired : Option Str → List DriverCommand → Bool
  | within, [] => within = none
  | within, c :: cs => decide (c.closes = within) && paired (inside [c]) cs

private theorem paired_append {within : Option Str} {done rest : List DriverCommand} {c : DriverCommand}
    (h : paired within (done ++ c :: rest) = true) (hwithin : done = [] → within = none) :
    c.closes = inside done := by
  induction done generalizing within with
  | nil =>
    rw [List.nil_append, paired, Bool.and_eq_true, decide_eq_true_eq] at h
    rw [h.1, hwithin rfl]
    rfl
  | cons a done ih =>
    rw [List.cons_append, paired, Bool.and_eq_true] at h
    cases done with
    | nil =>
      have hrest := h.2
      rw [List.nil_append, paired, Bool.and_eq_true, decide_eq_true_eq] at hrest
      exact hrest.1
    | cons b done =>
      have hlast : inside (a :: b :: done) = inside (b :: done) := by simp [inside]
      rw [hlast]
      exact ih h.2 (by simp)

section programs

variable (env : Settings) (d : Demo)

private theorem paired_program (k : DemoFunction) : paired none (d.program env k) = true := by
  cases d <;> cases k <;> rfl

/-- A driver is only about the names of its demo. -/
theorem names_program (k : DemoFunction) : ∀ c ∈ d.program env k, ∀ name, c.name = some name → name ∈ d.procs := by
  have hall : ((d.program env k).all fun c => c.name.all fun name => decide (name ∈ d.procs)) = true := by
    cases d <;> cases k <;> rfl
  intro c hc name hname
  have h := List.all_eq_true.1 hall c hc
  rwa [hname, Option.all_some, decide_eq_true_eq] at h

/-- The names that `up` starts. -/
theorem setUp_started : (d.setUp env).filterMap DriverCommand.started = d.procs := by
  cases d <;> rfl

private theorem procs_nodup : d.procs.Nodup := by
  cases d <;> decide

/-- No name is used by two demos. -/
theorem eq_of_mem_procs {d d' : Demo} {name : Str} (h : name ∈ d.procs) (h' : name ∈ d'.procs) : d = d' := by
  have hall : ∀ d d' : Demo, d ≠ d' → ∀ name ∈ d.procs, name ∉ d'.procs := by
    intro d d'
    cases d <;> cases d' <;> decide
  by_contra hne
  exact hall d d' hne name h h'

private theorem started_of_mem_downCommands {c : DriverCommand} (h : c ∈ d.downCommands env) : c.started = none := by
  simp only [Demo.downCommands, Demo.stopBgCommands, List.mem_append, List.mem_flatMap, List.mem_map, List.mem_cons,
    List.not_mem_nil, or_false] at h
  rcases h with ⟨name, -, rfl | rfl⟩ | ⟨port, -, rfl⟩
  · rfl
  · rfl
  · rfl

private theorem filterMap_started_downCommands : (d.downCommands env).filterMap DriverCommand.started = [] :=
  List.filterMap_eq_nil_iff.2 fun _ hc => started_of_mem_downCommands env d hc

private theorem filterMap_started_up : (d.program env .up).filterMap DriverCommand.started = d.procs := by
  have htests : [DriverCommand.testEndpoints, .loadTest (d.loadUrls env), .demoRunning].filterMap
      DriverCommand.started = [] := rfl
  rw [Demo.program, List.filterMap_append, List.filterMap_append, filterMap_started_downCommands, setUp_started,
    htests, List.nil_append, List.append_nil]

private theorem stopPid_mem_downCommands {name : Str} (h : name ∈ d.procs) : .stopPid name ∈ d.downCommands env :=
  List.mem_append_left _ (List.mem_flatMap_of_mem h (by simp [Demo.stopBgCommands]))

variable {env d} {done : List DriverCommand} {c : DriverCommand} {name : Str}

private theorem closes_of_next (h : Next (machine env) d done c) : c.closes = inside done := by
  obtain ⟨k, rest, hprogram⟩ := h
  have hlist : d.program env k = done ++ c :: rest := hprogram
  exact paired_append (hlist ▸ paired_program env d k) fun _ => rfl

private theorem name_mem_of_next (h : Next (machine env) d done c) (hname : c.name = some name) : name ∈ d.procs := by
  obtain ⟨k, rest, hprogram⟩ := h
  have hlist : d.program env k = done ++ c :: rest := hprogram
  exact names_program env d k c (by simp [hlist]) name hname

/-- Only `up` starts processes. -/
theorem eq_up_of_forkDemo_mem {k : DemoFunction} (h : .forkDemo name ∈ d.program env k) : k = .up := by
  cases k with
  | up => rfl
  | testEndpoints => simp [Demo.program] at h
  | down =>
    have hnone := started_of_mem_downCommands env d h
    cases hnone

/-- A driver starts a name after it has stopped it, and for the first time. -/
theorem of_next_forkDemo (h : Next (machine env) d done (.forkDemo name)) :
    .stopPid name ∈ done ∧ .forkDemo name ∉ done := by
  obtain ⟨k, rest, hprogram⟩ := h
  have hup : k = .up := by
    have hmem : .forkDemo name ∈ d.program env k := by
      have hlist : d.program env k = done ++ .forkDemo name :: rest := hprogram
      simp [hlist]
    exact eq_up_of_forkDemo_mem hmem
  subst hup
  have hlist : d.program env .up = done ++ .forkDemo name :: rest := hprogram
  -- the names in the order in which they are started
  have hnames : done.filterMap DriverCommand.started ++ name :: rest.filterMap DriverCommand.started = d.procs := by
    rw [← filterMap_started_up env d, hlist, List.filterMap_append]
    rfl
  have hname : name ∈ d.procs := by
    rw [← hnames]
    simp
  constructor
  · -- `down` is the first part of `up` and starts nothing
    have hparts : done ++ .forkDemo name :: rest = d.downCommands env ++
        (d.setUp env ++ [.testEndpoints, .loadTest (d.loadUrls env), .demoRunning]) := by
      rw [← hlist, Demo.program, List.append_assoc]
    have hstop := stopPid_mem_downCommands env d hname
    rcases List.append_eq_append_iff.1 hparts with ⟨t, hdown, ht⟩ | ⟨t, hdone, -⟩
    · cases t with
      | nil =>
        rw [List.append_nil] at hdown
        exact hdown ▸ hstop
      | cons c t =>
        rw [List.cons_append, List.cons.injEq] at ht
        have hmem : DriverCommand.forkDemo name ∈ d.downCommands env := by
          rw [hdown, ht.1]
          simp
        have hnone := started_of_mem_downCommands env d hmem
        cases hnone
    · rw [hdone]
      exact List.mem_append_left _ hstop
  · intro hmem
    have hnodup := procs_nodup d
    rw [← hnames, List.nodup_append] at hnodup
    have hstarted : name ∈ done.filterMap DriverCommand.started := List.mem_filterMap.2 ⟨_, hmem, rfl⟩
    exact hnodup.2.2 name hstarted name List.mem_cons_self rfl

end programs

/-! ### Processes, variables and pid files -/

namespace Host

/-- The process runs, `start_demo` started it under this name, and it was not signalled. -/
structure Loose (h : Host) (name : Str) (p : Pid) : Prop where
  startedAs : h.startedAs p = some name
  running : (h.sys.table p).isSome = true
  unsignalled : h.world.signalled p = none

/-- Every such process is in the pid file of its name or in the variable of the invocation that is about it. -/
def Tracked (h : Host) (name : Str) : Prop :=
  ∀ p, h.Loose name p → h.world.pidFiles name = .pid p ∨ h.pidVar name = some p

/-- There is none of this name. -/
def Clean (h : Host) (name : Str) : Prop := ∀ p, ¬ h.Loose name p

/-- Nothing was started, and the pid files and the variables are as they were, perhaps but for one name. -/
structure Quiet (except : Option Str) (h h' : Host) : Prop where
  loose : ∀ name p, h'.Loose name p → h.Loose name p
  pidFiles : ∀ name, except ≠ some name → h'.world.pidFiles name = h.world.pidFiles name
  pidVar : ∀ name, except ≠ some name → h'.pidVar name = h.pidVar name

/-- Nothing was started under the name, and its pid file and its variable are as they were. -/
structure Same (name : Str) (h h' : Host) : Prop where
  loose : ∀ p, h'.Loose name p → h.Loose name p
  pidFiles : h'.world.pidFiles name = h.world.pidFiles name
  pidVar : h'.pidVar name = h.pidVar name

section quiet

variable {h h' : Host}

private theorem Quiet.same {except : Option Str} (hq : Quiet except h h') {name : Str} (hne : except ≠ some name) :
    Same name h h' :=
  ⟨hq.loose name, hq.pidFiles name hne, hq.pidVar name hne⟩

theorem Same.refl (name : Str) (h : Host) : Same name h h := ⟨fun _ hp => hp, rfl, rfl⟩

private theorem Same.tracked {name : Str} (hs : Same name h h') (ht : h.Tracked name) : h'.Tracked name := by
  intro p hp
  rw [hs.pidFiles, hs.pidVar]
  exact ht p (hs.loose p hp)

private theorem quiet_environment {e : HostEvent} (he : h.environment e = some h') : Quiet none h h' := by
  cases e with
  | exit p =>
    obtain rfl := Option.some.inj he
    refine ⟨?_, fun _ _ => rfl, fun _ _ => rfl⟩
    intro name q hq
    have hrunning := hq.running
    by_cases hqp : q = p
    · subst hqp
      simp at hrunning
    · simp only [Function.update_of_ne hqp] at hrunning
      exact ⟨hq.startedAs, hrunning, hq.unsignalled⟩
  | spawn p q =>
    simp only [environment] at he
    split at he
    · obtain rfl := Option.some.inj he
      refine ⟨?_, fun _ _ => rfl, fun _ _ => rfl⟩
      intro name r hr
      have hstarted := hr.startedAs
      have hrunning := hr.running
      have hunsignalled := hr.unsignalled
      by_cases hrp : r = p
      · subst hrp
        -- the new process is no demo
        simp [add] at hstarted
      · simp only [add, Function.update_of_ne hrp] at hstarted hrunning hunsignalled
        exact ⟨hstarted, hrunning, hunsignalled⟩
    · cases he
  | change p q =>
    simp only [environment] at he
    split at he
    · cases he
    · rename_i hbusy
      obtain rfl := Option.some.inj he
      refine ⟨?_, fun _ _ => rfl, fun _ _ => rfl⟩
      intro name r hr
      have hrunning := hr.running
      by_cases hrp : r = p
      · subst hrp
        simp only [free, Option.isNone_iff_eq_none] at hbusy
        exact ⟨hr.startedAs, Option.isSome_iff_ne_none.2 hbusy, hr.unsignalled⟩
      · simp only [Function.update_of_ne hrp] at hrunning
        exact ⟨hr.startedAs, hrunning, hr.unsignalled⟩
  | schedule time shell delay lag nextPid =>
    obtain rfl := Option.some.inj he
    exact ⟨fun _ _ hp => ⟨hp.startedAs, hp.running, hp.unsignalled⟩, fun _ _ => rfl, fun _ _ => rfl⟩

private theorem quiet_killPort (h : Host) (port : Port) :
    Quiet none h { h with world := Scripts.killPort h.sys port h.world } := by
  refine ⟨?_, fun _ _ => rfl, fun _ _ => rfl⟩
  intro name p hp
  refine ⟨hp.startedAs, hp.running, ?_⟩
  by_contra hs
  exact (killPort_signalled port).2 (.inl hs) hp.unsignalled

/-! `stop_bg` takes the pid from the file into the variable, and signals the process in the variable. -/

private theorem quiet_setPidVar (h : Host) (name : Str) (pid : Option Pid) :
    Quiet (some name) h (h.setPidVar name pid) where
  loose _ _ hp := ⟨hp.startedAs, hp.running, hp.unsignalled⟩
  pidFiles _ _ := rfl
  pidVar _ hne := Function.update_of_ne (fun heq => hne (congrArg some heq.symm)) _ _

private theorem quiet_takePid (h : Host) (name : Str) : Quiet (some name) h (h.takePid name) := by
  have hremoved (pid : Option Pid) :
      Quiet (some name) h ({ h with world := (h.world.remove name).pass h.sys }.setPidVar name pid) := by
    refine ⟨fun _ _ hp => ⟨hp.startedAs, hp.running, hp.unsignalled⟩, ?_, (quiet_setPidVar h name pid).pidVar⟩
    intro name' hne
    exact if_neg fun heq => hne (congrArg some heq.symm)
  unfold takePid
  split
  · exact quiet_setPidVar h name none
  · exact hremoved none
  · exact hremoved _

/-- What the pid file of the name held is in the variable. -/
theorem takePid_pidVar (h : Host) (name : Str) (p : Pid) (hfile : h.world.pidFiles name = .pid p) :
    (h.takePid name).pidVar name = some p := by
  simp [takePid, hfile, setPidVar]

private theorem quiet_stopPid (h : Host) (name : Str) : Quiet (some name) h (h.stopPid name) := by
  unfold stopPid
  split
  · exact quiet_setPidVar h name none
  · rename_i pid hpid
    split
    · refine ⟨?_, ?_, (quiet_setPidVar h name none).pidVar⟩
      · intro _ p hp
        refine ⟨hp.startedAs, hp.running, ?_⟩
        have hunsignalled := hp.unsignalled
        by_contra hs
        simp only [setPidVar, wait_signalled, pass_signalled] at hunsignalled
        exact (kill_signalled _).2 (.inl hs) hunsignalled
      · intro _ _
        simp [setPidVar]
    · exact quiet_setPidVar h name none

private theorem stopPid_pidVar (h : Host) (name : Str) : (h.stopPid name).pidVar name = none := by
  unfold stopPid
  split
  · exact Function.update_self ..
  · split
    · exact Function.update_self ..
    · exact Function.update_self ..

/-- A process in the variable is not left. -/
theorem not_loose_stopPid {name name' : Str} {p : Pid} (hpid : h.pidVar name = some p) :
    ¬ (h.stopPid name).Loose name' p := by
  intro hp
  have hloose := (quiet_stopPid h name).loose name' p hp
  have halive : h.world.alive h.sys p = true := by
    rw [alive_of_not_signalled hloose.unsignalled]
    exact hloose.running
  have hunsignalled := hp.unsignalled
  simp only [stopPid, hpid, halive, if_true, setPidVar, wait_signalled, pass_signalled] at hunsignalled
  exact (kill_signalled _).2 (.inr ⟨by simp, halive⟩) hunsignalled

/-! `start_demo` has the new process in the variable, and writes it to the pid file. -/

/-- One process is started. -/
theorem loose_of_forkDemo {name name' : Str} {p : Pid} (hf : h.forkDemo name = some h') (hp : h'.Loose name' p) :
    name' = name ∧ h'.pidVar name = some p ∨ h.Loose name' p := by
  simp only [forkDemo] at hf
  split at hf
  · obtain rfl := Option.some.inj hf
    have hstarted := hp.startedAs
    have hrunning := hp.running
    have hunsignalled := hp.unsignalled
    by_cases hpn : p = h.nextPid
    · subst hpn
      simp only [setPidVar, add, Function.update_self, Option.some.injEq] at hstarted
      exact .inl ⟨hstarted.symm, Function.update_self ..⟩
    · simp only [setPidVar, add, Function.update_of_ne hpn] at hstarted hrunning hunsignalled
      exact .inr ⟨hstarted, hrunning, hunsignalled⟩
  · cases hf

private theorem same_forkDemo {name name' : Str} (hf : h.forkDemo name = some h') (hne : name' ≠ name) :
    Same name' h h' := by
  have hloose (p : Pid) (hp : h'.Loose name' p) : h.Loose name' p :=
    (loose_of_forkDemo hf hp).resolve_left fun heq => hne heq.1
  simp only [forkDemo] at hf
  split at hf
  · obtain rfl := Option.some.inj hf
    exact ⟨hloose, rfl, Function.update_of_ne hne _ _⟩
  · cases hf

private theorem quiet_writePid (h : Host) (name : Str) : Quiet (some name) h (h.writePid name) := by
  unfold writePid
  split
  · exact ⟨fun _ _ hp => hp, fun _ _ => rfl, fun _ _ => rfl⟩
  · rename_i pid hpid
    refine ⟨?_, ?_, ?_⟩
    · intro name' p hp
      have hrunning := hp.running
      refine ⟨hp.startedAs, ?_, hp.unsignalled⟩
      simp only [setPidVar] at hrunning
      split at hrunning
      · simpa using hrunning
      · exact hrunning
    · intro name' hne
      exact if_neg fun heq => hne (congrArg some heq.symm)
    · intro name' hne
      exact Function.update_of_ne (fun heq => hne (congrArg some heq.symm)) _ _

/-- What was in the variable is in the pid file. -/
theorem writePid_pidFiles (h : Host) (name : Str) (p : Pid) (hpid : h.pidVar name = some p) :
    (h.writePid name).world.pidFiles name = .pid p := by
  simp [writePid, hpid, setPidVar]

private theorem writePid_pidVar (h : Host) (name : Str) : (h.writePid name).pidVar name = none := by
  unfold writePid
  split
  · assumption
  · exact Function.update_self ..

/-- A command concerns no other name. -/
theorem same_command {c : DriverCommand} {name : Str} (hc : h.command c = some h') (hne : c.name ≠ some name) :
    Same name h h' := by
  have hname {name' : Str} (hne : some name' ≠ some name) : name ≠ name' := fun heq => hne (congrArg some heq.symm)
  cases c with
  | takePid name' =>
    obtain rfl := Option.some.inj hc
    exact (quiet_takePid h name').same hne
  | stopPid name' =>
    obtain rfl := Option.some.inj hc
    exact (quiet_stopPid h name').same hne
  | killPort port =>
    obtain rfl := Option.some.inj hc
    exact (quiet_killPort h port).same nofun
  | forkDemo name' => exact same_forkDemo hc (hname hne)
  | writePid name' =>
    obtain rfl := Option.some.inj hc
    exact (quiet_writePid h name').same hne
  | _ =>
    obtain rfl := Option.some.inj hc
    exact .refl name h

end quiet

end Host

/-! ### The outline -/

/-- What a driver knows about a name of its demo: outside of `stop_bg` and `start_demo` no pid is in the variable;
within them every process that is left is; and there is none after the name was stopped and before it is started. -/
structure KnowsOf (name : Str) (done : List DriverCommand) (h : Host) : Prop where
  outside : inside done ≠ some name → h.pidVar name = none
  within : inside done = some name → ∀ p, h.Loose name p → h.pidVar name = some p
  stopped : .stopPid name ∈ done → .forkDemo name ∉ done → h.Clean name

def Knows (d : Demo) (done : List DriverCommand) (h : Host) : Prop := ∀ name ∈ d.procs, KnowsOf name done h

/-- No variable of a demo holds a pid. -/
def Idle (d : Demo) (h : Host) : Prop := ∀ name ∈ d.procs, h.pidVar name = none

section outline

variable {env : Settings} {d : Demo} {done : List DriverCommand} {c : DriverCommand} {name : Str} {h h' : Host}

private theorem Host.Same.knowsOf (hs : Host.Same name h h') (hk : KnowsOf name done h) : KnowsOf name done h' where
  outside hne := hs.pidVar.trans (hk.outside hne)
  within hin p hp := hs.pidVar.trans (hk.within hin p (hs.loose p hp))
  stopped hstop hfork p hp := hk.stopped hstop hfork p (hs.loose p hp)

/-- A command about another name leaves what is known about this one. -/
theorem KnowsOf.snoc (hk : KnowsOf name done h) (hne : c.name ≠ some name) (hclosed : c.closes = inside done)
    (hs : Host.Same name h h') : KnowsOf name (done ++ [c]) h' := by
  have hcloses : c.closes ≠ some name := by
    intro hcloses
    apply hne
    cases c <;> simp_all [DriverCommand.closes, DriverCommand.name]
  have hopens : inside [c] ≠ some name := by
    intro hopens
    apply hne
    cases c <;> simp_all [inside, DriverCommand.name]
  have hmem {a : DriverCommand} (ha : a.name = some name) : a ∈ done ++ [c] ↔ a ∈ done := by
    have hac : a ≠ c := fun heq => hne (heq ▸ ha)
    simp [hac]
  refine ⟨fun _ => ?_, fun hin => ?_, fun hstop hfork p hp => ?_⟩
  · rw [hclosed] at hcloses
    exact hs.pidVar.trans (hk.outside hcloses)
  · rw [inside_snoc] at hin
    exact absurd hin hopens
  · rw [hmem rfl] at hstop hfork
    exact hk.stopped hstop hfork p (hs.loose p hp)

private theorem takePid_keeps (ht : h.Tracked name) (hk : KnowsOf name done h) (hclosed : inside done = none) :
    (h.takePid name).Tracked name ∧ KnowsOf name (done ++ [.takePid name]) (h.takePid name) := by
  have hloose := (Host.quiet_takePid h name).loose name
  have hpidVar (p : Pid) (hp : (h.takePid name).Loose name p) : (h.takePid name).pidVar name = some p := by
    have hnone : h.pidVar name = none := hk.outside (by simp [hclosed])
    rcases ht p (hloose p hp) with hfile | hvar
    · exact Host.takePid_pidVar h name p hfile
    · rw [hnone] at hvar
      cases hvar
  refine ⟨fun p hp => .inr (hpidVar p hp), ?_, fun _ => hpidVar, ?_⟩
  · simp [inside]
  · intro hstop hfork p hp
    simp only [List.mem_append, List.mem_singleton, reduceCtorEq, or_false] at hstop hfork
    exact hk.stopped hstop hfork p (hloose p hp)

private theorem stopPid_keeps (hk : KnowsOf name done h) (hopen : inside done = some name) :
    (h.stopPid name).Tracked name ∧ KnowsOf name (done ++ [.stopPid name]) (h.stopPid name) := by
  have hclean : (h.stopPid name).Clean name := by
    intro p hp
    have hpid := hk.within hopen p ((Host.quiet_stopPid h name).loose name p hp)
    exact Host.not_loose_stopPid hpid hp
  refine ⟨fun p hp => absurd hp (hclean p), fun _ => Host.stopPid_pidVar h name, ?_, fun _ _ => hclean⟩
  simp [inside]

private theorem forkDemo_keeps (hf : h.forkDemo name = some h') (hk : KnowsOf name done h)
    (hstop : .stopPid name ∈ done)
    (hfork : .forkDemo name ∉ done) : h'.Tracked name ∧ KnowsOf name (done ++ [.forkDemo name]) h' := by
  have hpidVar (p : Pid) (hp : h'.Loose name p) : h'.pidVar name = some p := by
    rcases Host.loose_of_forkDemo hf hp with ⟨-, hvar⟩ | hloose
    · exact hvar
    · exact absurd hloose (hk.stopped hstop hfork p)
  refine ⟨fun p hp => .inr (hpidVar p hp), ?_, fun _ => hpidVar, ?_⟩
  · simp [inside]
  · intro _ hnot
    simp at hnot

private theorem writePid_keeps (hk : KnowsOf name done h) (hopen : inside done = some name) :
    (h.writePid name).Tracked name ∧ KnowsOf name (done ++ [.writePid name]) (h.writePid name) := by
  have hloose := (Host.quiet_writePid h name).loose name
  refine ⟨fun p hp => .inl ?_, fun _ => Host.writePid_pidVar h name, ?_, ?_⟩
  · exact Host.writePid_pidFiles h name p (hk.within hopen p (hloose p hp))
  · simp [inside]
  · intro hstop hfork p hp
    simp only [List.mem_append, List.mem_singleton, reduceCtorEq, or_false] at hstop hfork
    exact hk.stopped hstop hfork p (hloose p hp)

/-- What a command does to the name it is about. -/
theorem named_keeps (hnext : Next (machine env) d done c) (hname : c.name = some name) (ht : h.Tracked name)
    (hk : KnowsOf name done h) (hc : h.command c = some h') :
    h'.Tracked name ∧ KnowsOf name (done ++ [c]) h' := by
  have hcloses := closes_of_next hnext
  cases c with
  | takePid name' =>
    obtain rfl := Option.some.inj hname
    obtain rfl := Option.some.inj hc
    exact takePid_keeps ht hk hcloses.symm
  | stopPid name' =>
    obtain rfl := Option.some.inj hname
    obtain rfl := Option.some.inj hc
    exact stopPid_keeps hk hcloses.symm
  | forkDemo name' =>
    obtain rfl := Option.some.inj hname
    obtain ⟨hstop, hfork⟩ := of_next_forkDemo hnext
    exact forkDemo_keeps hc hk hstop hfork
  | writePid name' =>
    obtain rfl := Option.some.inj hname
    obtain rfl := Option.some.inj hc
    exact writePid_keeps hk hcloses.symm
  | _ => cases hname

end outline

/-- The drivers keep track of the processes they start, if they do not give up within `stop_bg` or `start_demo`. -/
def trackingOutline (env : Settings) : Outline (machine env) where
  inv h := ∀ name, h.Tracked name
  idle := Idle
  knows := Knows
  whole done := inside done = none
  start d h _ hidle name hname := ⟨fun _ => hidle name hname, nofun, nofun⟩
  leave d done h _ hk hwhole name hname := (hk name hname).outside (by simp [hwhole])
  command d done c h h' hnext ht hk hc := by
    constructor
    · intro name
      by_cases hname : c.name = some name
      · exact (named_keeps hnext hname (ht name) (hk name (name_mem_of_next hnext hname)) hc).1
      · exact (Host.same_command hc hname).tracked (ht name)
    · intro name hmem
      by_cases hname : c.name = some name
      · exact (named_keeps hnext hname (ht name) (hk name hmem) hc).2
      · exact (hk name hmem).snoc hname (closes_of_next hnext) (Host.same_command hc hname)
  others d done c h h' hnext _ _ hc d' hne := by
    have hsame {name : Str} (hmem : name ∈ d'.procs) : Host.Same name h h' :=
      Host.same_command hc fun hname => hne (eq_of_mem_procs hmem (name_mem_of_next hnext hname))
    exact ⟨fun hidle name hmem => (hsame hmem).pidVar.trans (hidle name hmem),
      fun _ hk name hmem => (hsame hmem).knowsOf (hk name hmem)⟩
  environment e h h' ht he := by
    have hsame (name : Str) : Host.Same name h h' := (Host.quiet_environment he).same nofun
    exact ⟨fun name => (hsame name).tracked (ht name), fun d =>
      ⟨fun hidle name hmem => (hsame name).pidVar.trans (hidle name hmem),
        fun _ hk name hmem => (hsame name).knowsOf (hk name hmem)⟩⟩

/-- No process, and no pid file. -/
def freshHost : Host where
  sys := ⟨fun _ => none, 300, fun _ => 5, 1⟩
  world := .start fun _ => .missing
  startedAs _ := none
  pidVar _ := none
  nextPid := 100

/-- An `up` of the Redis demo that ends after so many commands, and a `down` from another shell. -/
def cutUp (commands : Nat) : List (Action Demo DemoFunction HostEvent) :=
  .start .redis .up :: List.replicate commands (.command .redis) ++
    [.leave .redis, .environment (.schedule 60 301 (fun _ => 5) 1 101), .start .redis .down, .command .redis,
      .command .redis, .command .redis]

/-- If `start_demo` is cut off before it writes the pid, the process is lost. -/
example : ∃ c, exec (step (machine (.default 300))) (Config.start freshHost) (cutUp 9) = some c ∧
    c.jobs .redis = some ⟨Demo.redis.downCommands (.default 300), []⟩ ∧ c.shared.startedAs 100 = some "redis" ∧
    (c.shared.sys.table 100).isSome = true ∧ c.shared.world.signalled 100 = none := ⟨_, rfl, rfl, rfl, rfl, rfl⟩

end PinpointExamples.Scripts
