import Mathlib
import PinpointExamples.Scripts.Drivers

/-!
# `ensure_container`

`ensure_container` looks whether its container runs, then whether it is there, and starts or creates it.  The
container engine is not a part of the repository: `Engine` is what the commands ask of one, and `Engine.Contract` what
its documentation says of the answers.  `docker run` asks twice, for a container and then for its start.
`Call.step_cases` says what a request of a call may do to the containers, and `Call.step_works` how the call goes on
if it is carried out.
-/

namespace PinpointExamples.Scripts

open Function (update update_self update_of_ne)

/-! ### The engine -/

/-- A container: its id, what it was made of, and whether it runs. -/
structure Container (Id : Type) where
  id : Id
  image : Str
  args : List Str
  running : Bool
  deriving DecidableEq, Repr

/-- A container in a request, by its name or by its id. -/
inductive Ref (Id : Type)
  | name (name : Str)
  | id (id : Id)
  deriving DecidableEq, Repr

/-- A container engine: the containers by their names, and the requests, of which each is served at once and with an
outcome of the engine's choice.  No id is given twice, and nothing is renamed: an id belongs to one name. -/
structure Engine where
  State : Type
  Id : Type
  Choice : Type
  owner : Id → Str
  view : State → Str → Option (Container Id)
  /-- the names of `docker ps`, with `-a` also of containers that do not run -/
  list : Bool → Choice → State → Option (List Str)
  create : Str → Str → List Str → Choice → State → Option Id × State
  start : Ref Id → Choice → State → Bool × State
  stop : Str → Choice → State → State
  remove : Str → Choice → State → State

namespace Engine

variable (E : Engine)

def named : Ref E.Id → Str
  | .name name => name
  | .id id => E.owner id

/-- The container of a reference. -/
structure Finds (e : E.State) (ref : Ref E.Id) (k : Container E.Id) : Prop where
  view : E.view e (E.named ref) = some k
  id : ∀ id, ref = .id id → k.id = id

/-- What is documented of an engine: a name is given once, a container is made before it runs, and what fails may have
had its effect. -/
structure Contract : Prop where
  owner : ∀ e name k, E.view e name = some k → E.owner k.id = name
  list : ∀ all c e names, E.list all c e = some names →
    ∀ name, name ∈ names ↔ ∃ k, E.view e name = some k ∧ (all = true ∨ k.running = true)
  create : ∀ name image args c e reply e', E.create name image args c e = (reply, e') →
    reply = none ∧ E.view e' = E.view e ∨ ∃ id, E.view e name = none ∧ (reply = none ∨ reply = some id) ∧
      E.view e' = update (E.view e) name (some ⟨id, image, args, false⟩)
  start : ∀ ref c e ok e', E.start ref c e = (ok, e') →
    ok = false ∧ E.view e' = E.view e ∨ ∃ k, E.Finds e ref k ∧
      E.view e' = update (E.view e) (E.named ref) (some { k with running := true })
  stop : ∀ name c e, E.view (E.stop name c e) = E.view e ∨ ∃ k, E.view e name = some k ∧
    E.view (E.stop name c e) = update (E.view e) name (some { k with running := false })
  remove : ∀ name c e, E.view (E.remove name c e) = E.view e ∨
    E.view (E.remove name c e) = update (E.view e) name none

/-- The engine carries out what it can. -/
structure Works (c : E.Choice) (e : E.State) : Prop where
  list : ∀ all, E.list all c e ≠ none
  create : ∀ name image args, E.view e name = none → (E.create name image args c e).1 ≠ none
  start : ∀ ref k, E.Finds e ref k → (E.start ref c e).1 = true

def Runs (e : E.State) (name : Str) : Prop := ∃ k, E.view e name = some k ∧ k.running = true

end Engine

/-! ### A small engine -/

/-- The containers with their numbers, and the number that the next one gets. -/
structure SmallState where
  containers : AList fun _ : Str => Container Nat
  next : Nat

namespace SmallState

def empty : SmallState where
  containers := ∅
  next := 0

/-- With its name a number makes an id. -/
def view (e : SmallState) (name : Str) : Option (Container (Str × Nat)) :=
  (e.containers.lookup name).map fun k => ⟨(name, k.id), k.image, k.args, k.running⟩

def list (all : Bool) (e : SmallState) : List Str :=
  (e.containers.entries.filter fun k => all || k.2.running).map Sigma.fst

def create (name image : Str) (args : List Str) (e : SmallState) : Option (Str × Nat) × SmallState :=
  if e.containers.lookup name = none then
    (some (name, e.next), ⟨e.containers.insert name ⟨e.next, image, args, false⟩, e.next + 1⟩)
  else (none, e)

def setRunning (name : Str) (running : Bool) (e : SmallState) : SmallState :=
  match e.containers.lookup name with
  | none => e
  | some k => { e with containers := e.containers.insert name { k with running } }

def start (ref : Ref (Str × Nat)) (e : SmallState) : Bool × SmallState :=
  match ref with
  | .name name => if e.containers.lookup name = none then (false, e) else (true, e.setRunning name true)
  | .id (name, number) =>
    if (e.containers.lookup name).map Container.id = some number then (true, e.setRunning name true) else (false, e)

def remove (name : Str) (e : SmallState) : SmallState := { e with containers := e.containers.erase name }

section view

variable {e : SmallState} {name : Str}

private theorem view_insert (k : Container Nat) (next : Nat) : view ⟨e.containers.insert name k, next⟩ =
    update e.view name (some ⟨(name, k.id), k.image, k.args, k.running⟩) := by
  funext name'
  by_cases hname : name' = name
  · subst hname
    rw [update_self, view, AList.lookup_insert, Option.map_some]
  · rw [update_of_ne hname, view, AList.lookup_insert_ne hname]
    rfl

private theorem view_remove : (e.remove name).view = update e.view name none := by
  funext name'
  by_cases hname : name' = name
  · subst hname
    rw [update_self, view, remove, AList.lookup_erase, Option.map_none]
  · rw [update_of_ne hname, view, remove, AList.lookup_erase_ne hname]
    rfl

private theorem view_setRunning {running : Bool} {k : Container (Str × Nat)} (hk : e.view name = some k) :
    (e.setRunning name running).view = update e.view name (some { k with running }) := by
  obtain ⟨k', hk', rfl⟩ := Option.map_eq_some_iff.1 hk
  rw [setRunning, hk']
  exact view_insert _ _

private theorem view_eq_none : e.view name = none ↔ e.containers.lookup name = none := Option.map_eq_none_iff

end view

end SmallState

/-- An engine that carries out what it can. -/
abbrev smallEngine : Engine where
  State := SmallState
  Id := Str × Nat
  Choice := Unit
  owner := Prod.fst
  view := SmallState.view
  list all _ e := some (e.list all)
  create name image args _ e := e.create name image args
  start ref _ e := e.start ref
  stop name _ e := e.setRunning name false
  remove name _ e := e.remove name

private theorem smallEngine_start (e : SmallState) (ref : Ref (Str × Nat)) :
    (∃ k, smallEngine.Finds e ref k ∧ e.start ref = (true, e.setRunning (smallEngine.named ref) true)) ∨
      (∀ k, ¬ smallEngine.Finds e ref k) ∧ e.start ref = (false, e) := by
  rcases ref with name | ⟨name, number⟩
  · rcases hk : e.view name with _ | k
    · refine .inr ⟨fun k hfinds => ?_, if_pos (SmallState.view_eq_none.1 hk)⟩
      exact absurd (hfinds.view.symm.trans hk) (Option.some_ne_none k)
    · refine .inl ⟨k, ⟨hk, nofun⟩, if_neg fun hnone => ?_⟩
      rw [SmallState.view_eq_none.2 hnone] at hk
      cases hk
  · -- an id finds only the container that still has the number
    by_cases hnumber : (e.containers.lookup name).map Container.id = some number
    · obtain ⟨k, hk, rfl⟩ := Option.map_eq_some_iff.1 hnumber
      refine .inl ⟨⟨(name, k.id), k.image, k.args, k.running⟩, ⟨?_, ?_⟩, if_pos hnumber⟩
      · exact Option.map_eq_some_iff.2 ⟨k, hk, rfl⟩
      · intro id hid
        cases hid
        rfl
    · refine .inr ⟨fun k hfinds => hnumber ?_, if_neg hnumber⟩
      obtain ⟨k', hk', rfl⟩ := Option.map_eq_some_iff.1 hfinds.view
      have hid : (name, k'.id) = (name, number) := hfinds.id _ rfl
      have hlookup : e.containers.lookup name = some k' := hk'
      rw [hlookup, Option.map_some, (Prod.mk.inj hid).2]

theorem smallEngine_contract : smallEngine.Contract where
  owner e name k hk := by
    obtain ⟨k', -, rfl⟩ := Option.map_eq_some_iff.1 hk
    rfl
  list all c e names h name := by
    obtain rfl := Option.some.inj h
    simp only [SmallState.list, List.mem_map, List.mem_filter, Bool.or_eq_true]
    constructor
    · rintro ⟨⟨name', k⟩, ⟨hk, hrunning⟩, rfl⟩
      exact ⟨_, Option.map_eq_some_iff.2 ⟨k, AList.mem_lookup_iff.2 hk, rfl⟩, hrunning⟩
    · rintro ⟨k, hk, hrunning⟩
      obtain ⟨k', hk', rfl⟩ := Option.map_eq_some_iff.1 hk
      exact ⟨⟨name, k'⟩, ⟨AList.mem_lookup_iff.1 hk', hrunning⟩, rfl⟩
  create name image args c e reply e' h := by
    change SmallState.create name image args e = (reply, e') at h
    unfold SmallState.create at h
    split at h
    · rename_i hnone
      cases h
      exact .inr ⟨(name, e.next), SmallState.view_eq_none.2 hnone, .inr rfl, SmallState.view_insert _ _⟩
    · cases h
      exact .inl ⟨rfl, rfl⟩
  start ref c e ok e' h := by
    change e.start ref = (ok, e') at h
    rcases smallEngine_start e ref with ⟨k, hk, hstart⟩ | ⟨-, hstart⟩
    · rw [hstart] at h
      cases h
      exact .inr ⟨k, hk, SmallState.view_setRunning hk.view⟩
    · rw [hstart] at h
      cases h
      exact .inl ⟨rfl, rfl⟩
  stop name c e := by
    rcases hk : e.view name with _ | k
    · have hsame : SmallState.setRunning name false e = e := by
        simp only [SmallState.setRunning, SmallState.view_eq_none.1 hk]
      exact .inl (congrArg SmallState.view hsame)
    · exact .inr ⟨k, hk, SmallState.view_setRunning hk⟩
  remove name c e := .inr SmallState.view_remove

theorem smallEngine_works (e : SmallState) : smallEngine.Works () e where
  list all := Option.some_ne_none _
  create name image args hnone := by
    change (e.create name image args).1 ≠ none
    rw [SmallState.create, if_pos (SmallState.view_eq_none.1 hnone)]
    exact Option.some_ne_none _
  start ref k hk := by
    change (e.start ref).1 = true
    rcases smallEngine_start e ref with ⟨-, -, hstart⟩ | ⟨hnone, -⟩
    · rw [hstart]
    · exact absurd hk (hnone k)

/-! ### `ensure_container` -/

/-- A line matches a container name as the pattern of `grep -x`: of the characters that such a name may have only the
dot stands for others. -/
def matchesLine : Str → Str → Bool
  | [], [] => true
  | p :: pattern, c :: line => (p = '.' || p = c) && matchesLine pattern line
  | _, _ => false

def grepQx (pattern : Str) (lines : List Str) : Bool := lines.any (matchesLine pattern)

/-- The arguments of `ensure_container`; the name is a pattern that matches only itself. -/
structure ContainerSpec where
  name : Str
  image : Str
  args : List Str
  plain : '.' ∉ name
  deriving DecidableEq, Repr

/-- `docker ps | grep -qx`, with `pipefail`: it fails also if `docker` does, such as one that is not done with its
list when `grep` has gone. -/
def isListed (name : Str) (names : Option (List Str)) (piped : Bool) : Bool := names.any (grepQx name) && piped

/-- The next request of a call, or how it ended: it returns, or `set -e` ends the script. -/
inductive Phase (Id : Type)
  | listRunning
  | listAll
  | start
  /-- `docker run -d`, which may have to fetch the image for it -/
  | create
  /-- the rest of `docker run -d` -/
  | startNew (id : Id)
  | returned
  | died
  deriving DecidableEq, Repr

/-- A call of `ensure_container` on its way. -/
structure Call (Id : Type) where
  spec : ContainerSpec
  phase : Phase Id
  log : List Str
  deriving DecidableEq, Repr

namespace Call

variable {Id : Type}

def enter (spec : ContainerSpec) : Call Id := ⟨spec, .listRunning, []⟩

/-- The call goes on, after a message. -/
def logs (call : Call Id) (message : Str) (phase : Phase Id) : Call Id :=
  { call with phase, log := call.log ++ [message] }

/-- The last command of the function was successful, or it was not. -/
def ends (call : Call Id) (ok : Bool) : Call Id := { call with phase := if ok then .returned else .died }

/-- The next request of the call. -/
def step (E : Engine) (call : Call E.Id) (c : E.Choice) (piped : Bool) (e : E.State) : Option (Call E.Id × E.State) :=
  let name := call.spec.name
  match call.phase with
  | .listRunning =>
    if isListed name (E.list false c e) piped then
      some (call.logs ("docker: '" ++ name ++ "' already running") .returned, e)
    else some ({ call with phase := .listAll }, e)
  | .listAll =>
    if isListed name (E.list true c e) piped then
      some (call.logs ("docker: starting existing '" ++ name ++ "'") .start, e)
    else some (call.logs ("docker: creating '" ++ name ++ "' from " ++ call.spec.image) .create, e)
  | .start =>
    -- the start is the last command of the function, and its status that of the call
    let (ok, e) := E.start (.name name) c e
    some (call.ends ok, e)
  | .create =>
    match E.create name call.spec.image call.spec.args c e with
    | (none, e) => some ({ call with phase := .died }, e)
    | (some id, e) => some ({ call with phase := .startNew id }, e)
  | .startNew id =>
    let (ok, e) := E.start (.id id) c e
    some (call.ends ok, e)
  | .returned | .died => none

/-- What the call knows by the id that it got. -/
def Owned (E : Engine) (call : Call E.Id) : Prop := ∀ id, call.phase = .startNew id → E.owner id = call.spec.name

end Call

/-- What the drivers call `ensure_container` with. -/
def Demo.container (repoRoot : Str) : Demo → Option ContainerSpec
  | kafka => some {
      name := "pinpoint-cpp-examples-kafka"
      plain := by decide
      image := "apache/kafka:3.8.0"
      args := ["-p", "9092:9092", "-e", "KAFKA_NODE_ID=1", "-e", "KAFKA_PROCESS_ROLES=broker,controller",
        "-e", "KAFKA_LISTENERS=PLAINTEXT://0.0.0.0:9092,CONTROLLER://0.0.0.0:9093",
        "-e", "KAFKA_ADVERTISED_LISTENERS=PLAINTEXT://localhost:9092",
        "-e", "KAFKA_CONTROLLER_LISTENER_NAMES=CONTROLLER",
        "-e", "KAFKA_LISTENER_SECURITY_PROTOCOL_MAP=CONTROLLER:PLAINTEXT,PLAINTEXT:PLAINTEXT",
        "-e", "KAFKA_INTER_BROKER_LISTENER_NAME=PLAINTEXT",
        "-e", "KAFKA_CONTROLLER_QUORUM_VOTERS=1@localhost:9093",
        "-e", "KAFKA_OFFSETS_TOPIC_REPLICATION_FACTOR=1",
        "-e", "KAFKA_TRANSACTION_STATE_LOG_REPLICATION_FACTOR=1",
        "-e", "KAFKA_TRANSACTION_STATE_LOG_MIN_ISR=1", "-e", "KAFKA_AUTO_CREATE_TOPICS_ENABLE=true",
        "-e", "KAFKA_NUM_PARTITIONS=3", "-e", "KAFKA_GROUP_INITIAL_REBALANCE_DELAY_MS=0"] }
  | mongodb => some {
      name := "pinpoint-cpp-examples-mongodb"
      plain := by decide
      image := "mongo:7"
      args := ["-p", "27017:27017", "-v", "pinpoint-cpp-examples-mongodb-data:/data/db"] }
  | mysql => some {
      name := "pinpoint-cpp-examples-mysql"
      plain := by decide
      image := "mysql:8.0"
      args := ["-p", "3306:3306", "-p", "33060:33060", "-e", "MYSQL_ROOT_PASSWORD=pinpoint123",
        "-e", "MYSQL_ROOT_HOST=%", "-e", "MYSQL_DATABASE=test", "-e", "MYSQL_USER=pinpoint",
        "-e", "MYSQL_PASSWORD=pinpoint123", "-v", "pinpoint-cpp-examples-mysql-data:/var/lib/mysql",
        "-v", repoRoot ++ "/mysql/init.sql:/docker-entrypoint-initdb.d/init.sql:ro"] }
  | redis => some {
      name := "pinpoint-cpp-examples-redis"
      plain := by decide
      image := "redis:7"
      args := ["-p", "6379:6379", "-v", "pinpoint-cpp-examples-redis-data:/data"] }
  | cpptrace | curl | grpc | civetweb | nginx => none

def DriverCommand.container : DriverCommand → Option (Str × Str)
  | .ensureContainer name image => some (name, image)
  | _ => none

/-- `up` ensures its container and no other. -/
theorem setUp_container (env : Settings) (repoRoot : Str) (d : Demo) :
    (d.setUp env).filterMap DriverCommand.container =
      (d.container repoRoot).toList.map fun spec => (spec.name, spec.image) := by
  cases d <;> rfl

/-! ### What a request of a call does -/

private theorem matchesLine_iff {pattern line : Str} (h : '.' ∉ pattern) :
    matchesLine pattern line = true ↔ line = pattern := by
  induction pattern generalizing line with
  | nil => cases line <;> simp [matchesLine]
  | cons p pattern ih =>
    rw [List.mem_cons, not_or] at h
    cases line with
    | nil => simp [matchesLine]
    | cons c line =>
      simp only [matchesLine, Bool.and_eq_true, Bool.or_eq_true, decide_eq_true_eq, ih h.2, List.cons.injEq]
      constructor
      · rintro ⟨hdot | rfl, hline⟩
        · exact absurd hdot.symm h.1
        · exact ⟨rfl, hline⟩
      · rintro ⟨rfl, hline⟩
        exact ⟨.inr rfl, hline⟩

private theorem grepQx_iff {pattern : Str} {lines : List Str} (h : '.' ∉ pattern) :
    grepQx pattern lines = true ↔ pattern ∈ lines := by
  simp only [grepQx, List.any_eq_true, matchesLine_iff h, exists_eq_right]

open Engine

section requests

variable {E : Engine} {call call' : Call E.Id} {c : E.Choice} {piped : Bool} {e e' : E.State}

private theorem mem_of_isListed {all : Bool} (hE : E.Contract)
    (h : isListed call.spec.name (E.list all c e) piped = true) :
    ∃ k, E.view e call.spec.name = some k ∧ (all = true ∨ k.running = true) := by
  rw [isListed, Bool.and_eq_true, Option.any_eq_true] at h
  obtain ⟨⟨names, hnames, hgrep⟩, -⟩ := h
  exact (hE.list all c e names hnames _).1 ((grepQx_iff call.spec.plain).1 hgrep)

/-- A list that was made and read to its end names what is there. -/
theorem isListed_iff {all : Bool} (hE : E.Contract) (hworks : E.Works c e) :
    isListed call.spec.name (E.list all c e) true = true ↔
      ∃ k, E.view e call.spec.name = some k ∧ (all = true ∨ k.running = true) := by
  refine ⟨mem_of_isListed hE, fun hk => ?_⟩
  obtain ⟨names, hnames⟩ := Option.ne_none_iff_exists'.1 (hworks.list all)
  rw [isListed, Bool.and_true, hnames, Option.any_some, grepQx_iff call.spec.plain]
  exact (hE.list all c e names hnames _).2 hk

private theorem ends_phase {ok : Bool} (h : (call.ends ok).phase = .returned) : ok = true := by
  cases ok with
  | true => rfl
  | false => cases h

/-- What a request to start may do, for a reference to the container of the call. -/
theorem start_cases (hE : E.Contract) {ref : Ref E.Id} (hname : E.named ref = call.spec.name) {ok : Bool}
    (h : E.start ref c e = (ok, e')) : ok = false ∧ E.view e' = E.view e ∨ ∃ k, E.view e call.spec.name = some k ∧
      E.view e' = update (E.view e) call.spec.name (some { k with running := true }) := by
  rcases hE.start ref c e ok e' h with hfails | ⟨k, hk, hview⟩
  · exact .inl hfails
  · rw [hname] at hview
    exact .inr ⟨k, hname ▸ hk.view, hview⟩

/-- What a request of a call does to the containers: nothing, or it makes the one of the call, or starts it; and the
call returns if it sees it running or starts it. -/
theorem Call.step_cases (hE : E.Contract) (howned : call.Owned E) (h : call.step E c piped e = some (call', e')) :
    call'.spec = call.spec ∧ call'.Owned E ∧
      (E.view e' = E.view e ∧ (call'.phase = .returned → E.Runs e call.spec.name) ∨
        (E.view e call.spec.name = none ∧ call'.phase ≠ .returned ∧ ∃ id,
          E.view e' = update (E.view e) call.spec.name (some ⟨id, call.spec.image, call.spec.args, false⟩)) ∨
        ∃ k, E.view e call.spec.name = some k ∧
          E.view e' = update (E.view e) call.spec.name (some { k with running := true })) := by
  -- both requests to start do the same to the container of the call
  have hstart (ref : Ref E.Id) (hname : E.named ref = call.spec.name)
      (h : some (call.ends (E.start ref c e).1, (E.start ref c e).2) = some (call', e')) :
      call'.spec = call.spec ∧ call'.Owned E ∧
        (E.view e' = E.view e ∧ (call'.phase = .returned → E.Runs e call.spec.name) ∨
          ∃ k, E.view e call.spec.name = some k ∧
            E.view e' = update (E.view e) call.spec.name (some { k with running := true })) := by
    cases h
    refine ⟨rfl, ?_, ?_⟩
    · intro id hid
      simp only [Call.ends] at hid
      split at hid <;> cases hid
    · rcases start_cases hE hname rfl with ⟨hfails, hview⟩ | hstarted
      · refine .inl ⟨hview, fun hreturned => ?_⟩
        rw [ends_phase hreturned] at hfails
        cases hfails
      · exact .inr hstarted
  simp only [Call.step] at h
  split at h
  · split at h
    · rename_i hlisted
      cases h
      refine ⟨rfl, nofun, .inl ⟨rfl, fun _ => ?_⟩⟩
      obtain ⟨k, hk, hor⟩ := mem_of_isListed hE hlisted
      exact ⟨k, hk, hor.resolve_left Bool.false_ne_true⟩
    · cases h
      exact ⟨rfl, nofun, .inl ⟨rfl, nofun⟩⟩
  · split at h
    · cases h
      exact ⟨rfl, nofun, .inl ⟨rfl, nofun⟩⟩
    · cases h
      exact ⟨rfl, nofun, .inl ⟨rfl, nofun⟩⟩
  · obtain ⟨hspec, howned', hor⟩ := hstart (.name call.spec.name) rfl h
    exact ⟨hspec, howned', hor.imp_right .inr⟩
  · split at h
    · rename_i e'' heq
      cases h
      rcases hE.create _ _ _ c e _ _ heq with ⟨-, hview⟩ | ⟨id, hnone, -, hview⟩
      · exact ⟨rfl, nofun, .inl ⟨hview, nofun⟩⟩
      · exact ⟨rfl, nofun, .inr (.inl ⟨hnone, nofun, id, hview⟩)⟩
    · rename_i id e'' heq
      cases h
      rcases hE.create _ _ _ c e _ _ heq with ⟨hnone, -⟩ | ⟨id', hnone, hreply, hview⟩
      · cases hnone
      · -- the reply, if there is one, is the id of the new container
        obtain rfl : id = id' := by
          rcases hreply with hreply | hreply
          · cases hreply
          · exact Option.some.inj hreply
        refine ⟨rfl, ?_, .inr (.inl ⟨hnone, nofun, id, hview⟩)⟩
        intro id' hid
        cases hid
        exact hE.owner e' call.spec.name ⟨id, call.spec.image, call.spec.args, false⟩ (by rw [hview, update_self])
  · rename_i id hphase
    obtain ⟨hspec, howned', hor⟩ := hstart (.id id) (howned id hphase) h
    exact ⟨hspec, howned', hor.imp_right .inr⟩
  · cases h
  · cases h

/-- How a call goes on with an engine that works. -/
inductive Call.Proceeds (E : Engine) (call : Call E.Id) (e e' : E.State) : Call E.Id → Prop
  | running (hphase : call.phase = .listRunning) (hview : E.view e' = E.view e) (hruns : E.Runs e call.spec.name) :
      Proceeds E call e e' (call.logs ("docker: '" ++ call.spec.name ++ "' already running") .returned)
  | notRunning (hphase : call.phase = .listRunning) (hview : E.view e' = E.view e)
      (hruns : ¬ E.Runs e call.spec.name) : Proceeds E call e e' { call with phase := .listAll }
  | existing (hphase : call.phase = .listAll) (hview : E.view e' = E.view e)
      (hsome : E.view e call.spec.name ≠ none) :
      Proceeds E call e e' (call.logs ("docker: starting existing '" ++ call.spec.name ++ "'") .start)
  | missing (hphase : call.phase = .listAll) (hview : E.view e' = E.view e)
      (hnone : E.view e call.spec.name = none) : Proceeds E call e e'
        (call.logs ("docker: creating '" ++ call.spec.name ++ "' from " ++ call.spec.image) .create)
  | started (k : Container E.Id) (hphase : call.phase = .start) (hk : E.view e call.spec.name = some k)
      (hview : E.view e' = update (E.view e) call.spec.name (some { k with running := true })) :
      Proceeds E call e e' { call with phase := .returned }
  | gone (hphase : call.phase = .start) (hview : E.view e' = E.view e) (hnone : E.view e call.spec.name = none) :
      Proceeds E call e e' { call with phase := .died }
  | created (id : E.Id) (hphase : call.phase = .create) (hnone : E.view e call.spec.name = none)
      (hview : E.view e' = update (E.view e) call.spec.name (some ⟨id, call.spec.image, call.spec.args, false⟩)) :
      Proceeds E call e e' { call with phase := .startNew id }
  | taken (hphase : call.phase = .create) (hview : E.view e' = E.view e)
      (hsome : E.view e call.spec.name ≠ none) : Proceeds E call e e' { call with phase := .died }
  | startedNew (k : Container E.Id) (hphase : call.phase = .startNew k.id) (hk : E.view e call.spec.name = some k)
      (hview : E.view e' = update (E.view e) call.spec.name (some { k with running := true })) :
      Proceeds E call e e' { call with phase := .returned }
  | goneNew (id : E.Id) (hphase : call.phase = .startNew id) (hview : E.view e' = E.view e)
      (hnone : ∀ k, E.view e call.spec.name = some k → k.id ≠ id) : Proceeds E call e e' { call with phase := .died }

/-- A request to start with an engine that works. -/
theorem start_works (hE : E.Contract) (hworks : E.Works c e) (ref : Ref E.Id) :
    (∃ k, E.Finds e ref k ∧ (E.start ref c e).1 = true ∧
      E.view (E.start ref c e).2 = update (E.view e) (E.named ref) (some { k with running := true })) ∨
    ((∀ k, ¬ E.Finds e ref k) ∧ (E.start ref c e).1 = false ∧ E.view (E.start ref c e).2 = E.view e) := by
  rcases hE.start ref c e _ _ rfl with ⟨hfails, hview⟩ | ⟨k, hk, hview⟩
  · refine .inr ⟨fun k hk => ?_, hfails, hview⟩
    rw [hworks.start ref k hk] at hfails
    cases hfails
  · exact .inl ⟨k, hk, hworks.start ref k hk, hview⟩

theorem Call.step_works (hE : E.Contract) (howned : call.Owned E) (hworks : E.Works c e)
    (h : call.step E c true e = some (call', e')) : call.Proceeds E e e' call' := by
  simp only [Call.step] at h
  split at h
  · rename_i hphase
    split at h
    · rename_i hlisted
      cases h
      obtain ⟨k, hk, hor⟩ := mem_of_isListed hE hlisted
      exact .running hphase rfl ⟨k, hk, hor.resolve_left Bool.false_ne_true⟩
    · rename_i hlisted
      cases h
      refine .notRunning hphase rfl ?_
      rintro ⟨k, hk, hrunning⟩
      exact hlisted ((isListed_iff hE hworks).2 ⟨k, hk, .inr hrunning⟩)
  · rename_i hphase
    split at h
    · rename_i hlisted
      cases h
      obtain ⟨k, hk, -⟩ := mem_of_isListed hE hlisted
      exact .existing hphase rfl (by simp [hk])
    · rename_i hlisted
      cases h
      refine .missing hphase rfl ?_
      by_contra hne
      obtain ⟨k, hk⟩ := Option.ne_none_iff_exists'.1 hne
      exact hlisted ((isListed_iff hE hworks).2 ⟨k, hk, .inl rfl⟩)
  · rename_i hphase
    rcases start_works hE hworks (.name call.spec.name) with ⟨k, hk, hok, hview⟩ | ⟨hnone, hok, hview⟩
    · rw [hok] at h
      cases h
      exact .started k hphase hk.view hview
    · rw [hok] at h
      cases h
      refine .gone hphase hview ?_
      by_contra hne
      obtain ⟨k, hk⟩ := Option.ne_none_iff_exists'.1 hne
      exact hnone k ⟨hk, nofun⟩
  · rename_i hphase
    split at h
    · rename_i e'' heq
      cases h
      -- an engine that works refuses only a name that is taken
      have hsome : E.view e call.spec.name ≠ none := by
        intro hnone
        exact hworks.create _ _ _ hnone (congrArg Prod.fst heq)
      rcases hE.create _ _ _ c e _ _ heq with ⟨-, hview⟩ | ⟨id, hnone, -, hview⟩
      · exact .taken hphase hview hsome
      · exact absurd hnone hsome
    · rename_i id e'' heq
      cases h
      rcases hE.create _ _ _ c e _ _ heq with ⟨hnone, -⟩ | ⟨id', hnone, hreply, hview⟩
      · cases hnone
      · rcases hreply with hreply | hreply
        · cases hreply
        · cases hreply
          exact .created id hphase hnone hview
  · rename_i id hphase
    have hname : E.named (.id id) = call.spec.name := howned id hphase
    rcases start_works hE hworks (.id id) with ⟨k, hk, hok, hview⟩ | ⟨hnone, hok, hview⟩
    · rw [hok] at h
      cases h
      obtain rfl := hk.id id rfl
      rw [hname] at hview
      exact .startedNew k hphase (hname ▸ hk.view) hview
    · rw [hok] at h
      cases h
      refine .goneNew id hphase hview fun k hk hid => ?_
      exact hnone k ⟨hname.symm ▸ hk, fun id' heq => hid.trans (Ref.id.inj heq)⟩
  · cases h
  · cases h

end requests

end PinpointExamples.Scripts
