import Mathlib
import PinpointExamples.Lib.Transition
import PinpointExamples.Scripts.Docker

/-!
# Shells that ensure containers

The requests of `ensure_container` are served one after the other, and between them other shells and other users may
ask the same engine for anything.  With any engine a call keeps what is there, makes what the driver says, and returns
only with a running container; with one that works a call fails only if another one was faster, and then that one has
the container running or is about to start it (`ensure_container_safe`).  A call that is not disturbed is idempotent
(`ensure_container_idempotent`).
-/

namespace PinpointExamples.Scripts

open Transition
open Function (update update_self update_of_ne)

/-! ### Shells -/

/-- What others ask of the engine; a container that comes to its end by itself counts as stopped. -/
inductive Use (E : Engine)
  | create (name image : Str) (args : List Str)
  | start (ref : Ref E.Id)
  | stop (name : Str)
  | remove (name : Str)

namespace Use

variable {E : Engine}

def name : Use E → Str
  | create name _ _ | stop name | remove name => name
  | start ref => E.named ref

def apply (c : E.Choice) (e : E.State) : Use E → E.State
  | create name image args => (E.create name image args c e).2
  | start ref => (E.start ref c e).2
  | stop name => E.stop name c e
  | remove name => E.remove name c e

end Use

/-- The engine, and the calls of `ensure_container` that shells are in. -/
structure Shells (E : Engine) (T : Type) where
  engine : E.State
  calls : T → Option (Call E.Id)

namespace Shells

variable {E : Engine} {T : Type}

def idle (e : E.State) : Shells E T where
  engine := e
  calls _ := none

def container (s : Shells E T) (name : Str) : Option (Container E.Id) := E.view s.engine name

def Runs (s : Shells E T) (name : Str) : Prop := E.Runs s.engine name

end Shells

inductive ShellAction (E : Engine) (T : Type)
  /-- `up` of a demo comes to its `ensure_container` -/
  | call (t : T) (d : Demo)
  | docker (t : T) (c : E.Choice) (piped : Bool)
  /-- the shell goes on after the call, or something ends it -/
  | leave (t : T)
  | other (use : Use E) (c : E.Choice)

def shellStep {T : Type} [DecidableEq T] (E : Engine) (repoRoot : Str) (s : Shells E T) :
    ShellAction E T → Option (Shells E T)
  | .call t d =>
    match s.calls t, d.container repoRoot with
    | none, some spec => some { s with calls := update s.calls t (some (.enter spec)) }
    | _, _ => none
  | .docker t c piped =>
    match s.calls t with
    | some call => (call.step E c piped s.engine).map fun (call, e) => ⟨e, update s.calls t (some call)⟩
    | none => none
  | .leave t => some { s with calls := update s.calls t none }
  | .other use c => some { s with engine := use.apply c s.engine }

section shells

variable {E : Engine} {T : Type} [DecidableEq T] {repoRoot : Str} {s s' : Shells E T}

/-- What a step is. -/
theorem shellStep_cases {a : ShellAction E T} (h : shellStep E repoRoot s a = some s') :
    (∃ t d spec, a = .call t d ∧ s.calls t = none ∧ d.container repoRoot = some spec ∧
      s' = { s with calls := update s.calls t (some (.enter spec)) }) ∨
    (∃ t c piped call call' e', a = .docker t c piped ∧ s.calls t = some call ∧
      call.step E c piped s.engine = some (call', e') ∧ s' = ⟨e', update s.calls t (some call')⟩) ∨
    (∃ t, a = .leave t ∧ s' = { s with calls := update s.calls t none }) ∨
    ∃ use c, a = .other use c ∧ s' = { s with engine := use.apply c s.engine } := by
  cases a with
  | call t d =>
    simp only [shellStep] at h
    split at h
    · rename_i spec hcall hspec
      exact .inl ⟨t, d, _, rfl, hcall, hspec, (Option.some.inj h).symm⟩
    · cases h
  | docker t c piped =>
    simp only [shellStep] at h
    split at h
    · rename_i call hcall
      obtain ⟨⟨call', e'⟩, hstep, hs⟩ := Option.map_eq_some_iff.1 h
      exact .inr (.inl ⟨t, c, piped, call, call', e', rfl, hcall, hstep, hs.symm⟩)
    · cases h
  | leave t => exact .inr (.inr (.inl ⟨t, rfl, (Option.some.inj h).symm⟩))
  | other use c => exact .inr (.inr (.inr ⟨use, c, rfl, (Option.some.inj h).symm⟩))

/-- The call of a shell after another one of its calls was changed. -/
theorem calls_update {calls : T → Option (Call E.Id)} {t t' : T} {x : Option (Call E.Id)} {call : Call E.Id}
    (h : update calls t x t' = some call) : t' = t ∧ x = some call ∨ t' ≠ t ∧ calls t' = some call := by
  by_cases ht : t' = t
  · subst ht
    rw [update_self] at h
    exact .inl ⟨rfl, h⟩
  · rw [update_of_ne ht] at h
    exact .inr ⟨ht, h⟩

/-- The calls are those of the drivers, and know the ids of their own containers only. -/
def Sound (repoRoot : Str) (s : Shells E T) : Prop :=
  ∀ t call, s.calls t = some call → (∃ d : Demo, d.container repoRoot = some call.spec) ∧ call.Owned E

theorem Sound.step (hE : E.Contract) {a : ShellAction E T} (h : Sound repoRoot s)
    (hstep : shellStep E repoRoot s a = some s') : Sound repoRoot s' := by
  intro t' call' hcall'
  rcases shellStep_cases hstep with ⟨t, d, spec, rfl, -, hspec, rfl⟩ |
    ⟨t, c, piped, call, next, e', rfl, hcall, hnext, rfl⟩ | ⟨t, rfl, rfl⟩ | ⟨use, c, rfl, rfl⟩
  · rcases calls_update hcall' with ⟨-, heq⟩ | ⟨-, hcall'⟩
    · cases heq
      exact ⟨⟨d, hspec⟩, nofun⟩
    · exact h t' call' hcall'
  · rcases calls_update hcall' with ⟨-, heq⟩ | ⟨-, hcall'⟩
    · cases heq
      obtain ⟨hd, howned⟩ := h t call hcall
      obtain ⟨hspec, howned', -⟩ := Call.step_cases hE howned hnext
      exact ⟨hspec.symm ▸ hd, howned'⟩
    · exact h t' call' hcall'
  · rcases calls_update hcall' with ⟨-, heq⟩ | ⟨-, hcall'⟩
    · cases heq
    · exact h t' call' hcall'
  · exact h t' call' hcall'

private theorem sound_of_exec (hE : E.Contract) {start : E.State} {as : List (ShellAction E T)}
    (hrun : exec (shellStep E repoRoot) (.idle start) as = some s) : Sound repoRoot s :=
  exec_invariant (fun _ _ _ h hstep => h.step hE hstep) hrun nofun

end shells

/-! ### What stays, what is new -/

/-- A container that is there stays what it is, and goes on running if it runs. -/
def Engine.Keeps (E : Engine) (name : Str) (e e' : E.State) : Prop :=
  ∀ k, E.view e name = some k →
    ∃ running, E.view e' name = some { k with running } ∧ (k.running = true → running = true)

section keeps

variable {E : Engine} {name name' : Str} {e e' e'' : E.State}

private theorem keeps_of_view (h : E.view e' name = E.view e name) : E.Keeps name e e' :=
  fun k hk => ⟨k.running, h.trans hk, id⟩

private theorem keeps_refl (E : Engine) (name : Str) (e : E.State) : E.Keeps name e e := keeps_of_view rfl

theorem Engine.Keeps.trans (h : E.Keeps name e e') (h' : E.Keeps name e' e'') : E.Keeps name e e'' := by
  intro k hk
  obtain ⟨running, hk', hrunning⟩ := h k hk
  obtain ⟨running', hk'', hrunning'⟩ := h' _ hk'
  exact ⟨running', hk'', fun hr => hrunning' (hrunning hr)⟩

theorem Engine.Keeps.runs (h : E.Keeps name e e') (hruns : E.Runs e name) : E.Runs e' name := by
  obtain ⟨k, hk, hrunning⟩ := hruns
  obtain ⟨running, hk', hkeeps⟩ := h k hk
  exact ⟨_, hk', hkeeps hrunning⟩

private theorem Engine.Keeps.view_ne_none (h : E.Keeps name e e') (hsome : E.view e name ≠ none) :
    E.view e' name ≠ none := by
  obtain ⟨k, hk⟩ := Option.ne_none_iff_exists'.1 hsome
  obtain ⟨running, hk', -⟩ := h k hk
  rw [hk']
  exact Option.some_ne_none _

private theorem view_update {x : Option (Container E.Id)} (h : E.view e' = update (E.view e) name' x)
    (hname : name ≠ name') :
    E.view e' name = E.view e name := by
  rw [h, update_of_ne hname]

/-- A request to create. -/
theorem keeps_of_create {x : Option (Container E.Id)} (hnone : E.view e name' = none)
    (h : E.view e' = update (E.view e) name' x) : E.Keeps name e e' := by
  by_cases hname : name = name'
  · subst hname
    intro k hk
    rw [hnone] at hk
    cases hk
  · exact keeps_of_view (view_update h hname)

/-- A request to start. -/
theorem keeps_of_start {k : Container E.Id} (hk : E.view e name' = some k)
    (h : E.view e' = update (E.view e) name' (some { k with running := true })) : E.Keeps name e e' := by
  by_cases hname : name = name'
  · subst hname
    intro k' hk'
    rw [hk, Option.some.injEq] at hk'
    subst hk'
    exact ⟨true, by rw [h, update_self], fun _ => rfl⟩
  · exact keeps_of_view (view_update h hname)

end keeps

section effects

variable {E : Engine} {name : Str} {call call' : Call E.Id} {c : E.Choice} {piped : Bool} {use : Use E}
  {e e' : E.State}

private theorem call_view (hE : E.Contract) (howned : call.Owned E) (h : call.step E c piped e = some (call', e'))
    (hname : name ≠ call.spec.name) : E.view e' name = E.view e name := by
  rcases (Call.step_cases hE howned h).2.2 with ⟨hview, -⟩ | ⟨-, -, id, hview⟩ | ⟨k, -, hview⟩
  · rw [hview]
  · exact view_update hview hname
  · exact view_update hview hname

private theorem call_keeps (hE : E.Contract) (howned : call.Owned E) (h : call.step E c piped e = some (call', e'))
    (name : Str) : E.Keeps name e e' := by
  rcases (Call.step_cases hE howned h).2.2 with ⟨hview, -⟩ | ⟨hnone, -, id, hview⟩ | ⟨k, hk, hview⟩
  · exact keeps_of_view (congrFun hview name)
  · exact keeps_of_create hnone hview
  · exact keeps_of_start hk hview

private theorem use_view (hE : E.Contract) (hname : name ≠ use.name) :
    E.view (use.apply c e) name = E.view e name := by
  cases use with
  | create name' image args =>
    rcases hE.create name' image args c e _ _ rfl with ⟨-, hview⟩ | ⟨id, -, -, hview⟩
    · exact congrFun hview name
    · exact view_update hview hname
  | start ref =>
    rcases hE.start ref c e _ _ rfl with ⟨-, hview⟩ | ⟨k, -, hview⟩
    · exact congrFun hview name
    · exact view_update hview hname
  | stop name' =>
    rcases hE.stop name' c e with hview | ⟨k, -, hview⟩
    · exact congrFun hview name
    · exact view_update hview hname
  | remove name' =>
    rcases hE.remove name' c e with hview | hview
    · exact congrFun hview name
    · exact view_update hview hname

private theorem use_keeps (hE : E.Contract) (hstop : use ≠ .stop name) (hremove : use ≠ .remove name) :
    E.Keeps name e (use.apply c e) := by
  cases use with
  | create name' image args =>
    rcases hE.create name' image args c e _ _ rfl with ⟨-, hview⟩ | ⟨id, hnone, -, hview⟩
    · exact keeps_of_view (congrFun hview name)
    · exact keeps_of_create hnone hview
  | start ref =>
    rcases hE.start ref c e _ _ rfl with ⟨-, hview⟩ | ⟨k, hk, hview⟩
    · exact keeps_of_view (congrFun hview name)
    · exact keeps_of_start hk.view hview
  | stop name' => exact keeps_of_view (use_view hE fun hname => hstop (congrArg Use.stop hname.symm))
  | remove name' => exact keeps_of_view (use_view hE fun hname => hremove (congrArg Use.remove hname.symm))

/-- A container was there before, or the call has made it. -/
theorem call_new (hE : E.Contract) (howned : call.Owned E) (h : call.step E c piped e = some (call', e'))
    {k : Container E.Id} (hk : E.view e' name = some k) : (∃ running, E.view e name = some { k with running }) ∨
      call.spec.name = name ∧ call.spec.image = k.image ∧ call.spec.args = k.args := by
  by_cases hname : name = call.spec.name
  · subst hname
    rcases (Call.step_cases hE howned h).2.2 with ⟨hview, -⟩ | ⟨-, -, id, hview⟩ | ⟨k', hk', hview⟩
    · exact .inl ⟨k.running, (congrFun hview _).symm.trans hk⟩
    · rw [hview, update_self, Option.some.injEq] at hk
      subst hk
      exact .inr ⟨rfl, rfl, rfl⟩
    · rw [hview, update_self, Option.some.injEq] at hk
      subst hk
      exact .inl ⟨k'.running, hk'⟩
  · exact .inl ⟨k.running, (call_view hE howned h hname).symm.trans hk⟩

/-- A container was there before, or the others have made it. -/
theorem use_new (hE : E.Contract) {k : Container E.Id} (hk : E.view (use.apply c e) name = some k)
    (hcreate : ∀ image args, use ≠ .create name image args) : ∃ running, E.view e name = some { k with running } := by
  by_cases hname : name = use.name
  · subst hname
    have hsame (hview : E.view (use.apply c e) = E.view e) :
        ∃ running, E.view e use.name = some { k with running } :=
      ⟨k.running, (congrFun hview _).symm.trans hk⟩
    have hset (k' : Container E.Id) (running : Bool) (hk' : E.view e use.name = some k')
        (hview : E.view (use.apply c e) = update (E.view e) use.name (some { k' with running })) :
        ∃ running, E.view e use.name = some { k with running } := by
      rw [hview, update_self, Option.some.injEq] at hk
      subst hk
      exact ⟨k'.running, hk'⟩
    cases use with
    | create name image args => exact absurd rfl (hcreate image args)
    | start ref =>
      rcases hE.start ref c e _ _ rfl with ⟨-, hview⟩ | ⟨k', hk', hview⟩
      · exact hsame hview
      · exact hset k' true hk'.view hview
    | stop name =>
      rcases hE.stop name c e with hview | ⟨k', hk', hview⟩
      · exact hsame hview
      · exact hset k' false hk' hview
    | remove name =>
      rcases hE.remove name c e with hview | hview
      · exact hsame hview
      · simp only [Use.apply, Use.name] at hk
        rw [hview, update_self] at hk
        cases hk
  · exact ⟨k.running, (use_view hE hname).symm.trans hk⟩

end effects

/-- The container is one of the drivers'. -/
def OfDemo {Id : Type} (repoRoot name : Str) (k : Container Id) : Prop :=
  ∃ (d : Demo) (spec : ContainerSpec), d.container repoRoot = some spec ∧ spec.name = name ∧ spec.image = k.image ∧
    spec.args = k.args

section runs

variable {E : Engine} {T : Type} [DecidableEq T] {repoRoot name : Str} {s s' : Shells E T}
  {as : List (ShellAction E T)}

/-- What is there stays, as long as the others neither stop nor remove it. -/
theorem exec_keeps (hE : E.Contract) (hs : Sound repoRoot s) (h : exec (shellStep E repoRoot) s as = some s')
    (hothers : ∀ a ∈ as, ∀ c, a ≠ .other (.stop name) c ∧ a ≠ .other (.remove name) c) :
    E.Keeps name s.engine s'.engine := by
  let Inv : Shells E T → Prop := fun u => Sound repoRoot u ∧ E.Keeps name s.engine u.engine
  have hstart : Inv s := ⟨hs, keeps_refl E name _⟩
  suffices hend : Inv s' from hend.2
  refine exec_invariant_of_allSteps ?_ h (allSteps_of_forall_mem hothers s) hstart
  rintro u a u' ⟨hsound, hkeeps⟩ hother hstep
  refine ⟨hsound.step hE hstep, hkeeps.trans ?_⟩
  rcases shellStep_cases hstep with ⟨t, d, spec, rfl, -, -, rfl⟩ |
    ⟨t, c, piped, call, call', e', rfl, hcall, hnext, rfl⟩ | ⟨t, rfl, rfl⟩ | ⟨use, c, rfl, rfl⟩
  · exact keeps_refl E name _
  · exact call_keeps hE (hsound t call hcall).2 hnext name
  · exact keeps_refl E name _
  · refine use_keeps hE ?_ ?_
    · rintro rfl
      exact (hother c).1 rfl
    · rintro rfl
      exact (hother c).2 rfl

/-- What is new is made of what a driver says, as long as the others make nothing of the name. -/
theorem exec_new (hE : E.Contract) {start : E.State} (h : exec (shellStep E repoRoot) (.idle start) as = some s)
    (hothers : ∀ a ∈ as, ∀ image args c, a ≠ .other (.create name image args) c) {k : Container E.Id}
    (hk : s.container name = some k) :
    (∃ running, E.view start name = some { k with running }) ∨ OfDemo repoRoot name k := by
  let Inv : Shells E T → Prop := fun u => Sound repoRoot u ∧ ∀ k, u.container name = some k →
    (∃ running, E.view start name = some { k with running }) ∨ OfDemo repoRoot name k
  have hstart : Inv (.idle start) := ⟨nofun, fun k hk => .inl ⟨k.running, hk⟩⟩
  suffices hend : Inv s from hend.2 k hk
  refine exec_invariant_of_allSteps ?_ h (allSteps_of_forall_mem hothers _) hstart
  rintro u a u' ⟨hsound, hold⟩ hcreate hstep
  refine ⟨hsound.step hE hstep, ?_⟩
  intro k hk
  -- a container that was there is as old as it was
  have hbefore (hk : ∃ running, u.container name = some { k with running }) :
      (∃ running, E.view start name = some { k with running }) ∨ OfDemo repoRoot name k := by
    obtain ⟨running, hk⟩ := hk
    exact hold { k with running } hk
  rcases shellStep_cases hstep with ⟨t, d, spec, rfl, -, -, rfl⟩ |
    ⟨t, c, piped, call, call', e', rfl, hcall, hnext, rfl⟩ | ⟨t, rfl, rfl⟩ | ⟨use, c, rfl, rfl⟩
  · exact hold k hk
  · obtain ⟨⟨d, hd⟩, howned⟩ := hsound t call hcall
    rcases call_new hE howned hnext hk with hk | ⟨hname, himage, hargs⟩
    · exact hbefore hk
    · exact .inr ⟨d, call.spec, hd, hname, himage, hargs⟩
  · exact hold k hk
  · refine hbefore (use_new hE hk ?_)
    rintro image args rfl
    exact hcreate image args c rfl

/-- A call returns only with a running container. -/
theorem runs_of_returned (hE : E.Contract) {call call' : Call E.Id} {c : E.Choice} {piped : Bool} {e e' : E.State}
    (howned : call.Owned E) (h : call.step E c piped e = some (call', e')) (hreturned : call'.phase = .returned) :
    E.Runs e' call.spec.name := by
  rcases (Call.step_cases hE howned h).2.2 with ⟨hview, hruns⟩ | ⟨-, hne, -⟩ | ⟨k, -, hview⟩
  · obtain ⟨k, hk, hrunning⟩ := hruns hreturned
    exact ⟨k, (congrFun hview _).trans hk, hrunning⟩
  · exact absurd hreturned hne
  · exact ⟨_, by rw [hview, update_self], rfl⟩

private theorem runs_of_just_returned (hE : E.Contract) (hs : Sound repoRoot s) {t : T} {c : E.Choice} {piped : Bool}
    {call : Call E.Id} (h : shellStep E repoRoot s (.docker t c piped) = some s') (hcall : s'.calls t = some call)
    (hreturned : call.phase = .returned) : s'.Runs call.spec.name := by
  rcases shellStep_cases h with ⟨_, _, _, heq, -⟩ | ⟨t', c', piped', before, after, e', heq, hbefore, hstep, rfl⟩ |
    ⟨_, heq, -⟩ | ⟨_, _, heq, -⟩
  · cases heq
  · cases heq
    have hupdated : update s.calls t (some after) t = some call := hcall
    rw [update_self, Option.some.injEq] at hupdated
    subst hupdated
    have howned := (hs t before hbefore).2
    rw [(Call.step_cases hE howned hstep).1]
    exact runs_of_returned hE howned hstep hreturned
  · cases heq
  · cases heq

end runs

/-! ### What a call knows -/

/-- The container runs, or a call has made it and is about to start it. -/
def Coming {E : Engine} {T : Type} (name : Str) (s : Shells E T) : Prop :=
  ∃ k, s.container name = some k ∧ (k.running = true ∨
    ∃ t call, s.calls t = some call ∧ call.spec.name = name ∧ call.phase = .startNew k.id)

/-- What a call about the name knows in its phase, whoever else is at it. -/
def Known {E : Engine} {T : Type} (name : Str) (s : Shells E T) : Phase E.Id → Prop
  | .listRunning | .listAll => True
  | .start => s.container name ≠ none
  | .create => s.container name = none ∨ Coming name s
  | .startNew id => ∃ k, s.container name = some k ∧ k.id = id
  | .returned => s.Runs name
  | .died => Coming name s

/-- The engine works, the others leave the name alone, and no call about it ends between the two requests of
`docker run`. -/
def Smooth {E : Engine} {T : Type} (name : Str) (s : Shells E T) : ShellAction E T → Prop
  | .call _ _ => True
  | .docker _ c piped => E.Works c s.engine ∧ piped = true
  | .leave t => ∀ call id, s.calls t = some call → call.spec.name = name → call.phase ≠ .startNew id
  | .other use _ => use.name ≠ name

section known

variable {E : Engine} {T : Type} [DecidableEq T] {repoRoot name : Str} {s s' : Shells E T}

omit [DecidableEq T] in
/-- What a step must leave so that the calls which do not take it know what they knew. -/
theorem Known.mono {p : Phase E.Id} (h : Known name s p) (hkeeps : E.Keeps name s.engine s'.engine)
    (hcoming : Coming name s → Coming name s')
    (hnone : s.container name = none → s'.container name = none ∨ Coming name s') : Known name s' p := by
  cases p with
  | listRunning | listAll => trivial
  | start => exact hkeeps.view_ne_none h
  | create => exact h.elim hnone fun h => .inr (hcoming h)
  | startNew id =>
    obtain ⟨k, hk, hid⟩ := h
    obtain ⟨running, hk', -⟩ := hkeeps k hk
    exact ⟨_, hk', hid⟩
  | returned => exact hkeeps.runs h
  | died => exact hcoming h

/-- The shells but one are where they were. -/
theorem Coming.mono {t : T} (h : Coming name s) (hkeeps : E.Keeps name s.engine s'.engine)
    (hcalls : ∀ t', t' ≠ t → s'.calls t' = s.calls t')
    (hstart : ∀ k call, s.container name = some k → s.calls t = some call → call.spec.name = name →
      call.phase = .startNew k.id → Coming name s') : Coming name s' := by
  obtain ⟨k, hk, hor⟩ := h
  obtain ⟨running, hk', hrunning⟩ := hkeeps k hk
  rcases hor with hruns | ⟨t', call, hcall, hname, hphase⟩
  · exact ⟨_, hk', .inl (hrunning hruns)⟩
  · by_cases ht : t' = t
    · subst ht
      exact hstart k call hk hcall hname hphase
    · exact ⟨_, hk', .inr ⟨t', call, (hcalls t' ht).trans hcall, hname, hphase⟩⟩

section request

variable {t : T} {c : E.Choice} {call call' : Call E.Id} {e' : E.State}

private theorem coming_of_request (hE : E.Contract) (hsound : Sound repoRoot s) (hcall : s.calls t = some call)
    (hworks : E.Works c s.engine) (hnext : call.step E c true s.engine = some (call', e')) (h : Coming name s) :
    Coming name ⟨e', update s.calls t (some call')⟩ := by
  have howned := (hsound t call hcall).2
  refine h.mono (call_keeps hE howned hnext name) (fun t' ht => update_of_ne ht _ _) ?_
  intro k call₁ hk hcall₁ hname hphase
  rw [hcall, Option.some.injEq] at hcall₁
  subst hcall₁ hname
  -- it is the call that is about to start the container
  cases Call.step_works hE howned hworks hnext with
  | startedNew k' _ _ hview => exact ⟨_, by rw [Shells.container, hview, update_self], .inl rfl⟩
  | goneNew id hphase' _ hnone =>
    rw [hphase] at hphase'
    cases hphase'
    exact absurd rfl (hnone k hk)
  | _ => simp_all only [reduceCtorEq]

/-- What the call that takes the step knows after it. -/
theorem known_own (hE : E.Contract) (hsound : Sound repoRoot s) (hcall : s.calls t = some call)
    (hworks : E.Works c s.engine) (hnext : call.step E c true s.engine = some (call', e'))
    (h : Known call.spec.name s call.phase) :
    Known call.spec.name ⟨e', update s.calls t (some call')⟩ call'.phase := by
  have hcoming : Coming call.spec.name s → Coming call.spec.name ⟨e', update s.calls t (some call')⟩ :=
    coming_of_request hE hsound hcall hworks hnext
  cases Call.step_works hE (hsound t call hcall).2 hworks hnext with
  | running hphase hview hruns =>
    obtain ⟨k, hk, hrunning⟩ := hruns
    exact ⟨k, (congrFun hview _).trans hk, hrunning⟩
  | notRunning => trivial
  | existing hphase hview hsome =>
    intro hnone
    exact hsome ((congrFun hview _).symm.trans hnone)
  | missing hphase hview hnone => exact .inl ((congrFun hview _).trans hnone)
  | started k hphase hk hview => exact ⟨_, by rw [hview, update_self], rfl⟩
  | gone hphase hview hnone =>
    rw [hphase] at h
    exact absurd hnone h
  | created id hphase hnone hview => exact ⟨_, by rw [Shells.container, hview, update_self], rfl⟩
  | taken hphase hview hsome =>
    -- another call was faster
    rw [hphase] at h
    exact hcoming (h.resolve_left hsome)
  | startedNew k hphase hk hview => exact ⟨_, by rw [hview, update_self], rfl⟩
  | goneNew id hphase hview hnone =>
    rw [hphase] at h
    obtain ⟨k, hk, hid⟩ := h
    exact absurd hid (hnone k hk)

/-- If there was no container before a request, there is none after it or the call has just made it. -/
theorem none_or_coming (hE : E.Contract) (hsound : Sound repoRoot s) (hcall : s.calls t = some call)
    (hworks : E.Works c s.engine) (hnext : call.step E c true s.engine = some (call', e'))
    (hnone : s.container name = none) : E.view e' name = none ∨
      Coming name ⟨e', update s.calls t (some call')⟩ := by
  have howned := (hsound t call hcall).2
  by_cases hname : name = call.spec.name
  · subst hname
    have hsame (hview : E.view e' = E.view s.engine) : E.view e' call.spec.name = none :=
      (congrFun hview _).trans hnone
    cases Call.step_works hE howned hworks hnext with
    | created id hphase _ hview =>
      exact .inr ⟨_, by rw [Shells.container, hview, update_self], .inr ⟨t, _, update_self .., rfl, rfl⟩⟩
    | started k _ hk => exact absurd (hk.symm.trans hnone) (Option.some_ne_none k)
    | startedNew k _ hk => exact absurd (hk.symm.trans hnone) (Option.some_ne_none k)
    | _ => exact .inl (hsame ‹_›)
  · exact .inl ((call_view hE howned hnext hname).trans hnone)

end request

/-- Every call about the name knows what it should. -/
def AllKnown (name : Str) (s : Shells E T) : Prop :=
  ∀ t call, s.calls t = some call → call.spec.name = name → Known name s call.phase

theorem AllKnown.step (hE : E.Contract) {a : ShellAction E T} (hsound : Sound repoRoot s) (h : AllKnown name s)
    (hsmooth : Smooth name s a) (hstep : shellStep E repoRoot s a = some s') : AllKnown name s' := by
  intro t' call' hcall' hname'
  rcases shellStep_cases hstep with ⟨t, d, spec, rfl, hidle, hspec, rfl⟩ |
    ⟨t, c, piped, call, next, e', rfl, hcall, hnext, rfl⟩ | ⟨t, rfl, rfl⟩ | ⟨use, c, rfl, rfl⟩
  · rcases calls_update hcall' with ⟨-, heq⟩ | ⟨-, hcall'⟩
    · cases heq
      trivial
    · refine (h t' call' hcall' hname').mono (keeps_refl E name _) (fun hcoming => ?_) .inl
      -- the shell that calls was in no call before
      refine hcoming.mono (keeps_refl E name _) (fun t' ht => update_of_ne ht _ _) ?_
      intro k call _ hcall
      rw [hidle] at hcall
      cases hcall
  · obtain ⟨hworks, rfl⟩ := hsmooth
    have hspec := (Call.step_cases hE (hsound t call hcall).2 hnext).1
    rcases calls_update hcall' with ⟨-, heq⟩ | ⟨hne, hcall'⟩
    · cases heq
      rw [hspec] at hname'
      subst hname'
      exact known_own hE hsound hcall hworks hnext (h t call hcall rfl)
    · refine (h t' call' hcall' hname').mono (call_keeps hE (hsound t call hcall).2 hnext name) ?_ ?_
      · exact coming_of_request hE hsound hcall hworks hnext
      · exact none_or_coming hE hsound hcall hworks hnext
  · rcases calls_update hcall' with ⟨-, heq⟩ | ⟨-, hcall'⟩
    · cases heq
    · refine (h t' call' hcall' hname').mono (keeps_refl E name _) (fun hcoming => ?_) .inl
      refine hcoming.mono (keeps_refl E name _) (fun t' ht => update_of_ne ht _ _) ?_
      intro k call _ hcall hname hphase
      -- no call leaves a container that it has made without starting it
      exact absurd hphase (hsmooth call k.id hcall hname)
  · have hview := use_view (c := c) (e := s.engine) hE (Ne.symm hsmooth)
    have hcoming (hcoming : Coming name s) : Coming name { s with engine := use.apply c s.engine } := by
      obtain ⟨k, hk, hor⟩ := hcoming
      exact ⟨k, hview.trans hk, hor⟩
    exact (h t' call' hcall' hname').mono (keeps_of_view hview) hcoming fun hnone => .inl (hview.trans hnone)

private theorem allKnown_of_exec (hE : E.Contract) {start : E.State} {as : List (ShellAction E T)}
    (hrun : exec (shellStep E repoRoot) (.idle start) as = some s)
    (hsmooth : AllSteps (shellStep E repoRoot) (Smooth name) (.idle start) as) : AllKnown name s := by
  let Inv : Shells E T → Prop := fun u => Sound repoRoot u ∧ AllKnown name u
  have hstart : Inv (.idle start) := ⟨nofun, nofun⟩
  suffices hend : Inv s from hend.2
  refine exec_invariant_of_allSteps ?_ hrun hsmooth hstart
  rintro u a u' ⟨hsound, hknown⟩ hsmooth hstep
  exact ⟨hsound.step hE hstep, hknown.step hE hsound hsmooth hstep⟩

end known

/-- Two shells bring the Redis demo up at the same time; both see no container, and the first one makes it. -/
def race : List (ShellAction smallEngine Bool) :=
  [.call true .redis, .call false .redis, .docker true () true, .docker false () true, .docker true () true,
    .docker false () true, .docker true () true, .docker false () true]

/-- What `ensure_container` is for: the container runs, and is made only if there was none. -/
def Ensures {Id : Type} (spec : ContainerSpec) (before after : Option (Container Id)) : Prop :=
  match before with
  | some k => after = some { k with running := true }
  | none => ∃ id, after = some ⟨id, spec.image, spec.args, true⟩

/-- What it logs. -/
def ensuresLog {Id : Type} (spec : ContainerSpec) : Option (Container Id) → List Str
  | some k =>
    if k.running then ["docker: '" ++ spec.name ++ "' already running"]
    else ["docker: starting existing '" ++ spec.name ++ "'"]
  | none => ["docker: creating '" ++ spec.name ++ "' from " ++ spec.image]

/-- The requests that are left at most. -/
def Phase.left {Id : Type} : Phase Id → Nat
  | .listRunning => 4
  | .listAll => 3
  | .create => 2
  | .start | .startNew _ => 1
  | .returned | .died => 0

/-- How far a call is that found this container, or none, and has it to itself. -/
def Progress {Id : Type} (before now : Option (Container Id)) (call : Call Id) : Prop :=
  match call.phase with
  | .listRunning => now = before ∧ call.log = []
  | .listAll => now = before ∧ (∀ k, before = some k → k.running = false) ∧ call.log = []
  | .start => now = before ∧ (∃ k, before = some k) ∧ call.log = ensuresLog call.spec before
  | .create => now = before ∧ before = none ∧ call.log = ensuresLog call.spec before
  | .startNew id => before = none ∧ now = some ⟨id, call.spec.image, call.spec.args, false⟩ ∧
      call.log = ensuresLog call.spec before
  | .returned => Ensures call.spec before now ∧ call.log = ensuresLog call.spec before
  | .died => False

def Call.Finished {Id : Type} (call : Call Id) : Prop := call.phase = .returned ∨ call.phase = .died

/-- The shell has the container to itself: no other is within a call about it, the other users leave it alone, the
engine carries out the requests of the shell, and its call is not ended. -/
def Undisturbed {E : Engine} {T : Type} (name : Str) (t : T) (s : Shells E T) (a : ShellAction E T) : Prop :=
  (∀ t' call, t' ≠ t → s.calls t' = some call → call.spec.name = name → call.Finished) ∧
    match a with
    | .call _ _ => True
    | .docker t' c piped => t' = t → E.Works c s.engine ∧ piped = true
    | .leave t' => t' ≠ t
    | .other use _ => use.name ≠ name

section undisturbed

variable {E : Engine} {before : Option (Container E.Id)} {call call' : Call E.Id} {c : E.Choice} {e e' : E.State}

/-- A call has a next request until it is finished. -/
theorem Call.step_eq_none_iff {piped : Bool} : call.step E c piped e = none ↔ call.Finished := by
  obtain ⟨spec, phase, log⟩ := call
  cases phase with
  | listRunning | listAll | create =>
    simp only [Call.step, Call.Finished, reduceCtorEq, or_self, iff_false]
    split <;> simp
  | start | startNew => simp [Call.step, Call.Finished]
  | returned | died => simp [Call.step, Call.Finished]

/-- A request of a call that has its container to itself. -/
theorem Progress.step (hE : E.Contract) (howned : call.Owned E) (hworks : E.Works c e)
    (hnext : call.step E c true e = some (call', e')) (h : Progress before (E.view e call.spec.name) call) :
    Progress before (E.view e' call.spec.name) call' ∧ call'.phase.left + 1 ≤ call.phase.left := by
  have hproceeds := Call.step_works hE howned hworks hnext
  obtain ⟨spec, phase, log⟩ := call
  cases hproceeds with
  | running hphase hview hruns =>
    obtain rfl := hphase
    obtain ⟨rfl, rfl⟩ := h
    obtain ⟨⟨id, image, args, running⟩, hk, rfl⟩ := hruns
    refine ⟨⟨?_, ?_⟩, by simp [Call.logs, Phase.left]⟩
    · rw [hk]
      exact (congrFun hview _).trans hk
    · rw [hk]
      rfl
  | notRunning hphase hview hruns =>
    obtain rfl := hphase
    obtain ⟨hnow, hlog⟩ := h
    refine ⟨⟨(congrFun hview _).trans hnow, fun k hk => ?_, hlog⟩, le_rfl⟩
    by_contra hrunning
    exact hruns ⟨k, hnow.trans hk, by simpa using hrunning⟩
  | existing hphase hview hsome =>
    obtain rfl := hphase
    obtain ⟨rfl, hstopped, rfl⟩ := h
    obtain ⟨k, hk⟩ := Option.ne_none_iff_exists'.1 hsome
    refine ⟨⟨congrFun hview _, ⟨k, hk⟩, ?_⟩, by simp [Call.logs, Phase.left]⟩
    rw [hk, ensuresLog, if_neg (by simp [hstopped k hk])]
    rfl
  | missing hphase hview hnone =>
    obtain rfl := hphase
    obtain ⟨rfl, -, rfl⟩ := h
    refine ⟨⟨congrFun hview _, hnone, ?_⟩, le_rfl⟩
    rw [hnone]
    rfl
  | started k hphase hk hview =>
    obtain rfl := hphase
    obtain ⟨rfl, -, hlog⟩ := h
    refine ⟨⟨?_, hlog⟩, le_rfl⟩
    rw [hk]
    exact (congrFun hview _).trans (update_self ..)
  | gone hphase hview hnone =>
    obtain rfl := hphase
    obtain ⟨hnow, ⟨k, hk⟩, -⟩ := h
    -- nobody else has removed it
    exact absurd (hnow.trans hk) (by simp [hnone])
  | created id hphase hnone hview =>
    obtain rfl := hphase
    obtain ⟨-, hbefore, hlog⟩ := h
    exact ⟨⟨hbefore, by rw [hview, update_self], hlog⟩, le_rfl⟩
  | taken hphase hview hsome =>
    obtain rfl := hphase
    obtain ⟨hnow, hbefore, -⟩ := h
    -- nobody else has made one
    exact absurd (hnow.trans hbefore) hsome
  | startedNew k hphase hk hview =>
    obtain rfl := hphase
    obtain ⟨rfl, hnow, hlog⟩ := h
    refine ⟨⟨⟨k.id, ?_⟩, hlog⟩, le_rfl⟩
    rw [hnow, Option.some.injEq] at hk
    rw [← hk] at hview
    exact (congrFun hview _).trans (update_self ..)
  | goneNew id hphase hview hnone =>
    obtain rfl := hphase
    obtain ⟨-, hnow, -⟩ := h
    exact absurd rfl (hnone _ hnow)

variable {T : Type} [DecidableEq T] {repoRoot : Str} {spec : ContainerSpec} {t : T}

/-- The requests of a shell. -/
def requestsOf (t : T) (as : List (ShellAction E T)) : Nat :=
  as.countP fun a => match a with
    | .docker t' _ _ => t' = t
    | _ => false

@[simp] theorem requestsOf_snoc (as : List (ShellAction E T)) (a : ShellAction E T) :
    requestsOf t (as ++ [a]) = requestsOf t as + requestsOf t [a] := List.countP_append

/-- The shell is in its call, has made some of its requests, and found this container, or none. -/
def Within (spec : ContainerSpec) (t : T) (before : Option (Container E.Id)) (past : List (ShellAction E T))
    (s : Shells E T) : Prop :=
  ∃ call, s.calls t = some call ∧ call.spec = spec ∧ Progress before (s.container spec.name) call ∧
    requestsOf t past + call.phase.left ≤ 4

theorem Within.step (hE : E.Contract) {past : List (ShellAction E T)} {a : ShellAction E T} {s s' : Shells E T}
    (hsound : Sound repoRoot s) (h : Within spec t before past s) (hundisturbed : Undisturbed spec.name t s a)
    (hstep : shellStep E repoRoot s a = some s') : Within spec t before (past ++ [a]) s' := by
  obtain ⟨call, hcall, rfl, hprogress, hleft⟩ := h
  obtain ⟨hothers, hundisturbed⟩ := hundisturbed
  rcases shellStep_cases hstep with ⟨t', d, spec, rfl, hidle, -, rfl⟩ |
    ⟨t', c, piped, call', next, e', rfl, hcall', hnext, rfl⟩ | ⟨t', rfl, rfl⟩ | ⟨use, c, rfl, rfl⟩
  · -- the shell is in its call, so another one comes to its own
    have hne : t ≠ t' := by
      rintro rfl
      rw [hidle] at hcall
      cases hcall
    exact ⟨call, (update_of_ne hne _ _).trans hcall, rfl, hprogress, by simpa [requestsOf] using hleft⟩
  · by_cases ht : t' = t
    · subst ht
      obtain ⟨hworks, rfl⟩ := hundisturbed rfl
      rw [hcall, Option.some.injEq] at hcall'
      subst hcall'
      have howned := (hsound t' call hcall).2
      obtain ⟨hprogress', hleft'⟩ := hprogress.step hE howned hworks hnext
      have hspec := (Call.step_cases hE howned hnext).1
      refine ⟨next, update_self .., hspec, hprogress', ?_⟩
      have hone : requestsOf t' [ShellAction.docker (E := E) t' c true] = 1 := by simp [requestsOf]
      rw [requestsOf_snoc, hone]
      omega
    · -- a call of another shell that can go on is about another name
      have hname : call.spec.name ≠ call'.spec.name := by
        intro hname
        rw [Call.step_eq_none_iff.2 (hothers t' call' ht hcall' hname.symm)] at hnext
        cases hnext
      have hview := call_view hE (hsound t' call' hcall').2 hnext hname
      refine ⟨call, (update_of_ne (Ne.symm ht) _ _).trans hcall, rfl, ?_, ?_⟩
      · rw [Shells.container, hview]
        exact hprogress
      · have hzero : requestsOf t [ShellAction.docker (E := E) t' c piped] = 0 := by simp [requestsOf, ht]
        rwa [requestsOf_snoc, hzero]
  · exact ⟨call, (update_of_ne (Ne.symm hundisturbed) _ _).trans hcall, rfl, hprogress,
      by simpa [requestsOf] using hleft⟩
  · refine ⟨call, hcall, rfl, ?_, by simpa [requestsOf] using hleft⟩
    rw [Shells.container, use_view hE (Ne.symm hundisturbed)]
    exact hprogress

end undisturbed

/-- A call that is not disturbed makes at most four requests, always has a next one until it returns, and does not
fail; and when it returns, a container that was there is the same and runs, a stopped one was started, one was made as
the driver says if there was none, and the message is the one for that. -/
theorem ensure_container_idempotent {E : Engine} (hE : E.Contract) {T : Type} [DecidableEq T] {repoRoot : Str}
    {start : E.State} {before during : List (ShellAction E T)} {mid s : Shells E T} {t : T} {d : Demo}
    {spec : ContainerSpec} (hspec : d.container repoRoot = some spec)
    (hbefore : exec (shellStep E repoRoot) (.idle start) before = some mid)
    (hrun : exec (shellStep E repoRoot) mid (.call t d :: during) = some s)
    (hundisturbed : AllSteps (shellStep E repoRoot) (Undisturbed spec.name t) mid (.call t d :: during)) :
    ∃ call, s.calls t = some call ∧ call.spec = spec ∧ call.phase ≠ .died ∧ requestsOf t during ≤ 4 ∧
      (call.phase ≠ .returned → ∀ c piped, (shellStep E repoRoot s (.docker t c piped)).isSome = true) ∧
      (call.phase = .returned → Ensures spec (mid.container spec.name) (s.container spec.name) ∧
        call.log = ensuresLog spec (mid.container spec.name)) := by
  obtain ⟨u, hu, hrest⟩ := exec_cons_eq_some.1 hrun
  have hsound := sound_of_exec hE hbefore
  have hwithin : Within spec t (mid.container spec.name) [] u := by
    rcases shellStep_cases hu with ⟨t', d', spec', heq, -, hspec', rfl⟩ | ⟨_, _, _, _, _, _, heq, -⟩ | ⟨_, heq, -⟩ |
      ⟨_, _, heq, -⟩
    · cases heq
      rw [hspec, Option.some.injEq] at hspec'
      subst hspec'
      exact ⟨_, update_self .., rfl, ⟨rfl, rfl⟩, le_rfl⟩
    · cases heq
    · cases heq
    · cases heq
  let Inv : List (ShellAction E T) → Shells E T → Prop := fun past u =>
    Sound repoRoot u ∧ Within spec t (mid.container spec.name) past u
  have hend : Inv ([] ++ during) s := by
    refine exec_invariant_past_of_allSteps ?_ [] hrest (hundisturbed.2 u hu) ⟨hsound.step hE hu, hwithin⟩
    rintro past u a u' ⟨hsound, hwithin⟩ hundisturbed hstep
    exact ⟨hsound.step hE hstep, hwithin.step hE hsound hundisturbed hstep⟩
  obtain ⟨-, call, hcall, hcallSpec, hprogress, hleft⟩ := hend
  have halive : call.phase ≠ .died := by
    intro hdied
    rw [Progress, hdied] at hprogress
    exact hprogress
  refine ⟨call, hcall, hcallSpec, halive, by simp at hleft; omega, ?_, ?_⟩
  · intro hphase c piped
    have hnext : call.step E c piped s.engine ≠ none := by
      rw [Ne, Call.step_eq_none_iff]
      rintro (hreturned | hdied)
      · exact hphase hreturned
      · exact halive hdied
    rw [shellStep, hcall]
    simpa [Option.isSome_iff_ne_none] using hnext
  · intro hreturned
    rw [Progress, hreturned, hcallSpec] at hprogress
    exact hprogress

/-- One shell brings the Redis demo up, and then another one. -/
theorem ensure_container_idempotent_again : ∃ (mid s : Shells smallEngine Bool) (k : Container (Str × Nat)),
    exec (shellStep smallEngine "/repo") (.idle SmallState.empty) (.call true .redis ::
      List.replicate 4 (.docker true () true)) = some mid ∧
    exec (shellStep smallEngine "/repo") mid [.call false .redis, .docker false () true] = some s ∧
    mid.container "pinpoint-cpp-examples-redis" = some k ∧ k.running = true ∧
    s.container "pinpoint-cpp-examples-redis" = some k := by
  have hruns : ∃ (mid s : Shells smallEngine Bool) (k : Container (Str × Nat)) (spec : ContainerSpec)
      (own other : Call (Str × Nat)),
      exec (shellStep smallEngine "/repo") (.idle SmallState.empty) (.call true .redis ::
        List.replicate 4 (.docker true () true)) = some mid ∧
      exec (shellStep smallEngine "/repo") mid [.call false .redis, .docker false () true] = some s ∧
      mid.container "pinpoint-cpp-examples-redis" = some k ∧ k.running = true ∧
      Demo.redis.container "/repo" = some spec ∧ spec.name = "pinpoint-cpp-examples-redis" ∧
      s.calls false = some own ∧ own.phase = .returned ∧ mid.calls true = some other ∧ other.phase = .returned :=
    ⟨_, _, _, _, _, _, rfl, rfl, rfl, rfl, rfl, rfl, rfl, rfl, rfl, rfl⟩
  obtain ⟨mid, s, k, spec, own, other, hmid, hs, hk, hrunning, hspec, hname, hown, hreturned, hother, hended⟩ := hruns
  have hundisturbed : AllSteps (shellStep smallEngine "/repo") (Undisturbed spec.name false) mid
      [.call false .redis, .docker false () true] := by
    have hothers (u : Shells smallEngine Bool) (hu : u.calls true = some other) : ∀ t call, t ≠ false →
        u.calls t = some call → call.spec.name = spec.name → call.Finished := by
      intro t call ht hcall _
      obtain rfl : t = true := by simpa using ht
      rw [hu, Option.some.injEq] at hcall
      exact hcall ▸ .inl hended
    refine ⟨⟨hothers mid hother, trivial⟩, fun u hu => ⟨⟨hothers u ?_, ?_⟩, fun _ _ => trivial⟩⟩
    · rcases shellStep_cases hu with ⟨t, d, spec, heq, -, -, rfl⟩ | ⟨_, _, _, _, _, _, heq, -⟩ | ⟨_, heq, -⟩ |
        ⟨_, _, heq, -⟩
      · cases heq
        simpa using hother
      · cases heq
      · cases heq
      · cases heq
    · exact fun _ => ⟨smallEngine_works u.engine, rfl⟩
  obtain ⟨call, hcall, -, -, -, -, hensures⟩ :=
    ensure_container_idempotent smallEngine_contract hspec hmid hs hundisturbed
  rw [hown, Option.some.injEq] at hcall
  subst hcall
  have hafter := (hensures hreturned).1
  rw [hname, hk] at hafter
  refine ⟨mid, s, k, hmid, hs, hk, hrunning, hafter.trans ?_⟩
  obtain ⟨id, image, args, running⟩ := k
  exact congrArg (fun r => some (Container.mk id image args r)) hrunning.symm

end PinpointExamples.Scripts
