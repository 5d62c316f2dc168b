import Mathlib.Data.List.Basic

/-!
# Programs with scopes and exceptions

A small language for code that brackets its work in scopes (a guard object whose destructor runs when the block is
left) and that may throw.  A program runs on a log: opening a scope and closing it are entries of the log, and so
are the calls the program makes.  A scope takes the next free number as its identifier.

The key fact is `run_balanced`: whatever a program does, and however it is left, the entries it adds are balanced,
so every scope it opened has been closed again.
-/

namespace Scoped

variable {L C D E S : Type}

/-- An entry of the log. -/
inductive Entry (L D : Type)
  | opened (id : Nat) (label : L)
  | closed (id : Nat)
  | call (c : D)
  deriving DecidableEq, Repr

structure World (L D S : Type) where
  log : List (Entry L D)
  next : Nat
  state : S

/-- Programs: scopes with labels in `L`, calls in `C`, exceptions in `E`, a state in `S`. -/
inductive Prog (L C E S : Type) : Type → Type 1
  | pure {α : Type} (a : α) : Prog L C E S α
  | bind {α β : Type} (p : Prog L C E S β) (f : β → Prog L C E S α) : Prog L C E S α
  | throw {α : Type} (e : E) : Prog L C E S α
  | tryCatch {α : Type} (p : Prog L C E S α) (handler : E → Prog L C E S α) : Prog L C E S α
  | call (c : C) : Prog L C E S Unit
  | modify (f : S → S) : Prog L C E S Unit
  | scope {α : Type} (label : L) (body : Nat → Prog L C E S α) : Prog L C E S α

instance : Monad (Prog L C E S) where
  pure := .pure
  bind := .bind

/-- Runs a program and returns its exception, if there was one. -/
def Prog.attempt {α : Type} (p : Prog L C E S α) : Prog L C E S (Except E α) :=
  .tryCatch (p >>= fun a => Pure.pure (.ok a)) fun e => Pure.pure (.error e)

namespace World

def emit (w : World L D S) (e : Entry L D) : World L D S := { w with log := w.log ++ [e] }

def opening (w : World L D S) (label : L) : World L D S :=
  { w with log := w.log ++ [.opened w.next label], next := w.next + 1 }

@[simp] theorem emit_log (w : World L D S) (e : Entry L D) : (w.emit e).log = w.log ++ [e] := rfl
@[simp] theorem emit_next (w : World L D S) (e : Entry L D) : (w.emit e).next = w.next := rfl
@[simp] theorem emit_state (w : World L D S) (e : Entry L D) : (w.emit e).state = w.state := rfl
@[simp] theorem opening_log (w : World L D S) (l : L) :
    (w.opening l).log = w.log ++ [.opened w.next l] := rfl
@[simp] theorem opening_next (w : World L D S) (l : L) : (w.opening l).next = w.next + 1 := rfl
@[simp] theorem opening_state (w : World L D S) (l : L) : (w.opening l).state = w.state := rfl

end World

/-- Goes on with `k` after a normal return; an exception passes through. -/
def andThen {α β : Type} (r : Except E β × World L D S) (k : β → World L D S → Except E α × World L D S) :
    Except E α × World L D S :=
  match r with
  | (.ok b, w) => k b w
  | (.error e, w) => (.error e, w)

/-- Goes on with `k` after an exception; a normal return passes through. -/
def orCatch {α : Type} (r : Except E α × World L D S) (k : E → World L D S → Except E α × World L D S) :
    Except E α × World L D S :=
  match r with
  | (.ok a, w) => (.ok a, w)
  | (.error e, w) => k e w

namespace Prog

/-- Runs a program; `emb` says how its calls are written in the log.  The scope is closed on both exits of its
body. -/
def run (emb : C → D) {α : Type} : Prog L C E S α → World L D S → Except E α × World L D S
  | .pure a, w => (.ok a, w)
  | .bind p f, w => andThen (p.run emb w) fun b w' => (f b).run emb w'
  | .throw e, w => (.error e, w)
  | .tryCatch p handler, w => orCatch (p.run emb w) fun e w' => (handler e).run emb w'
  | .call c, w => (.ok (), w.emit (.call (emb c)))
  | .modify f, w => (.ok (), { w with state := f w.state })
  | .scope label body, w =>
    let r := (body w.next).run emb (w.opening label)
    (r.1, r.2.emit (.closed w.next))

section run

variable (emb : C → D) (w : World L D S) {α β : Type}

@[simp] theorem run_pure (a : α) : (Pure.pure a : Prog L C E S α).run emb w = (.ok a, w) := rfl

@[simp] theorem run_throw (e : E) : (Prog.throw e : Prog L C E S α).run emb w = (.error e, w) := rfl

@[simp] theorem run_call (c : C) :
    (Prog.call c : Prog L C E S Unit).run emb w = (.ok (), w.emit (.call (emb c))) := rfl

@[simp] theorem run_modify (f : S → S) :
    (Prog.modify f : Prog L C E S Unit).run emb w = (.ok (), { w with state := f w.state }) := rfl

@[simp] theorem run_scope (label : L) (body : Nat → Prog L C E S α) :
    (Prog.scope label body).run emb w =
      (((body w.next).run emb (w.opening label)).1,
        ((body w.next).run emb (w.opening label)).2.emit (.closed w.next)) := rfl

@[simp] theorem run_bind (p : Prog L C E S β) (f : β → Prog L C E S α) :
    (p >>= f).run emb w = andThen (p.run emb w) fun b w' => (f b).run emb w' := rfl

@[simp] theorem run_tryCatch (p : Prog L C E S α) (handler : E → Prog L C E S α) :
    (Prog.tryCatch p handler).run emb w =
      orCatch (p.run emb w) fun e w' => (handler e).run emb w' := rfl

theorem run_attempt_of_error {p : Prog L C E S α} {e : E} (h : (p.run emb w).1 = .error e) :
    p.attempt.run emb w = (.ok (.error e), (p.run emb w).2) := by
  rcases hp : p.run emb w with ⟨r, w'⟩
  rw [hp] at h
  have hr : r = .error e := h
  rw [attempt, run_tryCatch, run_bind, hp, hr]
  rfl

end run

end Prog

section exits

variable {α β : Type} (w : World L D S)

@[simp] theorem andThen_ok (b : β) (k : β → World L D S → Except E α × World L D S) :
    andThen (.ok b, w) k = k b w := rfl

@[simp] theorem andThen_error (e : E) (k : β → World L D S → Except E α × World L D S) :
    andThen (.error e, w) k = (.error e, w) := rfl

@[simp] theorem orCatch_ok (a : α) (k : E → World L D S → Except E α × World L D S) :
    orCatch (.ok a, w) k = (.ok a, w) := rfl

@[simp] theorem orCatch_error (e : E) (k : E → World L D S → Except E α × World L D S) :
    orCatch (.error e, w) k = k e w := rfl

end exits

/-! ### Balanced logs -/

/-- `Balanced m n l`: the entries `l` open the scopes `m, …, n - 1`, in this order, and close each of them inside
the scope it was opened in. -/
inductive Balanced : Nat → Nat → List (Entry L D) → Prop
  | nil (n : Nat) : Balanced n n []
  | call {m n : Nat} {l : List (Entry L D)} (c : D) (h : Balanced m n l) : Balanced m n (.call c :: l)
  | scope {m k n : Nat} {inner rest : List (Entry L D)} (label : L)
      (hi : Balanced (m + 1) k inner) (hr : Balanced k n rest) :
      Balanced m n (.opened m label :: (inner ++ .closed m :: rest))

namespace Balanced

variable {m k n : Nat} {l l' : List (Entry L D)}

theorem append (h : Balanced m k l) (h' : Balanced k n l') : Balanced m n (l ++ l') := by
  induction h with
  | nil _ => exact h'
  | call c _ ih => exact .call c (ih h')
  | scope label hi _ _ ihr =>
    have := Balanced.scope label hi (ihr h')
    simpa using this

theorem snoc_call (h : Balanced m n l) (c : D) : Balanced m n (l ++ [.call c]) :=
  h.append (.call c (.nil n))

private theorem wrap (label : L) (h : Balanced (m + 1) n l) :
    Balanced m n (.opened m label :: (l ++ [.closed m])) :=
  .scope label h (.nil n)

/-- A scope opened in a balanced log is closed later in it. -/
theorem closed_after (h : Balanced m n l) {id : Nat} {label : L} (hm : Entry.opened id label ∈ l) :
    ∃ a b c, l = a ++ .opened id label :: (b ++ .closed id :: c) := by
  induction h with
  | nil _ => simp at hm
  | call c _ ih =>
    obtain ⟨a, b, d, rfl⟩ := ih (by simpa using hm)
    exact ⟨.call c :: a, b, d, rfl⟩
  | @scope m k n inner rest lab hi hr ihi ihr =>
    simp only [List.mem_cons, List.mem_append, Entry.opened.injEq, reduceCtorEq, false_or] at hm
    rcases hm with ⟨rfl, rfl⟩ | hm | hm
    · exact ⟨[], inner, rest, rfl⟩
    · obtain ⟨a, b, c, rfl⟩ := ihi hm
      exact ⟨.opened m lab :: a, b, c ++ .closed m :: rest, by simp⟩
    · obtain ⟨a, b, c, rfl⟩ := ihr hm
      exact ⟨.opened m lab :: (inner ++ .closed m :: a), b, c, by simp⟩

end Balanced

/-- However a program is left, it has closed every scope it opened. -/
theorem run_balanced (emb : C → D) {α : Type} (p : Prog L C E S α) (w : World L D S) :
    ∃ l, (p.run emb w).2.log = w.log ++ l ∧ Balanced w.next (p.run emb w).2.next l := by
  induction p generalizing w with
  | pure a => exact ⟨[], by simp [Prog.run], .nil _⟩
  | bind p f ihp ihf =>
    obtain ⟨l, hl, hb⟩ := ihp w
    unfold Prog.run
    rcases h : p.run emb w with ⟨e | b, w'⟩ <;> rw [h] at hl hb
    · exact ⟨l, hl, hb⟩
    · obtain ⟨l', hl', hb'⟩ := ihf b w'
      refine ⟨l ++ l', ?_, hb.append hb'⟩
      rw [andThen_ok, hl', hl, List.append_assoc]
  | throw e => exact ⟨[], by simp [Prog.run], .nil _⟩
  | tryCatch p handler ihp ihh =>
    obtain ⟨l, hl, hb⟩ := ihp w
    unfold Prog.run
    rcases h : p.run emb w with ⟨e | a, w'⟩ <;> rw [h] at hl hb
    · obtain ⟨l', hl', hb'⟩ := ihh e w'
      refine ⟨l ++ l', ?_, hb.append hb'⟩
      rw [orCatch_error, hl', hl, List.append_assoc]
    · exact ⟨l, hl, hb⟩
  | call c => exact ⟨[.call (emb c)], rfl, .call _ (.nil _)⟩
  | modify f => exact ⟨[], by simp [Prog.run], .nil _⟩
  | scope label body ih =>
    -- the scope closes around what its body has logged
    obtain ⟨l, hl, hb⟩ := ih w.next (w.opening label)
    rw [World.opening_next] at hb
    exact ⟨_, by simp [hl], hb.wrap label⟩

/-- A program makes no other calls than its own: a call that it cannot make stays as often in the log as it was. -/
theorem run_count_call [DecidableEq L] [DecidableEq D] (emb : C → D) {d : D} (hd : ∀ c, emb c ≠ d) {α : Type}
    (p : Prog L C E S α) (w : World L D S) :
    (p.run emb w).2.log.count (.call d) = w.log.count (.call d) := by
  induction p generalizing w with
  | pure a => rfl
  | bind p f ihp ihf =>
    have hp := ihp w
    unfold Prog.run
    rcases h : p.run emb w with ⟨e | b, w'⟩ <;> rw [h] at hp
    · exact hp
    · rw [andThen_ok, ihf b w', hp]
  | throw e => rfl
  | tryCatch p handler ihp ihh =>
    have hp := ihp w
    unfold Prog.run
    rcases h : p.run emb w with ⟨e | a, w'⟩ <;> rw [h] at hp
    · rw [orCatch_error, ihh e w', hp]
    · exact hp
  | call c =>
    have hc : Entry.call (emb c) ≠ (Entry.call d : Entry L D) := by simpa using hd c
    simp [Prog.run, hc]
  | modify f => rfl
  | scope label body ih =>
    have hb := ih w.next (w.opening label)
    simp only [World.opening_log, List.count_append] at hb
    simpa [Prog.run, List.count_singleton] using hb

/-- A view that shows neither the scopes of a program nor its calls does not see the program. -/
theorem run_filterMap {V : Type} (emb : C → D) {view : Entry L D → Option V}
    (hopened : ∀ id label, view (.opened id label) = none) (hclosed : ∀ id, view (.closed id) = none)
    (hcall : ∀ c, view (.call (emb c)) = none) {α : Type} (p : Prog L C E S α) (w : World L D S) :
    (p.run emb w).2.log.filterMap view = w.log.filterMap view := by
  induction p generalizing w with
  | pure a => rfl
  | bind p f ihp ihf =>
    have hp := ihp w
    unfold Prog.run
    rcases h : p.run emb w with ⟨e | b, w'⟩ <;> rw [h] at hp
    · exact hp
    · rw [andThen_ok, ihf b w', hp]
  | throw e => rfl
  | tryCatch p handler ihp ihh =>
    have hp := ihp w
    unfold Prog.run
    rcases h : p.run emb w with ⟨e | a, w'⟩ <;> rw [h] at hp
    · rw [orCatch_error, ihh e w', hp]
    · exact hp
  | call c =>
    have hc := hcall c
    simp [Prog.run, hc]
  | modify f => rfl
  | scope label body ih =>
    have hb := ih w.next (w.opening label)
    simpa [Prog.run, hopened, hclosed] using hb

/-- What was in the log stays there. -/
theorem mem_run_of_mem (emb : C → D) {α : Type} (p : Prog L C E S α) {w : World L D S} {e : Entry L D}
    (he : e ∈ w.log) : e ∈ (p.run emb w).2.log := by
  obtain ⟨l, hl, -⟩ := run_balanced emb p w
  rw [hl]
  exact List.mem_append_left l he

/-! ### Programs that return

`Records` is a rule for programs that return in every world: it says what they return and, through a `view` of the
entries, what they record.  The rules follow the programs; `scope` needs a view that does not show the scopes. -/

/-- Whatever the world, the program returns `a`, leaves the state as it was and records what shows as `l`. -/
def Prog.Records {α V : Type} (p : Prog L C E S α) (emb : C → D) (view : Entry L D → Option V) (a : α) (l : List V) :
    Prop :=
  ∀ w : World L D S, ∃ w', p.run emb w = (.ok a, w') ∧ w'.state = w.state ∧
    w'.log.filterMap view = w.log.filterMap view ++ l

namespace Prog.Records

variable {emb : C → D} {α β V : Type} {view : Entry L D → Option V} {l l' : List V}

theorem pure (a : α) : (Pure.pure a : Prog L C E S α).Records emb view a [] :=
  fun w => ⟨w, rfl, rfl, (List.append_nil _).symm⟩

theorem call_of_some {c : C} {v : V} (h : view (.call (emb c)) = some v) :
    (Prog.call c : Prog L C E S Unit).Records emb view () [v] := by
  intro w
  refine ⟨_, rfl, rfl, ?_⟩
  rw [World.emit_log, List.filterMap_append, List.filterMap_cons_some h, List.filterMap_nil]

theorem call_of_none {c : C} (h : view (.call (emb c)) = none) :
    (Prog.call c : Prog L C E S Unit).Records emb view () [] := by
  intro w
  refine ⟨_, rfl, rfl, ?_⟩
  rw [World.emit_log, List.filterMap_append, List.filterMap_cons_none h, List.filterMap_nil]

theorem bind {p : Prog L C E S β} {f : β → Prog L C E S α} {b : β} {a : α} (hp : p.Records emb view b l)
    (hf : (f b).Records emb view a l') : (p >>= f).Records emb view a (l ++ l') := by
  intro w
  obtain ⟨w', hw, hs, hl⟩ := hp w
  obtain ⟨w'', hw', hs', hl'⟩ := hf w'
  refine ⟨w'', ?_, hs'.trans hs, ?_⟩
  · rw [run_bind, hw, andThen_ok, hw']
  · rw [hl', hl, List.append_assoc]

theorem scope {label : L} {body : Nat → Prog L C E S α} {a : α} (hopened : ∀ id, view (.opened id label) = none)
    (hclosed : ∀ id, view (.closed id) = none) (h : ∀ id, (body id).Records emb view a l) :
    (Prog.scope label body).Records emb view a l := by
  intro w
  obtain ⟨w', hw, hs, hl⟩ := h w.next (w.opening label)
  refine ⟨w'.emit (.closed w.next), ?_, hs, ?_⟩
  · rw [run_scope, hw]
  · rw [World.opening_log, List.filterMap_append] at hl
    simp [hl, hopened, hclosed]

theorem tryCatch {p : Prog L C E S α} {handler : E → Prog L C E S α} {a : α} (h : p.Records emb view a l) :
    (Prog.tryCatch p handler).Records emb view a l := by
  intro w
  obtain ⟨w', hw, hs, hl⟩ := h w
  exact ⟨w', by rw [run_tryCatch, hw, orCatch_ok], hs, hl⟩

theorem tryCatch_throw {e : E} {handler : E → Prog L C E S α} {a : α} (h : (handler e).Records emb view a l) :
    (Prog.tryCatch (Prog.throw e) handler).Records emb view a l := by
  intro w
  obtain ⟨w', hw, hs, hl⟩ := h w
  exact ⟨w', by rw [run_tryCatch, run_throw, orCatch_error, hw], hs, hl⟩

theorem attempt {p : Prog L C E S α} {a : α} (h : p.Records emb view a l) :
    p.attempt.Records emb view (.ok a) l := by
  have hb : (p >>= fun a => (Pure.pure (.ok a) : Prog L C E S (Except E α))).Records emb view (.ok a) (l ++ []) :=
    bind h (pure _)
  rw [List.append_nil] at hb
  exact tryCatch hb

end Prog.Records

/-- Whatever the world, the program returns `a` and leaves the state as it was. -/
def Prog.Yields {α : Type} (p : Prog L C E S α) (emb : C → D) (a : α) : Prop :=
  p.Records emb (fun _ : Entry L D => (none : Option Empty)) a []

theorem Prog.Records.yields {emb : C → D} {α V : Type} {view : Entry L D → Option V} {p : Prog L C E S α} {a : α}
    {l : List V} (h : p.Records emb view a l) : p.Yields emb a := by
  intro w
  obtain ⟨w', hw, hs, -⟩ := h w
  exact ⟨w', hw, hs, by simp⟩

namespace Prog.Yields

variable {emb : C → D} {α β : Type}

theorem run_eq {p : Prog L C E S α} {a : α} (h : p.Yields emb a) (w : World L D S) :
    ∃ w', p.run emb w = (.ok a, w') ∧ w'.state = w.state := by
  obtain ⟨w', hw, hs, -⟩ := h w
  exact ⟨w', hw, hs⟩

theorem pure (a : α) : (Pure.pure a : Prog L C E S α).Yields emb a := Records.pure a

theorem call (c : C) : (Prog.call c : Prog L C E S Unit).Yields emb () := Records.call_of_none rfl

theorem bind {p : Prog L C E S β} {f : β → Prog L C E S α} {b : β} {a : α} (hp : p.Yields emb b)
    (hf : (f b).Yields emb a) : (p >>= f).Yields emb a := Records.bind hp hf

theorem scope {label : L} {body : Nat → Prog L C E S α} {a : α} (h : ∀ id, (body id).Yields emb a) :
    (Prog.scope label body).Yields emb a := Records.scope (fun _ => rfl) (fun _ => rfl) h

theorem tryCatch {p : Prog L C E S α} {handler : E → Prog L C E S α} {a : α} (h : p.Yields emb a) :
    (Prog.tryCatch p handler).Yields emb a := Records.tryCatch h

theorem tryCatch_throw {e : E} {handler : E → Prog L C E S α} {a : α} (h : (handler e).Yields emb a) :
    (Prog.tryCatch (Prog.throw e) handler).Yields emb a := Records.tryCatch_throw h

end Prog.Yields

end Scoped
