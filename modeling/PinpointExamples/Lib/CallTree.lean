import Mathlib.Data.List.Basic
import PinpointExamples.Lib.Scoped

/-!
# Call trees

The log of a program is flat, but it is read as a forest: the calls, and the scopes with the calls and scopes inside
them.  Every program adds the entries of one forest, and of one only (`run_forest`), so nothing is lost by saying
which forest a program adds.  `Prog.Grows` says it, together with the result and the change of the state, and has a
rule for every way programs are put together.
-/

namespace Scoped

variable {L C D E S : Type}

/-- A forest: calls and scopes in their order, a scope with its number and what is inside it. -/
inductive Forest (L D : Type)
  | nil
  | call (d : D) (rest : Forest L D)
  | scope (id : Nat) (label : L) (body rest : Forest L D)
  deriving DecidableEq, Repr

namespace Forest

def entries : Forest L D → List (Entry L D)
  | nil => []
  | call d rest => .call d :: rest.entries
  | scope id label body rest => .opened id label :: (body.entries ++ .closed id :: rest.entries)

/-- The number of scopes. -/
def size : Forest L D → Nat
  | nil => 0
  | call _ rest => rest.size
  | scope _ _ body rest => 1 + body.size + rest.size

def append : Forest L D → Forest L D → Forest L D
  | nil, g => g
  | call d rest, g => call d (rest.append g)
  | scope id label body rest, g => scope id label body (rest.append g)

instance : Append (Forest L D) := ⟨append⟩

/-- Calls one after the other. -/
def calls : List D → Forest L D
  | [] => nil
  | d :: ds => call d (calls ds)

@[simp] theorem nil_append (g : Forest L D) : nil ++ g = g := rfl

@[simp] theorem call_append (d : D) (f g : Forest L D) : call d f ++ g = call d (f ++ g) := rfl

@[simp] theorem scope_append (id : Nat) (label : L) (b f g : Forest L D) :
    scope id label b f ++ g = scope id label b (f ++ g) := rfl

@[simp] theorem append_nil (f : Forest L D) : f ++ nil = f := by
  induction f with
  | nil => rfl
  | call d rest ih => simp [ih]
  | scope id label body rest _ ih => simp [ih]

theorem append_assoc (f g h : Forest L D) : f ++ g ++ h = f ++ (g ++ h) := by
  induction f with
  | nil => rfl
  | call d rest ih => simp [ih]
  | scope id label body rest _ ih => simp [ih]

@[simp] theorem entries_append (f g : Forest L D) : (f ++ g).entries = f.entries ++ g.entries := by
  induction f with
  | nil => rfl
  | call d rest ih => simp [entries, ih]
  | scope id label body rest _ ih => simp [entries, ih]

@[simp] theorem size_append (f g : Forest L D) : (f ++ g).size = f.size + g.size := by
  induction f with
  | nil => simp [size]
  | call d rest ih => simp [size, ih]
  | scope id label body rest _ ih =>
    simp only [scope_append, size, ih]
    omega

@[simp] theorem size_calls (ds : List D) : (calls ds : Forest L D).size = 0 := by
  induction ds with
  | nil => rfl
  | cons d ds ih => exact ih

/-! ### One log, one forest -/

/-- At this point a forest is over: nothing follows, or the end of the scope around it. -/
def Over : List (Entry L D) → Prop
  | [] => True
  | .closed _ :: _ => True
  | _ => False

private theorem entries_append_inj {f g : Forest L D} {x y : List (Entry L D)} (hx : Over x) (hy : Over y)
    (h : f.entries ++ x = g.entries ++ y) : f = g ∧ x = y := by
  induction f generalizing g x y with
  | nil =>
    cases g with
    | nil => exact ⟨rfl, h⟩
    | call d rest =>
      have hxy : x = .call d :: (rest.entries ++ y) := h
      rw [hxy] at hx
      exact hx.elim
    | scope id label body rest =>
      have hxy : x = .opened id label :: (body.entries ++ .closed id :: rest.entries ++ y) := h
      rw [hxy] at hx
      exact hx.elim
  | call d rest ih =>
    cases g with
    | nil =>
      have hxy : .call d :: (rest.entries ++ x) = y := h
      rw [← hxy] at hy
      exact hy.elim
    | call d' rest' =>
      simp only [entries, List.cons_append, List.cons.injEq, Entry.call.injEq] at h
      obtain ⟨hrest, hxy⟩ := ih hx hy h.2
      exact ⟨by rw [h.1, hrest], hxy⟩
    | scope id label body rest' => simp [entries] at h
  | scope id label body rest ihb ihr =>
    cases g with
    | nil =>
      have hxy : .opened id label :: (body.entries ++ .closed id :: rest.entries ++ x) = y := h
      rw [← hxy] at hy
      exact hy.elim
    | call d' rest' => simp [entries] at h
    | scope id' label' body' rest' =>
      simp only [entries, List.cons_append, List.append_assoc, List.cons.injEq, Entry.opened.injEq] at h
      -- the bodies are over at the ends of their scopes
      obtain ⟨hbody, hends⟩ := ihb (g := body') (x := .closed id :: (rest.entries ++ x))
        (y := .closed id' :: (rest'.entries ++ y)) trivial trivial h.2
      simp only [List.cons.injEq] at hends
      obtain ⟨hrest, hxy⟩ := ihr hx hy hends.2
      exact ⟨by rw [h.1.1, h.1.2, hbody, hrest], hxy⟩

theorem entries_injective {f g : Forest L D} (h : f.entries = g.entries) : f = g :=
  (entries_append_inj (x := []) (y := []) trivial trivial (by rw [h])).1

private theorem exists_of_balanced {m n : Nat} {l : List (Entry L D)} (h : Balanced m n l) :
    ∃ f : Forest L D, l = f.entries := by
  induction h with
  | nil _ => exact ⟨nil, rfl⟩
  | call c _ ih =>
    obtain ⟨f, rfl⟩ := ih
    exact ⟨call c f, rfl⟩
  | @scope m k n inner rest label _ _ ihi ihr =>
    obtain ⟨body, rfl⟩ := ihi
    obtain ⟨f, rfl⟩ := ihr
    exact ⟨scope m label body f, rfl⟩

end Forest

/-- What a program adds to the log are the entries of exactly one forest. -/
theorem run_forest (emb : C → D) {α : Type} (p : Prog L C E S α) (w : World L D S) :
    ∃ f : Forest L D, (p.run emb w).2.log = w.log ++ f.entries ∧
      ∀ g : Forest L D, (p.run emb w).2.log = w.log ++ g.entries → g = f := by
  obtain ⟨l, hl, hb⟩ := run_balanced emb p w
  obtain ⟨f, rfl⟩ := Forest.exists_of_balanced hb
  refine ⟨f, hl, ?_⟩
  intro g hg
  rw [hl, List.append_cancel_left_eq] at hg
  exact (Forest.entries_injective hg).symm

/-! ### The forest of a program -/

/-- In every world the program returns `a`, adds the forest that starts with the next free number, and changes the
state by `g`. -/
def Prog.Grows {α : Type} (p : Prog L C E S α) (emb : C → D) (a : α) (f : Nat → Forest L D) (g : S → S) : Prop :=
  ∀ w : World L D S,
    p.run emb w = (.ok a, ⟨w.log ++ (f w.next).entries, w.next + (f w.next).size, g w.state⟩)

namespace Prog.Grows

variable {emb : C → D} {α β : Type}

theorem pure (a : α) : (Pure.pure a : Prog L C E S α).Grows emb a (fun _ => .nil) id := by
  intro w
  simp [Forest.entries, Forest.size]

theorem call (c : C) : (Prog.call c : Prog L C E S Unit).Grows emb () (fun _ => .call (emb c) .nil) id := by
  intro w
  simp [World.emit, Forest.entries, Forest.size]

theorem modify (g : S → S) : (Prog.modify g : Prog L C E S Unit).Grows emb () (fun _ => .nil) g := by
  intro w
  simp [Forest.entries, Forest.size]

theorem bind {p : Prog L C E S β} {k : β → Prog L C E S α} {b : β} {a : α} {f f' : Nat → Forest L D} {g g' : S → S}
    (hp : p.Grows emb b f g) (hk : (k b).Grows emb a f' g') :
    (p >>= k).Grows emb a (fun n => f n ++ f' (n + (f n).size)) (g' ∘ g) := by
  intro w
  rw [run_bind, hp w, andThen_ok, hk]
  simp [List.append_assoc, Nat.add_assoc]

theorem scope {label : L} {body : Nat → Prog L C E S α} {a : α} {f : Nat → Nat → Forest L D} {g : S → S}
    (h : ∀ id, (body id).Grows emb a (f id) g) :
    (Prog.scope label body).Grows emb a (fun n => .scope n label (f n (n + 1)) .nil) g := by
  intro w
  rw [run_scope, h]
  simp [World.emit, Forest.entries, Forest.size, Nat.add_assoc]

theorem tryCatch {p : Prog L C E S α} {handler : E → Prog L C E S α} {a : α} {f : Nat → Forest L D} {g : S → S}
    (h : p.Grows emb a f g) : (Prog.tryCatch p handler).Grows emb a f g := by
  intro w
  rw [run_tryCatch, h, orCatch_ok]

theorem tryCatch_throw {e : E} {handler : E → Prog L C E S α} {a : α} {f : Nat → Forest L D} {g : S → S}
    (h : (handler e).Grows emb a f g) : (Prog.tryCatch (Prog.throw e) handler).Grows emb a f g := by
  intro w
  rw [run_tryCatch, run_throw, orCatch_error, h]

theorem attempt {p : Prog L C E S α} {a : α} {f : Nat → Forest L D} {g : S → S} (h : p.Grows emb a f g) :
    p.attempt.Grows emb (.ok a) f g := by
  intro w
  rw [Prog.attempt, run_tryCatch, run_bind, h, andThen_ok, run_pure, orCatch_ok]

/-- The same program with its forest and its state written in another way. -/
theorem congr {p : Prog L C E S α} {a : α} {f f' : Nat → Forest L D} {g g' : S → S} (h : p.Grows emb a f g)
    (hf : ∀ n, f n = f' n) (hg : ∀ s, g s = g' s) : p.Grows emb a f' g' := by
  intro w
  rw [h w, hf, hg]

/-- A call before a program without other calls than the given ones. -/
theorem call_bind {c : C} {p : Prog L C E S α} {a : α} {f : Nat → Forest L D} {g : S → S} (h : p.Grows emb a f g) :
    (Prog.call c >>= fun _ => p).Grows emb a (fun n => .call (emb c) (f n)) g :=
  (bind (call c) h).congr (fun n => by simp [Forest.size]) fun _ => rfl

end Prog.Grows

end Scoped
