import Mathlib.Data.List.Basic
import Mathlib.Logic.Relation

/-!
# Traces that spread over a network

A tracer gives every span a trace and a parent.  The sender of a message writes the trace and the number of its own
span as key/value pairs into a carrier, and the receiver looks them up in what is delivered of it.  A channel carries
a set of pairs if every one of them is found again and nothing is found under the other keys of the tracer
(`Channel.Carries`).

Messages may be delivered late, in any order, many times or never.  If all channels carry what the tracer writes, the
recorded parents are the spans that really sent the messages, and two spans have the same trace exactly when they go
back to the same first span (`faithful_of_reachable`).
-/

namespace Propagation

variable {K V F T ι : Type}

/-- A way to send key/value pairs: what the sender starts from and how it sets a pair, what may be delivered of the
result, and how the receiver looks up a key.  A lookup may fault. -/
structure Channel (K V F : Type) where
  Sent : Type
  Received : Type
  initial : Sent
  set : Sent → K → V → Sent
  Delivers : Sent → Received → Prop
  get : Received → K → Except F (Option V)

namespace Channel

variable (c : Channel K V F)

/-- What the sender sends when it sets these pairs. -/
def sent (kvs : List (K × V)) : c.Sent := kvs.foldl (fun s kv => c.set s kv.1 kv.2) c.initial

/-- Whatever is delivered, the pairs are found, and nothing under the other keys. -/
def Carries (keys : List K) (kvs : List (K × V)) : Prop :=
  ∀ r, c.Delivers (c.sent kvs) r →
    (∀ kv ∈ kvs, c.get r kv.1 = .ok (some kv.2)) ∧
    ∀ k ∈ keys, (∀ kv ∈ kvs, kv.1 ≠ k) → c.get r k = .ok none

end Channel

/-- A tracer: the keys it looks up, the pairs it writes for a trace and a span, and what it reads from the values that
were found. -/
structure Tracer (K V T : Type) where
  keys : List K
  inject : T → Nat → List (K × V)
  extract : (K → Option V) → Option (T × Nat)
  key_mem : ∀ trace span, ∀ kv ∈ inject trace span, kv.1 ∈ keys
  extract_inject : ∀ trace span found, (∀ kv ∈ inject trace span, found kv.1 = some kv.2) →
    (∀ k ∈ keys, (∀ kv ∈ inject trace span, kv.1 ≠ k) → found k = none) → extract found = some (trace, span)
  extract_none : ∀ found, (∀ k ∈ keys, found k = none) → extract found = none

namespace Tracer

variable (tracer : Tracer K V T)

/-- The fault of a lookup, if it faults. -/
def fault? {α : Type} : Except F α → Option F
  | .error f => some f
  | .ok _ => none

def found (get : K → Except F (Option V)) (k : K) : Option V :=
  match get k with
  | .ok v => v
  | .error _ => none

/-- Reads a context through a reader; it faults where a lookup does. -/
def read (get : K → Except F (Option V)) : Except F (Option (T × Nat)) :=
  match tracer.keys.findSome? fun k => fault? (get k) with
  | some f => .error f
  | none => .ok (tracer.extract (found get))

variable {tracer} {get : K → Except F (Option V)}

private theorem found_of_ok {k : K} {v : Option V} (h : get k = .ok v) : found get k = v := by
  rw [found, h]

private theorem read_of_ok (h : ∀ k ∈ tracer.keys, ∃ v, get k = .ok v) :
    tracer.read get = .ok (tracer.extract (found get)) := by
  have hnone : (tracer.keys.findSome? fun k => fault? (get k)) = none := by
    rw [List.findSome?_eq_none_iff]
    intro k hk
    obtain ⟨v, hv⟩ := h k hk
    rw [hv]
    rfl
  rw [read, hnone]

/-- Without any of the keys there is no context. -/
theorem read_of_none (h : ∀ k ∈ tracer.keys, get k = .ok none) : tracer.read get = .ok none := by
  rw [read_of_ok fun k hk => ⟨none, h k hk⟩, tracer.extract_none _ fun k hk => found_of_ok (h k hk)]

/-- What a channel carries is read. -/
theorem read_of_carries {c : Channel K V F} {trace : T} {span : Nat} {r : c.Received}
    (hc : c.Carries tracer.keys (tracer.inject trace span)) (hr : c.Delivers (c.sent (tracer.inject trace span)) r) :
    tracer.read (c.get r) = .ok (some (trace, span)) := by
  obtain ⟨hset, hother⟩ := hc r hr
  have hok : ∀ k ∈ tracer.keys, ∃ v, c.get r k = .ok v := by
    intro k hk
    by_cases hex : ∃ kv ∈ tracer.inject trace span, kv.1 = k
    · obtain ⟨kv, hkv, rfl⟩ := hex
      exact ⟨_, hset kv hkv⟩
    · push Not at hex
      exact ⟨_, hother k hk hex⟩
  rw [read_of_ok hok]
  exact congrArg _ (tracer.extract_inject trace span _ (fun kv hkv => found_of_ok (hset kv hkv))
    fun k hk hne => found_of_ok (hother k hk hne))

end Tracer

/-! ### Networks -/

/-- A span, with the trace and the parent that the tracer records, and the span that really caused it. -/
structure Span (T : Type) where
  trace : T
  parent : Option Nat
  cause : Option Nat

/-- A message, sent from a span over one of the channels. -/
structure Message (channel : ι → Channel K V F) where
  sender : Nat
  via : ι
  sent : (channel via).Sent

/-- The spans in the order of their creation, all messages ever sent, and how often a reader faulted. -/
structure Network (T : Type) (channel : ι → Channel K V F) where
  spans : List (Span T)
  messages : List (Message channel)
  faults : Nat

section network

variable {channel : ι → Channel K V F}

def Network.empty : Network T channel := ⟨[], [], 0⟩

/-- A new span for what the reader finds; without a context it starts a trace of its own. -/
def Network.accept (tracer : Tracer K V T) (n : Network T channel) (get : K → Except F (Option V)) (fresh : T)
    (cause : Option Nat) : Network T channel :=
  match tracer.read get with
  | .error _ => { n with faults := n.faults + 1 }
  | .ok none => { n with spans := n.spans ++ [⟨fresh, none, cause⟩] }
  | .ok (some (trace, parent)) => { n with spans := n.spans ++ [⟨trace, some parent, cause⟩] }

def Network.send (tracer : Tracer K V T) (n : Network T channel) (sender : Nat) (s : Span T) (via : ι) :
    Network T channel :=
  { n with messages := n.messages ++ [⟨sender, via, (channel via).sent (tracer.inject s.trace sender)⟩] }

/-- A step: a request from outside without any of the keys, a message that a span sends, or a message that is
delivered, which it may be at any time after it was sent and as often as it likes. -/
inductive Step (tracer : Tracer K V T) : Network T channel → Network T channel → Prop
  | start (n : Network T channel) (get : K → Except F (Option V)) (fresh : T)
      (hget : ∀ k ∈ tracer.keys, get k = .ok none) (hfresh : ∀ s ∈ n.spans, s.trace ≠ fresh) :
      Step tracer n (n.accept tracer get fresh none)
  | send (n : Network T channel) (i : Nat) (s : Span T) (via : ι) (hs : n.spans[i]? = some s) :
      Step tracer n (n.send tracer i s via)
  | receive (n : Network T channel) (m : Message channel) (r : (channel m.via).Received) (fresh : T)
      (hm : m ∈ n.messages) (hr : (channel m.via).Delivers m.sent r) (hfresh : ∀ s ∈ n.spans, s.trace ≠ fresh) :
      Step tracer n (n.accept tracer ((channel m.via).get r) fresh (some m.sender))

def Reachable (tracer : Tracer K V T) (n : Network T channel) : Prop :=
  Relation.ReflTransGen (Step tracer) .empty n

/-- `Origin n i o`: going back from the span `i` from cause to cause one comes to the span `o`, which has none. -/
inductive Origin (n : Network T channel) : Nat → Nat → Prop
  | root {i : Nat} {s : Span T} (hs : n.spans[i]? = some s) (hc : s.cause = none) : Origin n i i
  | caused {i j o : Nat} {s : Span T} (hs : n.spans[i]? = some s) (hc : s.cause = some j) (ho : Origin n j o) :
      Origin n i o

/-- What is recorded is what happened: no reader faulted, the recorded parents are the causes, and the traces are the
sets of spans with the same origin. -/
structure Faithful (n : Network T channel) : Prop where
  noFault : n.faults = 0
  parent : ∀ s ∈ n.spans, s.parent = s.cause
  hasOrigin : ∀ i < n.spans.length, ∃ o, Origin n i o
  trace : ∀ i j s t o o', n.spans[i]? = some s → n.spans[j]? = some t → Origin n i o → Origin n j o' →
    (s.trace = t.trace ↔ o = o')

/-! ### What every step keeps -/

structure Inv (tracer : Tracer K V T) (n : Network T channel) : Prop where
  noFault : n.faults = 0
  parent : ∀ s ∈ n.spans, s.parent = s.cause
  sent : ∀ m ∈ n.messages, ∃ s, n.spans[m.sender]? = some s ∧
    m.sent = (channel m.via).sent (tracer.inject s.trace m.sender)
  caused : ∀ (i j : Nat) s, n.spans[i]? = some s → s.cause = some j →
    j < i ∧ ∃ t, n.spans[j]? = some t ∧ s.trace = t.trace
  roots : ∀ (i j : Nat) s t, n.spans[i]? = some s → n.spans[j]? = some t → s.cause = none → t.cause = none →
    s.trace = t.trace → i = j

theorem getElem?_snoc {α : Type} {l : List α} {x y : α} {i : Nat} :
    (l ++ [x])[i]? = some y ↔ l[i]? = some y ∨ i = l.length ∧ x = y := by
  rcases Nat.lt_trichotomy i l.length with h | h | h
  · rw [List.getElem?_append_left h]
    simp [Nat.ne_of_lt h]
  · rw [h, List.getElem?_concat_length]
    simp
  · have hnot : ¬ i < l.length := Nat.not_lt.2 (Nat.le_of_lt h)
    have hlen : (l ++ [x]).length ≤ i := by
      rw [List.length_append, List.length_singleton]
      exact h
    rw [List.getElem?_eq_none hlen, List.getElem?_eq_none (Nat.not_lt.1 hnot)]
    simp [Nat.ne_of_gt h]

variable {tracer : Tracer K V T} {n : Network T channel}

private theorem inv_empty : Inv tracer (.empty : Network T channel) where
  noFault := rfl
  parent _ h := by cases h
  sent _ h := by cases h
  caused i j s h := by cases h
  roots i j s t h := by cases h

/-- A new span whose trace no span has yet. -/
theorem Inv.addRoot (h : Inv tracer n) {fresh : T} (hfresh : ∀ s ∈ n.spans, s.trace ≠ fresh) :
    Inv tracer { n with spans := n.spans ++ [⟨fresh, none, none⟩] } where
  noFault := h.noFault
  parent s hs := by
    rcases List.mem_append.1 hs with hs | hs
    · exact h.parent s hs
    · obtain rfl := List.mem_singleton.1 hs
      rfl
  sent m hm := by
    obtain ⟨s, hs, hsent⟩ := h.sent m hm
    exact ⟨s, getElem?_snoc.2 (.inl hs), hsent⟩
  caused i j s hs hc := by
    rcases getElem?_snoc.1 hs with hs | ⟨-, rfl⟩
    · obtain ⟨hlt, t, ht, htrace⟩ := h.caused i j s hs hc
      exact ⟨hlt, t, getElem?_snoc.2 (.inl ht), htrace⟩
    · cases hc
  roots i j s t hs ht hcs hct htrace := by
    rcases getElem?_snoc.1 hs with hs | ⟨hi, hs⟩ <;> rcases getElem?_snoc.1 ht with ht | ⟨hj, ht⟩
    · exact h.roots i j s t hs ht hcs hct htrace
    · subst ht
      exact absurd htrace (hfresh s (List.mem_of_getElem? hs))
    · subst hs
      exact absurd htrace.symm (hfresh t (List.mem_of_getElem? ht))
    · rw [hi, hj]

/-- A new span with the trace of the span that caused it. -/
theorem Inv.addCaused (h : Inv tracer n) {j : Nat} {t : Span T} (ht : n.spans[j]? = some t) :
    Inv tracer { n with spans := n.spans ++ [⟨t.trace, some j, some j⟩] } where
  noFault := h.noFault
  parent s hs := by
    rcases List.mem_append.1 hs with hs | hs
    · exact h.parent s hs
    · obtain rfl := List.mem_singleton.1 hs
      rfl
  sent m hm := by
    obtain ⟨s, hs, hsent⟩ := h.sent m hm
    exact ⟨s, getElem?_snoc.2 (.inl hs), hsent⟩
  caused i j' s hs hc := by
    rcases getElem?_snoc.1 hs with hs | ⟨rfl, rfl⟩
    · obtain ⟨hlt, t, ht, htrace⟩ := h.caused i j' s hs hc
      exact ⟨hlt, t, getElem?_snoc.2 (.inl ht), htrace⟩
    · obtain rfl := Option.some.inj hc
      obtain ⟨hlt, -⟩ := List.getElem?_eq_some_iff.1 ht
      exact ⟨hlt, t, getElem?_snoc.2 (.inl ht), rfl⟩
  roots i j' s t' hs ht' hcs hct htrace := by
    rcases getElem?_snoc.1 hs with hs | ⟨-, rfl⟩
    · rcases getElem?_snoc.1 ht' with ht' | ⟨-, rfl⟩
      · exact h.roots i j' s t' hs ht' hcs hct htrace
      · cases hct
    · cases hcs

theorem Inv.send (h : Inv tracer n) {i : Nat} {s : Span T} (hs : n.spans[i]? = some s) (via : ι) :
    Inv tracer (n.send tracer i s via) where
  noFault := h.noFault
  parent := h.parent
  sent m hm := by
    rcases List.mem_append.1 hm with hm | hm
    · exact h.sent m hm
    · obtain rfl := List.mem_singleton.1 hm
      exact ⟨s, hs, rfl⟩
  caused := h.caused
  roots := h.roots

/-- Every step keeps the invariant, if the channels carry what the tracer writes. -/
theorem Inv.step (hcarries : ∀ via trace span, (channel via).Carries tracer.keys (tracer.inject trace span))
    {n' : Network T channel} (h : Inv tracer n) (hstep : Step tracer n n') : Inv tracer n' := by
  cases hstep with
  | start get fresh hget hfresh =>
    rw [Network.accept, Tracer.read_of_none hget]
    exact h.addRoot hfresh
  | send i s via hs => exact h.send hs via
  | receive m r fresh hm hr hfresh =>
    obtain ⟨s, hs, hsent⟩ := h.sent m hm
    rw [hsent] at hr
    rw [Network.accept, Tracer.read_of_carries (hcarries m.via s.trace m.sender) hr]
    exact h.addCaused hs

private theorem inv_of_reachable
    (hcarries : ∀ via trace span, (channel via).Carries tracer.keys (tracer.inject trace span))
    (h : Reachable tracer n) : Inv tracer n := by
  induction h with
  | refl => exact inv_empty
  | tail _ hstep ih => exact ih.step hcarries hstep

/-! ### Origins -/

/-- A span has the trace of its origin. -/
theorem Inv.trace_of_origin (h : Inv tracer n) {i o : Nat} (ho : Origin n i o) :
    ∃ s root, n.spans[i]? = some s ∧ n.spans[o]? = some root ∧ root.cause = none ∧ s.trace = root.trace := by
  induction ho with
  | root hs hc => exact ⟨_, _, hs, hs, hc, rfl⟩
  | @caused i j o s hs hc ho ih =>
    obtain ⟨t, root, ht, hroot, hrc, htrace⟩ := ih
    obtain ⟨-, t', ht', htrace'⟩ := h.caused i j s hs hc
    rw [ht, Option.some.injEq] at ht'
    exact ⟨s, root, hs, hroot, hrc, by rw [htrace', ← ht', htrace]⟩

private theorem Inv.exists_origin (h : Inv tracer n) {i : Nat} (hi : i < n.spans.length) : ∃ o, Origin n i o := by
  induction i using Nat.strongRecOn with
  | ind i ih =>
    have hs := List.getElem?_eq_getElem hi
    rcases hc : n.spans[i].cause with _ | j
    · exact ⟨i, .root hs hc⟩
    · obtain ⟨hlt, -⟩ := h.caused i j _ hs hc
      obtain ⟨o, ho⟩ := ih j hlt (Nat.lt_trans hlt hi)
      exact ⟨o, .caused hs hc ho⟩

private theorem Inv.faithful (h : Inv tracer n) : Faithful n where
  noFault := h.noFault
  parent := h.parent
  hasOrigin _ hi := h.exists_origin hi
  trace i j s t o o' hs ht ho ho' := by
    obtain ⟨s', root, hs', hroot, hc, htrace⟩ := h.trace_of_origin ho
    obtain ⟨t', root', ht', hroot', hc', htrace'⟩ := h.trace_of_origin ho'
    obtain rfl := Option.some.inj (hs.symm.trans hs')
    obtain rfl := Option.some.inj (ht.symm.trans ht')
    rw [htrace, htrace']
    constructor
    · exact h.roots o o' root root' hroot hroot' hc hc'
    · rintro rfl
      obtain rfl := Option.some.inj (hroot.symm.trans hroot')
      rfl

/-- In every network whose channels carry what the tracer writes, what is recorded is what happened. -/
theorem faithful_of_reachable
    (hcarries : ∀ via trace span, (channel via).Carries tracer.keys (tracer.inject trace span))
    (h : Reachable tracer n) : Faithful n :=
  (inv_of_reachable hcarries h).faithful

end network

end Propagation
