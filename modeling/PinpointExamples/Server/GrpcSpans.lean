import Mathlib
import PinpointExamples.Server.GrpcInterceptor

/-!
# The spans of the gRPC server

What every run of the interceptors keeps.  `SpanInv` is about the spans of the RPCs and the history of the calls on
them; `Inv` adds the threads: the current span of a thread is the `span_` of the RPC that the thread works for.
From it follow the properties of the history of any run (`grpc_server_spans`).
-/

namespace PinpointExamples.GrpcServer

open History Transition

/-- The interceptor of `r` created the span `x`. -/
def Created (l : List ServerEvent) (r : RpcId) (x : SpanId) : Prop :=
  ∃ operation rpcPoint reader, .newSpan r x operation rpcPoint reader ∈ l

/-- An error was set on the span `x`. -/
def Failed (l : List ServerEvent) (x : SpanId) : Prop := ∃ name message, .setError x name message ∈ l

/-- What must have been the case when an event was recorded: a method gets the span created for its RPC, or null if
there is none; an RPC gets one span, and a span belongs to one RPC; nothing is done to a span that was ended. -/
def Proper (before : List ServerEvent) : ServerEvent → Prop
  | .getCurrentSpan r span => ∀ x, span = some x ↔ Created before r x
  | .newSpan r x _ _ _ => (∀ y, ¬ Created before r y) ∧ ∀ r', ¬ Created before r' x
  | .setError x _ _ => .endSpan x ∉ before
  | .endSpan x => .endSpan x ∉ before
  | _ => True

/-- The span of an RPC whose status was sent was ended once, and has an error if and only if the status is one. -/
def ClosedBy (l : List ServerEvent) (r : RpcId) (status : Status) : Prop :=
  ∀ x, Created l r x → l.count (.endSpan x) = 1 ∧ (Failed l x ↔ status.ok = false)

/-! ### The history of the spans -/

/-- The spans of the RPCs, the history and the statuses that were sent fit together. -/
structure SpanInv (s : Server) (sent : RpcId → Option Status) : Prop where
  proper : AtEach Proper s.log
  active : ∀ r x, s.span r = some x → Created s.log r x ∧ s.log.count (.endSpan x) = 0 ∧ ¬ Failed s.log x
  created : ∀ r x, Created s.log r x → x < s.nextSpan ∧ (s.span r = some x ∨ sent r ≠ none)
  finished : ∀ r status, sent r = some status → s.span r = none ∧ ClosedBy s.log r status
  fresh : ∀ x, s.nextSpan ≤ x → s.log.count (.endSpan x) = 0 ∧ ¬ Failed s.log x
  inj : ∀ r r' x, Created s.log r x → Created s.log r' x → r = r'

/-- The events that change what is known of the spans. -/
def ServerEvent.Tracked : ServerEvent → Prop
  | .newSpan .. | .setError .. | .endSpan _ => True
  | _ => False

private theorem spanInv_init : SpanInv Server.init fun _ => none where
  proper := atEach_nil
  active r x h := by cases h
  created r x h := by simp [Created, Server.init] at h
  finished r status h := by cases h
  fresh x _ := ⟨rfl, by simp [Failed, Server.init]⟩
  inj r r' x h := by simp [Created, Server.init] at h

section spans

variable {s : Server} {sent : RpcId → Option Status}

/-- A change of a thread-local does not touch the spans. -/
theorem SpanInv.setCurrentSpan (h : SpanInv s sent) (t : ThreadId) (span : SpanPtr) :
    SpanInv (s.setCurrentSpan t span) sent := ⟨h.proper, h.active, h.created, h.finished, h.fresh, h.inj⟩

theorem SpanInv.record (h : SpanInv s sent) {e : ServerEvent} (he : ¬ e.Tracked) (hp : Proper s.log e) :
    SpanInv (s.record e) sent := by
  have hcreated : ∀ r x, Created (s.log ++ [e]) r x ↔ Created s.log r x := by
    intro r x
    cases e <;> simp_all [Created, ServerEvent.Tracked]
  have hfailed : ∀ x, Failed (s.log ++ [e]) x ↔ Failed s.log x := by
    intro x
    cases e <;> simp_all [Failed, ServerEvent.Tracked]
  have hcount : ∀ x, (s.log ++ [e]).count (.endSpan x) = s.log.count (.endSpan x) := by
    intro x
    cases e <;> simp_all [List.count_append, ServerEvent.Tracked]
  constructor
  · exact atEach_snoc.2 ⟨h.proper, hp⟩
  · intro r x hx
    show Created (s.log ++ [e]) r x ∧ (s.log ++ [e]).count (.endSpan x) = 0 ∧ ¬ Failed (s.log ++ [e]) x
    rw [hcreated, hcount, hfailed]
    exact h.active r x hx
  · intro r x hx
    exact h.created r x ((hcreated r x).1 hx)
  · intro r status hs
    obtain ⟨hspan, hclosed⟩ := h.finished r status hs
    refine ⟨hspan, fun x hx => ?_⟩
    show (s.log ++ [e]).count (.endSpan x) = 1 ∧ (Failed (s.log ++ [e]) x ↔ _)
    rw [hcount, hfailed]
    exact hclosed x ((hcreated r x).1 hx)
  · intro x hx
    show (s.log ++ [e]).count (.endSpan x) = 0 ∧ ¬ Failed (s.log ++ [e]) x
    rw [hcount, hfailed]
    exact h.fresh x hx
  · intro r r' x hx hx'
    exact h.inj r r' x ((hcreated r x).1 hx) ((hcreated r' x).1 hx')

/-- An RPC without a span, whose status was not sent, gets one. -/
theorem SpanInv.newSpan (h : SpanInv s sent) (info : ServerRpcInfo) {r : RpcId} (hr : s.span r = none)
    (hopen : sent r = none) : SpanInv (s.newSpan info r) sent := by
  have hcreated : ∀ r' x, Created (s.newSpan info r).log r' x ↔ Created s.log r' x ∨ r' = r ∧ x = s.nextSpan := by
    intro r' x
    simp [Created, Server.newSpan, exists_or]
  have hfailed : ∀ x, Failed (s.newSpan info r).log x ↔ Failed s.log x := by simp [Failed, Server.newSpan]
  have hcount : ∀ x, (s.newSpan info r).log.count (.endSpan x) = s.log.count (.endSpan x) := by
    simp [Server.newSpan, List.count_append]
  have hspan : ∀ r', r' ≠ r → (s.newSpan info r).span r' = s.span r' := by
    intro r' hne
    simp [Server.newSpan, hne]
  have hself : (s.newSpan info r).span r = some s.nextSpan := by simp [Server.newSpan]
  -- without a current span, and before its status, an RPC never had one
  have hnone : ∀ x, ¬ Created s.log r x := by
    intro x hx
    rcases (h.created r x hx).2 with hx | hs
    · rw [hr] at hx
      cases hx
    · exact hs hopen
  -- the number is new
  have hnew : ∀ r', ¬ Created s.log r' s.nextSpan := by
    intro r' hx
    exact Nat.lt_irrefl _ (h.created r' _ hx).1
  constructor
  · exact atEach_snoc.2 ⟨h.proper, hnone, hnew⟩
  · intro r' x hx
    rw [hcreated, hcount, hfailed]
    by_cases hne : r' = r
    · rw [hne, hself, Option.some.injEq] at hx
      subst hx
      exact ⟨.inr ⟨hne, rfl⟩, h.fresh _ (Nat.le_refl _)⟩
    · rw [hspan r' hne] at hx
      obtain ⟨hc, hrest⟩ := h.active r' x hx
      exact ⟨.inl hc, hrest⟩
  · intro r' x hx
    rcases (hcreated r' x).1 hx with hx | ⟨rfl, rfl⟩
    · obtain ⟨hlt, hor⟩ := h.created r' x hx
      have hne : r' ≠ r := fun he => hnone x (he ▸ hx)
      rw [hspan r' hne]
      exact ⟨Nat.lt_succ_of_lt hlt, hor⟩
    · exact ⟨Nat.lt_succ_self _, .inl hself⟩
  · intro r' status hs
    have hne : r' ≠ r := by
      rintro rfl
      rw [hopen] at hs
      cases hs
    obtain ⟨hsp, hclosed⟩ := h.finished r' status hs
    refine ⟨(hspan r' hne).trans hsp, fun x hx => ?_⟩
    rw [hcount, hfailed]
    rcases (hcreated r' x).1 hx with hx | ⟨he, -⟩
    · exact hclosed x hx
    · exact absurd he hne
  · intro x hx
    rw [hcount, hfailed]
    exact h.fresh x (Nat.le_of_succ_le hx)
  · intro r₁ r₂ x h₁ h₂
    rcases (hcreated r₁ x).1 h₁ with hc₁ | ⟨hr₁, hx₁⟩ <;> rcases (hcreated r₂ x).1 h₂ with hc₂ | ⟨hr₂, hx₂⟩
    · exact h.inj r₁ r₂ x hc₁ hc₂
    · exact absurd (hx₂ ▸ hc₁) (hnew r₁)
    · exact absurd (hx₁ ▸ hc₂) (hnew r₂)
    · exact hr₁.trans hr₂.symm

/-- The calls on the span of an RPC when a status is sent. -/
def closing (span : SpanPtr) (status : Status) : List ServerEvent :=
  match span with
  | none => []
  | some x => (if status.ok then [] else [.setError x "grpc error" status.message]) ++ [.endSpan x]

private theorem mem_closing {span : SpanPtr} {status : Status} {e : ServerEvent} :
    e ∈ closing span status ↔
      ∃ x, span = some x ∧ (status.ok = false ∧ e = .setError x "grpc error" status.message ∨ e = .endSpan x) := by
  cases span with
  | none => simp [closing]
  | some x => cases hok : status.ok <;> simp [closing, hok]

private theorem count_closing {span : SpanPtr} {status : Status} {y : SpanId} :
    (closing span status).count (.endSpan y) = if span = some y then 1 else 0 := by
  cases span with
  | none => rfl
  | some x => cases hok : status.ok <;> simp [closing, hok, List.count_singleton]

private theorem onPreSendStatus_eq (s : Server) (t : ThreadId) (r : RpcId) (status : Status) :
    s.onPreSendStatus t r status =
      Server.clearCurrentSpan { s with
        span := Function.update s.span r none
        log := s.log ++ closing (s.span r) status } t := by
  cases hr : s.span r with
  | none =>
    have hu : Function.update s.span r none = s.span := Function.update_eq_self_iff.2 hr.symm
    simp [Server.onPreSendStatus, closing, hr, hu]
  | some x => cases hok : status.ok <;> simp [Server.onPreSendStatus, Server.record, closing, hr, hok]

/-- The span of an RPC was not ended before, so it may be given an error and be ended. -/
theorem SpanInv.proper_closing (h : SpanInv s sent) {r : RpcId} (status : Status) :
    AtEach Proper (s.log ++ closing (s.span r) status) := by
  cases hr : s.span r with
  | none =>
    rw [closing, List.append_nil]
    exact h.proper
  | some x =>
    have hnot : .endSpan x ∉ s.log := List.count_eq_zero.1 (h.active r x hr).2.1
    cases hok : status.ok with
    | true =>
      have hlast : Proper s.log (.endSpan x) := hnot
      simpa [closing, hok] using atEach_snoc.2 ⟨h.proper, hlast⟩
    | false =>
      have hfirst : Proper s.log (.setError x "grpc error" status.message) := hnot
      have herror : AtEach Proper (s.log ++ [.setError x "grpc error" status.message]) :=
        atEach_snoc.2 ⟨h.proper, hfirst⟩
      have hlast : Proper (s.log ++ [.setError x "grpc error" status.message]) (.endSpan x) := by
        simp [Proper, hnot]
      simpa [closing, hok] using atEach_snoc.2 ⟨herror, hlast⟩

/-- The interceptor of an RPC whose status was not sent yet sends it. -/
theorem SpanInv.onPreSendStatus (h : SpanInv s sent) (t : ThreadId) {r : RpcId} (status : Status)
    (hopen : sent r = none) :
    SpanInv (s.onPreSendStatus t r status) (Function.update sent r (some status)) := by
  rw [onPreSendStatus_eq]
  refine SpanInv.setCurrentSpan ?_ t none
  have hmem : ∀ e, e ∈ s.log ++ closing (s.span r) status ↔ e ∈ s.log ∨ e ∈ closing (s.span r) status := by simp
  have hcount : ∀ y, (s.log ++ closing (s.span r) status).count (.endSpan y) =
      s.log.count (.endSpan y) + if s.span r = some y then 1 else 0 := by
    intro y
    rw [List.count_append, count_closing]
  have hproper := h.proper_closing status (r := r)
  generalize s.log ++ closing (s.span r) status = l at hmem hcount hproper ⊢
  have hcreated : ∀ r' y, Created l r' y ↔ Created s.log r' y := by
    intro r' y
    simp [Created, hmem, mem_closing]
  have hfailed : ∀ y, Failed l y ↔ Failed s.log y ∨ s.span r = some y ∧ status.ok = false := by
    intro y
    constructor
    · rintro ⟨name, message, he⟩
      rcases (hmem _).1 he with he | he
      · exact .inl ⟨name, message, he⟩
      · obtain ⟨x, hx, ⟨hok, he⟩ | he⟩ := mem_closing.1 he
        · rw [ServerEvent.setError.injEq] at he
          exact .inr ⟨he.1 ▸ hx, hok⟩
        · cases he
    · rintro (⟨name, message, he⟩ | ⟨hx, hok⟩)
      · exact ⟨name, message, (hmem _).2 (.inl he)⟩
      · exact ⟨_, _, (hmem _).2 (.inr (mem_closing.2 ⟨y, hx, .inl ⟨hok, rfl⟩⟩))⟩
  -- another RPC has another span, on which nothing is done
  have hother : ∀ r' y, r' ≠ r → Created s.log r' y → s.span r ≠ some y := by
    intro r' y hne hy hx
    exact hne (h.inj r' r y hy (h.active r y hx).1)
  have hsame : ∀ y, s.span r ≠ some y → l.count (.endSpan y) = s.log.count (.endSpan y) ∧
      (Failed l y ↔ Failed s.log y) := by
    intro y hy
    rw [hcount, hfailed, if_neg hy]
    simp [hy]
  constructor
  · exact hproper
  · intro r' y hy
    have hne : r' ≠ r := by
      rintro rfl
      simp at hy
    simp only [Function.update_of_ne hne] at hy
    obtain ⟨hc, hrest⟩ := h.active r' y hy
    obtain ⟨hcount', hfailed'⟩ := hsame y (hother r' y hne hc)
    refine ⟨(hcreated r' y).2 hc, ?_⟩
    show l.count (.endSpan y) = 0 ∧ ¬ Failed l y
    rw [hcount', hfailed']
    exact hrest
  · intro r' y hy
    obtain ⟨hlt, hor⟩ := h.created r' y ((hcreated r' y).1 hy)
    refine ⟨hlt, ?_⟩
    by_cases hne : r' = r
    · subst hne
      exact .inr (by simp)
    · simp only [Function.update_of_ne hne]
      exact hor
  · intro r' status' hs
    by_cases hne : r' = r
    · subst hne
      rw [Function.update_self, Option.some.injEq] at hs
      subst hs
      refine ⟨Function.update_self .., fun y hy => ?_⟩
      -- the span that was created for the RPC is the one that is closed
      have hx : s.span r' = some y := (h.created r' y ((hcreated r' y).1 hy)).2.resolve_right fun hs => hs hopen
      obtain ⟨-, h0, hnot⟩ := h.active r' y hx
      show l.count (.endSpan y) = 1 ∧ (Failed l y ↔ _)
      rw [hcount, hfailed, if_pos hx, h0]
      simp [hx, hnot]
    · rw [Function.update_of_ne hne] at hs
      obtain ⟨hspan, hclosed⟩ := h.finished r' status' hs
      refine ⟨(Function.update_of_ne hne _ _).trans hspan, fun y hy => ?_⟩
      have hy' := (hcreated r' y).1 hy
      obtain ⟨hcount', hfailed'⟩ := hsame y (hother r' y hne hy')
      show l.count (.endSpan y) = 1 ∧ (Failed l y ↔ _)
      rw [hcount', hfailed']
      exact hclosed y hy'
  · intro y hy
    have hx : s.span r ≠ some y := by
      intro hx
      exact absurd (h.created r y (h.active r y hx).1).1 (Nat.not_lt.2 hy)
    obtain ⟨hcount', hfailed'⟩ := hsame y hx
    show l.count (.endSpan y) = 0 ∧ ¬ Failed l y
    rw [hcount', hfailed']
    exact h.fresh y hy
  · intro r₁ r₂ y h₁ h₂
    exact h.inj r₁ r₂ y ((hcreated r₁ y).1 h₁) ((hcreated r₂ y).1 h₂)

/-! ### The branches of the interceptor -/

theorem SpanInv.describeSpan (h : SpanInv s sent) (info : ServerRpcInfo) (x : SpanId) :
    SpanInv (s.describeSpan info x) sent := by
  have htype := h.record (e := .setServiceTypeGrpcServer x) (fun he => he) trivial
  unfold Server.describeSpan
  split
  · exact htype.record (fun he => he) trivial
  · exact htype

/-- What `describeSpan` leaves alone. -/
theorem describeSpan_frame (s : Server) (info : ServerRpcInfo) (x : SpanId) :
    (s.describeSpan info x).current = s.current ∧ (s.describeSpan info x).span = s.span := by
  unfold Server.describeSpan
  split <;> exact ⟨rfl, rfl⟩

/-- The branch for `POST_RECV_INITIAL_METADATA`, on a thread whose current span is that of the RPC, or for an RPC
without a span. -/
structure Received (s s' : Server) (sent : RpcId → Option Status) (t : ThreadId) (r : RpcId) : Prop where
  spans : SpanInv s' sent
  current : s'.current = Function.update s.current t (s'.span r)
  span : ∀ r', r' ≠ r → s'.span r' = s.span r'

theorem SpanInv.onPostRecvInitialMetadata (h : SpanInv s sent) (info : ServerRpcInfo) {t : ThreadId}
    {r : RpcId} (outcome : NewSpanOutcome) (hopen : sent r = none) (ht : s.current t = s.span r ∨ s.span r = none) :
    Received s (s.onPostRecvInitialMetadata info t r outcome) sent t r := by
  unfold Server.onPostRecvInitialMetadata
  cases hr : s.span r with
  | some x =>
    have hcur : s.current t = s.span r := ht.resolve_right (by simp [hr])
    exact ⟨h, (Function.update_eq_self_iff.2 hcur.symm).symm, fun _ _ => rfl⟩
  | none =>
    have hnew := h.newSpan info hr hopen
    have hspan : ∀ r', r' ≠ r → (s.newSpan info r).span r' = s.span r' := by
      intro r' hne
      simp [Server.newSpan, hne]
    cases outcome with
    | null => exact ⟨h.setCurrentSpan t _, rfl, fun _ _ => rfl⟩
    | span sampled =>
      cases sampled with
      | false => exact ⟨hnew.setCurrentSpan t _, rfl, hspan⟩
      | true =>
        obtain ⟨hcurrent', hspan'⟩ := describeSpan_frame (s.newSpan info r) info s.nextSpan
        refine ⟨(hnew.describeSpan info s.nextSpan).setCurrentSpan t _, ?_, fun r' hne => ?_⟩
        · exact congrArg (fun c => Function.update c t _) hcurrent'
        · show ((s.newSpan info r).describeSpan info s.nextSpan).span r' = _
          rw [hspan', hspan r' hne]

end spans

/-! ### The threads -/

/-- The spans, and the threads with the RPCs they work for. -/
structure Inv (s : System) : Prop where
  spans : SpanInv s.server s.schedule.sent
  current : ∀ t r, s.schedule.running t = some r → s.server.current t = s.server.span r
  idle : ∀ t, s.schedule.running t = none → s.server.current t = none
  started : ∀ t r, s.schedule.running t = some r → s.schedule.started r = true
  once : ∀ t t' r, s.schedule.running t = some r → s.schedule.running t' = some r → t = t'
  unsent : ∀ t r, s.schedule.running t = some r → s.schedule.sent r = none
  unstarted : ∀ r, s.schedule.started r = false → s.server.span r = none ∧ s.schedule.sent r = none

theorem inv_init : Inv System.init where
  spans := spanInv_init
  current t r h := by cases h
  idle t _ := rfl
  started t r h := by cases h
  once t t' r h := by cases h
  unsent t r h := by cases h
  unstarted r _ := ⟨rfl, rfl⟩

/-- The thread `t` works for `r` from now on, and no other thread does. -/
structure TakesUp (sch sch' : Schedule) (t : ThreadId) (r : RpcId) : Prop where
  running : sch'.running t = some r
  others : ∀ t', t' ≠ t → sch'.running t' = sch.running t' ∧ sch.running t' ≠ some r
  started : sch'.started = Function.update sch.started r true
  sent : sch'.sent = sch.sent

private theorem Inv.takesUp {s : System} (h : Inv s) {sch : Schedule} {t : ThreadId} {r : RpcId}
    (hsch : s.schedule.receive t r = some sch) : TakesUp s.schedule sch t r := by
  unfold Schedule.receive at hsch
  by_cases hstarted : s.schedule.started r = true
  · -- another batch of the RPC that the thread works for
    rw [if_pos hstarted] at hsch
    split at hsch
    · rename_i hrun
      obtain rfl := Option.some.inj hsch
      refine ⟨hrun, fun t' hne => ⟨rfl, fun hrun' => hne (h.once t' t r hrun' hrun)⟩, ?_, rfl⟩
      exact (Function.update_eq_self_iff.2 hstarted.symm).symm
    · cases hsch
  · -- the first batch of an RPC; with what the thread worked for before it is done
    rw [if_neg hstarted] at hsch
    obtain rfl := Option.some.inj hsch
    refine ⟨Function.update_self .., ?_, rfl, rfl⟩
    intro t' hne
    refine ⟨Function.update_of_ne hne _ _, ?_⟩
    intro hrun'
    exact hstarted (h.started t' r hrun')

theorem Inv.receive {s : System} (h : Inv s) {sch : Schedule} {t : ThreadId} {r : RpcId}
    (hsch : s.schedule.receive t r = some sch) (info : ServerRpcInfo) (outcome : NewSpanOutcome) :
    Inv ⟨s.server.onPostRecvInitialMetadata info t r outcome, sch⟩ := by
  have htakes := h.takesUp hsch
  -- the RPC is this thread's own, or new
  have hcond : s.schedule.sent r = none ∧
      (s.server.current t = s.server.span r ∨ s.server.span r = none) := by
    by_cases hstarted : s.schedule.started r = true
    · have hrun : s.schedule.running t = some r := by
        by_contra hrun
        simp [Schedule.receive, hstarted, hrun] at hsch
      exact ⟨h.unsent t r hrun, .inl (h.current t r hrun)⟩
    · have hfresh := h.unstarted r (by simpa using hstarted)
      exact ⟨hfresh.2, .inr hfresh.1⟩
  have hrec := h.spans.onPostRecvInitialMetadata info outcome hcond.1 hcond.2
  generalize s.server.onPostRecvInitialMetadata info t r outcome = s' at hrec ⊢
  constructor
  · show SpanInv s' sch.sent
    rw [htakes.sent]
    exact hrec.spans
  · intro t' r' hrun
    show s'.current t' = s'.span r'
    rw [hrec.current]
    by_cases hne : t' = t
    · rw [hne, htakes.running, Option.some.injEq] at hrun
      rw [hne, ← hrun, Function.update_self]
    · obtain ⟨hsame, hnot⟩ := htakes.others t' hne
      have hrun' : s.schedule.running t' = some r' := hsame ▸ hrun
      have hner : r' ≠ r := fun he => hnot (he ▸ hrun')
      rw [Function.update_of_ne hne, hrec.span r' hner]
      exact h.current t' r' hrun'
  · intro t' hrun
    show s'.current t' = none
    have hne : t' ≠ t := by
      rintro rfl
      rw [htakes.running] at hrun
      cases hrun
    rw [hrec.current, Function.update_of_ne hne]
    exact h.idle t' ((htakes.others t' hne).1 ▸ hrun)
  · intro t' r' hrun
    show sch.started r' = true
    rw [htakes.started]
    by_cases hner : r' = r
    · rw [hner, Function.update_self]
    · rw [Function.update_of_ne hner]
      have hne : t' ≠ t := by
        rintro rfl
        rw [htakes.running, Option.some.injEq] at hrun
        exact hner hrun.symm
      exact h.started t' r' ((htakes.others t' hne).1 ▸ hrun)
  · intro t₁ t₂ r' h₁ h₂
    by_cases hne₁ : t₁ = t <;> by_cases hne₂ : t₂ = t
    · exact hne₁.trans hne₂.symm
    · obtain ⟨hsame, hnot⟩ := htakes.others t₂ hne₂
      rw [hne₁, htakes.running] at h₁
      exact absurd ((hsame.symm.trans h₂).trans h₁.symm) hnot
    · obtain ⟨hsame, hnot⟩ := htakes.others t₁ hne₁
      rw [hne₂, htakes.running] at h₂
      exact absurd ((hsame.symm.trans h₁).trans h₂.symm) hnot
    · exact h.once t₁ t₂ r' ((htakes.others t₁ hne₁).1 ▸ h₁) ((htakes.others t₂ hne₂).1 ▸ h₂)
  · intro t' r' hrun
    show sch.sent r' = none
    rw [htakes.sent]
    by_cases hne : t' = t
    · rw [hne, htakes.running, Option.some.injEq] at hrun
      exact hrun ▸ hcond.1
    · exact h.unsent t' r' ((htakes.others t' hne).1 ▸ hrun)
  · intro r' hr'
    rw [htakes.started] at hr'
    have hner : r' ≠ r := by
      rintro rfl
      simp at hr'
    rw [Function.update_of_ne hner] at hr'
    obtain ⟨hspan, hs⟩ := h.unstarted r' hr'
    exact ⟨(hrec.span r' hner).trans hspan, htakes.sent ▸ hs⟩

theorem Inv.finish {s : System} (h : Inv s) {sch : Schedule} {t : ThreadId} {r : RpcId} {status : Status}
    (hsch : s.schedule.finish t r status = some sch) :
    Inv ⟨s.server.onPreSendStatus t r status, sch⟩ := by
  unfold Schedule.finish at hsch
  split at hsch
  · rename_i hrun
    obtain rfl := Option.some.inj hsch
    have hspans := h.spans.onPreSendStatus t status (h.unsent t r hrun)
    rw [onPreSendStatus_eq] at hspans ⊢
    -- the thread works for nothing now, and no thread works for the RPC
    have hstill : ∀ t' r', Function.update s.schedule.running t none t' = some r' →
        t' ≠ t ∧ s.schedule.running t' = some r' ∧ r' ≠ r := by
      intro t' r' hrun'
      have hne : t' ≠ t := by
        rintro rfl
        simp at hrun'
      rw [Function.update_of_ne hne] at hrun'
      exact ⟨hne, hrun', fun he => hne (h.once t' t r (he ▸ hrun') hrun)⟩
    constructor
    · exact hspans
    · intro t' r' hrun'
      obtain ⟨hne, hrun', hner⟩ := hstill t' r' hrun'
      show Function.update s.server.current t none t' = Function.update s.server.span r none r'
      rw [Function.update_of_ne hne, Function.update_of_ne hner]
      exact h.current t' r' hrun'
    · intro t' hrun'
      show Function.update s.server.current t none t' = none
      by_cases hne : t' = t
      · rw [hne, Function.update_self]
      · have hidle : s.schedule.running t' = none := by simpa [hne] using hrun'
        rw [Function.update_of_ne hne]
        exact h.idle t' hidle
    · intro t' r' hrun'
      exact h.started t' r' (hstill t' r' hrun').2.1
    · intro t₁ t₂ r' h₁ h₂
      exact h.once t₁ t₂ r' (hstill t₁ r' h₁).2.1 (hstill t₂ r' h₂).2.1
    · intro t' r' hrun'
      obtain ⟨-, hrun', hner⟩ := hstill t' r' hrun'
      exact (Function.update_of_ne hner _ _).trans (h.unsent t' r' hrun')
    · intro r' hr'
      have hner : r' ≠ r := by
        rintro rfl
        have htrue := h.started t r' hrun
        rw [show s.schedule.started r' = false from hr'] at htrue
        cases htrue
      obtain ⟨hspan, hs⟩ := h.unstarted r' hr'
      exact ⟨(Function.update_of_ne hner _ _).trans hspan, (Function.update_of_ne hner _ _).trans hs⟩
  · cases hsch

/-- A method of the service gets the span of its RPC. -/
theorem Inv.proper_getCurrentSpan {s : System} (h : Inv s) {t : ThreadId} {r : RpcId}
    (hrun : s.schedule.running t = some r) : Proper s.server.log (.getCurrentSpan r (s.server.current t)) := by
  intro x
  rw [h.current t r hrun]
  constructor
  · intro hx
    exact (h.spans.active r x hx).1
  · intro hx
    exact (h.spans.created r x hx).2.resolve_right fun hs => hs (h.unsent t r hrun)

theorem Inv.hello {s : System} (h : Inv s) {t : ThreadId} {r : RpcId} (hrun : s.schedule.running t = some r)
    (method : HelloMethod) : Inv { s with server := s.server.hello t r method } := by
  refine ⟨?_, h.current, h.idle, h.started, h.once, h.unsent, h.unstarted⟩
  have hget := h.spans.record (e := .getCurrentSpan r _) (fun he => he) (h.proper_getCurrentSpan hrun)
  exact hget.record (e := .scopedSpanEvent _ _) (fun he => he) trivial

/-- Every step keeps the invariant. -/
theorem Inv.step {info : RpcId → ServerRpcInfo} {s s' : System} {a : Action} (h : Inv s)
    (hstep : s.step info a = some s') : Inv s' := by
  cases a with
  | hello t r method =>
    simp only [System.step] at hstep
    split at hstep
    · rename_i hrun
      obtain rfl := Option.some.inj hstep
      exact h.hello hrun method
    · cases hstep
  | batch t r b =>
    obtain ⟨recv, send⟩ := b
    simp only [System.step, Option.map_eq_some_iff, Schedule.batch, Option.bind_eq_some_iff] at hstep
    obtain ⟨sch', ⟨sch, hrecv, hsend⟩, rfl⟩ := hstep
    have hmid : Inv ⟨s.server.intercept (info r) t r ⟨recv, none⟩, sch⟩ := by
      cases recv with
      | none =>
        obtain rfl := Option.some.inj hrecv
        exact h
      | some outcome => exact h.receive hrecv (info r) outcome
    cases send with
    | none =>
      obtain rfl := Option.some.inj hsend
      exact hmid
    | some status => exact hmid.finish hsend

/-! ### Every run -/

private theorem intercept_current (s : Server) (info : ServerRpcInfo) (t : ThreadId) (r : RpcId)
    (recv : Option NewSpanOutcome) (status : Status) :
    (s.intercept info t r ⟨recv, some status⟩).current t = none := by
  show (Server.onPreSendStatus _ t r status).current t = none
  rw [onPreSendStatus_eq]
  exact Function.update_self ..

/-- The status that a batch sends is the one that the schedule has for the RPC. -/
theorem sent_of_step {info : RpcId → ServerRpcInfo} {s s' : System} {t : ThreadId} {r : RpcId}
    {recv : Option NewSpanOutcome} {status : Status} (h : s.step info (.batch t r ⟨recv, some status⟩) = some s') :
    s'.schedule.sent r = some status := by
  simp only [System.step, Option.map_eq_some_iff, Schedule.batch, Option.bind_eq_some_iff] at h
  obtain ⟨sch', ⟨sch, -, hfinish⟩, rfl⟩ := h
  simp only [Schedule.finish] at hfinish
  split at hfinish
  · obtain rfl := Option.some.inj hfinish
    exact Function.update_self ..
  · cases hfinish

private theorem sent_receive {sch sch' : Schedule} {t : ThreadId} {r : RpcId} (h : sch.receive t r = some sch') :
    sch'.sent = sch.sent := by
  simp only [Schedule.receive] at h
  split at h
  · split at h
    · rw [← Option.some.inj h]
    · cases h
  · rw [← Option.some.inj h]

/-- A status is sent once. -/
theorem Inv.sent_step {info : RpcId → ServerRpcInfo} {s s' : System} {a : Action} (h : Inv s)
    (hstep : s.step info a = some s') {r : RpcId} {status : Status} (hsent : s.schedule.sent r = some status) :
    s'.schedule.sent r = some status := by
  cases a with
  | hello t r' method =>
    simp only [System.step] at hstep
    split at hstep
    · obtain rfl := Option.some.inj hstep
      exact hsent
    · cases hstep
  | batch t r' b =>
    obtain ⟨recv, send⟩ := b
    simp only [System.step, Option.map_eq_some_iff, Schedule.batch, Option.bind_eq_some_iff] at hstep
    obtain ⟨sch', ⟨sch, hrecv, hsend⟩, rfl⟩ := hstep
    have hmid : Inv ⟨s.server.intercept (info r') t r' ⟨recv, none⟩, sch⟩ := by
      cases recv with
      | none =>
        obtain rfl := Option.some.inj hrecv
        exact h
      | some outcome => exact h.receive hrecv (info r') outcome
    have hsch : sch.sent = s.schedule.sent := by
      cases recv with
      | none => rw [← Option.some.inj hrecv]
      | some outcome => exact sent_receive hrecv
    cases send with
    | none =>
      rw [← Option.some.inj hsend, hsch]
      exact hsent
    | some status' =>
      simp only [Schedule.finish] at hsend
      split at hsend
      · rename_i hrun
        rw [← Option.some.inj hsend]
        -- an RPC that runs has not sent its status
        have hne : r ≠ r' := by
          rintro rfl
          have hnone : sch.sent r = none := hmid.unsent t r hrun
          rw [hsch, hsent] at hnone
          cases hnone
        show Function.update sch.sent r' (some status') r = some status
        rw [Function.update_of_ne hne, hsch]
        exact hsent
      · cases hsend

/-- A batch of the run that sent a status was the only one of its RPC. -/
theorem sent_of_mem {info : RpcId → ServerRpcInfo} {actions : List Action} {s : System}
    (h : exec (System.step info) System.init actions = some s) {t : ThreadId} {r : RpcId}
    {recv : Option NewSpanOutcome} {status : Status} (hmem : .batch t r ⟨recv, some status⟩ ∈ actions) :
    s.schedule.sent r = some status := by
  obtain ⟨before, after, rfl⟩ := List.append_of_mem hmem
  rw [exec_append, Option.bind_eq_some_iff] at h
  obtain ⟨s₁, hbefore, hrest⟩ := h
  obtain ⟨s₂, hbatch, hafter⟩ := exec_cons_eq_some.1 hrest
  have hinv₁ : Inv s₁ := exec_invariant (fun _ _ _ ht hs => Inv.step ht hs) hbefore inv_init
  let Kept : System → Prop := fun u => Inv u ∧ u.schedule.sent r = some status
  have hkept : Kept s₂ := ⟨hinv₁.step hbatch, sent_of_step hbatch⟩
  have hend : Kept s :=
    exec_invariant (fun _ _ _ hu hs => ⟨hu.1.step hs, hu.1.sent_step hs hu.2⟩) hafter hkept
  exact hend.2

/-- After every run: each event of the history was proper when it was recorded, the span of each RPC with a batch that
sent a status was closed by this status, and such a batch leaves no current span on its thread. -/
theorem grpc_server_spans (info : RpcId → ServerRpcInfo) (actions : List Action) {s : System}
    (h : exec (System.step info) System.init actions = some s) :
    AtEach Proper s.server.log ∧
    (∀ t r recv status, .batch t r ⟨recv, some status⟩ ∈ actions → ClosedBy s.server.log r status) ∧
    ∀ t r recv status s', s.step info (.batch t r ⟨recv, some status⟩) = some s' → s'.server.current t = none := by
  have hinv : Inv s := exec_invariant (fun _ _ _ ht hs => Inv.step ht hs) h inv_init
  refine ⟨hinv.spans.proper, ?_, ?_⟩
  · intro t r recv status hmem
    exact (hinv.spans.finished r status (sent_of_mem h hmem)).2
  · intro t r recv status s' hs
    simp only [System.step, Option.map_eq_some_iff] at hs
    obtain ⟨sch, -, rfl⟩ := hs
    exact intercept_current ..

/-- Three RPCs on one thread; the status of the first one is never sent, the second one fails, and the third one ends
well. -/
def abandonedRun : List Action :=
  [.batch 0 0 ⟨some (.span true), none⟩, .hello 0 0 .unaryCallUnaryReturn,
    .batch 0 1 ⟨some (.span true), none⟩, .batch 0 1 ⟨some (.span true), none⟩, .hello 0 1 .streamCallStreamReturn,
    .batch 0 1 ⟨none, some ⟨14, "unavailable"⟩⟩, .batch 0 2 ⟨some (.span false), none⟩,
    .hello 0 2 .unaryCallUnaryReturn, .batch 0 2 ⟨none, some ⟨0, ""⟩⟩]

theorem abandoned_rpc_keeps_spans_apart :
    ∃ s, exec (System.step fun _ => ⟨"/grpcdemo.Hello/Method", none⟩) System.init abandonedRun = some s ∧
      AtEach Proper s.server.log ∧ .getCurrentSpan 1 (some 1) ∈ s.server.log ∧ Created s.server.log 2 2 ∧
      ClosedBy s.server.log 1 ⟨14, "unavailable"⟩ ∧ ClosedBy s.server.log 2 ⟨0, ""⟩ := by
  have hrun : ∃ s, exec (System.step fun _ => ⟨"/grpcdemo.Hello/Method", none⟩) System.init abandonedRun = some s ∧
      .getCurrentSpan 1 (some 1) ∈ s.server.log ∧
      .newSpan 2 2 "gRPC Server" "/grpcdemo.Hello/Method" none ∈ s.server.log :=
    ⟨_, rfl, by decide, by decide⟩
  obtain ⟨s, hs, hcurrent, hcreated⟩ := hrun
  obtain ⟨hproper, hclosed, -⟩ := grpc_server_spans (fun _ => ⟨"/grpcdemo.Hello/Method", none⟩) abandonedRun hs
  refine ⟨s, hs, hproper, hcurrent, ⟨_, _, _, hcreated⟩, ?_, ?_⟩
  · exact hclosed 0 1 none _ (by simp [abandonedRun])
  · exact hclosed 0 2 none _ (by simp [abandonedRun])

end PinpointExamples.GrpcServer
