import Mathlib
import PinpointExamples.Server.GrpcInterceptor

/-!
# The gRPC client interceptor and the target it records

The client interceptor opens a span event for an RPC and records as its destination and as its endpoint the target
of the channel, as `ResolveGrpcTarget` has cut it.  The naming grammar of gRPC has several spellings of a target:
`host:port`, `dns:host:port`, `dns:///host:port` and `dns://authority/host:port`, and three for a socket.
`ResolveGrpcTarget` knows one of the `dns` spellings and the `unix:` ones (`resolve_grpc_target_iff`).
-/

namespace PinpointExamples.GrpcClient

open GrpcServer (Status)

def resolveGrpcTarget (target : Str) : Str :=
  if ("unix:" : Str).isPrefixOf target then "localhost"
  else
    let dnsPrefix : Str := "dns:///"
    if dnsPrefix.isPrefixOf target then target.drop dnsPrefix.length else target

/-! ### The interceptor -/

inductive ClientCall
  | newSpanEvent (span : SpanId) (event : Option EventId) (operation : Str)
  | setServiceTypeGrpcClient (event : EventId)
  | setDestination (event : EventId) (destination : Str)
  | setEndPoint (event : EventId) (endPoint : Str)
  | setAnnotationHttpUrl (event : EventId) (url : Str)
  | injectContext (event : EventId)
  | setError (event : EventId) (name message : Str)
  | endEvent (event : EventId)
  deriving DecidableEq, Repr

/-- `PinpointClientInterceptor`; of `info_` its method, and whether it has a client context. -/
structure Interceptor where
  method : Str
  hasContext : Bool
  remote : Str
  parentSpan : SpanPtr
  spanEvent : Option EventId

/-- The interceptor of an RPC on a channel to `target`, made by the factory. -/
def createClientInterceptor (target method : Str) (hasContext : Bool) : Interceptor where
  method
  hasContext
  remote := resolveGrpcTarget target
  parentSpan := none
  spanEvent := none

/-- The assertion that there is a parent span. -/
inductive ClientFault
  | noParentSpan
  deriving DecidableEq, Repr

namespace Interceptor

/-- The branch for `PRE_SEND_INITIAL_METADATA`: `current` is the current span, `event` what `NewSpanEvent` returns. -/
def onPreSendInitialMetadata (c : Interceptor) (current : SpanPtr) (event : Option EventId) :
    Except ClientFault (Interceptor × List ClientCall) :=
  match current with
  | none => .error .noParentSpan
  | some parent =>
    let c := { c with parentSpan := some parent, spanEvent := event }
    match event with
    | none => .ok (c, [.newSpanEvent parent none c.method])
    | some e =>
      .ok (c, [.newSpanEvent parent (some e) c.method, .setServiceTypeGrpcClient e, .setDestination e c.remote,
        .setEndPoint e c.remote, .setAnnotationHttpUrl e ("grpc://" ++ c.remote ++ c.method)] ++
        if c.hasContext then [.injectContext e] else [])

/-- The branch for `POST_RECV_STATUS`. -/
def onPostRecvStatus (c : Interceptor) (status : Option Status) : Interceptor × List ClientCall :=
  match c.spanEvent, c.parentSpan with
  | some e, some _ =>
    let error := match status with
      | some status => if status.ok then [] else [ClientCall.setError e "grpc error" status.message]
      | none => []
    ({ c with spanEvent := none }, error ++ [.endEvent e])
  | _, _ => (c, [])

/-- `Intercept`, of a batch with or without each of the two hook points. -/
def intercept (c : Interceptor) (current : SpanPtr) (preSend : Option (Option EventId))
    (postRecv : Option (Option Status)) : Except ClientFault (Interceptor × List ClientCall) := do
  let (c, calls) ← match preSend with
    | some event => c.onPreSendInitialMetadata current event
    | none => pure (c, [])
  match postRecv with
  | some status =>
    let (c, calls') := c.onPostRecvStatus status
    pure (c, calls ++ calls')
  | none => pure (c, calls)

end Interceptor

/-! ### The naming grammar -/

/-- `host[:port]`, and an authority: no slash. -/
structure HostPort where
  text : Str
  noSlash : '/' ∉ text

/-- The spellings of a target. -/
inductive Spelling
  | bare
  | dns
  | dnsPath
  | dnsAuthority (authority : HostPort)

def Spelling.text (h : HostPort) : Spelling → Str
  | bare => h.text
  | dns => "dns:" ++ h.text
  | dnsPath => "dns:///" ++ h.text
  | dnsAuthority authority => "dns://" ++ (authority.text ++ '/' :: h.text)

/-- No scheme that could be taken for a socket, or the `dns` scheme with an empty authority. -/
def Spelling.Known (h : HostPort) : Spelling → Prop
  | bare => ¬ ("unix:" : Str) <+: h.text
  | dns => False
  | dnsPath => True
  | dnsAuthority authority => authority.text = []

inductive SocketTarget
  | unix (path : Str)
  | unixAbsolute (path : Str)
  | unixAbstract (name : Str)

def SocketTarget.text : SocketTarget → Str
  | unix path => "unix:" ++ path
  | unixAbsolute path => "unix://" ++ '/' :: path
  | unixAbstract name => "unix-abstract:" ++ name

def SocketTarget.Known : SocketTarget → Prop
  | unix _ | unixAbsolute _ => True
  | unixAbstract _ => False

private theorem resolveGrpcTarget_of_unix {target : Str} (h : ("unix:" : Str) <+: target) :
    resolveGrpcTarget target = "localhost" := by
  rw [resolveGrpcTarget, if_pos (List.isPrefixOf_iff_prefix.2 h)]

private theorem resolveGrpcTarget_dnsPath (rest : Str) : resolveGrpcTarget ("dns:///" ++ rest) = rest := rfl

private theorem resolveGrpcTarget_of_other {target : Str} (hu : ¬ ("unix:" : Str) <+: target)
    (hd : ¬ ("dns:///" : Str) <+: target) : resolveGrpcTarget target = target := by
  rw [resolveGrpcTarget, if_neg (fun h => hu (List.isPrefixOf_iff_prefix.1 h))]
  exact if_neg fun h => hd (List.isPrefixOf_iff_prefix.1 h)

/-- A target without one of the two prefixes stays as it is, and so does not become a shorter one. -/
theorem resolveGrpcTarget_ne {target h : Str} (hu : ¬ ("unix:" : Str) <+: target)
    (hd : ¬ ("dns:///" : Str) <+: target) (hlen : h.length < target.length) : resolveGrpcTarget target ≠ h := by
  intro he
  rw [resolveGrpcTarget_of_other hu hd] at he
  rw [he] at hlen
  exact Nat.lt_irrefl _ hlen

private theorem not_unix_of_dns (rest : Str) : ¬ ("unix:" : Str) <+: "dns:" ++ rest := by
  rintro ⟨r, hr⟩
  have hhead : 'u' = 'd' := List.head_eq_of_cons_eq hr
  exact absurd hhead (by decide)

private theorem dns_ne (h : HostPort) : resolveGrpcTarget ("dns:" ++ h.text) ≠ h.text := by
  have hd : ¬ ("dns:///" : Str) <+: "dns:" ++ h.text := by
    rintro ⟨r, hr⟩
    have hsplit : ("dns:" : Str) ++ ("///" ++ r) = "dns:" ++ h.text := hr
    have htext := List.append_cancel_left hsplit
    have hmem : '/' ∈ h.text := by
      rw [← htext]
      exact List.mem_cons_self
    exact h.noSlash hmem
  apply resolveGrpcTarget_ne (not_unix_of_dns _) hd
  have hlen : ("dns:" : Str).length = 4 := rfl
  rw [List.length_append, hlen]
  omega

private theorem dnsAuthority_iff (authority h : HostPort) :
    resolveGrpcTarget ("dns://" ++ (authority.text ++ '/' :: h.text)) = h.text ↔ authority.text = [] := by
  cases ha : authority.text with
  | nil => exact iff_of_true (resolveGrpcTarget_dnsPath h.text) rfl
  | cons c rest =>
    have hd : ¬ ("dns:///" : Str) <+: "dns://" ++ (c :: rest ++ '/' :: h.text) := by
      rintro ⟨r, hr⟩
      have hsplit : ("dns://" : Str) ++ ('/' :: r) = "dns://" ++ (c :: rest ++ '/' :: h.text) := hr
      have hc : '/' = c := List.head_eq_of_cons_eq (List.append_cancel_left hsplit)
      have hmem : '/' ∈ authority.text := by
        rw [ha, ← hc]
        exact List.mem_cons_self
      exact authority.noSlash hmem
    refine iff_of_false ?_ (List.cons_ne_nil c rest)
    apply resolveGrpcTarget_ne (not_unix_of_dns ("//" ++ (c :: rest ++ '/' :: h.text))) hd
    simp only [List.length_append, List.length_cons]
    omega

private theorem bare_iff (h : HostPort) : resolveGrpcTarget h.text = h.text ↔ ¬ ("unix:" : Str) <+: h.text := by
  have hd : ¬ ("dns:///" : Str) <+: h.text := by
    rintro ⟨r, hr⟩
    have hmem : '/' ∈ h.text := by
      rw [← hr]
      exact List.mem_append_left r (by simp)
    exact h.noSlash hmem
  constructor
  · intro he hu
    rw [resolveGrpcTarget_of_unix hu] at he
    rw [← he] at hu
    exact absurd hu (by decide)
  · intro hu
    exact resolveGrpcTarget_of_other hu hd

private theorem socketTarget_iff (target : SocketTarget) :
    resolveGrpcTarget target.text = "localhost" ↔ target.Known := by
  cases target with
  | unix path => exact iff_of_true (resolveGrpcTarget_of_unix (List.prefix_append ..)) trivial
  | unixAbsolute path =>
    have hu : ("unix:" : Str) <+: "unix://" ++ '/' :: path := ⟨"//" ++ '/' :: path, rfl⟩
    exact iff_of_true (resolveGrpcTarget_of_unix hu) trivial
  | unixAbstract name =>
    refine iff_of_false ?_ id
    intro h
    have hhead : 'u' = 'l' := List.head_eq_of_cons_eq h
    exact absurd hhead (by decide)

/-! ### What is recorded -/

private theorem onPostRecvStatus_calls (c : Interceptor) (status : Option Status) (e : EventId) (d : Str) :
    .setDestination e d ∉ (c.onPostRecvStatus status).2 ∧ .setEndPoint e d ∉ (c.onPostRecvStatus status).2 := by
  unfold Interceptor.onPostRecvStatus
  split
  · rcases status with _ | status
    · simp
    · by_cases hok : status.ok = true
      · simp [hok]
      · simp [hok]
  · simp

private theorem onPreSendInitialMetadata_calls (target method : Str) (hasContext : Bool) (parent : SpanId)
    (e : EventId) :
    ∃ c calls, (createClientInterceptor target method hasContext).onPreSendInitialMetadata (some parent) (some e) =
        .ok (c, calls) ∧
      ∀ d, (.setDestination e d ∈ calls ↔ d = resolveGrpcTarget target) ∧
        (.setEndPoint e d ∈ calls ↔ d = resolveGrpcTarget target) := by
  refine ⟨_, _, rfl, ?_⟩
  intro d
  cases hasContext with
  | false => simp [createClientInterceptor]
  | true => simp [createClientInterceptor]

/-- The destination and the end point of the event of an RPC are both what `ResolveGrpcTarget` gives. -/
theorem intercept_records (target method : Str) (hasContext : Bool) (parent : SpanId) (e : EventId)
    (postRecv : Option (Option Status)) :
    ∃ c calls, (createClientInterceptor target method hasContext).intercept (some parent) (some (some e)) postRecv =
        .ok (c, calls) ∧
      ∀ d, (.setDestination e d ∈ calls ↔ d = resolveGrpcTarget target) ∧
        (.setEndPoint e d ∈ calls ↔ d = resolveGrpcTarget target) := by
  obtain ⟨c, calls, hpre, hcalls⟩ := onPreSendInitialMetadata_calls target method hasContext parent e
  unfold Interceptor.intercept
  simp only [hpre]
  cases postRecv with
  | none => exact ⟨c, calls, rfl, hcalls⟩
  | some status =>
    refine ⟨_, _, rfl, ?_⟩
    intro d
    have hpost := onPostRecvStatus_calls c status e d
    simp only [List.mem_append, hcalls, hpost, or_false, and_self]

/-- The spellings of a host that give the host, and the socket targets that give `localhost`; and the interceptor
records what is given, as the destination and as the end point. -/
theorem resolve_grpc_target_iff (h : HostPort) (spelling : Spelling) (socket : SocketTarget) :
    (resolveGrpcTarget (spelling.text h) = h.text ↔ spelling.Known h) ∧
    (resolveGrpcTarget socket.text = "localhost" ↔ socket.Known) ∧
    ∀ target method hasContext parent e postRecv, ∃ c calls,
      (createClientInterceptor target method hasContext).intercept (some parent) (some (some e)) postRecv =
        .ok (c, calls) ∧
      ∀ d, (.setDestination e d ∈ calls ↔ d = resolveGrpcTarget target) ∧
        (.setEndPoint e d ∈ calls ↔ d = resolveGrpcTarget target) := by
  refine ⟨?_, socketTarget_iff socket, intercept_records⟩
  cases spelling with
  | bare => exact bare_iff h
  | dns => exact iff_of_false (dns_ne h) id
  | dnsPath => exact iff_of_true (resolveGrpcTarget_dnsPath h.text) trivial
  | dnsAuthority authority => exact dnsAuthority_iff authority h

/-- `localhost:50051` under two spellings, and an abstract socket. -/
theorem dns_spellings_split :
    resolveGrpcTarget "dns:localhost:50051" = "dns:localhost:50051" ∧
    resolveGrpcTarget "dns://8.8.8.8/localhost:50051" = "dns://8.8.8.8/localhost:50051" ∧
    resolveGrpcTarget "unix-abstract:demo" ≠ "localhost" ∧
    ∃ (h : HostPort) (spelling : Spelling), resolveGrpcTarget (spelling.text h) ≠ h.text := by
  refine ⟨by decide, by decide, by decide, ⟨"localhost:50051", by simp⟩, .dns, ?_⟩
  decide

end PinpointExamples.GrpcClient
