import Mathlib
import PinpointExamples.Carrier.Grpc
import PinpointExamples.Lib.History
import PinpointExamples.Lib.Transition
import PinpointExamples.Server.Agent

/-!
# The gRPC server interceptor

gRPC makes one `PinpointServerInterceptor` for each RPC and hands it the batches of the RPC.  The interceptor keeps
the span of its RPC in `span_`, and stores it in the thread-local `g_current_span`, where the methods of the service
find it.  A step of the system is a batch, handed to the interceptor of an RPC on a thread, or a call of a service
method.

The schedules are those of the synchronous server: a thread works for one RPC at a time.  It may take up another RPC
although the status of the last one was never sent, and is then done with that one.

The key fact is `Inv.step`: the current span of a thread is the `span_` of the RPC that the thread works for.
-/

namespace PinpointExamples.GrpcServer

open History Transition

abbrev RpcId := Nat
abbrev ThreadId := Nat

/-- `grpc::Status`; the code 0 is `OK`. -/
structure Status where
  code : Nat
  message : Str
  deriving DecidableEq, Repr

def Status.ok (status : Status) : Bool := status.code = 0

/-- What `info_` knows of an RPC: its method, and of its server context the peer and the metadata of the client. -/
structure ServerRpcInfo where
  method : Str
  context : Option (Str × Metadata)

/-- The methods of `HelloServiceImpl`. -/
inductive HelloMethod
  | unaryCallUnaryReturn
  | unaryCallStreamReturn
  | streamCallUnaryReturn
  | streamCallStreamReturn
  deriving DecidableEq, Repr

/-- The name of the span event that the method opens. -/
def HelloMethod.operation : HelloMethod → Str
  | .unaryCallUnaryReturn => "HelloServiceImpl::UnaryCallUnaryReturn"
  | .unaryCallStreamReturn => "HelloServiceImpl::UnaryCallStreamReturn"
  | .streamCallUnaryReturn => "HelloServiceImpl::StreamCallUnaryReturn"
  | .streamCallStreamReturn => "HelloServiceImpl::StreamCallStreamReturn"

inductive ServerEvent
  | newSpan (r : RpcId) (span : SpanId) (operation rpcPoint : Str) (reader : Option (List (Str × Str)))
  | setServiceTypeGrpcServer (span : SpanId)
  | setRemoteAddress (span : SpanId) (address : Str)
  | getCurrentSpan (r : RpcId) (span : SpanPtr)
  | scopedSpanEvent (span : SpanPtr) (operation : Str)
  | setError (span : SpanId) (name message : Str)
  | endSpan (span : SpanId)
  deriving DecidableEq, Repr

/-- The thread-locals, the `span_` of every interceptor, and what was recorded. -/
structure Server where
  current : ThreadId → SpanPtr
  span : RpcId → SpanPtr
  nextSpan : SpanId
  log : List ServerEvent

/-- What `agent->NewSpan` returns: null, or a span that is sampled or not. -/
inductive NewSpanOutcome
  | null
  | span (sampled : Bool)
  deriving DecidableEq, Repr

/-- A batch, by the hook points that the interceptor asks for. -/
structure Batch where
  postRecvInitialMetadata : Option NewSpanOutcome
  preSendStatus : Option Status
  deriving DecidableEq, Repr

/-! ### The code -/

def resolvePeerHost (peer : Str) : Str :=
  let fallback : Str := "127.0.0.1"
  if ("unix" : Str).isPrefixOf peer then fallback
  else
    let peer := if ("ipv4:" : Str).isPrefixOf peer || ("ipv6:" : Str).isPrefixOf peer then peer.drop 5 else peer
    let peer := match rfindChar ':' peer with
      | some colon => peer.take colon
      | none => peer
    let peer :=
      if 2 < peer.length && peer.head? = some '[' && peer.getLast? = some ']' then
        (peer.drop 1).take (peer.length - 2)
      else if 6 < peer.length && ("%5B" : Str).isPrefixOf peer && peer.drop (peer.length - 3) = ("%5D" : Str) then
        (peer.drop 3).take (peer.length - 6)
      else peer
    if peer.isEmpty then fallback else peer

namespace Server

def init : Server where
  current _ := none
  span _ := none
  nextSpan := 0
  log := []

def record (s : Server) (e : ServerEvent) : Server := { s with log := s.log ++ [e] }

def setCurrentSpan (s : Server) (t : ThreadId) (span : SpanPtr) : Server :=
  { s with current := Function.update s.current t span }

def getCurrentSpan (s : Server) (t : ThreadId) : SpanPtr := s.current t

def clearCurrentSpan (s : Server) (t : ThreadId) : Server := s.setCurrentSpan t none

/-- `span_ = agent->NewSpan("gRPC Server", …)` when the agent makes a span. -/
def newSpan (s : Server) (info : ServerRpcInfo) (r : RpcId) : Server :=
  { s with
    span := Function.update s.span r (some s.nextSpan)
    nextSpan := s.nextSpan + 1
    log := s.log ++ [.newSpan r s.nextSpan "gRPC Server" info.method (info.context.map fun c => c.2.entries)] }

/-- What is set on a sampled span. -/
def describeSpan (s : Server) (info : ServerRpcInfo) (span : SpanId) : Server :=
  let s := s.record (.setServiceTypeGrpcServer span)
  match info.context with
  | some (peer, _) => s.record (.setRemoteAddress span (resolvePeerHost peer))
  | none => s

/-- The branch of `Intercept` for `POST_RECV_INITIAL_METADATA`. -/
def onPostRecvInitialMetadata (s : Server) (info : ServerRpcInfo) (t : ThreadId) (r : RpcId)
    (outcome : NewSpanOutcome) : Server :=
  match s.span r with
  | some _ => s
  | none =>
    let s := match outcome with
      | .null => s
      | .span sampled => if sampled then (s.newSpan info r).describeSpan info s.nextSpan else s.newSpan info r
    s.setCurrentSpan t (s.span r)

/-- The branch of `Intercept` for `PRE_SEND_STATUS`. -/
def onPreSendStatus (s : Server) (t : ThreadId) (r : RpcId) (status : Status) : Server :=
  let s := match s.span r with
    | none => s
    | some span =>
      let s := if status.ok then s else s.record (.setError span "grpc error" status.message)
      { s.record (.endSpan span) with span := Function.update s.span r none }
  s.clearCurrentSpan t

/-- `PinpointServerInterceptor::Intercept`, of the interceptor of `r` on the thread `t`. -/
def intercept (s : Server) (info : ServerRpcInfo) (t : ThreadId) (r : RpcId) (batch : Batch) : Server :=
  let s := match batch.postRecvInitialMetadata with
    | some outcome => s.onPostRecvInitialMetadata info t r outcome
    | none => s
  match batch.preSendStatus with
  | some status => s.onPreSendStatus t r status
  | none => s

/-- A method of `HelloServiceImpl`, called for `r` on the thread `t`. -/
def hello (s : Server) (t : ThreadId) (r : RpcId) (method : HelloMethod) : Server :=
  let span := s.getCurrentSpan t
  (s.record (.getCurrentSpan r span)).record (.scopedSpanEvent span method.operation)

end Server

/-! ### The schedules -/

/-- The RPC that a thread works for, the RPCs that were taken up, and the status that was sent for an RPC. -/
structure Schedule where
  running : ThreadId → Option RpcId
  started : RpcId → Bool
  sent : RpcId → Option Status

namespace Schedule

def init : Schedule where
  running _ := none
  started _ := false
  sent _ := none

/-- A `POST_RECV_INITIAL_METADATA` batch: the first of an RPC, on any thread, or another one of the RPC that the
thread works for. -/
def receive (sch : Schedule) (t : ThreadId) (r : RpcId) : Option Schedule :=
  if sch.started r then
    if sch.running t = some r then some sch else none
  else some { sch with
    running := Function.update sch.running t (some r)
    started := Function.update sch.started r true }

/-- A `PRE_SEND_STATUS` batch of the RPC that the thread works for. -/
def finish (sch : Schedule) (t : ThreadId) (r : RpcId) (status : Status) : Option Schedule :=
  if sch.running t = some r then
    some { sch with
      running := Function.update sch.running t none
      sent := Function.update sch.sent r (some status) }
  else none

def batch (sch : Schedule) (t : ThreadId) (r : RpcId) (b : Batch) : Option Schedule :=
  (if b.postRecvInitialMetadata.isSome then sch.receive t r else some sch).bind fun sch =>
    match b.preSendStatus with
    | some status => sch.finish t r status
    | none => some sch

end Schedule

structure System where
  server : Server
  schedule : Schedule

inductive Action
  | batch (t : ThreadId) (r : RpcId) (b : Batch)
  | hello (t : ThreadId) (r : RpcId) (method : HelloMethod)
  deriving DecidableEq, Repr

namespace System

def init : System := ⟨.init, .init⟩

/-- A step of the system, if the synchronous server allows it. -/
def step (info : RpcId → ServerRpcInfo) (s : System) : Action → Option System
  | .batch t r b => (s.schedule.batch t r b).map fun sch => ⟨s.server.intercept (info r) t r b, sch⟩
  | .hello t r method =>
    if s.schedule.running t = some r then some { s with server := s.server.hello t r method } else none

end System

end PinpointExamples.GrpcServer
