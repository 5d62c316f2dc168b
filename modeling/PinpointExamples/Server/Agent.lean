import Mathlib
import PinpointExamples.Lib.Scoped
import PinpointExamples.Carrier.Http

/-!
# The agent and the HTTP server as the demos use them

The agent records: every call of the tracing interface is an entry of a log.  Span events are opened by a
`ScopedSpanEvent`, which ends its event when the block is left; a handler is therefore a program with scopes.  A
worker thread of the HTTP server carries the log on from request to request, together with the thread-local
`current_span`.
-/

namespace PinpointExamples

open Scoped

abbrev SpanId := Nat
abbrev EventId := Nat

/-- `pinpoint::SpanPtr`; the null pointer is `none`. -/
abbrev SpanPtr := Option SpanId

/-- `SERVICE_TYPE_…` of a span event; `unspecified` where the code leaves the argument out. -/
inductive ServiceType
  | unspecified
  | mysqlQuery
  | mongodbQuery
  | redis
  | kafka
  | cppHttpClient
  deriving DecidableEq, Repr

/-- What a `ScopedSpanEvent` is opened with. -/
structure EventLabel where
  span : SpanPtr
  operation : Str
  serviceType : ServiceType
  deriving DecidableEq, Repr

inductive AnnotationKey
  | api
  deriving DecidableEq, Repr

/-- The calls a handler makes on its span events and on its span. -/
inductive EventCall
  | setEndPoint (event : EventId) (endPoint : Str)
  | setDestination (event : EventId) (destination : Str)
  | setAnnotationStr (event : EventId) (key : AnnotationKey) (value : Str)
  | setSqlQuery (event : EventId) (sql : Str) (args : List Str)
  | setError (event : EventId) (name : Option Str) (message : Str)
  | spanSetError (span : SpanPtr) (message : Str)
  | injectContext (event : EventId)
  | traceHttpClientRequest (event : EventId) (host url : Str) (reader : List (Str × Str))
  | traceHttpClientResponse (event : EventId) (status : Int) (reader : List (Str × Str))
  deriving DecidableEq, Repr

/-- All calls of the tracing interface. -/
inductive AgentCall
  | newSpan (span : SpanId) (operation rpcPoint : Str) (reader : List (Str × Str))
  | traceHttpServerRequest (span : SpanId) (remoteAddr endPoint : Str) (reader : List (Str × Str))
  | traceHttpServerResponse (span : SpanId) (urlPattern method : Str) (status : Int) (reader : List (Str × Str))
  | endSpan (span : SpanId)
  | event (c : EventCall)
  deriving DecidableEq, Repr

abbrev AgentLog := List (Entry EventLabel AgentCall)

/-- A C++ exception; every class that the demos' callees throw derives from `std::exception`. -/
inductive Exn
  | mysqlxError (what : Str)
  | stdException (what : Str)
  deriving DecidableEq, Repr

def Exn.what : Exn → Str
  | .mysqlxError w => w
  | .stdException w => w

/-! ### Requests and responses -/

structure Request where
  method : Str
  path : Str
  matchedRoute : Str
  remoteAddr : Str
  localAddr : Str
  localPort : Nat
  headers : Headers
  params : List (Str × Str)
  captures : List Str
  deriving DecidableEq, Repr

/-- `get_param_value`: the first value under the key, or the empty string. -/
def Request.getParamValue (req : Request) (key : Str) : Str := (Assoc.first Eq key req.params).getD []

/-- The value of a parameter, or a default where it is missing or empty. -/
def Request.paramOr (req : Request) (key default : Str) : Str :=
  let value := req.getParamValue key
  if value.isEmpty then default else value

def Request.hasParam (req : Request) (key : Str) : Bool := req.params.any fun p => p.1 = key

structure Response where
  status : Int
  headers : Headers
  body : Str
  deriving DecidableEq, Repr

/-- `set_content`: the body, and a single `Content-Type` header. -/
def Response.setContent (lib : HttplibHeaders) (res : Response) (body contentType : Str) : Response :=
  { res with
    body
    headers := lib.emplace (res.headers.filter fun e => ¬ EqIgnoreCase e.1 "Content-Type") "Content-Type"
      contentType }

/-! ### Handlers -/

/-- Code that opens span events, makes calls on them and may throw. -/
abbrev Traced (S α : Type) := Prog EventLabel EventCall Exn S α

/-- A call of other code, which returned or threw. -/
def orThrow {S α : Type} : Except Exn α → Traced S α
  | .ok a => pure a
  | .error e => .throw e

/-- A handler, given the thread's `current_span`. -/
abbrev Handler := Request → SpanPtr → Traced Response Unit

/-- A block with a `pinpoint::helper::ScopedSpanEvent`. -/
def scopedSpanEvent {S α : Type} (span : SpanPtr) (operation : Str) (serviceType : ServiceType)
    (body : EventId → Traced S α) : Traced S α :=
  .scope ⟨span, operation, serviceType⟩ body

/-! ### Worker threads -/

/-- A worker thread of the HTTP server. -/
structure WorkerThread where
  log : AgentLog
  nextEvent : EventId
  nextSpan : SpanId
  currentSpan : SpanPtr
  deriving DecidableEq, Repr

namespace WorkerThread

def fresh : WorkerThread where
  log := []
  nextEvent := 0
  nextSpan := 0
  currentSpan := none

def setSpanContext (t : WorkerThread) (span : SpanPtr) : WorkerThread := { t with currentSpan := span }

def getSpanContext (t : WorkerThread) : SpanPtr := t.currentSpan

def record (t : WorkerThread) (c : AgentCall) : WorkerThread := { t with log := t.log ++ [.call c] }

/-- `agent->NewSpan`. -/
def newSpan (t : WorkerThread) (operation rpcPoint : Str) (reader : List (Str × Str)) : SpanId × WorkerThread :=
  (t.nextSpan, { t with nextSpan := t.nextSpan + 1 }.record (.newSpan t.nextSpan operation rpcPoint reader))

/-- Runs traced code on the thread: how it was left, its state, and the thread afterwards. -/
def runTraced {S α : Type} (t : WorkerThread) (p : Traced S α) (s : S) : Except Exn α × S × WorkerThread :=
  let r := p.run AgentCall.event ⟨t.log, t.nextEvent, s⟩
  (r.1, r.2.state, { t with log := r.2.log, nextEvent := r.2.next })

section

variable (t : WorkerThread)

@[simp] theorem setSpanContext_log (span : SpanPtr) : (t.setSpanContext span).log = t.log := rfl
@[simp] theorem setSpanContext_nextEvent (span : SpanPtr) :
    (t.setSpanContext span).nextEvent = t.nextEvent := rfl
@[simp] theorem setSpanContext_nextSpan (span : SpanPtr) : (t.setSpanContext span).nextSpan = t.nextSpan := rfl
@[simp] theorem setSpanContext_currentSpan (span : SpanPtr) : (t.setSpanContext span).currentSpan = span := rfl
@[simp] theorem record_log (c : AgentCall) : (t.record c).log = t.log ++ [.call c] := rfl
@[simp] theorem record_nextEvent (c : AgentCall) : (t.record c).nextEvent = t.nextEvent := rfl
@[simp] theorem record_nextSpan (c : AgentCall) : (t.record c).nextSpan = t.nextSpan := rfl
@[simp] theorem record_currentSpan (c : AgentCall) : (t.record c).currentSpan = t.currentSpan := rfl

variable {S α : Type} (p : Traced S α) (s : S)

@[simp] theorem runTraced_nextSpan : (t.runTraced p s).2.2.nextSpan = t.nextSpan := rfl
@[simp] theorem runTraced_currentSpan : (t.runTraced p s).2.2.currentSpan = t.currentSpan := rfl

end

end WorkerThread

end PinpointExamples
