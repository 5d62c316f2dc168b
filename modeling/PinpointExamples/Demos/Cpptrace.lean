import Mathlib
import PinpointExamples.Server.WrapHandler

/-!
# The cpptrace demo

The handlers of `/users/:id` and `/outgoing`.  `handle_outgoing` calls another server with a `httplib::Client`,
which is a parameter of the model (`HttplibClient`); its constructor may throw for some hosts, and the exception
leaves the handler.
-/

namespace PinpointExamples

open Scoped Transition

/-- `httplib::Error`, with the text of its `to_string`. -/
inductive HttplibError
  | success
  | failure (text : Str)
  deriving DecidableEq, Repr

/-- `httplib::Result`: the response is there if the call got one. -/
structure HttplibResult where
  response : Option Response
  error : HttplibError
  deriving DecidableEq, Repr

/-- `httplib::Client`: its constructor for a host, and `Get` of a path with headers. -/
structure HttplibClient where
  construct : Str → Except Exn Unit
  get : Str → Str → Headers → HttplibResult

namespace Cpptrace

def traceRequest (lib : HttplibHeaders) : Request → WorkerThread → SpanId × WorkerThread :=
  traceRequestAs lib "C++ Cpptrace Demo"

def wrapHandler (lib : HttplibHeaders) :
    Handler → Request → Response → WorkerThread → Except Exn Unit × Response × WorkerThread :=
  wrapHandlerAs lib "C++ Cpptrace Demo"

/-- The body of `handle_users`. -/
def usersBody (userId name clientIp : Str) : Str :=
  "\x7b\n" ++ "  \"id\": \"" ++ userId ++ "\",\n" ++ "  \"name\": \"" ++ name ++ "\",\n" ++
    "  \"client_ip\": \"" ++ clientIp ++ "\"\n" ++ "\x7d"

/-- The `user_id` of `handle_users`. -/
def userId (req : Request) : Str :=
  match req.captures[1]? with
  | some m => m
  | none => []

def handleUsers (lib : HttplibHeaders) : Handler := fun req span =>
  scopedSpanEvent span "handle_users" .unspecified fun _ => do
    let name := req.paramOr "name" "unknown"
    let clientIp := req.remoteAddr
    .modify fun res =>
      { res.setContent lib (usersBody (userId req) name clientIp) "application/json" with status := 200 }

/-- The body of `handle_outgoing`. -/
def outgoingBody (targetUrl : Str) (statusCode : Int) (responseBody : Str) : Str :=
  "\x7b\n" ++ "  \"target_url\": \"" ++ targetUrl ++ "\",\n" ++
    "  \"status_code\": " ++ (toString statusCode).toList ++ ",\n" ++
    "  \"response_body\": \"" ++ responseBody ++ "\"\n" ++ "\x7d"

/-- The headers `handle_outgoing` starts from. -/
def outgoingHeaders (lib : HttplibHeaders) : Headers :=
  HttpHeaderReaderWriter.setAll lib []
    [("User-Agent", "cpptrace-demo"), ("Accept", "application/json"), ("Accept-Language", "en-US,en;q=0.5")]

/-- The block of `handle_outgoing` that makes the call; `context` are the pairs that `InjectContext` sets. -/
def callOutgoing (lib : HttplibHeaders) (client : HttplibClient) (context : List (Str × Str)) (span : SpanPtr)
    (host path targetUrl : Str) : Traced Response HttplibResult :=
  scopedSpanEvent span "httplib::Client.Get" .unspecified fun event => do
    let headers := outgoingHeaders lib
    .call (.traceHttpClientRequest event host targetUrl headers)
    .call (.injectContext event)
    let headers := HttpHeaderReaderWriter.setAll lib headers context
    orThrow (client.construct host)
    let externalRes := client.get host path headers
    match externalRes.response with
    | some r => .call (.traceHttpClientResponse event r.status r.headers)
    | none => pure ()
    pure externalRes

def handleOutgoing (lib : HttplibHeaders) (client : HttplibClient) (context : List (Str × Str)) : Handler :=
  fun req span =>
    scopedSpanEvent span "handle_outgoing" .unspecified fun event => do
      let host := req.paramOr "host" "localhost:9000"
      let path := req.paramOr "path" "/bar"
      let targetUrl := "http://" ++ host ++ path
      let externalRes ← callOutgoing lib client context span host path targetUrl
      let body := match externalRes.response with
        | some r => outgoingBody targetUrl r.status r.body
        | none => outgoingBody targetUrl 0 []
      match externalRes.error with
      | .success => pure ()
      | .failure errorMsg =>
        .call (.setError event (some "HandleOutgoingError")
          ("Outgoing call failed: " ++ errorMsg ++ " - Unable to connect to " ++ host))
      .modify fun res => { res.setContent lib body "application/json" with status := 200 }

/-! ### A request that leaks its span -/

/-- A client whose constructor rejects every host. -/
def rejectingClient : HttplibClient where
  construct _ := .error (.stdException "invalid host")
  get _ _ _ := ⟨none, .failure "Could not establish connection"⟩

/-- `GET /outgoing?host=bad://host`. -/
def badHostJob : Job where
  handler := handleOutgoing .firstFound rejectingClient []
  req := {
    method := "GET", path := "/outgoing", matchedRoute := "/outgoing", remoteAddr := "10.0.0.1"
    localAddr := "10.0.0.2", localPort := 8088, headers := [], params := [("host", "bad://host")], captures := [] }
  res := ⟨-1, [], []⟩

/-- The constructor of the client throws: the wrapper is left without ending the span of the request, which stays
the thread's current span. -/
theorem handleOutgoing_leaks_span :
    (wrapHandler .firstFound badHostJob.handler badHostJob.req badHostJob.res .fresh).2.2 =
      (answer .firstFound "C++ Cpptrace Demo" .fresh badHostJob).2 ∧
    (answer .firstFound "C++ Cpptrace Demo" .fresh badHostJob).2.currentSpan = some 0 ∧
    (answer .firstFound "C++ Cpptrace Demo" .fresh badHostJob).2.log.count (.call (.endSpan 0)) = 0 ∧
    ¬ AllSteps (serve .firstFound "C++ Cpptrace Demo")
      (fun t job => ExitOk (answer .firstFound "C++ Cpptrace Demo" t job).2
        (traceRequestAs .firstFound "C++ Cpptrace Demo" job.req t).1) .fresh [badHostJob] := by
  have hspan : (answer .firstFound "C++ Cpptrace Demo" .fresh badHostJob).2.currentSpan = some 0 := rfl
  refine ⟨rfl, hspan, rfl, ?_⟩
  intro h
  have hcleared := h.1.cleared
  rw [hspan] at hcleared
  cases hcleared

end Cpptrace

end PinpointExamples
