import Mathlib
import PinpointExamples.Carrier.Civetweb
import PinpointExamples.Server.Agent

/-!
# The handlers of the CivetWeb example

The CivetWeb example is written against the C interface of the agent, whose handles may be null.  A handler returns
its status; what it calls and what it writes to the connection are returned with it.
-/

namespace PinpointExamples.Civetweb

/-- `mg_request_info`, as far as the handlers read it. -/
structure MgRequestInfo where
  requestMethod : Str
  requestUri : Str
  remoteAddr : Str
  remotePort : Nat
  httpHeaders : List (Str × Str)
  deriving DecidableEq, Repr

/-- The calls of the C interface; a null handle is `none`. -/
inductive PtCall
  | newSpanWithReader (span : SpanPtr) (operation rpcPoint : Str) (reader : List (Str × Str))
  | traceHttpServerRequest (span : SpanId) (remoteAddr endPoint : Str) (reader : List (Str × Str))
  | newEvent (span : SpanId) (event : Option EventId) (operation : Str)
  | eventEnd (event : Option EventId)
  | eventDestroy (event : Option EventId)
  | traceHttpServerResponse (span : SpanId) (urlPattern method : Str) (status : Int) (reader : List (Str × Str))
  | spanEnd (span : SpanId)
  | spanDestroy (span : SpanId)
  deriving DecidableEq, Repr

/-- The status a handler returns, the calls it made, and the text it wrote. -/
structure Handled where
  status : Int
  calls : List PtCall
  written : Str
  deriving DecidableEq, Repr

/-- `snprintf` to a buffer of `size` characters, of which the last one is the NUL. -/
def snprintf (size : Nat) (text : Str) : Str := text.take (size - 1)

/-- `"%s:%d"` of the peer, in a buffer of 64. -/
def remoteAddrOf (req : MgRequestInfo) : Str :=
  snprintf 64 (req.remoteAddr ++ ":" ++ (toString req.remotePort).toList)

def contentLength (body : Str) : Str := "Content-Length: " ++ (toString body.length).toList ++ "\r\n"

def usersJson : Str :=
  "[\n" ++ "  \x7b\"id\": 1, \"name\": \"Alice\", \"email\": \"alice@example.com\"\x7d,\n" ++
    "  \x7b\"id\": 2, \"name\": \"Bob\", \"email\": \"bob@example.com\"\x7d,\n" ++
    "  \x7b\"id\": 3, \"name\": \"Charlie\", \"email\": \"charlie@example.com\"\x7d\n" ++ "]\n"

def usersResponseArray : StaticHeaderArray where
  pairs := [cStr "Content-Type", cStr "application/json", cStr "X-Powered-By", cStr "Pinpoint-CivetWeb"]
  count := 2
  bound := by decide

/-- `handle_users`, where the agent returns the given handles. -/
def handleUsers (req : MgRequestInfo) (span : SpanPtr) (event : Option EventId) : Handled :=
  let newSpan : PtCall := .newSpanWithReader span req.requestMethod req.requestUri req.httpHeaders
  match span with
  | none =>
    let body : Str := "Tracing initialization failed\n"
    { status := 500
      calls := [newSpan]
      written := "HTTP/1.1 500 Internal Server Error\r\n" ++ "Content-Type: text/plain\r\n" ++ contentLength body ++
        "\r\n" ++ body }
  | some s =>
    { status := 200
      calls := [newSpan, .traceHttpServerRequest s (remoteAddrOf req) req.requestUri req.httpHeaders,
        .newEvent s event "handle_users", .eventEnd event, .eventDestroy event,
        .traceHttpServerResponse s req.requestUri req.requestMethod 200 usersResponseArray.entries,
        .spanEnd s, .spanDestroy s]
      written := "HTTP/1.1 200 OK\r\n" ++ "Content-Type: application/json\r\n" ++ contentLength usersJson ++
        "X-Powered-By: Pinpoint-CivetWeb\r\n" ++ "\r\n" ++ usersJson }

def healthJson : Str := "\x7b\"status\": \"healthy\", \"service\": \"civetweb-example\"\x7d\n"

def healthResponseArray : StaticHeaderArray where
  pairs := [cStr "Content-Type", cStr "application/json"]
  count := 1
  bound := by decide

/-- `handle_health`, where the agent returns the given handles. -/
def handleHealth (req : MgRequestInfo) (span : SpanPtr) (event : Option EventId) : Handled where
  status := 200
  calls :=
    .newSpanWithReader span req.requestMethod req.requestUri req.httpHeaders ::
      match span with
      | none => []
      | some s =>
        [.traceHttpServerRequest s (remoteAddrOf req) req.requestUri req.httpHeaders,
          .newEvent s event "handle_health", .eventEnd event, .eventDestroy event,
          .traceHttpServerResponse s req.requestUri req.requestMethod 200 healthResponseArray.entries,
          .spanEnd s, .spanDestroy s]
  written := "HTTP/1.1 200 OK\r\n" ++ "Content-Type: application/json\r\n" ++ contentLength healthJson ++ "\r\n" ++
    healthJson

end PinpointExamples.Civetweb
