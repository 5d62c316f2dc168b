import Mathlib
import PinpointExamples.Demos.RunDemo

/-!
# The Redis demo

`handle_run_demo` sends twelve commands over a connection made for the request.  What hiredis does is a parameter
(`RedisOutcomes`): the connection succeeds or not, and each command gets a reply or NULL.
-/

namespace PinpointExamples.Redis

open Scoped

def traceRequest (lib : HttplibHeaders) : Request → WorkerThread → SpanId × WorkerThread :=
  traceRequestAs lib "RedisDemo"

def wrapHandler (lib : HttplibHeaders) :
    Handler → Request → Response → WorkerThread → Except Exn Unit × Response × WorkerThread :=
  wrapHandlerAs lib "RedisDemo"

/-- `REDIS_REPLY_…` -/
inductive ReplyType
  | string
  | array
  | integer
  | nil
  | status
  | error
  deriving DecidableEq, Repr

/-- What `redisvCommand` returned: NULL, with the `errstr` of the context, or a reply with its `str`. -/
inductive Reply
  | null (errstr : Str)
  | reply (type : ReplyType) (str : Str)
  deriving DecidableEq, Repr

/-- The reply is neither NULL nor an error. -/
def Reply.Good (r : Reply) : Prop := ∃ type str, r = .reply type str ∧ type ≠ .error

/-- What `redisConnectWithTimeout` returned. -/
inductive Connection
  | null
  | failed (errstr : Str)
  | connected
  deriving DecidableEq, Repr

/-- The connection, and the outcome of the `k`-th command. -/
structure RedisOutcomes where
  connection : Connection
  reply : Nat → Reply

/-- `snprintf` for formats whose only conversions are `%s` (and `%d` with the digits as the argument). -/
def format : Str → List Str → Str
  | '%' :: 's' :: f, arg :: args => arg ++ format f args
  | '%' :: 'd' :: f, arg :: args => arg ++ format f args
  | c :: f, args => c :: format f args
  | [], _ => []

/-- `execute_command`; `command_buf` has room for 1023 characters. -/
def executeCommand {S : Type} (endpoint : Str) (reply : Reply) (span : SpanPtr) (fmt : Str) (args : List Str) :
    Traced S Unit :=
  scopedSpanEvent span "redis_command" .redis fun spanEvent => do
    let commandBuf := (format fmt args).take 1023
    .call (.setEndPoint spanEvent endpoint)
    .call (.setDestination spanEvent "redis-server")
    .call (.setAnnotationStr spanEvent .api commandBuf)
    match reply with
    | .null errstr => .call (.setError spanEvent none errstr)
    | .reply .error str => .call (.setError spanEvent none str)
    | .reply _ _ => pure ()

/-- A command as the code writes it: the format and its arguments. -/
structure Command where
  fmt : Str
  args : List Str

/-- The commands of `run_redis_demo`, in order. -/
def demoCommands : List Command :=
  [⟨"PING", []⟩, ⟨"SET %s %s", ["foo", "hello world"]⟩, ⟨"GET foo", []⟩, ⟨"INCR counter", []⟩,
    ⟨"INCR counter", []⟩, ⟨"DEL mylist", []⟩] ++
  (List.range 5).map (fun j => ⟨"LPUSH mylist element-%s", [(format "%d" [(toString j).toList]).take 63]⟩) ++
  [⟨"LRANGE mylist 0 -1", []⟩]

example : demoCommands.length = 12 := rfl

/-- Executes commands one after the other; the next one is the `k`-th of the connection. -/
def executeCommands {S : Type} (endpoint : Str) (reply : Nat → Reply) (span : SpanPtr) :
    Nat → List Command → Traced S Unit
  | _, [] => pure ()
  | k, c :: cs => do
    executeCommand endpoint (reply k) span c.fmt c.args
    executeCommands endpoint reply span (k + 1) cs

/-- The result, and the text left in `error`. -/
def runRedisDemo {S : Type} (endpoint : Str) (o : RedisOutcomes) (span : SpanPtr) : Traced S (Bool × Str) :=
  match o.connection with
  | .null => pure (false, "can't allocate redis context")
  | .failed errstr => pure (false, errstr)
  | .connected => do
    executeCommands endpoint o.reply span 0 demoCommands
    pure (true, [])

def successBody (endpoint : Str) : Str :=
  "\x7b\n" ++ "  \"success\": true,\n" ++ "  \"redis\": \"" ++ endpoint ++ "\",\n" ++
    "  \"commands\": [\"PING\", \"SET\", \"GET\", \"INCR\", \"DEL\", \"LPUSH\", \"LRANGE\"]\n" ++ "\x7d"

/-- `handle_run_demo`; `endpoint` is `g_redis_endpoint`. -/
def handleRunDemo (lib : HttplibHeaders) (endpoint : Str) (o : RedisOutcomes) : Handler :=
  handleRunDemoAs lib (runRedisDemo endpoint o) (successBody endpoint)

/-! ### What the demo answers -/

/-- Every command of the demo got a reply that is not an error. -/
def RedisOutcomes.RepliesGood (o : RedisOutcomes) : Prop := ∀ k < demoCommands.length, (o.reply k).Good

private theorem executeCommand_yields {S : Type} (endpoint : Str) (reply : Reply) (span : SpanPtr) (fmt : Str)
    (args : List Str) : (executeCommand (S := S) endpoint reply span fmt args).Yields AgentCall.event () := by
  refine .scope fun spanEvent => .bind (.call _) (.bind (.call _) (.bind (.call _) ?_))
  split
  · exact .call _
  · exact .call _
  · exact .pure ()

/-- The commands return, whatever their replies are. -/
theorem executeCommands_yields {S : Type} (endpoint : Str) (reply : Nat → Reply) (span : SpanPtr) (k : Nat)
    (commands : List Command) :
    (executeCommands (S := S) endpoint reply span k commands).Yields AgentCall.event () := by
  induction commands generalizing k with
  | nil => exact .pure ()
  | cons c cs ih => exact .bind (executeCommand_yields endpoint _ span _ _) (ih (k + 1))

/-- What the demo answers, and the text it leaves in `error`: only the connection counts. -/
def Connection.result : Connection → Bool × Str
  | .null => (false, "can't allocate redis context")
  | .failed errstr => (false, errstr)
  | .connected => (true, [])

theorem runRedisDemo_yields {S : Type} (endpoint : Str) (o : RedisOutcomes) (span : SpanPtr) :
    (runRedisDemo (S := S) endpoint o span).Yields AgentCall.event o.connection.result := by
  unfold runRedisDemo
  cases o.connection with
  | null => exact .pure _
  | failed errstr => exact .pure _
  | connected => exact .bind (executeCommands_yields endpoint _ span _ _) (.pure _)

theorem Connection.result_of_ne {c : Connection} (h : c ≠ .connected) : ∃ error, c.result = (false, error) := by
  cases c with
  | null => exact ⟨_, rfl⟩
  | failed errstr => exact ⟨errstr, rfl⟩
  | connected => exact absurd rfl h

end PinpointExamples.Redis
