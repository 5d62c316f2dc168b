import Mathlib
import PinpointExamples.Lib.JsonObject
import PinpointExamples.Demos.Cpptrace
import PinpointExamples.Demos.Mongo
import PinpointExamples.Demos.Mysql
import PinpointExamples.Demos.Redis

/-!
# The JSON bodies

The demos put their JSON bodies together by concatenation, with the strings of the request and of the calls behind
it between quotes as they are.  A body is faithful if it reads as the object with just these strings under their
keys; each is so exactly when no embedded string has a character that JSON wants escaped.
-/

namespace PinpointExamples

open Scoped JsonText

/-- The body that a handler sets. -/
def bodySet (handler : Handler) (req : Request) (span : SpanPtr) (w : World EventLabel AgentCall Response) : Str :=
  ((handler req span).run AgentCall.event w).2.state.body

/-! ### cpptrace -/

namespace Cpptrace

private theorem usersBody_faithful_iff (userId name clientIp : Str) :
    Faithful (usersBody userId name clientIp)
        [("id", .str userId), ("name", .str name), ("client_ip", .str clientIp)] ↔
      Plain userId ∧ Plain name ∧ Plain clientIp := by
  have htext : usersBody userId name clientIp =
      objectText ("id", .embedded userId) [("name", .embedded name), ("client_ip", .embedded clientIp)] := by
    unfold usersBody objectText
    simp [linesText, Member.line, Part.text]
  have hkeys : ∀ k ∈ (["id", "name", "client_ip"] : List Str), Plain k := by simp [Plain]
  have hdistinct : (["id", "name", "client_ip"] : List Str).Nodup := by simp
  exact faithful_iff_of_text htext hkeys hdistinct ⟨trivial, trivial, trivial⟩

private theorem outgoingBody_faithful_iff (targetUrl : Str) (statusCode : Int) (responseBody : Str) :
    Faithful (outgoingBody targetUrl statusCode responseBody)
        [("target_url", .str targetUrl), ("status_code", .num statusCode), ("response_body", .str responseBody)] ↔
      Plain targetUrl ∧ Plain responseBody := by
  have htext : outgoingBody targetUrl statusCode responseBody =
      objectText ("target_url", .embedded targetUrl) [("status_code", .literal (toString statusCode).toList
        (.num statusCode)), ("response_body", .embedded responseBody)] := by
    unfold outgoingBody objectText
    simp [linesText, Member.line, Part.text]
  have hkeys : ∀ k ∈ (["target_url", "status_code", "response_body"] : List Str), Plain k := by simp [Plain]
  have hdistinct : (["target_url", "status_code", "response_body"] : List Str).Nodup := by simp
  have hiff : _ ↔ Plain targetUrl ∧ True ∧ Plain responseBody :=
    faithful_iff_of_text htext hkeys hdistinct ⟨trivial, reads_toString statusCode, trivial⟩
  rwa [true_and] at hiff

/-- The call of `handle_outgoing` returns its result if the client can be made. -/
theorem callOutgoing_yields (lib : HttplibHeaders) {client : HttplibClient} (context : List (Str × Str))
    (span : SpanPtr) {host : Str} (path targetUrl : Str) (h : client.construct host = .ok ()) :
    (callOutgoing lib client context span host path targetUrl).Yields AgentCall.event
      (client.get host path (HttpHeaderReaderWriter.setAll lib (outgoingHeaders lib) context)) := by
  unfold callOutgoing
  rw [h]
  refine .scope fun event => .bind (.call _) (.bind (.call _) (.bind (.pure ()) ?_))
  dsimp only
  split
  · exact .bind (.call _) (.pure _)
  · exact .pure _

private theorem bodySet_handleUsers (lib : HttplibHeaders) (req : Request) (span : SpanPtr)
    (w : World EventLabel AgentCall Response) :
    bodySet (handleUsers lib) req span w =
      usersBody (userId req) (req.paramOr "name" "unknown") req.remoteAddr := rfl

/-- What the call of `handle_outgoing` returns for a request. -/
def outgoingResult (lib : HttplibHeaders) (client : HttplibClient) (context : List (Str × Str)) (req : Request) :
    HttplibResult :=
  client.get (req.paramOr "host" "localhost:9000") (req.paramOr "path" "/bar")
    (HttpHeaderReaderWriter.setAll lib (outgoingHeaders lib) context)

private theorem bodySet_handleOutgoing (lib : HttplibHeaders) {client : HttplibClient} (context : List (Str × Str))
    (req : Request) (span : SpanPtr) (w : World EventLabel AgentCall Response)
    (h : client.construct (req.paramOr "host" "localhost:9000") = .ok ()) :
    bodySet (handleOutgoing lib client context) req span w =
      outgoingBody ("http://" ++ req.paramOr "host" "localhost:9000" ++ req.paramOr "path" "/bar")
        ((outgoingResult lib client context req).response.elim 0 Response.status)
        ((outgoingResult lib client context req).response.elim [] Response.body) := by
  have hcall := callOutgoing_yields lib context span (req.paramOr "path" "/bar")
    ("http://" ++ req.paramOr "host" "localhost:9000" ++ req.paramOr "path" "/bar") h
  obtain ⟨w', hw, -⟩ := hcall.run_eq (w.opening ⟨span, "handle_outgoing", .unspecified⟩)
  unfold bodySet handleOutgoing scopedSpanEvent
  rw [Prog.run_scope, Prog.run_bind, hw, andThen_ok]
  show _ = outgoingBody _ ((client.get _ _ _).response.elim _ _) ((client.get _ _ _).response.elim _ _)
  rcases client.get (req.paramOr "host" "localhost:9000") (req.paramOr "path" "/bar")
    (HttpHeaderReaderWriter.setAll lib (outgoingHeaders lib) context) with ⟨_ | r, _ | errorMsg⟩
  all_goals rfl

end Cpptrace

/-! ### The `/run_demo` endpoints -/

private theorem runDemoFailureBody_faithful_iff (error : Str) :
    Faithful (runDemoFailureBody error) [("success", .bool false), ("error", .str error)] ↔ Plain error := by
  have htext : runDemoFailureBody error =
      objectText ("success", .literal "false" (.bool false)) [("error", .embedded error)] := by
    unfold runDemoFailureBody objectText
    simp [linesText, Member.line, Part.text]
  have hkeys : ∀ k ∈ (["success", "error"] : List Str), Plain k := by simp [Plain]
  have hdistinct : (["success", "error"] : List Str).Nodup := by simp
  have hiff : _ ↔ True ∧ Plain error := faithful_iff_of_text htext hkeys hdistinct ⟨reads_false, trivial⟩
  rwa [true_and] at hiff

private theorem Mongo.successBody_faithful_iff (uri : Str) :
    Faithful (successBody uri) [("success", .bool true), ("uri", .str uri),
        ("operations", .arr [.str "Insert", .str "Find", .str "Update", .str "Delete"])] ↔ Plain uri := by
  have htext : successBody uri =
      objectText ("success", .literal "true" (.bool true)) [("uri", .embedded uri), ("operations",
        .literal ('[' :: stringsText "Insert" ["Find", "Update", "Delete"])
          (.arr [.str "Insert", .str "Find", .str "Update", .str "Delete"]))] := by
    unfold successBody objectText
    simp [linesText, Member.line, Part.text, stringsText]
  have hkeys : ∀ k ∈ (["success", "uri", "operations"] : List Str), Plain k := by simp [Plain]
  have hdistinct : (["success", "uri", "operations"] : List Str).Nodup := by simp
  have hoperations : ∀ s ∈ (["Insert", "Find", "Update", "Delete"] : List Str), Plain s := by simp [Plain]
  have hiff : _ ↔ True ∧ Plain uri ∧ True :=
    faithful_iff_of_text htext hkeys hdistinct ⟨reads_true, trivial, reads_strings hoperations⟩
  rwa [true_and, and_true] at hiff

private theorem Redis.successBody_faithful_iff (endpoint : Str) :
    Faithful (successBody endpoint) [("success", .bool true), ("redis", .str endpoint),
        ("commands", .arr [.str "PING", .str "SET", .str "GET", .str "INCR", .str "DEL", .str "LPUSH",
          .str "LRANGE"])] ↔ Plain endpoint := by
  have htext : successBody endpoint =
      objectText ("success", .literal "true" (.bool true)) [("redis", .embedded endpoint), ("commands",
        .literal ('[' :: stringsText "PING" ["SET", "GET", "INCR", "DEL", "LPUSH", "LRANGE"])
          (.arr [.str "PING", .str "SET", .str "GET", .str "INCR", .str "DEL", .str "LPUSH", .str "LRANGE"]))] := by
    unfold successBody objectText
    simp [linesText, Member.line, Part.text, stringsText]
  have hkeys : ∀ k ∈ (["success", "redis", "commands"] : List Str), Plain k := by simp [Plain]
  have hdistinct : (["success", "redis", "commands"] : List Str).Nodup := by simp
  have hcommands : ∀ s ∈ (["PING", "SET", "GET", "INCR", "DEL", "LPUSH", "LRANGE"] : List Str), Plain s := by
    simp [Plain]
  have hiff : _ ↔ True ∧ Plain endpoint ∧ True :=
    faithful_iff_of_text htext hkeys hdistinct ⟨reads_true, trivial, reads_strings hcommands⟩
  rwa [true_and, and_true] at hiff

/-! ### The database demo -/

private theorem Mysql.executionFailedBody_faithful_iff (what : Str) :
    Faithful (executionFailedBody what)
        [("success", .bool false), ("error", .str "Demo execution failed"), ("details", .str what)] ↔ Plain what := by
  have htext : executionFailedBody what =
      objectText ("success", .literal "false" (.bool false))
        [("error", .embedded "Demo execution failed"), ("details", .embedded what)] := by
    unfold executionFailedBody objectText
    simp [linesText, Member.line, Part.text]
  have hkeys : ∀ k ∈ (["success", "error", "details"] : List Str), Plain k := by simp [Plain]
  have hdistinct : (["success", "error", "details"] : List Str).Nodup := by simp
  have herror : Plain ("Demo execution failed" : Str) := by simp [Plain]
  have hiff : _ ↔ True ∧ Plain ("Demo execution failed" : Str) ∧ Plain what :=
    faithful_iff_of_text htext hkeys hdistinct ⟨reads_false, trivial, trivial⟩
  rwa [true_and, and_iff_right herror] at hiff

private theorem Mysql.bodySet_handleDbDemoAround (lib : HttplibHeaders)
    {block : SpanPtr → Traced Response (Int × Str)}
    (req : Request) {span : SpanPtr} {w : World EventLabel AgentCall Response} {e : Exn}
    (h : ((block span).run AgentCall.event (w.opening ⟨span, "handle_db_demo", .unspecified⟩)).1 = .error e) :
    bodySet (handleDbDemoAround lib block) req span w = executionFailedBody e.what := by
  have hattempt := Prog.run_attempt_of_error AgentCall.event _ h
  unfold bodySet handleDbDemoAround scopedSpanEvent
  rw [Prog.run_scope, Prog.run_bind, hattempt]
  rfl

/-! ### All of them -/

/-- The bodies are faithful exactly when no embedded string has a quote, a backslash or a control character. -/
theorem json_bodies_faithful_iff (lib : HttplibHeaders) (req : Request) (span : SpanPtr)
    (w : World EventLabel AgentCall Response) :
    (Faithful (bodySet (Cpptrace.handleUsers lib) req span w)
        [("id", .str (Cpptrace.userId req)), ("name", .str (req.paramOr "name" "unknown")),
          ("client_ip", .str req.remoteAddr)] ↔
      Plain (Cpptrace.userId req) ∧ Plain (req.paramOr "name" "unknown") ∧ Plain req.remoteAddr) ∧
    (∀ client context, client.construct (req.paramOr "host" "localhost:9000") = .ok () →
      let response := (Cpptrace.outgoingResult lib client context req).response
      (Faithful (bodySet (Cpptrace.handleOutgoing lib client context) req span w)
          [("target_url", .str ("http://" ++ req.paramOr "host" "localhost:9000" ++ req.paramOr "path" "/bar")),
            ("status_code", .num (response.elim 0 Response.status : Int)),
            ("response_body", .str (response.elim [] Response.body))] ↔
        (Plain (req.paramOr "host" "localhost:9000") ∧ Plain (req.paramOr "path" "/bar")) ∧
          Plain (response.elim [] Response.body))) ∧
    (∀ (uri : Str) (o : Mongo.MongoOutcomes),
      Faithful (bodySet (Mongo.handleRunDemo lib uri o) req span w)
          (if o.result.1 then [("success", .bool true), ("uri", .str uri),
            ("operations", .arr [.str "Insert", .str "Find", .str "Update", .str "Delete"])]
          else [("success", .bool false), ("error", .str o.result.2)]) ↔
        Plain (if o.result.1 then uri else o.result.2)) ∧
    (∀ (endpoint : Str) (o : Redis.RedisOutcomes),
      Faithful (bodySet (Redis.handleRunDemo lib endpoint o) req span w)
          (if o.connection.result.1 then [("success", .bool true), ("redis", .str endpoint),
            ("commands", .arr [.str "PING", .str "SET", .str "GET", .str "INCR", .str "DEL", .str "LPUSH",
              .str "LRANGE"])]
          else [("success", .bool false), ("error", .str o.connection.result.2)]) ↔
        Plain (if o.connection.result.1 then endpoint else o.connection.result.2)) ∧
    (∀ block e, ((block span).run AgentCall.event (w.opening ⟨span, "handle_db_demo", .unspecified⟩)).1 = .error e →
      (Faithful (bodySet (Mysql.handleDbDemoAround lib block) req span w)
          [("success", .bool false), ("error", .str "Demo execution failed"), ("details", .str e.what)] ↔
        Plain e.what)) := by
  refine ⟨?_, ?_, ?_, ?_, ?_⟩
  · rw [Cpptrace.bodySet_handleUsers]
    exact Cpptrace.usersBody_faithful_iff _ _ _
  · intro client context h
    -- the URL is put together from the two parameters
    have hurl : Plain ("http://" ++ req.paramOr "host" "localhost:9000" ++ req.paramOr "path" "/bar" : Str) ↔
        Plain (req.paramOr "host" "localhost:9000") ∧ Plain (req.paramOr "path" "/bar") := by
      have hscheme : Plain ("http://" : Str) := by simp [Plain]
      rw [plain_append, plain_append, and_iff_right hscheme]
    dsimp only
    rw [Cpptrace.bodySet_handleOutgoing lib context req span w h, ← hurl]
    exact Cpptrace.outgoingBody_faithful_iff _ _ _
  · intro uri o
    have hbody : bodySet (Mongo.handleRunDemo lib uri o) req span w = _ :=
      run_body lib (Mongo.successBody uri) req (Mongo.runMongoDemo_yields o span) w
    rw [hbody]
    by_cases hs : o.result.1 = true
    · simp only [if_pos hs]
      exact Mongo.successBody_faithful_iff uri
    · simp only [if_neg hs]
      exact runDemoFailureBody_faithful_iff _
  · intro endpoint o
    have hbody : bodySet (Redis.handleRunDemo lib endpoint o) req span w = _ :=
      run_body lib (Redis.successBody endpoint) req (Redis.runRedisDemo_yields endpoint o span) w
    rw [hbody]
    by_cases hs : o.connection.result.1 = true
    · simp only [if_pos hs]
      exact Redis.successBody_faithful_iff endpoint
    · simp only [if_neg hs]
      exact runDemoFailureBody_faithful_iff _
  · intro block e h
    rw [Mysql.bodySet_handleDbDemoAround lib req h]
    exact Mysql.executionFailedBody_faithful_iff _

/-- `GET /users/7?name=O"Neil`. -/
def quotedNameRequest : Request where
  method := "GET"
  path := "/users/7"
  matchedRoute := "/users/:id"
  remoteAddr := "10.0.0.1"
  localAddr := "10.0.0.2"
  localPort := 8088
  headers := []
  params := [("name", "O\"Neil")]
  captures := ["/users/7", "7"]

/-- A server that answers every request with a JSON body. -/
def jsonClient : HttplibClient where
  construct _ := .ok ()
  get _ _ _ := ⟨some ⟨200, [], "\x7b\"ok\": true\x7d"⟩, .success⟩

/-- The world a first request starts in. -/
def freshWorld : World EventLabel AgentCall Response := ⟨[], 0, ⟨-1, [], []⟩⟩

/-- A JSON body that is passed on does not survive; a plain message of an exception does. -/
theorem json_response_not_passed_on :
    ¬ Faithful (bodySet (Cpptrace.handleOutgoing .firstFound jsonClient []) quotedNameRequest (some 0) freshWorld)
        [("target_url", .str ("http://" ++ "localhost:9000" ++ "/bar")), ("status_code", .num (200 : Int)),
          ("response_body", .str "\x7b\"ok\": true\x7d")] ∧
    Faithful (bodySet (Mysql.handleDbDemoAround .firstFound fun _ => .throw (.stdException "lost")) quotedNameRequest
        (some 0) freshWorld)
      [("success", .bool false), ("error", .str "Demo execution failed"), ("details", .str "lost")] := by
  have hiff := json_bodies_faithful_iff .firstFound quotedNameRequest (some 0) freshWorld
  constructor
  · intro h
    have hplain := ((hiff.2.1 jsonClient [] rfl).1 h).2
    have hquote : '"' ∈ ("\x7b\"ok\": true\x7d" : Str) := by simp
    exact (hplain '"' hquote).1 rfl
  · have hplain : Plain ("lost" : Str) := by simp [Plain]
    exact (hiff.2.2.2.2 (fun _ => .throw (.stdException "lost")) (.stdException "lost") rfl).2 hplain

/-- A quote in the name of a user breaks the body. -/
theorem users_body_broken_by_quote :
    ¬ Faithful (bodySet (Cpptrace.handleUsers .firstFound) quotedNameRequest (some 0) freshWorld)
      [("id", .str "7"), ("name", .str "O\"Neil"), ("client_ip", .str "10.0.0.1")] := by
  intro h
  rw [Cpptrace.bodySet_handleUsers] at h
  have hplain := ((Cpptrace.usersBody_faithful_iff "7" "O\"Neil" "10.0.0.1").1 h).2.1
  have hquote : '"' ∈ ("O\"Neil" : Str) := by simp
  exact (hplain '"' hquote).1 rfl

end PinpointExamples
