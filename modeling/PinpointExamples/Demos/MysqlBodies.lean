import Mathlib
import PinpointExamples.Demos.MysqlReport

/-!
# The bodies of the MySQL demo

Both endpoints write their JSON by hand, a member a line.  Whatever the database does, a client can read each answer,
and reads one value only: the report of the demo, the advice what to do without a connection, or the description of
the service.
-/

namespace PinpointExamples.Mysql

open Scoped JsonText

/-! ### The members -/

/-- A member whose value is a string. -/
def stringField (key s : Str) : Field := ⟨key, quoted s, .str s⟩

private theorem stringField_sound {key s : Str} (hkey : Plain key) (hs : Plain s) : (stringField key s).Sound :=
  ⟨hkey, ReadsAs.quoted hs⟩

/-- A member whose value is an object, with a member a line. -/
def objectField (key : Str) (f : Field) (fs : List Field) : Field :=
  ⟨key, '\x7b' :: fieldLines 4 2 f fs, .obj ((f :: fs).map fun f' => (f'.key, f'.value))⟩

private theorem objectField_sound {key : Str} {f : Field} {fs : List Field} (hkey : Plain key)
    (h : ∀ f' ∈ f :: fs, f'.Sound) : (objectField key f fs).Sound :=
  ⟨hkey, ReadsAs.fields 4 2 h⟩

/-- The first piece of advice, and the others. -/
def installServer : Str := "Install MySQL Server 8.0+ with X Protocol"

def moreInstructions : List Str :=
  ["Start MySQL service on localhost:3306", "Create test database: CREATE DATABASE test;",
    "Update connection settings if needed"]

def successField : Field := ⟨"success", "false", .bool false⟩

def instructionsField : Field where
  key := "instructions"
  text := '[' :: itemLines 4 2 (quoted installServer) (moreInstructions.map quoted)
  value := .arr ((installServer :: moreInstructions).map .str)

/-- The members of the answer without a connection, after the first one. -/
def failedFields : List Field :=
  [stringField "error" "Database connection failed",
    stringField "message" "Please ensure MySQL is running and accessible", instructionsField]

def databaseField : Field :=
  objectField "database" (stringField "host" "localhost")
    [stringField "port" "3306", stringField "database" "test", stringField "protocol" "MySQL X DevAPI"]

def endpointsField : Field :=
  objectField "endpoints" (stringField "/db-demo" "Run complete database demo with tracing")
    [stringField "/status" "Get service status and configuration"]

def serviceField : Field := stringField "service" "MySQL Database Demo with Pinpoint Tracing"

/-- The members of the description between the first and the last one. -/
def statusFields : List Field := [stringField "version" "1.0.0", databaseField, endpointsField]

def timestampField (timestamp : Int) : Field := stringField "timestamp" (toString timestamp).toList

def connectionFailedValue : Value := .obj ((successField :: failedFields).map fun f => (f.key, f.value))

def statusValue (timestamp : Int) : Value :=
  .obj ((serviceField :: (statusFields ++ [timestampField timestamp])).map fun f => (f.key, f.value))

/-! ### The bodies -/

private theorem connectionFailedBody_eq :
    connectionFailedBody = '\x7b' :: fieldLines 2 0 successField failedFields := by
  decide +kernel

private theorem instructionsField_sound : instructionsField.Sound := by
  have hplain : ∀ s ∈ installServer :: moreInstructions, Plain s := by
    unfold installServer moreInstructions
    simp only [List.forall_mem_cons]
    refine ⟨?_, ?_, ?_, ?_, List.forall_mem_nil _⟩
    all_goals simp [Plain]
  have hkey : Plain ("instructions" : Str) := by simp [Plain]
  have hitems := ReadsAs.strings 4 2 hplain
  exact ⟨hkey, hitems⟩

private theorem successField_sound : successField.Sound := by
  have hkey : Plain ("success" : Str) := by simp [Plain]
  exact ⟨hkey, ReadsAs.false⟩

private theorem readsAs_connectionFailedBody : ReadsAs connectionFailedBody connectionFailedValue := by
  have hsound : ∀ f ∈ successField :: failedFields, f.Sound := by
    unfold failedFields
    simp only [List.forall_mem_cons]
    refine ⟨successField_sound, stringField_sound ?_ ?_, stringField_sound ?_ ?_, instructionsField_sound,
      List.forall_mem_nil _⟩
    all_goals simp [Plain]
  rw [connectionFailedBody_eq]
  exact ReadsAs.fields 2 0 hsound

/-- The description up to the time. -/
def statusText : Str :=
  "\x7b\n" ++ "  \"service\": \"MySQL Database Demo with Pinpoint Tracing\",\n" ++ "  \"version\": \"1.0.0\",\n" ++
    "  \"database\": \x7b\n" ++ "    \"host\": \"localhost\",\n" ++ "    \"port\": \"3306\",\n" ++
    "    \"database\": \"test\",\n" ++ "    \"protocol\": \"MySQL X DevAPI\"\n" ++ "  \x7d,\n" ++
    "  \"endpoints\": \x7b\n" ++ "    \"/db-demo\": \"Run complete database demo with tracing\",\n" ++
    "    \"/status\": \"Get service status and configuration\"\n" ++ "  \x7d,\n" ++
    "  \"timestamp\": \""

private theorem statusText_eq :
    statusText = '\x7b' :: (firstLines 2 (serviceField :: statusFields) ++ (indent 2 ++ "\"timestamp\": \"")) := by
  decide +kernel

private theorem dbStatusBody_eq (timestamp : Int) :
    dbStatusBody timestamp =
      '\x7b' :: fieldLines 2 0 serviceField (statusFields ++ [timestampField timestamp]) := by
  have hbody : dbStatusBody timestamp = statusText ++ (toString timestamp).toList ++ "\"\n" ++ "\x7d" := rfl
  rw [hbody, statusText_eq, fieldLines_concat]
  simp [timestampField, stringField, Field.line, indent, memberText, quoted]

private theorem databaseField_sound : databaseField.Sound := by
  apply objectField_sound (by simp [Plain])
  simp only [List.forall_mem_cons]
  refine ⟨stringField_sound ?_ ?_, stringField_sound ?_ ?_, stringField_sound ?_ ?_, stringField_sound ?_ ?_,
    List.forall_mem_nil _⟩
  all_goals simp [Plain]

private theorem endpointsField_sound : endpointsField.Sound := by
  apply objectField_sound (by simp [Plain])
  simp only [List.forall_mem_cons]
  refine ⟨stringField_sound ?_ ?_, stringField_sound ?_ ?_, List.forall_mem_nil _⟩
  all_goals simp [Plain]

private theorem readsAs_dbStatusBody (timestamp : Int) :
    ReadsAs (dbStatusBody timestamp) (statusValue timestamp) := by
  have hsound : ∀ f ∈ serviceField :: (statusFields ++ [timestampField timestamp]), f.Sound := by
    unfold statusFields
    simp only [List.cons_append, List.nil_append, List.forall_mem_cons]
    refine ⟨stringField_sound ?_ ?_, stringField_sound ?_ ?_, databaseField_sound, endpointsField_sound,
      stringField_sound ?_ (plain_toString timestamp), List.forall_mem_nil _⟩
    all_goals simp [Plain]
  rw [dbStatusBody_eq]
  exact ReadsAs.fields 2 0 hsound

/-! ### The answers -/

/-- The answer of `handle_db_status` to a request. -/
def dbStatusResponse (lib : HttplibHeaders) (timestamp : Int) (req : Request) (span : SpanPtr)
    (w : World EventLabel AgentCall Response) : Response :=
  ((handleDbStatus lib timestamp req span).run AgentCall.event w).2.state

/-- What the body of an answer of `handle_db_demo` should be read as. -/
def demoAnswerValue (session : Except Exn Unit) (timestamp : Int) : Value :=
  if connect session then successValue (demoValue demoOperations timestamp) else connectionFailedValue

section answers

variable (lib : HttplibHeaders) (config : DatabaseConfig) (outcome : Nat → Except Exn Unit) (timestamp : Int)
  (req : Request) (span : SpanPtr) (w : World EventLabel AgentCall Response)

/-- Without a session the answer is 503. -/
theorem answer_of_not_connect {session : Except Exn Unit} (h : connect session = false) :
    (dbDemoResponse lib config session outcome timestamp req span w).status = 503 ∧
      (dbDemoResponse lib config session outcome timestamp req span w).body = connectionFailedBody := by
  have hblock : (dbDemoBlock config session outcome timestamp span).Yields AgentCall.event
      (503, connectionFailedBody) := by
    unfold dbDemoBlock
    rw [if_neg (by simp [h])]
    exact .pure _
  obtain ⟨w', hw, -⟩ := Prog.Records.attempt hblock (w.opening ⟨span, "handle_db_demo", .unspecified⟩)
  have hresponse : dbDemoResponse lib config session outcome timestamp req span w =
      { w'.state with status := 503 }.setContent lib connectionFailedBody "application/json" :=
    congrArg (fun r => r.2.state) (handleDbDemoAround_run lib req hw)
  rw [hresponse]
  exact ⟨rfl, rfl⟩

/-- `handle_db_status` answers 200. -/
theorem dbStatusResponse_eq :
    (dbStatusResponse lib timestamp req span w).status = 200 ∧
      (dbStatusResponse lib timestamp req span w).body = dbStatusBody timestamp := ⟨rfl, rfl⟩

end answers

/-- Each answer has a body that is JSON of exactly one value, whatever becomes of the session and the statements. -/
theorem mysql_bodies_read (lib : HttplibHeaders) (config : DatabaseConfig) (session : Except Exn Unit)
    (outcome : Nat → Except Exn Unit) (timestamp : Int) (req : Request) (span : SpanPtr)
    (w : World EventLabel AgentCall Response) :
    let demo := dbDemoResponse lib config session outcome timestamp req span w
    let status := dbStatusResponse lib timestamp req span w
    demo.status = (if connect session then 200 else 503) ∧
      (∀ v, Denotes demo.body v ↔ v = demoAnswerValue session timestamp) ∧
      status.status = 200 ∧ ∀ v, Denotes status.body v ↔ v = statusValue timestamp := by
  intro demo status
  -- a text denotes one value at most
  have hreads {body : Str} {value : Value} (h : Denotes body value) (v : Value) : Denotes body v ↔ v = value := by
    constructor
    · exact fun hv => hv.unique h
    · rintro rfl
      exact h
  obtain ⟨hok, hbody⟩ := dbStatusResponse_eq lib timestamp req span w
  have hstatus : Denotes status.body (statusValue timestamp) := by
    rw [hbody]
    exact (readsAs_dbStatusBody timestamp).denotes
  have hdemo : demo.status = (if connect session then 200 else 503) ∧
      Denotes demo.body (demoAnswerValue session timestamp) := by
    by_cases h : connect session = true
    · obtain ⟨h200, hdenotes⟩ := answer_of_connect lib config outcome timestamp req span w h
      rw [demoAnswerValue, if_pos h, if_pos h]
      exact ⟨h200, hdenotes⟩
    · obtain ⟨h503, hfailed⟩ := answer_of_not_connect lib config outcome timestamp req span w (by simpa using h)
      rw [demoAnswerValue, if_neg h, if_neg h]
      refine ⟨h503, ?_⟩
      rw [hfailed]
      exact readsAs_connectionFailedBody.denotes
  exact ⟨hdemo.1, hreads hdemo.2, hok, hreads hstatus⟩

end PinpointExamples.Mysql
