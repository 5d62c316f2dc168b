import Mathlib
import PinpointExamples.Demos.Mysql
import PinpointExamples.Lib.JsonLayout

/-!
# What the MySQL demo reports

A client of `handle_db_demo` reads the `operations` list in the JSON body.  No outcome of a statement reaches this
list, so the body is the same for all outcomes once there is a session (`answer_of_connect`).  The report is honest
exactly when no statement failed but the one that is meant to fail (`honest_report_iff`).
-/

namespace PinpointExamples.Mysql

open Scoped JsonText

/-! ### Reading the body -/

/-- The first member of an object under a key. -/
def member (key : Str) : Value → Option Value
  | .obj ms => (ms.find? fun m => m.1 = key).map Prod.snd
  | _ => none

def items : Value → List Value
  | .arr vs => vs
  | _ => []

/-- The `operations` list of a body. -/
def operations (v : Value) : List Value :=
  (((member "demo_result" v).bind (member "operations")).map items).getD []

/-! ### What a body should say -/

/-- The number of each statement of some operations, the first one being `k`, under the name of the operation. -/
def statementNumbers : Nat → List DemoOperation → List (Str × Nat)
  | _, [] => []
  | k, o :: rest =>
    (List.range' k o.statements.length).map (fun i => (o.op, i)) ++ statementNumbers (k + o.statements.length) rest

/-- Statement `k` was executed, and failed. -/
def Failed (session : Except Exn Unit) (outcome : Nat → Except Exn Unit) (k : Nat) : Prop :=
  connect session = true ∧ k < demoStatements.length ∧ ∃ e, outcome k = .error e

/-- Statement `k` is the query of the table that does not exist. -/
def IsProbe (k : Nat) : Prop := demoStatements[k]? = some (selectQuery "SELECT * FROM non_existent_table" [])

instance : DecidablePred IsProbe := fun k =>
  inferInstanceAs (Decidable (demoStatements[k]? = some (selectQuery "SELECT * FROM non_existent_table" [])))

/-- What the body says about the statements that failed. -/
structure HonestBody (failed : Nat → Prop) (status : Int) (v : Value) : Prop where
  /-- A successful entry has no failed statement. -/
  success : ∀ entry ∈ operations v, ∀ op k, member "operation" entry = some (.str op) →
    member "status" entry = some (.str "success") → (op, k) ∈ statementNumbers 0 demoOperations → ¬ failed k
  /-- A failed statement shows as a failed entry. -/
  failure : ∀ k, failed k → ¬ IsProbe k → ∃ entry ∈ operations v, member "status" entry = some (.str "failed")
  /-- The whole is a success only without failures. -/
  answer : status = 200 → member "success" v = some (.bool true) → ∀ k, failed k → IsProbe k

/-- The answer of the handler to a request. -/
def dbDemoResponse (lib : HttplibHeaders) (config : DatabaseConfig) (session : Except Exn Unit)
    (outcome : Nat → Except Exn Unit) (timestamp : Int) (req : Request) (span : SpanPtr)
    (w : World EventLabel AgentCall Response) : Response :=
  ((handleDbDemo lib config session outcome timestamp req span).run AgentCall.event w).2.state

/-! ### The body that is sent -/

section body

/-- The object of an operation as `addOperation` writes it. -/
def DemoOperation.text (o : DemoOperation) : Str :=
  '\x7b' :: (memberText "\n      " "operation" " " (quoted o.op) ++ [] ++ ',' ::
    (memberText "\n      " "status" " " (quoted o.status) ++ [] ++ ',' ::
      (memberText "\n      " "details" " " (quoted o.details) ++ "\n    " ++ ['\x7d'])))

def DemoOperation.value (o : DemoOperation) : Value :=
  .obj [("operation", .str o.op), ("status", .str o.status), ("details", .str o.details)]

/-- The texts of the operation need no escape, and it has details. -/
structure DemoOperation.IsPlain (o : DemoOperation) : Prop where
  op : Plain o.op
  status : Plain o.status
  details : Plain o.details
  hasDetails : o.details ≠ []

private theorem DemoOperation.readsAs_text {o : DemoOperation} (h : o.IsPlain) : ReadsAs o.text o.value := by
  have hline : Blank ("\n      " : Str) := blank_indent 6
  have hsep : Blank (" " : Str) := blank_spaces 1
  have hend : Blank ("\n    " : Str) := blank_indent 4
  have hkeys : Plain ("operation" : Str) ∧ Plain ("status" : Str) ∧ Plain ("details" : Str) := by simp [Plain]
  have hdetails := (ReadsAs.quoted h.details).lastMember hline hkeys.2.2 hsep hend
  have hstatus := (ReadsAs.quoted h.status).member hline hkeys.2.1 hsep blank_nil hdetails
  have hop := (ReadsAs.quoted h.op).member hline hkeys.1 hsep blank_nil hstatus
  exact hop.object

private theorem addOperation_text (r : DemoResult) {o : DemoOperation} (h : o.IsPlain) :
    (r.addOperation o.op o.status o.details).text =
      r.text ++ (if r.first then ([] : Str) else ",\n") ++ ("    " : Str) ++ o.text := by
  have hdetails : o.details.isEmpty = false := by simp [h.hasDetails]
  simp [DemoResult.addOperation, hdetails, DemoOperation.text, memberText, quoted]

/-- The objects of more operations, each after a comma. -/
def moreText (os : List DemoOperation) : Str := os.flatMap fun o => ',' :: (("\n    " : Str) ++ o.text)

private theorem foldl_addOperation_text {os : List DemoOperation} (h : ∀ o ∈ os, o.IsPlain) {r : DemoResult}
    (hr : r.first = false) :
    (os.foldl (fun r o => r.addOperation o.op o.status o.details) r).text = r.text ++ moreText os := by
  induction os generalizing r with
  | nil => exact (List.append_nil _).symm
  | cons o os ih =>
    rw [List.foldl_cons, ih (fun o' ho => h o' (List.mem_cons_of_mem o ho)) rfl,
      addOperation_text r (h o List.mem_cons_self), hr]
    simp [moreText]

private theorem readsItems_operations {o : DemoOperation} {os : List DemoOperation} (h : ∀ o' ∈ o :: os, o'.IsPlain) :
    ReadsItems (("\n    " : Str) ++ o.text ++ moreText os ++ "\n  " ++ [']'])
      ((o :: os).map DemoOperation.value) := by
  have hline : Blank ("\n    " : Str) := blank_indent 4
  have hend : Blank ("\n  " : Str) := blank_indent 2
  have htext := DemoOperation.readsAs_text (h o List.mem_cons_self)
  induction os generalizing o with
  | nil =>
    have hlast := htext.lastItem hline hend
    simpa [moreText] using hlast
  | cons o' os ih =>
    have hrest : ∀ o'' ∈ o' :: os, o''.IsPlain := fun o'' ho => h o'' (List.mem_cons_of_mem o ho)
    have hitems := ih hrest (DemoOperation.readsAs_text (hrest o' List.mem_cons_self))
    have hitem := htext.item hline blank_nil hitems
    simpa [moreText] using hitem

/-- The result of the demo as `runDemoHandler` writes it, for a first operation and more. -/
def demoText (o : DemoOperation) (os : List DemoOperation) (timestamp : Int) : Str :=
  '\x7b' :: (memberText "\n  " "status" " " (quoted "running") ++ [] ++ ',' ::
    (memberText "\n  " "message" " " (quoted "Database Demo Starting") ++ [] ++ ',' ::
      (memberText "\n  " "operations" " "
          ('[' :: (("\n    " : Str) ++ o.text ++ moreText os ++ "\n  " ++ [']'])) ++ [] ++ ',' ::
        (memberText "\n  " "demo_status" " " (quoted "completed") ++ [] ++ ',' ::
          (memberText "\n  " "timestamp" " " (quoted (toString timestamp).toList) ++ "\n" ++ ['\x7d'])))))

def demoValue (os : List DemoOperation) (timestamp : Int) : Value :=
  .obj [("status", .str "running"), ("message", .str "Database Demo Starting"),
    ("operations", .arr (os.map DemoOperation.value)), ("demo_status", .str "completed"),
    ("timestamp", .str (toString timestamp).toList)]

private theorem readsAs_demoText {o : DemoOperation} {os : List DemoOperation} (h : ∀ o' ∈ o :: os, o'.IsPlain)
    (timestamp : Int) : ReadsAs (demoText o os timestamp) (demoValue (o :: os) timestamp) := by
  have hline : Blank ("\n  " : Str) := blank_indent 2
  have hsep : Blank (" " : Str) := blank_spaces 1
  have hend : Blank ("\n" : Str) := blank_indent 0
  have hkeys : Plain ("status" : Str) ∧ Plain ("message" : Str) ∧ Plain ("operations" : Str) ∧
      Plain ("demo_status" : Str) ∧ Plain ("timestamp" : Str) := by simp [Plain]
  have hstrings : Plain ("running" : Str) ∧ Plain ("Database Demo Starting" : Str) ∧ Plain ("completed" : Str) := by
    simp [Plain]
  have htimestamp := (ReadsAs.quoted (plain_toString timestamp)).lastMember hline hkeys.2.2.2.2 hsep hend
  have hdemo := (ReadsAs.quoted hstrings.2.2).member hline hkeys.2.2.2.1 hsep blank_nil htimestamp
  have hoperations := (readsItems_operations h).array.member hline hkeys.2.2.1 hsep blank_nil hdemo
  have hmessage := (ReadsAs.quoted hstrings.2.1).member hline hkeys.2.1 hsep blank_nil hoperations
  have hstatus := (ReadsAs.quoted hstrings.1).member hline hkeys.1 hsep blank_nil hmessage
  exact hstatus.object

def successValue (demoResult : Value) : Value :=
  .obj [("success", .bool true), ("database", .str "tcp://localhost:33060/test"), ("demo_result", demoResult)]

private theorem readsAs_successBody {demoResult : Str} {v : Value} (h : ReadsAs demoResult v) :
    ReadsAs (successBody demoResult) (successValue v) := by
  have hline : Blank ("\n  " : Str) := blank_indent 2
  have hsep : Blank (" " : Str) := blank_spaces 1
  have hend : Blank ("\n" : Str) := blank_indent 0
  have hkeys : Plain ("success" : Str) ∧ Plain ("database" : Str) ∧ Plain ("demo_result" : Str) := by simp [Plain]
  have hdatabase : Plain ("tcp://localhost:33060/test" : Str) := by simp [Plain]
  have hresult := h.lastMember hline hkeys.2.2 hsep hend
  have hmiddle := (ReadsAs.quoted hdatabase).member hline hkeys.2.1 hsep blank_nil hresult
  have htrue : ReadsAs ("true" : Str) (.bool true) := ReadsAs.true
  have hall := (htrue.member hline hkeys.1 hsep blank_nil hmiddle).object
  have htext : successBody demoResult = '\x7b' :: (memberText "\n  " "success" " " "true" ++ [] ++ ',' ::
      (memberText "\n  " "database" " " (quoted "tcp://localhost:33060/test") ++ [] ++ ',' ::
        (memberText "\n  " "demo_result" " " demoResult ++ "\n" ++ ['\x7d']))) := by
    simp [successBody, memberText, quoted]
  rw [htext]
  exact hall

end body

/-! ### The answer of the handler -/

section answer

variable (lib : HttplibHeaders) (config : DatabaseConfig) (outcome : Nat → Except Exn Unit) (timestamp : Int)
  (req : Request) (span : SpanPtr) (w : World EventLabel AgentCall Response)

private theorem demoOperations_isPlain : ∀ o ∈ demoOperations, o.IsPlain := by
  unfold demoOperations
  repeat rw [List.forall_mem_cons]
  refine ⟨?_, ?_, ?_, ?_, ?_, ?_, ?_, ?_, List.forall_mem_nil _⟩
  all_goals constructor
  all_goals simp [Plain]

/-- The outcomes of the statements do not show in the result of the demo. -/
theorem runDemoHandler_reads {S : Type} :
    ∃ text, (runDemoHandler (S := S) config outcome timestamp span).Yields AgentCall.event text ∧
      ReadsAs text (demoValue demoOperations timestamp) := by
  have hoperations := fun r => (runOperations_records (S := S) config span outcome 0 demoOperations r).yields
  refine ⟨_, Prog.Yields.scope fun _ => (hoperations _).bind (.pure _), ?_⟩
  have hplain := demoOperations_isPlain
  rcases hos : demoOperations with _ | ⟨o, os⟩
  · cases hos
  · rw [hos] at hplain
    have htext := readsAs_demoText hplain timestamp
    rw [List.foldl_cons, foldl_addOperation_text (fun o' ho => hplain o' (List.mem_cons_of_mem o ho)) rfl,
      addOperation_text _ (hplain o List.mem_cons_self)]
    simpa [demoText, memberText, quoted] using htext

/-- With a session the answer is 200, and the body reads the same for all outcomes. -/
theorem answer_of_connect {session : Except Exn Unit} (h : connect session = true) :
    (dbDemoResponse lib config session outcome timestamp req span w).status = 200 ∧
      Denotes (dbDemoResponse lib config session outcome timestamp req span w).body
        (successValue (demoValue demoOperations timestamp)) := by
  obtain ⟨text, hyields, hreads⟩ := runDemoHandler_reads (S := Response) config outcome timestamp span
  have hblock : (dbDemoBlock config session outcome timestamp span).Yields AgentCall.event
      (200, successBody text) := by
    unfold dbDemoBlock
    rw [if_pos h]
    exact hyields.bind (.pure _)
  obtain ⟨w', hw, -⟩ := Prog.Records.attempt hblock (w.opening ⟨span, "handle_db_demo", .unspecified⟩)
  have hresponse : dbDemoResponse lib config session outcome timestamp req span w =
      { w'.state with status := 200 }.setContent lib (successBody text) "application/json" :=
    congrArg (fun r => r.2.state) (handleDbDemoAround_run lib req hw)
  rw [hresponse]
  exact ⟨rfl, (readsAs_successBody hreads).denotes⟩

end answer

private theorem operations_answer (timestamp : Int) :
    operations (successValue (demoValue demoOperations timestamp)) = demoOperations.map DemoOperation.value := rfl

private theorem member_operation (o : DemoOperation) : member "operation" o.value = some (.str o.op) := rfl

private theorem member_status (o : DemoOperation) : member "status" o.value = some (.str o.status) := rfl

/-- The statement that is meant to fail belongs to an operation that is not reported as a success. -/
theorem not_isProbe_of_success : ∀ o ∈ demoOperations, o.status = ("success" : Str) →
    ∀ p ∈ statementNumbers 0 demoOperations, p.1 = o.op → ¬ IsProbe p.2 := by decide

/-- The report is honest exactly when there is no session, and so no statement, or when no statement failed but the
one that is meant to fail. -/
theorem honest_report_iff (lib : HttplibHeaders) (config : DatabaseConfig) (session : Except Exn Unit)
    (outcome : Nat → Except Exn Unit) (timestamp : Int) (req : Request) (span : SpanPtr)
    (w : World EventLabel AgentCall Response) :
    let res := dbDemoResponse lib config session outcome timestamp req span w
    (connect session = true → ∃ v, Denotes res.body v) ∧
    ((∀ v, Denotes res.body v → HonestBody (Failed session outcome) res.status v) ↔
      connect session = false ∨ ∀ k < demoStatements.length, (∃ e, outcome k = .error e) → IsProbe k) := by
  intro res
  by_cases h : connect session = true
  · obtain ⟨hstatus, hdenotes⟩ := answer_of_connect lib config outcome timestamp req span w h
    refine ⟨fun _ => ⟨_, hdenotes⟩, ?_⟩
    constructor
    · intro hhonest
      refine .inr fun k hk he => ?_
      exact (hhonest _ hdenotes).answer hstatus rfl k ⟨h, hk, he⟩
    · intro hcond v hv
      obtain rfl := hdenotes.unique hv
      -- a statement that fails is a probe
      have hprobe (k : Nat) (hf : Failed session outcome k) : IsProbe k := by
        rcases hcond with hno | hall
        · exact absurd (h.symm.trans hno) (by decide)
        · exact hall k hf.2.1 hf.2.2
      refine ⟨?_, fun k hf hn => absurd (hprobe k hf) hn, fun _ _ => hprobe⟩
      intro entry hentry op k hop hstatus hk hf
      rw [operations_answer, List.mem_map] at hentry
      obtain ⟨o, ho, rfl⟩ := hentry
      rw [member_operation, Option.some.injEq, Value.str.injEq] at hop
      rw [member_status, Option.some.injEq, Value.str.injEq] at hstatus
      exact not_isProbe_of_success o ho hstatus (op, k) hk hop.symm (hprobe k hf)
  · refine ⟨fun h' => absurd h' h, iff_of_true ?_ (.inl (by simpa using h))⟩
    intro v _
    exact ⟨fun _ _ _ _ _ _ _ hf => h hf.1, fun _ hf => absurd hf.1 h, fun _ _ _ hf => absurd hf.1 h⟩

/-- There is a session, and the database rejects every statement. -/
def allFail (_ : Nat) : Except Exn Unit := .error (.mysqlxError "Table is read only")

def demoConfig : DatabaseConfig := ⟨"localhost", "33060", "test"⟩

/-- `GET /db-demo`. -/
def dbDemoRequest : Request where
  method := "GET"
  path := "/db-demo"
  matchedRoute := "/db-demo"
  remoteAddr := "10.0.0.1"
  localAddr := "10.0.0.2"
  localPort := 8089
  headers := []
  params := []
  captures := []

/-- Every statement fails, and the body reports a success. -/
theorem all_fail_reported_as_success :
    ¬ ∀ v, Denotes (dbDemoResponse .firstFound demoConfig (.ok ()) allFail 0 dbDemoRequest (some 0)
        ⟨[], 0, ⟨-1, [], []⟩⟩).body v →
      HonestBody (Failed (.ok ()) allFail)
        (dbDemoResponse .firstFound demoConfig (.ok ()) allFail 0 dbDemoRequest (some 0) ⟨[], 0, ⟨-1, [], []⟩⟩).status
        v := by
  intro h
  have hconnect : connect (.ok ()) = true := rfl
  obtain ⟨hstatus, hdenotes⟩ := answer_of_connect .firstFound demoConfig allFail 0 dbDemoRequest (some 0)
    ⟨[], 0, ⟨-1, [], []⟩⟩ hconnect
  have hprobe : IsProbe 0 := (h _ hdenotes).answer hstatus rfl 0 ⟨rfl, by decide, _, rfl⟩
  exact absurd hprobe (by decide)

end PinpointExamples.Mysql
