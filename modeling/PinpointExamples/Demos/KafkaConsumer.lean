import Mathlib
import PinpointExamples.Server.Agent
import PinpointExamples.Carrier.KafkaViews

/-!
# The Kafka consumer

`main` polls until SIGINT or SIGTERM clears `run`, and makes one span for each message.  The log of a run is put
together from one block of entries for each result of `consume` (`loop_log`), so the spans follow the messages.  No
path of `main` calls `Shutdown`, so the spans of a run are drained only if there are none (`consumer_drained_iff`).
-/

namespace PinpointExamples.KafkaConsumer

open Scoped

/-! ### librdkafka -/

/-- `RdKafka::Message`; `none` stands for null headers and for a null payload. -/
structure Message where
  headers : Option KafkaHeaders
  payload : Option Str
  partition : Int
  offset : Int
  deriving DecidableEq, Repr

/-- The result of `consume`: a message without error, or one that only carries an error. -/
inductive ConsumeResult
  | message (msg : Message)
  | timedOut
  | error (code : Int)
  deriving DecidableEq, Repr

def ConsumeResult.message? : ConsumeResult → Option Message
  | .message msg => some msg
  | .timedOut => none
  | .error _ => none

/-! ### The process -/

/-- The calls that `main` makes on the agent and on the consumer; `shutdown` is part of the agent's interface. -/
inductive ConsumerCall
  | consume (result : ConsumeResult)
  | newSpan (span : SpanId) (operation rpcPoint : Str) (reader : Option KafkaHeaders)
  | setServiceType (span : SpanId) (serviceType : ServiceType)
  | setEndPoint (span : SpanId) (endPoint : Str)
  | setRemoteAddress (span : SpanId) (remoteAddress : Str)
  | event (c : EventCall)
  | endSpan (span : SpanId)
  | close
  | shutdown
  deriving DecidableEq, Repr

abbrev ConsumerLog := List (Entry EventLabel ConsumerCall)

/-- What the process did so far: its calls, and the lines it printed. -/
structure Process where
  log : ConsumerLog
  nextEvent : EventId
  nextSpan : SpanId
  cout : List Str
  cerr : List Str
  deriving DecidableEq, Repr

namespace Process

def fresh : Process where
  log := []
  nextEvent := 0
  nextSpan := 0
  cout := []
  cerr := []

def record (p : Process) (c : ConsumerCall) : Process := { p with log := p.log ++ [.call c] }

def print (p : Process) (line : Str) : Process := { p with cout := p.cout ++ [line] }

def printError (p : Process) (line : Str) : Process := { p with cerr := p.cerr ++ [line] }

/-- `NewSpan`.  With a reader the agent looks up keys in the headers, `contextKeys` of them, and faults where the
reader does. -/
def newSpan (contextKeys : KafkaHeaders → List Str) (operation rpcPoint : Str) (headers : Option KafkaHeaders)
    (p : Process) : Except Fault (SpanId × Process) :=
  let span := { p with nextSpan := p.nextSpan + 1 }.record (.newSpan p.nextSpan operation rpcPoint headers)
  match headers with
  | none => .ok (p.nextSpan, span)
  | some h =>
    match KafkaTraceContextReader.getAll ⟨some h, .empty⟩ (contextKeys h) with
    | .error fault => .error fault
    | .ok _ => .ok (p.nextSpan, span)

/-- Runs code with span events, which prints to `cout`. -/
def runTraced (p : Process) (code : Traced (List Str) Unit) : Process :=
  let r := code.run ConsumerCall.event ⟨p.log, p.nextEvent, p.cout⟩
  { p with log := r.2.log, nextEvent := r.2.next, cout := r.2.state }

end Process

/-! ### The consumer -/

/-- Which record it was. -/
def recordName (topicStr : Str) (msg : Message) : Str :=
  topicStr ++ "[" ++ (toString msg.partition).toList ++ "] offset " ++ (toString msg.offset).toList

/-- The block of the `ProcessMessage` event. -/
def processMessage (brokers topicStr : Str) (msg : Message) (span : SpanId) : Traced (List Str) Unit :=
  scopedSpanEvent (some span) "ProcessMessage" .unspecified fun se => do
    .call (.setEndPoint se brokers)
    .call (.setAnnotationStr se .api (recordName topicStr msg))
    match msg.payload with
    | some payload => .modify fun cout => cout ++ ["Consumed message: " ++ payload]
    | none => pure ()

/-- The branch of the loop for a message without error. -/
def onMessage (contextKeys : KafkaHeaders → List Str) (brokers topicStr : Str) (msg : Message) (p : Process) :
    Except Fault Process := do
  let (span, p) ← p.newSpan contextKeys "KafkaConsume" "kafka_consumer" msg.headers
  let p := p.record (.setServiceType span .kafka)
  let p := p.record (.setEndPoint span brokers)
  let p := p.record (.setRemoteAddress span brokers)
  let p := p.runTraced (processMessage brokers topicStr msg span)
  pure (p.record (.endSpan span))

/-- One pass of the loop: what `consume` returned, and whether a signal arrived after this check of `run` and before
the next.  The signal handler only clears `run`, and nothing but the check reads it. -/
structure Iteration where
  result : ConsumeResult
  signalled : Bool
  deriving DecidableEq, Repr

/-- How far a run came. -/
inductive Exit
  | running (p : Process)
  | crashed (fault : Fault)
  | returned (code : Int) (p : Process)
  deriving DecidableEq, Repr

/-- `while (run)`, and the end of `main`. -/
def loop (contextKeys : KafkaHeaders → List Str) (brokers topicStr : Str) : Bool → List Iteration → Process → Exit
  | false, _, p => .returned 0 (p.record .close)
  | true, [], p => .running p
  | true, it :: its, p =>
    let p := p.record (.consume it.result)
    match it.result with
    | .message msg =>
      match onMessage contextKeys brokers topicStr msg p with
      | .error fault => .crashed fault
      | .ok p => loop contextKeys brokers topicStr (!it.signalled) its p
    | _ => loop contextKeys brokers topicStr (!it.signalled) its p

/-- The environment of a run: `KAFKA_BROKERS`, whether the agent starts, the error texts of `create` and of
`subscribe` if they fail, whether a signal comes before the first check of `run`, and the passes of the loop. -/
structure Environment where
  kafkaBrokers : Option Str
  startAgent : Bool
  createError : Option Str
  subscribeError : Option Str
  signalledFirst : Bool
  iterations : List Iteration
  deriving DecidableEq, Repr

def main (contextKeys : KafkaHeaders → List Str) (env : Environment) : Exit :=
  let brokers := env.kafkaBrokers.getD "localhost:9092"
  let topicStr : Str := "test-topic"
  let p := if env.startAgent then Process.fresh
    else Process.fresh.printError "failed to start the pinpoint agent: check the agent log"
  match env.createError with
  | some errstr => .returned 1 (p.printError ("Failed to create consumer: " ++ errstr))
  | none =>
    match env.subscribeError with
    | some err => .returned 1 (p.printError ("Failed to subscribe to " ++ topicStr ++ ": " ++ err))
    | none =>
      let p := p.print ("Consuming messages from " ++ topicStr ++ "...")
      loop contextKeys brokers topicStr (!env.signalledFirst) env.iterations p

/-! ### The log of a run -/

/-- The results that the loop takes. -/
def consumed : Bool → List Iteration → List ConsumeResult
  | false, _ => []
  | true, [] => []
  | true, it :: its => it.result :: consumed (!it.signalled) its

/-- The messages received without error, in order. -/
def Environment.received (env : Environment) : List Message :=
  if env.createError.isSome ∨ env.subscribeError.isSome then []
  else (consumed (!env.signalledFirst) env.iterations).filterMap ConsumeResult.message?

def messageLabel (span : SpanId) : EventLabel := ⟨some span, "ProcessMessage", .unspecified⟩

/-- What is recorded for one message. -/
def messageEntries (brokers topicStr : Str) (n : Nat) (msg : Message) : ConsumerLog :=
  [.call (.newSpan n "KafkaConsume" "kafka_consumer" msg.headers), .call (.setServiceType n .kafka),
    .call (.setEndPoint n brokers), .call (.setRemoteAddress n brokers), .opened n (messageLabel n),
    .call (.event (.setEndPoint n brokers)), .call (.event (.setAnnotationStr n .api (recordName topicStr msg))),
    .closed n, .call (.endSpan n)]

/-- What is recorded for a list of results, where the first span has the number `n`. -/
def entries (brokers topicStr : Str) : Nat → List ConsumeResult → ConsumerLog
  | _, [] => []
  | n, .message msg :: results =>
    .call (.consume (.message msg)) ::
      (messageEntries brokers topicStr n msg ++ entries brokers topicStr (n + 1) results)
  | n, result :: results => .call (.consume result) :: entries brokers topicStr n results

private theorem ConsumeResult.eq_message {result : ConsumeResult} {msg : Message} (h : result.message? = some msg) :
    result = .message msg := by
  cases result with
  | message msg' => exact congrArg _ (Option.some.inj h)
  | timedOut => cases h
  | error code => cases h

/-- For a result without a message nothing else is recorded. -/
theorem entries_of_no_message (brokers topicStr : Str) (n : Nat) {result : ConsumeResult} (h : result.message? = none)
    (results : List ConsumeResult) :
    entries brokers topicStr n (result :: results) =
      .call (.consume result) :: entries brokers topicStr n results := by
  cases result with
  | message msg => cases h
  | timedOut => rfl
  | error code => rfl

section run

variable {contextKeys : KafkaHeaders → List Str} {brokers topicStr : Str}

private theorem loop_of_no_message {it : Iteration} (h : it.result.message? = none) (its : List Iteration)
    (p : Process) :
    loop contextKeys brokers topicStr true (it :: its) p =
      loop contextKeys brokers topicStr (!it.signalled) its (p.record (.consume it.result)) := by
  obtain ⟨result, signalled⟩ := it
  cases result with
  | message msg => cases h
  | timedOut => rfl
  | error code => rfl

private theorem newSpan_ok {operation rpcPoint : Str} {headers : Option KafkaHeaders} {p p' : Process} {span : SpanId}
    (h : p.newSpan contextKeys operation rpcPoint headers = .ok (span, p')) :
    span = p.nextSpan ∧
      p' = { p with nextSpan := p.nextSpan + 1 }.record (.newSpan p.nextSpan operation rpcPoint headers) := by
  cases headers with
  | none =>
    cases h
    exact ⟨rfl, rfl⟩
  | some hs =>
    unfold Process.newSpan at h
    dsimp only at h
    split at h
    · cases h
    · cases h
      exact ⟨rfl, rfl⟩

/-- Events and spans have the same numbers, and a message takes the next one. -/
theorem onMessage_log {msg : Message} {p p' : Process} (h : onMessage contextKeys brokers topicStr msg p = .ok p')
    (hp : p.nextEvent = p.nextSpan) :
    p'.log = p.log ++ messageEntries brokers topicStr p.nextSpan msg ∧ p'.nextSpan = p.nextSpan + 1 ∧
      p'.nextEvent = p'.nextSpan := by
  unfold onMessage at h
  rcases hs : p.newSpan contextKeys "KafkaConsume" "kafka_consumer" msg.headers with fault | ⟨span, p₁⟩
  · rw [hs] at h
    cases h
  · obtain ⟨rfl, rfl⟩ := newSpan_ok hs
    rw [hs] at h
    cases h
    rcases hm : msg.payload with _ | payload
    · simp [Process.record, Process.runTraced, processMessage, scopedSpanEvent, hm, hp, messageEntries, messageLabel]
    · simp [Process.record, Process.runTraced, processMessage, scopedSpanEvent, hm, hp, messageEntries, messageLabel]

/-- A run of the loop that returns records a block for each result it takes. -/
theorem loop_log {run : Bool} {its : List Iteration} {p p' : Process} {code : Int}
    (h : loop contextKeys brokers topicStr run its p = .returned code p') (hp : p.nextEvent = p.nextSpan) :
    p'.log = p.log ++ entries brokers topicStr p.nextSpan (consumed run its) ++ [.call .close] := by
  induction its generalizing run p with
  | nil =>
    cases run with
    | false =>
      cases h
      simp [Process.record, consumed, entries]
    | true => cases h
  | cons it its ih =>
    cases run with
    | false =>
      cases h
      simp [Process.record, consumed, entries]
    | true =>
      rcases hr : it.result.message? with _ | msg
      · rw [loop_of_no_message hr] at h
        rw [ih h hp, consumed, entries_of_no_message _ _ _ hr]
        simp [Process.record]
      · obtain ⟨result, signalled⟩ := it
        obtain rfl := ConsumeResult.eq_message hr
        unfold loop at h
        dsimp only at h
        rcases hm : onMessage contextKeys brokers topicStr msg (p.record (.consume (.message msg))) with fault | p₁
        · rw [hm] at h
          cases h
        · rw [hm] at h
          obtain ⟨hlog, hspan, hevent⟩ := onMessage_log hm hp
          -- the next message finds the numbers of spans and events alike
          rw [ih h hevent, hlog, hspan]
          simp [consumed, entries, Process.record]

/-- The whole run: the loop where it is reached, and nothing where the consumer cannot be set up. -/
theorem main_log {env : Environment} {code : Int} {p : Process} (h : main contextKeys env = .returned code p) :
    (p.log = [] ∧ env.received = []) ∨
    ∃ brokers topicStr results, p.log = entries brokers topicStr 0 results ++ [.call .close] ∧
      env.received = results.filterMap ConsumeResult.message? := by
  unfold main at h
  dsimp only at h
  rcases hc : env.createError with _ | errstr <;> rw [hc] at h
  · rcases hs : env.subscribeError with _ | err <;> rw [hs] at h
    · refine .inr ⟨env.kafkaBrokers.getD "localhost:9092", "test-topic",
        consumed (!env.signalledFirst) env.iterations, ?_, by simp [Environment.received, hc, hs]⟩
      rcases hstart : env.startAgent with _ | _ <;> rw [hstart] at h
      · exact loop_log h rfl
      · exact loop_log h rfl
    · refine .inl ⟨?_, by simp [Environment.received, hs]⟩
      cases h
      cases env.startAgent <;> rfl
  · refine .inl ⟨?_, by simp [Environment.received, hc]⟩
    cases h
    cases env.startAgent <;> rfl

end run

/-! ### Spans and messages -/

/-- The entries that show messages, and the beginnings and the ends of spans and of their events. -/
def isLife : Entry EventLabel ConsumerCall → Bool
  | .call (.consume result) => result.message?.isSome
  | .call (.newSpan ..) => true
  | .call (.endSpan _) => true
  | .call _ => false
  | .opened _ _ => true
  | .closed _ => true

/-- A message, and the life of its span: the span ends once, after its event. -/
def messageLife (span : SpanId) (msg : Message) : ConsumerLog :=
  [.call (.consume (.message msg)), .call (.newSpan span "KafkaConsume" "kafka_consumer" msg.headers),
    .opened span (messageLabel span), .closed span, .call (.endSpan span)]

/-- There is one span for each message, in order, and there are no other spans and no other events. -/
def SpanPerMessage (received : List Message) (log : ConsumerLog) : Prop :=
  log.filter isLife = received.zipIdx.flatMap fun e => messageLife e.2 e.1

/-- `Shutdown` is called after every `EndSpan`, so every recorded span is drained. -/
def Drained (log : ConsumerLog) : Prop :=
  ∀ before span after, log = before ++ .call (.endSpan span) :: after → .call .shutdown ∈ after

private theorem entries_life (brokers topicStr : Str) (n : Nat) (results : List ConsumeResult) :
    (entries brokers topicStr n results).filter isLife =
      ((results.filterMap ConsumeResult.message?).zipIdx n).flatMap fun e => messageLife e.2 e.1 := by
  induction results generalizing n with
  | nil => rfl
  | cons result results ih =>
    rcases hr : result.message? with _ | msg
    · have hnot : ¬ isLife (.call (.consume result)) = true := by simp [isLife, hr]
      rw [entries_of_no_message _ _ _ hr, List.filter_cons_of_neg hnot, ih, List.filterMap_cons_none hr]
    · obtain rfl := ConsumeResult.eq_message hr
      have hblock : (messageEntries brokers topicStr n msg).filter isLife = (messageLife n msg).tail := rfl
      rw [entries, List.filter_cons_of_pos rfl, List.filter_append, hblock, ih]
      rfl

private theorem shutdown_notMem_entries (brokers topicStr : Str) (n : Nat) (results : List ConsumeResult) :
    .call .shutdown ∉ entries brokers topicStr n results := by
  induction results generalizing n with
  | nil => exact List.not_mem_nil
  | cons result results ih =>
    rcases hr : result.message? with _ | msg
    · rw [entries_of_no_message _ _ _ hr]
      simp [ih]
    · obtain rfl := ConsumeResult.eq_message hr
      simp [entries, messageEntries, ih]

/-- Without `Shutdown`, all is drained only where nothing was recorded. -/
theorem drained_iff_of_no_shutdown {received : List Message} {log : ConsumerLog} (hs : SpanPerMessage received log)
    (hno : .call .shutdown ∉ log) : Drained log ↔ received = [] := by
  constructor
  · intro hd
    cases received with
    | nil => rfl
    | cons msg rest =>
      have hmem : .call (.endSpan 0) ∈ log.filter isLife := by
        rw [hs]
        simp [messageLife]
      obtain ⟨before, after, rfl⟩ := List.append_of_mem (List.mem_of_mem_filter hmem)
      have hafter := hd before 0 after rfl
      exact absurd (List.mem_append_right before (List.mem_cons_of_mem _ hafter)) hno
  · rintro rfl before span after rfl
    have hmem : Entry.call (.endSpan span) ∈
        (before ++ .call (.endSpan span) :: after).filter isLife := by simp [isLife]
    rw [hs] at hmem
    simp at hmem

/-- When `main` returns there is one span for each message, in order, each ended once after its event; but `Shutdown`
was not called, and so the spans are drained exactly when no message was received. -/
theorem consumer_drained_iff (contextKeys : KafkaHeaders → List Str) (env : Environment) {code : Int} {p : Process}
    (h : main contextKeys env = .returned code p) :
    SpanPerMessage env.received p.log ∧ .call .shutdown ∉ p.log ∧ (Drained p.log ↔ env.received = []) := by
  have hlog : SpanPerMessage env.received p.log ∧ .call .shutdown ∉ p.log := by
    rcases main_log h with ⟨hlog, hr⟩ | ⟨brokers, topicStr, results, hlog, hr⟩
    · rw [hlog, hr]
      exact ⟨rfl, List.not_mem_nil⟩
    · rw [hlog, hr]
      refine ⟨?_, ?_⟩
      · rw [SpanPerMessage, List.filter_append, entries_life]
        exact List.append_nil _
      · simp [shutdown_notMem_entries]
  exact ⟨hlog.1, hlog.2, drained_iff_of_no_shutdown hlog.1 hlog.2⟩

/-- A run that takes one message and is then stopped by a signal. -/
def oneMessage : Environment where
  kafkaBrokers := none
  startAgent := true
  createError := none
  subscribeError := none
  signalledFirst := false
  iterations := [⟨.timedOut, false⟩, ⟨.message ⟨none, some "hello", 0, 7⟩, true⟩]

/-- What `main` has done when `oneMessage` ends. -/
def oneMessageEnd : Process where
  log := .call (.consume .timedOut) :: .call (.consume (.message ⟨none, some "hello", 0, 7⟩)) ::
    (messageEntries "localhost:9092" "test-topic" 0 ⟨none, some "hello", 0, 7⟩ ++ [.call .close])
  nextEvent := 1
  nextSpan := 1
  cout := ["Consuming messages from test-topic...", "Consumed message: hello"]
  cerr := []

private theorem main_oneMessage : main (fun _ => []) oneMessage = .returned 0 oneMessageEnd := by decide

theorem consumer_drained_iff_oneMessage :
    main (fun _ => []) oneMessage = .returned 0 oneMessageEnd ∧
      (Drained oneMessageEnd.log ↔ oneMessage.received = []) :=
  ⟨main_oneMessage, (consumer_drained_iff (fun _ => []) oneMessage main_oneMessage).2.2⟩

/-- The span of the message is ended, and nothing drains it. -/
theorem last_span_lost :
    main (fun _ => []) oneMessage = .returned 0 oneMessageEnd ∧ ¬ Drained oneMessageEnd.log := by
  refine ⟨main_oneMessage, ?_⟩
  intro h
  have hafter := h (oneMessageEnd.log.take 10) 0 [.call .close] rfl
  exact absurd hafter (by decide)

end PinpointExamples.KafkaConsumer
