import Mathlib
import PinpointExamples.Server.WrapHandler

/-!
# The Kafka producer demo

`handle_run_producer` sends one message.  It has no wrapper: it opens and ends its span itself.  What librdkafka does
is a parameter.
-/

namespace PinpointExamples.KafkaProducer

open Scoped

/-- Whether there is a producer, and the error text of `produce` if it fails. -/
structure ProducerOutcomes where
  producer : Bool
  produce : Option Str
  deriving DecidableEq, Repr

/-- `produce_message`; the state are the payloads handed to the producer. -/
def produceMessage (gBrokers gTopicStr : Str) (o : ProducerOutcomes) (messagePayload : Str) (span : SpanPtr) :
    Traced (List Str) Bool :=
  if o.producer then
    scopedSpanEvent span "KafkaProduce" .kafka fun se => do
      .call (.setEndPoint se gBrokers)
      .call (.setDestination se gTopicStr)
      .call (.injectContext se)
      .modify fun sent => sent ++ [messagePayload]
      match o.produce with
      | some error => do
        .call (.setError se none error)
        pure false
      | none => pure true
  else
    pure false

/-- The end of `handle_run_producer`: the answer, and what is recorded on the span. -/
def reportRunProducer (lib : HttplibHeaders) (success : Bool) (payload : Str) (span : SpanId) (req : Request)
    (res : Response) (t : WorkerThread) : Response × WorkerThread :=
  let (res, t) :=
    if success then
      ({ res with status := 200 }.setContent lib ("Message sent to Kafka: " ++ payload) "text/plain", t)
    else
      ({ res with status := 500 }.setContent lib "Failed to send message to Kafka" "text/plain",
        t.record (.event (.spanSetError (some span) "Kafka production failed")))
  let t := t.record (.traceHttpServerResponse span req.matchedRoute req.method res.status res.headers)
  (res, t.record (.endSpan span))

/-- `handle_run_producer`; `now` is the time that the default message carries. -/
def handleRunProducer (lib : HttplibHeaders) (gBrokers gTopicStr : Str) (now : Int) (o : ProducerOutcomes)
    (req : Request) (res : Response) (t : WorkerThread) : Except Exn Unit × Response × WorkerThread :=
  let (span, t) := t.newSpan "KafkaWebProducer" "/run_producer" req.headers
  let t := t.record (.traceHttpServerRequest span req.remoteAddr (lib.getHeaderValue req.headers "Host")
    req.headers)
  let payload := if req.hasParam "message" then req.getParamValue "message"
    else "Message from web producer " ++ (toString now).toList
  match t.runTraced (produceMessage gBrokers gTopicStr o payload (some span)) [] with
  | (.error e, _, t) => (.error e, res, t)
  | (.ok success, _, t) => (.ok (), reportRunProducer lib success payload span req res t)

end PinpointExamples.KafkaProducer
