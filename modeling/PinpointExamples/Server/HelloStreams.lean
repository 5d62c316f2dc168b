import Mathlib
import PinpointExamples.Lib.Duplex
import PinpointExamples.Server.GrpcInterceptor

/-!
# The calls of the gRPC demo

The client makes a unary, a server-streaming and a bidirectional call; the service has a method for each kind of
call.  Client and method are the two parties of a connection: the client closes its direction with `WritesDone`, and
the method closes the other one with a status.  A unary request is written and closed at once, and what the service
answers without a request is a parameter.

The parties may run in any order.  Since their steps commute, one run that ends shows how every run ends: for the
calls of the demo (`hello_calls_settle`), and for the methods when a client writes any greetings before it reads, over
streams that hold a limited number of messages (`hello_methods_settle`).
-/

namespace PinpointExamples.GrpcServer

/-- `grpc::Status::OK`. -/
def Status.OK : Status := ⟨0, []⟩

end PinpointExamples.GrpcServer

namespace PinpointExamples.GrpcStreams

open Duplex Transition
open GrpcServer (Status)

/-! ### The service -/

/-- A method of the service: it receives greetings and answers greetings and a status. -/
abbrev Method := Party Str Unit Str Status

inductive UnaryState
  | receive
  | reply (response : Str)
  | finish (status : Status)
  | returned
  deriving DecidableEq, Repr

/-- `UnaryCallUnaryReturn`. -/
def unaryCallUnaryReturn (noRequest : Status) : Method where
  State := UnaryState
  op
    | .receive => .receive (.read fun
      | some request => .reply ("Unary response: " ++ request)
      | none => .finish noRequest)
    | .reply response => .send (.write response) (.finish Status.OK)
    | .finish status => .send (.close status) .returned
    | .returned => .stop

inductive StreamReturnState
  | receive
  | loop (request : Str) (i : Nat)
  | finish (status : Status)
  | returned
  deriving DecidableEq, Repr

/-- `UnaryCallStreamReturn`. -/
def unaryCallStreamReturn (noRequest : Status) : Method where
  State := StreamReturnState
  op
    | .receive => .receive (.read fun
      | some request => .loop request 0
      | none => .finish noRequest)
    | .loop request i =>
      if i < 3 then
        .send (.write ("Stream response " ++ (toString i).toList ++ ": " ++ request)) (.loop request (i + 1))
      else .send (.close Status.OK) .returned
    | .finish status => .send (.close status) .returned
    | .returned => .stop

inductive CollectState
  | read (combined : Str)
  | reply (response : Str)
  | finish
  | returned
  deriving DecidableEq, Repr

/-- `StreamCallUnaryReturn`. -/
def streamCallUnaryReturn : Method where
  State := CollectState
  op
    | .read combined => .receive (.read fun
      | some msg => .read (combined ++ msg ++ " ")
      | none => .reply ("Unary response: " ++ combined))
    | .reply response => .send (.write response) .finish
    | .finish => .send (.close Status.OK) .returned
    | .returned => .stop

inductive EchoState
  | read
  | write (resp : Str)
  | finish
  | returned
  deriving DecidableEq, Repr

/-- `StreamCallStreamReturn`. -/
def streamCallStreamReturn : Method where
  State := EchoState
  op
    | .read => .receive (.read fun
      | some request => .write ("Echo: " ++ request)
      | none => .finish)
    | .write resp => .send (.write resp) .read
    | .finish => .send (.close Status.OK) .returned
    | .returned => .stop

/-! ### What the methods answer -/

/-- The response of `UnaryCallUnaryReturn`, and that of `StreamCallUnaryReturn` to a text combined from greetings. -/
def unaryResponse (text : Str) : Str := "Unary response: " ++ text

/-- The greetings, each followed by a space. -/
def combine (greetings : List Str) : Str := greetings.flatMap fun msg => msg ++ " "

/-- The responses of `UnaryCallStreamReturn`. -/
def streamResponses (greeting : Str) : List Str :=
  (List.range 3).map fun i => "Stream response " ++ (toString i).toList ++ ": " ++ greeting

/-- The responses of `StreamCallStreamReturn`. -/
def echoes (greetings : List Str) : List Str := greetings.map fun msg => "Echo: " ++ msg

/-! ### The client -/

/-- What a call of the client did: its result, the lines it printed, and the error it set on the span. -/
structure CallResult where
  ok : Bool
  cout : List Str
  spanError : Option Str
  deriving DecidableEq, Repr

/-- How a call ends once it has the status; `last` is what it prints after that. -/
def CallResult.ofStatus (cout last : List Str) (status : Status) : CallResult :=
  if status.ok then ⟨true, cout ++ last, none⟩ else ⟨false, cout, some status.message⟩

abbrev Client := Party Str Status Str Unit

inductive CallUnaryState
  | write
  | close
  | receive
  | finish (response : Str)
  | returned (result : CallResult)
  deriving DecidableEq, Repr

/-- `CallUnary`; without a response the greeting stays empty. -/
def callUnary : Client where
  State := CallUnaryState
  op
    | .write => .send (.write "Hello from unary client") .close
    | .close => .send (.close ()) .receive
    | .receive => .receive (.read fun response => .finish (response.getD []))
    | .finish response => .receive (.await fun status =>
      .returned (.ofStatus [] ["Unary response: " ++ response] status))
    | .returned _ => .stop

inductive CallServerStreamingState
  | write
  | close
  | read (cout : List Str)
  | finish (cout : List Str)
  | returned (result : CallResult)
  deriving DecidableEq, Repr

/-- `CallServerStreaming`. -/
def callServerStreaming : Client where
  State := CallServerStreamingState
  op
    | .write => .send (.write "Stream greetings") .close
    | .close => .send (.close ()) (.read [])
    | .read cout => .receive (.read fun
      | some response => .read (cout ++ ["Server stream: " ++ response])
      | none => .finish cout)
    | .finish cout => .receive (.await fun status => .returned (.ofStatus cout [] status))
    | .returned _ => .stop

inductive CallBidirectionalState
  | write (i : Nat) (cout : List Str)
  | read (i : Nat) (cout : List Str)
  | finish (cout : List Str)
  | returned (result : CallResult)
  deriving DecidableEq, Repr

/-- `CallBidirectional` with this number of rounds. -/
def callBidirectionalFor (rounds : Nat) : Client where
  State := CallBidirectionalState
  op
    | .write i cout =>
      if i < rounds then .send (.write ("Message " ++ (toString i).toList)) (.read i cout)
      else .send (.close ()) (.finish cout)
    | .read i cout => .receive (.read fun
      | some response => .write (i + 1) (cout ++ ["Bidi response: " ++ response])
      | none => .write (i + 1) cout)
    | .finish cout => .receive (.await fun status => .returned (.ofStatus cout [] status))
    | .returned _ => .stop

/-- `CallBidirectional`. -/
def callBidirectional : Client := callBidirectionalFor 3

/-! ### How the calls end -/

/-- However the two parties run, the call ends: from a connection on which nothing was sent yet, with the client and
the method in these states, in one on which everything was received and whose status is OK, with the parties in the
other two states.  It takes `n` steps. -/
def CallEnds (client : Client) (method : Method) (left left' : client.State) (right right' : method.State) (n : Nat) :
    Prop :=
  Settles (step client method) ⟨left, right, .empty, .empty⟩ ⟨left', right', ⟨[], some Status.OK⟩, ⟨[], some ()⟩⟩ n

/-- The line that the client prints for the response of the unary call. -/
def unaryLine : Str := "Unary response: " ++ unaryResponse "Hello from unary client"

private theorem callUnary_ends (noRequest : Status) :
    CallEnds callUnary (unaryCallUnaryReturn noRequest) .write (.returned ⟨true, [unaryLine], none⟩) .receive
      .returned 7 := by
  have hrun : exec (step callUnary (unaryCallUnaryReturn noRequest)) ⟨.write, .receive, .empty, .empty⟩
      [.left, .left, .right, .right, .right, .left, .left] =
        some ⟨.returned ⟨true, [unaryLine], none⟩, .returned,
          ⟨[], some Status.OK⟩, ⟨[], some ()⟩⟩ := rfl
  exact settles_of_exec (commuting _ _) hrun (final_of_stop rfl rfl)

/-- The lines that the client prints for the responses of the stream. -/
def streamLines : List Str :=
  (streamResponses "Stream greetings").map fun response => "Server stream: " ++ response

private theorem callServerStreaming_ends (noRequest : Status) :
    CallEnds callServerStreaming (unaryCallStreamReturn noRequest) .write (.returned ⟨true, streamLines, none⟩)
      .receive .returned 12 := by
  have hrun : exec (step callServerStreaming (unaryCallStreamReturn noRequest)) ⟨.write, .receive, .empty, .empty⟩
      [.left, .left, .right, .right, .right, .right, .right, .left, .left, .left, .left, .left] =
        some ⟨.returned ⟨true, streamLines, none⟩, .returned, ⟨[], some Status.OK⟩, ⟨[], some ()⟩⟩ := rfl
  exact settles_of_exec (commuting _ _) hrun (final_of_stop rfl rfl)

/-! ### The bidirectional call -/

/-- The line that the client prints for its `i`-th message. -/
def bidiLine (i : Nat) : Str := "Bidi response: " ++ ("Echo: " ++ ("Message " ++ (toString i).toList))

/-- The sides that run in one round: a message is written, read, answered, and the answer read. -/
def bidiRound : List Side := [.left, .right, .right, .left]

/-- The connection before round `i`. -/
def bidiBefore (rounds i : Nat) (cout : List Str) : Connection (callBidirectionalFor rounds) streamCallStreamReturn :=
  ⟨.write i cout, .read, .empty, .empty⟩

section bidi

variable {rounds : Nat}

private theorem exec_bidiRound {i : Nat} (hi : i < rounds) (cout : List Str) :
    exec (step (callBidirectionalFor rounds) streamCallStreamReturn) (bidiBefore rounds i cout) bidiRound =
      some (bidiBefore rounds (i + 1) (cout ++ [bidiLine i])) := by
  have hwrite : (callBidirectionalFor rounds).op (.write i cout) =
      .send (.write ("Message " ++ (toString i).toList)) (.read i cout) := if_pos hi
  have hleft : step (callBidirectionalFor rounds) streamCallStreamReturn (bidiBefore rounds i cout) .left =
      some ⟨.read i cout, .read, .empty, ⟨["Message " ++ (toString i).toList], none⟩⟩ := by
    rw [step_left_eq_some]
    exact ⟨_, _, _, (Party.step_of_send hwrite).2 ⟨rfl, rfl, rfl⟩, rfl⟩
  rw [bidiRound, exec_cons, hleft]
  rfl

/-- The rounds from `i` on, one after the other. -/
theorem exec_bidiRounds {i k : Nat} (hik : i + k = rounds) (cout : List Str) :
    exec (step (callBidirectionalFor rounds) streamCallStreamReturn) (bidiBefore rounds i cout)
        (List.replicate k bidiRound).flatten =
      some (bidiBefore rounds rounds (cout ++ (List.range' i k).map bidiLine)) := by
  induction k generalizing i cout with
  | zero =>
    rw [Nat.add_zero] at hik
    rw [hik]
    simp
  | succ k ih =>
    have hi : i < rounds := by omega
    have hrest : i + 1 + k = rounds := by omega
    rw [List.replicate_succ, List.flatten_cons, exec_append, exec_bidiRound hi, Option.bind_some, ih hrest,
      List.range'_succ, List.map_cons, List.append_assoc]
    rfl

private theorem exec_bidiEnd (cout : List Str) :
    exec (step (callBidirectionalFor rounds) streamCallStreamReturn) (bidiBefore rounds rounds cout)
        [.left, .right, .right, .left] =
      some ⟨.returned ⟨true, cout, none⟩, .returned, ⟨[], some Status.OK⟩, ⟨[], some ()⟩⟩ := by
  have hclose : (callBidirectionalFor rounds).op (.write rounds cout) = .send (.close ()) (.finish cout) :=
    if_neg (Nat.lt_irrefl rounds)
  have hleft : step (callBidirectionalFor rounds) streamCallStreamReturn (bidiBefore rounds rounds cout) .left =
      some ⟨.finish cout, .read, .empty, ⟨[], some ()⟩⟩ := by
    rw [step_left_eq_some]
    exact ⟨_, _, _, (Party.step_of_send hclose).2 ⟨rfl, rfl, rfl⟩, rfl⟩
  have hstatus : CallResult.ofStatus cout [] Status.OK = ⟨true, cout, none⟩ := by
    simp [CallResult.ofStatus, Status.ok, Status.OK]
  rw [exec_cons, hleft, ← hstatus]
  rfl

private theorem callBidirectional_ends (rounds : Nat) :
    CallEnds (callBidirectionalFor rounds) streamCallStreamReturn (.write 0 [])
      (.returned ⟨true, (List.range rounds).map bidiLine, none⟩) .read .returned (4 * rounds + 4) := by
  have hrun : exec (step (callBidirectionalFor rounds) streamCallStreamReturn) (bidiBefore rounds 0 [])
      ((List.replicate rounds bidiRound).flatten ++ [.left, .right, .right, .left]) =
        some ⟨.returned ⟨true, (List.range rounds).map bidiLine, none⟩, .returned, ⟨[], some Status.OK⟩,
          ⟨[], some ()⟩⟩ := by
    rw [exec_append, exec_bidiRounds (Nat.zero_add rounds), Option.bind_some, exec_bidiEnd, List.nil_append,
      List.range_eq_range']
  have hlen : ((List.replicate rounds bidiRound).flatten ++ [Side.left, .right, .right, .left]).length =
      4 * rounds + 4 := by
    simp [bidiRound, Nat.mul_comm]
  have h := settles_of_exec (commuting _ _) hrun (final_of_stop rfl rfl)
  rw [hlen] at h
  exact h

end bidi

/-- However client and service run, the three calls of the demo come to an end: no run gets stuck on the way, the
calls return true with the lines of all responses, and the bidirectional one does so for any number of rounds. -/
theorem hello_calls_settle (noRequest : Status) (rounds : Nat) :
    CallEnds callUnary (unaryCallUnaryReturn noRequest) .write (.returned ⟨true, [unaryLine], none⟩) .receive
      .returned 7 ∧
    CallEnds callServerStreaming (unaryCallStreamReturn noRequest) .write (.returned ⟨true, streamLines, none⟩)
      .receive .returned 12 ∧
    CallEnds (callBidirectionalFor rounds) streamCallStreamReturn (.write 0 [])
      (.returned ⟨true, (List.range rounds).map bidiLine, none⟩) .read .returned (4 * rounds + 4) :=
  ⟨callUnary_ends noRequest, callServerStreaming_ends noRequest, callBidirectional_ends rounds⟩

/-! ### The methods for any greetings -/

inductive StreamClientState
  | write (rest : List Str)
  | read (responses : List Str)
  | finish (responses : List Str)
  | returned (responses : List Str) (status : Status)
  deriving DecidableEq, Repr

/-- A client that writes all its greetings, closes its direction, and only then reads what the method answers. -/
def streamClient : Client where
  State := StreamClientState
  op
    | .write (msg :: rest) => .send (.write msg) (.write rest)
    | .write [] => .send (.close ()) (.read [])
    | .read responses => .receive (.read fun
      | some response => .read (responses ++ [response])
      | none => .finish responses)
    | .finish responses => .receive (.await fun status => .returned responses status)
    | .returned _ _ => .stop

/-- The client and a method at the beginning of a call. -/
def callStart (method : Method) (start : method.State) (greetings : List Str) : Connection streamClient method :=
  ⟨.write greetings, start, .empty, .empty⟩

/-- The method answers these greetings with these responses and the status OK, however the two parties run. -/
def Answers (cap : Capacity) (method : Method) (start returned : method.State) (greetings responses : List Str) :
    Prop :=
  ∃ n, Settles (stepWithin cap streamClient method) (callStart method start greetings)
    ⟨.returned responses Status.OK, returned, ⟨[], some Status.OK⟩, ⟨[], some ()⟩⟩ n

/-- However the two parties run, in the end both wait to write, each for the other one to read. -/
def Deadlocks (cap : Capacity) (method : Method) (start : method.State) (greetings : List Str) : Prop :=
  ∃ s n, Settles (stepWithin cap streamClient method) (callStart method start greetings) s n ∧
    blocked cap s .left = true ∧ blocked cap s .right = true

section answers

variable {method : Method} {cap : Capacity}

/-- It is enough that one run ends with the responses. -/
theorem answers_of_exec {start returned : method.State} {greetings responses : List Str} {sides : List Side}
    (hstop : method.op returned = .stop)
    (h : exec (stepWithin cap streamClient method) (callStart method start greetings) sides =
      some ⟨.returned responses Status.OK, returned, ⟨[], some Status.OK⟩, ⟨[], some ()⟩⟩) :
    Answers cap method start returned greetings responses :=
  ⟨sides.length, settles_of_exec (commuting_within cap streamClient method) h
    (final_within (final_of_stop rfl hstop))⟩

private theorem unaryCallUnaryReturn_answers (noRequest : Status) (greeting : Str) :
    Answers cap (unaryCallUnaryReturn noRequest) .receive .returned [greeting] [unaryResponse greeting] := by
  have hrun : exec (stepWithin .one streamClient (unaryCallUnaryReturn noRequest)) (callStart _ .receive [greeting])
      [.left, .left, .right, .right, .right, .left, .left, .left] =
        some ⟨.returned [unaryResponse greeting] Status.OK, .returned, ⟨[], some Status.OK⟩, ⟨[], some ()⟩⟩ := rfl
  exact answers_of_exec rfl (exec_within_of_one cap hrun)

private theorem unaryCallStreamReturn_answers (noRequest : Status) (greeting : Str) :
    Answers cap (unaryCallStreamReturn noRequest) .receive .returned [greeting] (streamResponses greeting) := by
  have hrun : exec (stepWithin .one streamClient (unaryCallStreamReturn noRequest)) (callStart _ .receive [greeting])
      [.left, .left, .right, .right, .left, .right, .left, .right, .left, .right, .left, .left] =
        some ⟨.returned (streamResponses greeting) Status.OK, .returned, ⟨[], some Status.OK⟩, ⟨[], some ()⟩⟩ := rfl
  exact answers_of_exec rfl (exec_within_of_one cap hrun)

/-- `StreamCallUnaryReturn` reads each greeting as it comes, and the client what is combined from them. -/
theorem exec_collect (greetings : List Str) (combined : Str) :
    exec (stepWithin .one streamClient streamCallUnaryReturn)
        (callStart streamCallUnaryReturn (.read combined) greetings)
        ((List.replicate greetings.length [Side.left, .right]).flatten ++
          [.left, .right, .right, .right, .left, .left, .left]) =
      some ⟨.returned [unaryResponse (combined ++ combine greetings)] Status.OK, .returned, ⟨[], some Status.OK⟩,
        ⟨[], some ()⟩⟩ := by
  induction greetings generalizing combined with
  | nil =>
    rw [combine, List.flatMap_nil, List.append_nil]
    rfl
  | cons msg rest ih =>
    have hround : exec (stepWithin .one streamClient streamCallUnaryReturn)
        (callStart streamCallUnaryReturn (.read combined) (msg :: rest))
        [.left, .right] = some (callStart _ (CollectState.read (combined ++ msg ++ " ")) rest) := rfl
    have htext : combined ++ msg ++ " " ++ combine rest = combined ++ combine (msg :: rest) := by
      simp [combine]
    rw [List.length_cons, List.replicate_succ, List.flatten_cons, List.append_assoc, exec_append, hround,
      Option.bind_some, ih, htext]

private theorem streamCallUnaryReturn_answers (greetings : List Str) :
    Answers cap streamCallUnaryReturn (.read []) .returned greetings [unaryResponse (combine greetings)] :=
  answers_of_exec rfl (exec_within_of_one cap (exec_collect greetings []))

/-! ### The echo -/

/-- The connection between the client and `StreamCallStreamReturn` while both directions are open. -/
abbrev echoing (rest : List Str) (method : EchoState) (toClient toMethod : List Str) :
    Connection streamClient streamCallStreamReturn :=
  ⟨.write rest, method, ⟨toClient, none⟩, ⟨toMethod, none⟩⟩

/-- While there is room for the echoes, the method answers each greeting as it comes. -/
theorem exec_echoed (first rest echoed : List Str) (hroom : echoed.length + first.length ≤ cap.toLeft) :
    exec (stepWithin cap streamClient streamCallStreamReturn) (echoing (first ++ rest) .read echoed [])
        (List.replicate first.length [Side.left, .right, .right]).flatten =
      some (echoing rest .read (echoed ++ echoes first) []) := by
  induction first generalizing echoed with
  | nil =>
    rw [echoes, List.map_nil, List.append_nil]
    rfl
  | cons msg first ih =>
    rw [List.length_cons] at hroom
    have hwrite : blocked cap (echoing (msg :: (first ++ rest)) .read echoed []) .left = false := by
      simp only [blocked, List.length_nil, Bool.and_eq_false_iff, decide_eq_false_iff_not]
      exact .inr (Nat.not_le.2 cap.toRight_pos)
    have hecho : blocked cap (echoing (first ++ rest) (.write ("Echo: " ++ msg)) echoed []) .right = false := by
      simp only [blocked, Bool.and_eq_false_iff, decide_eq_false_iff_not]
      exact .inr (by omega)
    have hrest := ih (echoed ++ ["Echo: " ++ msg]) (by
      rw [List.length_append, List.length_singleton]
      omega)
    rw [List.append_assoc] at hrest
    rw [List.length_cons, List.replicate_succ, List.flatten_cons]
    refine (exec_within_cons hwrite rfl _).trans ?_
    refine (exec_within_cons rfl rfl _).trans ?_
    exact (exec_within_cons hecho rfl _).trans hrest

/-- While there is room for greetings, the client writes them. -/
theorem exec_queued (queued rest : List Str) (method : EchoState) (toClient toMethod : List Str)
    (hroom : toMethod.length + queued.length ≤ cap.toRight) :
    exec (stepWithin cap streamClient streamCallStreamReturn) (echoing (queued ++ rest) method toClient toMethod)
        (List.replicate queued.length .left) =
      some (echoing rest method toClient (toMethod ++ queued)) := by
  induction queued generalizing toMethod with
  | nil =>
    rw [List.append_nil]
    rfl
  | cons msg queued ih =>
    rw [List.length_cons] at hroom
    have hwrite : blocked cap (echoing (msg :: (queued ++ rest)) method toClient toMethod) .left = false := by
      simp only [blocked, Bool.and_eq_false_iff, decide_eq_false_iff_not]
      exact .inr (by omega)
    have hrest := ih (toMethod ++ [msg]) (by
      rw [List.length_append, List.length_singleton]
      omega)
    rw [List.append_assoc] at hrest
    rw [List.length_cons, List.replicate_succ]
    exact (exec_within_cons hwrite rfl _).trans hrest

/-- The pipe to the client is full, the method waits with one more echo, and the client goes on writing. -/
theorem exec_full (first queued rest : List Str) (msg : Str) (hfirst : first.length ≤ cap.toLeft)
    (hqueued : queued.length ≤ cap.toRight) :
    exec (stepWithin cap streamClient streamCallStreamReturn) (callStart _ .read (first ++ msg :: (queued ++ rest)))
        ((List.replicate first.length [Side.left, .right, .right]).flatten ++
          (.left :: .right :: List.replicate queued.length .left)) =
      some (echoing rest (.write ("Echo: " ++ msg)) (echoes first) queued) := by
  have hechoed := exec_echoed first (msg :: (queued ++ rest)) [] (by simpa using hfirst)
  have hwrite : blocked cap (echoing (msg :: (queued ++ rest)) .read (echoes first) []) .left = false := by
    simp only [blocked, List.length_nil, Bool.and_eq_false_iff, decide_eq_false_iff_not]
    exact .inr (Nat.not_le.2 cap.toRight_pos)
  have hrest := exec_queued queued rest (.write ("Echo: " ++ msg)) (echoes first) [] (by simpa using hqueued)
  have hstart : callStart streamCallStreamReturn .read (first ++ msg :: (queued ++ rest)) =
      echoing (first ++ msg :: (queued ++ rest)) .read [] [] := rfl
  rw [exec_append, hstart, hechoed, Option.bind_some]
  refine (exec_within_cons hwrite rfl _).trans ?_
  exact (exec_within_cons rfl rfl _).trans hrest

/-- The client reads what has come. -/
theorem exec_read (responses read : List Str) (method : EchoState) (toMethod : Pipe Str Unit) :
    exec (stepWithin cap streamClient streamCallStreamReturn) ⟨.read read, method, ⟨responses, none⟩, toMethod⟩
        (List.replicate responses.length .left) =
      some ⟨.read (read ++ responses), method, .empty, toMethod⟩ := by
  induction responses generalizing read with
  | nil =>
    rw [List.append_nil]
    rfl
  | cons response rest ih =>
    have hrest := ih (read ++ [response])
    rw [List.append_assoc] at hrest
    rw [List.length_cons, List.replicate_succ]
    exact (exec_within_cons rfl rfl _).trans hrest

/-- Once the client reads, the greetings that are left are echoed one by one. -/
theorem exec_drain (queued read : List Str) :
    exec (stepWithin .one streamClient streamCallStreamReturn) ⟨.read read, .read, .empty, ⟨queued, some ()⟩⟩
        ((List.replicate queued.length [Side.right, .right, .left]).flatten ++ [.right, .right, .left, .left]) =
      some ⟨.returned (read ++ echoes queued) Status.OK, .returned, ⟨[], some Status.OK⟩, ⟨[], some ()⟩⟩ := by
  induction queued generalizing read with
  | nil =>
    rw [echoes, List.map_nil, List.append_nil]
    rfl
  | cons msg queued ih =>
    have hround : exec (stepWithin .one streamClient streamCallStreamReturn)
        ⟨.read read, .read, .empty, ⟨msg :: queued, some ()⟩⟩ [.right, .right, .left] =
          some ⟨.read (read ++ ["Echo: " ++ msg]), .read, .empty, ⟨queued, some ()⟩⟩ := rfl
    rw [List.length_cons, List.replicate_succ, List.flatten_cons, List.append_assoc, exec_append, hround,
      Option.bind_some, ih, List.append_assoc]
    rfl

/-- If all echoes find room, the client reads them after it has written. -/
theorem answers_of_room (greetings : List Str) (hroom : greetings.length ≤ cap.toLeft) :
    Answers cap streamCallStreamReturn .read .returned greetings (echoes greetings) := by
  have hechoed := exec_echoed greetings [] [] (by simpa using hroom)
  have hread := @exec_read cap (echoes greetings) [] .read ⟨[], some ()⟩
  have hdrain := exec_within_of_one cap (exec_drain [] (echoes greetings))
  rw [List.append_nil] at hechoed
  have hend : echoes greetings ++ echoes [] = echoes greetings := List.append_nil _
  have hrun : exec (stepWithin cap streamClient streamCallStreamReturn) (callStart _ .read greetings)
      ((List.replicate greetings.length [Side.left, .right, .right]).flatten ++
        (.left :: (List.replicate (echoes greetings).length .left ++ [.right, .right, .left, .left]))) =
      some ⟨.returned (echoes greetings) Status.OK, .returned, ⟨[], some Status.OK⟩, ⟨[], some ()⟩⟩ := by
    have hstart : callStart streamCallStreamReturn .read greetings = echoing greetings .read [] [] := rfl
    rw [exec_append, hstart, hechoed, Option.bind_some]
    refine (exec_within_cons rfl rfl _).trans ?_
    rw [exec_append]
    refine (congrArg (Option.bind · _) hread).trans ?_
    rw [hend] at hdrain
    exact hdrain
  exact answers_of_exec rfl hrun

/-- If the greetings that come too early find room, the last echoes are read as they come. -/
theorem answers_of_full (first queued : List Str) (msg : Str) (hfirst : first.length ≤ cap.toLeft)
    (hqueued : queued.length ≤ cap.toRight) :
    Answers cap streamCallStreamReturn .read .returned (first ++ msg :: queued)
      (echoes (first ++ msg :: queued)) := by
  have hfull := exec_full first queued [] msg hfirst hqueued
  rw [List.append_nil] at hfull
  -- the client has written all, and reads what is on the way
  have hread := @exec_read cap (echoes first) [] (.write ("Echo: " ++ msg)) ⟨queued, some ()⟩
  have hnext : exec (stepWithin .one streamClient streamCallStreamReturn)
      ⟨.read (echoes first), .write ("Echo: " ++ msg), .empty, ⟨queued, some ()⟩⟩ [.right, .left] =
        some ⟨.read (echoes first ++ ["Echo: " ++ msg]), .read, .empty, ⟨queued, some ()⟩⟩ := rfl
  have hdrain := exec_within_of_one cap (exec_drain queued (echoes first ++ ["Echo: " ++ msg]))
  have hend : echoes first ++ ["Echo: " ++ msg] ++ echoes queued = echoes (first ++ msg :: queued) := by
    simp [echoes]
  rw [hend] at hdrain
  have hrun : exec (stepWithin cap streamClient streamCallStreamReturn) (callStart _ .read (first ++ msg :: queued))
      (((List.replicate first.length [Side.left, .right, .right]).flatten ++
        (.left :: .right :: List.replicate queued.length .left)) ++
        (.left :: (List.replicate (echoes first).length .left ++ ([.right, .left] ++
          ((List.replicate queued.length [Side.right, .right, .left]).flatten ++ [.right, .right, .left, .left]))))) =
      some ⟨.returned (echoes (first ++ msg :: queued)) Status.OK, .returned, ⟨[], some Status.OK⟩,
        ⟨[], some ()⟩⟩ := by
    rw [exec_append, hfull, Option.bind_some]
    refine (exec_within_cons rfl rfl _).trans ?_
    rw [exec_append]
    refine (congrArg (Option.bind · _) hread).trans ?_
    rw [Option.bind_some, exec_append]
    exact (congrArg (Option.bind · _) (exec_within_of_one cap hnext)).trans hdrain
  exact answers_of_exec rfl hrun

/-- If there is one more greeting, neither side can go on. -/
theorem deadlocks_of_full (first queued rest : List Str) (msg next : Str) (hfirst : first.length = cap.toLeft)
    (hqueued : queued.length = cap.toRight) :
    Deadlocks cap streamCallStreamReturn .read (first ++ msg :: (queued ++ next :: rest)) := by
  have hrun := exec_full first queued (next :: rest) msg (le_of_eq hfirst) (le_of_eq hqueued)
  have hleft : blocked cap (echoing (next :: rest) (.write ("Echo: " ++ msg)) (echoes first) queued) .left = true :=
    decide_eq_true (le_of_eq hqueued.symm)
  have hlength : (echoes first).length = cap.toLeft := by
    rw [echoes, List.length_map, hfirst]
  have hright : blocked cap (echoing (next :: rest) (.write ("Echo: " ++ msg)) (echoes first) queued) .right = true :=
    decide_eq_true (le_of_eq hlength.symm)
  exact ⟨_, _, settles_of_exec (commuting_within cap streamClient _) hrun (final_of_blocked hleft hright), hleft,
    hright⟩

/-- The echo comes to an end exactly if the greetings fit into the two pipes and the method. -/
theorem streamCallStreamReturn_answers (cap : Capacity) (greetings : List Str) :
    (greetings.length ≤ cap.toLeft + cap.toRight + 1 →
      Answers cap streamCallStreamReturn .read .returned greetings (echoes greetings)) ∧
    (cap.toLeft + cap.toRight + 1 < greetings.length → Deadlocks cap streamCallStreamReturn .read greetings) := by
  have hfirst : (greetings.take cap.toLeft).length ≤ cap.toLeft := List.length_take_le _ _
  -- the first greetings are those whose answers fill the pipe to the client
  rcases hlater : greetings.drop cap.toLeft with _ | ⟨msg, later⟩
  · rw [List.drop_eq_nil_iff] at hlater
    exact ⟨fun _ => answers_of_room greetings hlater, fun hlong => absurd hlater (by omega)⟩
  · have hsplit : greetings = greetings.take cap.toLeft ++ msg :: later := by
      rw [← hlater, List.take_append_drop]
    have hlength : greetings.length = cap.toLeft + (later.length + 1) := by
      have hdrop := congrArg List.length hlater
      rw [List.length_drop, List.length_cons] at hdrop
      omega
    constructor
    · intro hshort
      have hanswers := answers_of_full (greetings.take cap.toLeft) later msg hfirst (by omega)
      rwa [← hsplit] at hanswers
    · intro hlong
      have hqueued : (later.take cap.toRight).length = cap.toRight := List.length_take_of_le (by omega)
      rcases hlast : later.drop cap.toRight with _ | ⟨next, rest⟩
      · rw [List.drop_eq_nil_iff] at hlast
        omega
      · have hdeadlocks := deadlocks_of_full (greetings.take cap.toLeft) (later.take cap.toRight) rest msg next
          (List.length_take_of_le (by omega)) hqueued
        rwa [← hlast, List.take_append_drop, ← hsplit] at hdeadlocks

end answers

/-- What the methods of the service answer to a client that first writes and then reads, however the two run and
however many messages the streams hold.  Only the echo may never end: the client does not read the echoes while it
writes. -/
theorem hello_methods_settle (cap : Capacity) (noRequest : Status) (greeting : Str) (greetings : List Str) :
    Answers cap (unaryCallUnaryReturn noRequest) .receive .returned [greeting] [unaryResponse greeting] ∧
    Answers cap (unaryCallStreamReturn noRequest) .receive .returned [greeting] (streamResponses greeting) ∧
    Answers cap streamCallUnaryReturn (.read []) .returned greetings [unaryResponse (combine greetings)] ∧
    (greetings.length ≤ cap.toLeft + cap.toRight + 1 →
      Answers cap streamCallStreamReturn .read .returned greetings (echoes greetings)) ∧
    (cap.toLeft + cap.toRight + 1 < greetings.length → Deadlocks cap streamCallStreamReturn .read greetings) :=
  ⟨unaryCallUnaryReturn_answers noRequest greeting, unaryCallStreamReturn_answers noRequest greeting,
    streamCallUnaryReturn_answers greetings, streamCallStreamReturn_answers cap greetings⟩

end PinpointExamples.GrpcStreams
