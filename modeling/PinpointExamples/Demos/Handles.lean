import Mathlib
import PinpointExamples.Demos.CurlWeb
import PinpointExamples.Demos.KafkaConsumer
import PinpointExamples.Demos.KafkaProducer
import PinpointExamples.Demos.Redis
import PinpointExamples.Lib.Typestate

/-!
# What the demos take from C libraries and give back

hiredis, libcurl and librdkafka hand out pointers that must be given back: connections and replies, easy handles and
header lists, headers, configurations, consumers and messages.  Here the functions that work with them are lists of
the calls they make, in the order of the source, for the same outcomes as before and for any pointers.  Two kinds of
jobs keep something: a request of the libcurl demo with an append that fails after one that succeeded, and a run of
the consumer that does not return.  However the threads of a server take their turns with other jobs, a pointer is
used by the thread that got it, while it is live, and given back once (`handles_respected`); headers that a message
adopts count as given back.
-/

namespace PinpointExamples

open History Transition Typestate

abbrev Ptr := Nat

/-- What a pointer points to. -/
inductive Kind
  | redisContext
  | redisReply
  | curlEasy
  | curlSlist
  | kafkaHeaders
  | kafkaConf
  | kafkaConsumer
  | kafkaMessage
  deriving DecidableEq, Repr

/-- The calls of the three libraries; a null pointer is `none`.  Reads of a field are calls as well. -/
inductive LibCall
  | redisConnectWithTimeout (c : Option Ptr)
  | redisContextField (c : Ptr)
  | redisvCommand (c : Ptr) (reply : Option Ptr)
  | redisReplyField (r : Ptr)
  | freeReplyObject (r : Ptr)
  | redisFree (c : Ptr)
  | curlEasyInit (curl : Option Ptr)
  | curlEasySetopt (curl : Ptr)
  | curlSetHeaders (curl : Ptr) (headers : Option Ptr)
  | curlSlistAppend (headers result : Option Ptr)
  | curlReadHeaders (headers : Option Ptr)
  | curlEasyPerform (curl : Ptr) (headers : Option Ptr)
  | curlEasyGetinfo (curl : Ptr)
  | curlEasyCleanup (curl : Ptr)
  | curlSlistFreeAll (headers : Option Ptr)
  | headersCreate (headers : Ptr)
  | headersAdd (headers : Ptr)
  | produce (headers : Ptr) (adopted : Bool)
  | headersDelete (headers : Ptr)
  | confCreate (conf : Ptr)
  | confSet (conf : Ptr)
  | confDelete (conf : Ptr)
  | consumerCreate (conf : Ptr) (consumer : Option Ptr)
  | consumerSubscribe (consumer : Ptr)
  | consumerConsume (consumer msg : Ptr)
  | consumerClose (consumer : Ptr)
  | consumerDelete (consumer : Ptr)
  | messageField (msg : Ptr)
  | messageDelete (msg : Ptr)
  deriving DecidableEq, Repr

abbrev LibHandle := Kind × Ptr

/-- An action on a pointer; on a null pointer nothing is done. -/
def onPtr (kind : Kind) (act : Life) : Option Ptr → List (Touch LibHandle Life)
  | none => []
  | some p => [⟨(kind, p), act⟩]

/-- What a call does with its pointers. -/
def LibCall.touches : LibCall → List (Touch LibHandle Life)
  | .redisConnectWithTimeout c => onPtr .redisContext .acquire c
  | .redisContextField c => onPtr .redisContext .use (some c)
  | .redisvCommand c reply => onPtr .redisContext .use (some c) ++ onPtr .redisReply .acquire reply
  | .redisReplyField r => onPtr .redisReply .use (some r)
  | .freeReplyObject r => onPtr .redisReply .release (some r)
  | .redisFree c => onPtr .redisContext .release (some c)
  | .curlEasyInit curl => onPtr .curlEasy .acquire curl
  | .curlEasySetopt curl => onPtr .curlEasy .use (some curl)
  | .curlSetHeaders curl headers => onPtr .curlEasy .use (some curl) ++ onPtr .curlSlist .use headers
  | .curlSlistAppend none result => onPtr .curlSlist .acquire result
  | .curlSlistAppend (some headers) _ => onPtr .curlSlist .use (some headers)
  | .curlReadHeaders headers => onPtr .curlSlist .use headers
  | .curlEasyPerform curl headers => onPtr .curlEasy .use (some curl) ++ onPtr .curlSlist .use headers
  | .curlEasyGetinfo curl => onPtr .curlEasy .use (some curl)
  | .curlEasyCleanup curl => onPtr .curlEasy .release (some curl)
  | .curlSlistFreeAll headers => onPtr .curlSlist .release headers
  | .headersCreate headers => onPtr .kafkaHeaders .acquire (some headers)
  | .headersAdd headers => onPtr .kafkaHeaders .use (some headers)
  | .produce headers adopted =>
    onPtr .kafkaHeaders .use (some headers) ++ if adopted then onPtr .kafkaHeaders .release (some headers) else []
  | .headersDelete headers => onPtr .kafkaHeaders .release (some headers)
  | .confCreate conf => onPtr .kafkaConf .acquire (some conf)
  | .confSet conf => onPtr .kafkaConf .use (some conf)
  | .confDelete conf => onPtr .kafkaConf .release (some conf)
  | .consumerCreate conf consumer => onPtr .kafkaConf .use (some conf) ++ onPtr .kafkaConsumer .acquire consumer
  | .consumerSubscribe consumer => onPtr .kafkaConsumer .use (some consumer)
  | .consumerConsume consumer msg =>
    onPtr .kafkaConsumer .use (some consumer) ++ onPtr .kafkaMessage .acquire (some msg)
  | .consumerClose consumer => onPtr .kafkaConsumer .use (some consumer)
  | .consumerDelete consumer => onPtr .kafkaConsumer .release (some consumer)
  | .messageField msg => onPtr .kafkaMessage .use (some msg)
  | .messageDelete msg => onPtr .kafkaMessage .release (some msg)

section touches

variable {kind : Kind} {act : Life} {p : Ptr}

@[simp] theorem on_onPtr (kind' : Kind) (o : Option Ptr) :
    on (kind, p) (onPtr kind' act o) = if kind' = kind ∧ o = some p then [act] else [] := by
  cases o with
  | none => simp [onPtr]
  | some p' => by_cases h : kind' = kind ∧ p' = p <;> simp [onPtr, on, h]

end touches

/-! ### Redis -/

namespace Redis

/-- The number of fields of a reply that `execute_command` reads: its `type` for each comparison, and the value. -/
def fieldsRead : ReplyType → Nat
  | .error => 3
  | .string => 3
  | .integer => 4
  | .status => 5
  | _ => 5

/-- `execute_command` on the context `c`, where a reply is at `r`. -/
def executeCommandCalls (c r : Ptr) : Reply → List LibCall
  | .null _ => [.redisvCommand c none, .redisContextField c, .redisContextField c]
  | .reply type _ =>
    .redisvCommand c (some r) :: (List.replicate (fieldsRead type) (.redisReplyField r) ++ [.freeReplyObject r])

/-- `run_redis_demo`, where the reply to the `k`-th command is at `r k`. -/
def runRedisDemoCalls (c : Ptr) (r : Nat → Ptr) (o : RedisOutcomes) : List LibCall :=
  match o.connection with
  | .null => [.redisConnectWithTimeout none]
  | .failed _ => [.redisConnectWithTimeout (some c), .redisContextField c, .redisContextField c, .redisFree c]
  | .connected =>
    .redisConnectWithTimeout (some c) :: (.redisContextField c ::
      ((List.range demoCommands.length).flatMap fun k => executeCommandCalls c (r k) (o.reply k)) ++ [.redisFree c])

/-- A command only uses the context. -/
theorem executeCommandCalls_use (c r : Ptr) (reply : Reply) :
    ∀ x ∈ (executeCommandCalls c r reply).flatMap LibCall.touches, x.handle = (.redisContext, c) → x.act = .use := by
  intro x hx hc
  cases reply with
  | null errstr =>
    simp [executeCommandCalls, LibCall.touches, onPtr] at hx
    rw [hx]
  | reply type str =>
    simp [executeCommandCalls, LibCall.touches, onPtr] at hx
    rcases hx with rfl | rfl | ⟨-, rfl⟩ | rfl
    · rfl
    · cases hc
    · rfl
    · cases hc

/-- A reply is freed by the command that got it. -/
theorem executeCommandCalls_others (c r : Ptr) (reply : Reply) {h : LibHandle} (hh : h ≠ (.redisContext, c)) :
    exec lifetime.next false (on h ((executeCommandCalls c r reply).flatMap LibCall.touches)) = some false := by
  cases reply with
  | null errstr => simp [executeCommandCalls, LibCall.touches, onPtr, on_cons_ne (Ne.symm hh)]
  | reply type str =>
    have hsingle := closed_single (Kind.redisReply, r)
      ((List.replicate (fieldsRead type) (.redisReplyField r)).flatMap LibCall.touches) fun x hx => by
        simp [LibCall.touches, onPtr] at hx
        exact hx.2
    have htouches : (executeCommandCalls c r (.reply type str)).flatMap LibCall.touches =
        ⟨(.redisContext, c), .use⟩ :: ⟨(.redisReply, r), .acquire⟩ ::
          ((List.replicate (fieldsRead type) (.redisReplyField r)).flatMap LibCall.touches ++
            [⟨(.redisReply, r), .release⟩]) := by
      simp [executeCommandCalls, LibCall.touches, onPtr]
    rw [htouches, on_cons_ne (Ne.symm hh)]
    exact hsingle h

/-- The context is around all commands. -/
theorem runRedisDemoCalls_closed (c : Ptr) (r : Nat → Ptr) (o : RedisOutcomes) :
    lifetime.Closed ((runRedisDemoCalls c r o).flatMap LibCall.touches) := by
  unfold runRedisDemoCalls
  cases o.connection with
  | null => exact Protocol.closed_nil
  | failed errstr =>
    have hsingle := closed_single (Kind.redisContext, c)
      [⟨(.redisContext, c), .use⟩, ⟨(.redisContext, c), .use⟩] (by simp)
    exact hsingle
  | connected =>
    let commands := (List.range demoCommands.length).flatMap fun k => executeCommandCalls c (r k) (o.reply k)
    have hframed := closed_framed (Kind.redisContext, c)
      (⟨(.redisContext, c), .use⟩ :: commands.flatMap LibCall.touches) ?_ ?_
    · have htouches : (.redisConnectWithTimeout (some c) :: (.redisContextField c :: commands ++
          [.redisFree c])).flatMap LibCall.touches = ⟨(.redisContext, c), .acquire⟩ ::
            (⟨(.redisContext, c), .use⟩ :: commands.flatMap LibCall.touches ++ [⟨(.redisContext, c), .release⟩]) := by
        simp [LibCall.touches, onPtr]
      rw [htouches]
      exact hframed
    · intro x hx hc
      rcases List.mem_cons.1 hx with rfl | hx
      · rfl
      · rw [List.flatMap_assoc, List.mem_flatMap] at hx
        obtain ⟨k, -, hx⟩ := hx
        exact executeCommandCalls_use c (r k) (o.reply k) x hx hc
    · intro h hh
      rw [on_cons_ne (Ne.symm hh), List.flatMap_assoc, on_flatMap]
      exact exec_flatMap_loop fun k _ => executeCommandCalls_others c (r k) (o.reply k) hh

/-! A context that reported an error is only good for reading the error and for `redisFree`. -/

inductive ContextAct
  | connect
  | field
  | command
  | commandFailed
  | free
  deriving DecidableEq, Repr

inductive ContextState
  | free
  | connected
  | failed
  deriving DecidableEq, Repr

def contextProtocol : Protocol ContextAct ContextState where
  free := .free
  next
    | .free, .connect => some .connected
    | .connected, .field => some .connected
    | .connected, .command => some .connected
    | .connected, .commandFailed => some .failed
    | .connected, .free => some .free
    | .failed, .field => some .failed
    | .failed, .free => some .free
    | _, _ => none

/-- What a call does with a context. -/
def contextTouches : LibCall → List (Touch Ptr ContextAct)
  | .redisConnectWithTimeout (some c) => [⟨c, .connect⟩]
  | .redisContextField c => [⟨c, .field⟩]
  | .redisvCommand c none => [⟨c, .commandFailed⟩]
  | .redisvCommand c (some _) => [⟨c, .command⟩]
  | .redisFree c => [⟨c, .free⟩]
  | _ => []

/-- There was a reply, be it an error. -/
def Reply.Arrived : Reply → Prop
  | .null _ => False
  | .reply _ _ => True

/-- What a command does with the context. -/
def commandActs : Reply → List ContextAct
  | .null _ => [.commandFailed, .field, .field]
  | .reply _ _ => [.command]

private theorem on_executeCommandCalls (c r : Ptr) (reply : Reply) :
    on c ((executeCommandCalls c r reply).flatMap contextTouches) = commandActs reply := by
  cases reply with
  | null errstr => simp [executeCommandCalls, contextTouches, commandActs]
  | reply type str => simp [executeCommandCalls, contextTouches, commandActs, List.flatMap_replicate]

/-- Commands on a connected context, and `redisFree`: only the last one may go without a reply. -/
theorem exec_commands_iff (replies : List Reply) :
    exec contextProtocol.next .connected (replies.flatMap commandActs ++ [.free]) = some .free ↔
      ∀ r ∈ replies.dropLast, r.Arrived := by
  induction replies with
  | nil => simp [contextProtocol]
  | cons r rest ih =>
    cases r with
    | reply type str =>
      have hstep : exec contextProtocol.next .connected
          ((Reply.reply type str :: rest).flatMap commandActs ++ [.free]) =
            exec contextProtocol.next .connected (rest.flatMap commandActs ++ [.free]) := rfl
      rw [hstep, ih]
      cases rest with
      | nil => simp
      | cons r' rest => simp [Reply.Arrived]
    | null errstr =>
      have hstep : exec contextProtocol.next .connected
          ((Reply.null errstr :: rest).flatMap commandActs ++ [.free]) =
            exec contextProtocol.next .failed (rest.flatMap commandActs ++ [.free]) := rfl
      rw [hstep]
      cases rest with
      | nil => simp [contextProtocol]
      | cons r' rest =>
        have hnone : exec contextProtocol.next .failed ((r' :: rest).flatMap commandActs ++ [.free]) = none := by
          cases r' <;> rfl
        rw [hnone]
        simp [Reply.Arrived]

private theorem on_executeCommandCalls_ne {c p : Ptr} (hne : c ≠ p) (r : Ptr) (reply : Reply) :
    on p ((executeCommandCalls c r reply).flatMap contextTouches) = [] := by
  cases reply with
  | null errstr => simp [executeCommandCalls, contextTouches, hne]
  | reply type str => simp [executeCommandCalls, contextTouches, hne, List.flatMap_replicate]

/-- The replies to the commands of a request. -/
def RedisOutcomes.replies (o : RedisOutcomes) : List Reply := (List.range demoCommands.length).map o.reply

private theorem replies_dropLast (o : RedisOutcomes) :
    (∀ r ∈ o.replies.dropLast, r.Arrived) ↔ ∀ k, k + 1 < demoCommands.length → (o.reply k).Arrived := by
  have hlength : demoCommands.length = 11 + 1 := rfl
  have hbound (k : Nat) : k + 1 < 11 + 1 ↔ k < 11 := by omega
  rw [RedisOutcomes.replies, hlength, List.range_succ, List.map_append, List.map_singleton, List.dropLast_concat]
  simp only [hbound, List.forall_mem_map, List.mem_range]

/-- The calls of all commands. -/
def commandCalls (c : Ptr) (r : Nat → Ptr) (o : RedisOutcomes) : List LibCall :=
  (List.range demoCommands.length).flatMap fun k => executeCommandCalls c (r k) (o.reply k)

private theorem on_commandCalls (c : Ptr) (r : Nat → Ptr) (o : RedisOutcomes) :
    on c ((commandCalls c r o).flatMap contextTouches) = o.replies.flatMap commandActs := by
  rw [commandCalls, List.flatMap_assoc, on_flatMap, RedisOutcomes.replies, List.flatMap_map]
  simp only [on_executeCommandCalls]

private theorem on_commandCalls_ne {c p : Ptr} (hne : c ≠ p) (r : Nat → Ptr) (o : RedisOutcomes) :
    on p ((commandCalls c r o).flatMap contextTouches) = [] := by
  rw [commandCalls, List.flatMap_assoc, on_flatMap]
  simp only [on_executeCommandCalls_ne hne]
  simp

private theorem runRedisDemoCalls_context_iff (c : Ptr) (r : Nat → Ptr) (o : RedisOutcomes) :
    contextProtocol.Closed ((runRedisDemoCalls c r o).flatMap contextTouches) ↔
      (o.connection = .connected → ∀ k, k + 1 < demoCommands.length → (o.reply k).Arrived) := by
  unfold runRedisDemoCalls
  cases o.connection with
  | null => exact iff_of_true Protocol.closed_nil (fun h => nomatch h)
  | failed errstr =>
    refine iff_of_true (fun p => ?_) (fun h => nomatch h)
    by_cases hp : c = p
    · subst hp
      simp [contextTouches, contextProtocol]
    · simp [contextTouches, hp]
  | connected =>
    have hcalls : (.redisConnectWithTimeout (some c) :: (.redisContextField c ::
        ((List.range demoCommands.length).flatMap fun k => executeCommandCalls c (r k) (o.reply k)) ++
          [.redisFree c])).flatMap contextTouches =
        ⟨c, .connect⟩ :: ⟨c, .field⟩ :: ((commandCalls c r o).flatMap contextTouches ++ [⟨c, .free⟩]) := by
      simp [contextTouches, commandCalls]
    -- behind the read of its field the context is connected
    have hself : exec contextProtocol.next .free (.connect :: .field :: (o.replies.flatMap commandActs ++ [.free])) =
        exec contextProtocol.next .connected (o.replies.flatMap commandActs ++ [.free]) := rfl
    rw [forall_prop_of_true rfl, ← replies_dropLast, ← exec_commands_iff, ← hself, hcalls]
    constructor
    · intro hclosed
      have hc := hclosed c
      rw [on_cons_self, on_cons_self, on_append, on_commandCalls, on_cons_self] at hc
      exact hc
    · intro hcommands p
      by_cases hp : c = p
      · subst hp
        rw [on_cons_self, on_cons_self, on_append, on_commandCalls, on_cons_self]
        exact hcommands
      · simp [hp, on_commandCalls_ne hp]

/-- No command is sent over a context that reported an error, exactly if all commands before the last one got a
reply; and in any case the context is used only until `redisFree`, which gives it back once. -/
theorem redis_context_reuse_iff (c : Ptr) (r : Nat → Ptr) (o : RedisOutcomes) :
    (contextProtocol.Closed ((runRedisDemoCalls c r o).flatMap contextTouches) ↔
      (o.connection = .connected → ∀ k, k + 1 < demoCommands.length → (o.reply k).Arrived)) ∧
    lifetime.Closed ((runRedisDemoCalls c r o).flatMap LibCall.touches) :=
  ⟨runRedisDemoCalls_context_iff c r o, runRedisDemoCalls_closed c r o⟩

end Redis

/-! ### libcurl -/

namespace CurlWeb

/-- The appends that the writer makes, and the head of the list after them.  The `k`-th call makes a new list at
`list k` if the head is null; a call that fails returns null. -/
def appendCalls (list : Nat → Ptr) : Nat → Option Ptr → List SetCall → List LibCall × Option Ptr
  | _, head, [] => ([], head)
  | k, head, c :: cs =>
    let result := if c.succeeds then some (head.getD (list k)) else none
    let rest := appendCalls list (k + 1) result cs
    (.curlSlistAppend head result :: rest.1, rest.2)

/-- `perform_curl_request` after the context was injected. -/
def transferCalls (curl : Ptr) (headers : Option Ptr) : List LibCall :=
  [.curlReadHeaders headers, .curlSetHeaders curl headers, .curlEasyPerform curl headers, .curlEasyGetinfo curl,
    .curlEasyCleanup curl, .curlSlistFreeAll headers]

/-- The appends and the transfer. -/
def headerCalls (curl : Ptr) (list : Nat → Ptr) (k : Nat) (head : Option Ptr) (calls : List SetCall) : List LibCall :=
  (appendCalls list k head calls).1 ++ transferCalls curl (appendCalls list k head calls).2

/-- `perform_curl_request`, where the handle is at `curl`. -/
def performCurlRequestCalls (curl : Ptr) (list : Nat → Ptr) (context : List (Str × Str)) (o : CurlOutcomes) :
    List LibCall :=
  if o.easyInit then
    .curlEasyInit (some curl) :: .curlEasySetopt curl :: .curlEasySetopt curl :: .curlEasySetopt curl ::
      headerCalls curl list 0 none (o.setCalls context)
  else [.curlEasyInit none]

section lists

variable {curl p : Ptr} {list : Nat → Ptr} {k : Nat} {head : Option Ptr} {c : SetCall} {cs : List SetCall}

private theorem headerCalls_cons_of_succeeds (hc : c.succeeds = true) : headerCalls curl list k head (c :: cs) =
    .curlSlistAppend head (some (head.getD (list k))) ::
      headerCalls curl list (k + 1) (some (head.getD (list k))) cs := by
  simp [headerCalls, appendCalls, hc]

private theorem headerCalls_cons_of_fails (hc : c.succeeds = false) : headerCalls curl list k head (c :: cs) =
    .curlSlistAppend head none :: headerCalls curl list (k + 1) none cs := by
  simp [headerCalls, appendCalls, hc]

private theorem on_transferCalls (curl : Ptr) (headers : Option Ptr) (p : Ptr) :
    on (Kind.curlSlist, p) ((transferCalls curl headers).flatMap LibCall.touches) =
      if headers = some p then [.use, .use, .use, .release] else [] := by
  by_cases h : headers = some p <;> simp [transferCalls, LibCall.touches, h]

/-- An append that succeeds keeps the list live, or makes it. -/
theorem exec_append_succeeds (head : Option Ptr) (new p : Ptr) :
    exec lifetime.next (decide (head = some p))
        (on (Kind.curlSlist, p) (LibCall.curlSlistAppend head (some (head.getD new))).touches) =
      some (decide (some (head.getD new) = some p)) := by
  cases head with
  | none => by_cases h : new = p <;> simp [LibCall.touches, lifetime, h]
  | some q => by_cases h : q = p <;> simp [LibCall.touches, lifetime, h]

/-- A list that was dropped is never given back. -/
theorem exec_dropped (curl : Ptr) (list : Nat → Ptr) (k : Nat) {head : Option Ptr} (h : head ≠ some p)
    (cs : List SetCall) :
    exec lifetime.next true (on (Kind.curlSlist, p) ((headerCalls curl list k head cs).flatMap LibCall.touches)) ≠
      some false := by
  induction cs generalizing k head with
  | nil =>
    have hcalls : headerCalls curl list k head [] = transferCalls curl head := rfl
    rw [hcalls, on_transferCalls, if_neg h]
    simp
  | cons c cs ih =>
    cases hc : c.succeeds with
    | false =>
      -- the append that fails touches the list at its head only
      have hon : on (Kind.curlSlist, p) (LibCall.curlSlistAppend head none).touches = [] := by
        cases head with
        | none => rfl
        | some q => simpa [LibCall.touches] using h
      rw [headerCalls_cons_of_fails hc, List.flatMap_cons, on_append, hon]
      exact ih (k + 1) (by simp)
    | true =>
      rw [headerCalls_cons_of_succeeds hc, List.flatMap_cons, on_append]
      cases head with
      | some q =>
        have hon : on (Kind.curlSlist, p) (LibCall.curlSlistAppend (some q) (some q)).touches = [] := by
          simpa [LibCall.touches] using h
        rw [Option.getD_some, hon]
        exact ih (k + 1) h
      | none =>
        rw [Option.getD_none]
        by_cases hnew : list k = p
        · -- libcurl makes a list where the dropped one is
          simp [LibCall.touches, hnew, lifetime]
        · have hon : on (Kind.curlSlist, p) (LibCall.curlSlistAppend none (some (list k))).touches = [] := by
            simp [LibCall.touches, hnew]
          rw [hon]
          exact ih (k + 1) (by simpa using hnew)

/-- The lists are given back exactly if no append fails after one that succeeded. -/
theorem exec_headerCalls_iff (curl : Ptr) (list : Nat → Ptr) (k : Nat) {head : Option Ptr} {headers : CurlSlist}
    (hhead : headers = [] ↔ head = none) (cs : List SetCall) :
    (∀ p, exec lifetime.next (decide (head = some p))
      (on (Kind.curlSlist, p) ((headerCalls curl list k head cs).flatMap LibCall.touches)) = some false) ↔
      SetCall.FailsFirst headers cs := by
  induction cs generalizing k head headers with
  | nil =>
    have hcalls : headerCalls curl list k head [] = transferCalls curl head := rfl
    refine iff_of_true (fun p => ?_) ⟨.nil, .inr (by simp)⟩
    rw [hcalls, on_transferCalls]
    by_cases h : head = some p <;> simp [h, lifetime]
  | cons c cs ih =>
    cases hc : c.succeeds with
    | true =>
      simp only [headerCalls_cons_of_succeeds hc, List.flatMap_cons, on_append, exec_append, exec_append_succeeds,
        Option.bind_some]
      rw [SetCall.failsFirst_cons_of_succeeds hc]
      exact ih (k + 1) (by simp)
    | false =>
      simp only [headerCalls_cons_of_fails hc, List.flatMap_cons, on_append, exec_append]
      rw [SetCall.failsFirst_cons_of_fails hc]
      cases head with
      | none =>
        rw [and_iff_right (hhead.2 rfl)]
        exact ih (k + 1) (by simp)
      | some q =>
        -- the list at `q` is dropped
        refine iff_of_false (fun h => ?_) fun h => by simpa using hhead.1 h.1
        have hq := h q
        have huse : exec lifetime.next (decide (some q = some q))
            (on (Kind.curlSlist, q) (LibCall.curlSlistAppend (some q) none).touches) = some true := by
          simp [LibCall.touches, lifetime]
        rw [huse] at hq
        exact exec_dropped curl list (k + 1) (by simp) cs hq

end lists

/-- The easy handle is used while it is live and cleaned up, and no other handle is touched but the lists. -/
theorem on_headerCalls_easy (curl : Ptr) (list : Nat → Ptr) (k : Nat) (head : Option Ptr) (cs : List SetCall)
    (p : Ptr) : on (Kind.curlEasy, p) ((headerCalls curl list k head cs).flatMap LibCall.touches) =
      if curl = p then [.use, .use, .use, .release] else [] := by
  induction cs generalizing k head with
  | nil =>
    have hcalls : headerCalls curl list k head [] = transferCalls curl head := rfl
    rw [hcalls]
    by_cases h : curl = p <;> simp [transferCalls, LibCall.touches, h]
  | cons c cs ih =>
    cases hc : c.succeeds with
    | true =>
      rw [headerCalls_cons_of_succeeds hc, List.flatMap_cons, on_append, ih]
      cases head <;> simp [LibCall.touches]
    | false =>
      rw [headerCalls_cons_of_fails hc, List.flatMap_cons, on_append, ih]
      cases head <;> simp [LibCall.touches]

private theorem on_headerCalls_other (curl : Ptr) (list : Nat → Ptr) (k : Nat) (head : Option Ptr) (cs : List SetCall)
    {kind : Kind} (heasy : kind ≠ .curlEasy) (hlist : kind ≠ .curlSlist) (p : Ptr) :
    on (kind, p) ((headerCalls curl list k head cs).flatMap LibCall.touches) = [] := by
  induction cs generalizing k head with
  | nil =>
    have hcalls : headerCalls curl list k head [] = transferCalls curl head := rfl
    rw [hcalls]
    simp [transferCalls, LibCall.touches, Ne.symm heasy, Ne.symm hlist]
  | cons c cs ih =>
    cases hc : c.succeeds with
    | true =>
      rw [headerCalls_cons_of_succeeds hc, List.flatMap_cons, on_append, ih]
      cases head <;> simp [LibCall.touches, Ne.symm hlist]
    | false =>
      rw [headerCalls_cons_of_fails hc, List.flatMap_cons, on_append, ih]
      cases head <;> simp [LibCall.touches, Ne.symm hlist]

/-- The handle is given back in any case, and the header list exactly if no append fails after one that succeeded. -/
theorem performCurlRequestCalls_closed_iff (curl : Ptr) (list : Nat → Ptr) (context : List (Str × Str))
    (o : CurlOutcomes) : lifetime.Closed ((performCurlRequestCalls curl list context o).flatMap LibCall.touches) ↔
      (o.easyInit = true → SetCall.FailsFirst [] (o.setCalls context)) := by
  unfold performCurlRequestCalls
  by_cases hinit : o.easyInit = true
  · have hlists := exec_headerCalls_iff curl list 0 (iff_of_true rfl rfl) (o.setCalls context)
    rw [if_pos hinit, forall_prop_of_true hinit, ← hlists]
    constructor
    · intro hclosed p
      simpa [LibCall.touches] using hclosed (.curlSlist, p)
    · rintro hlists ⟨kind, p⟩
      by_cases heasy : kind = .curlEasy
      · subst heasy
        by_cases hp : curl = p
        · subst hp
          simp [LibCall.touches, on_headerCalls_easy, lifetime]
        · simp [LibCall.touches, on_headerCalls_easy, hp]
      · by_cases hlist : kind = .curlSlist
        · subst hlist
          simpa [LibCall.touches] using hlists p
        · have hother := on_headerCalls_other curl list 0 none (o.setCalls context) heasy hlist p
          simp [LibCall.touches, hother, Ne.symm heasy]
  · rw [if_neg hinit]
    exact iff_of_true Protocol.closed_nil fun h => absurd h hinit

end CurlWeb

/-! ### The Kafka producer -/

namespace KafkaProducer

/-- `produce_message` with its headers at `headers`; a message that is produced adopts them. -/
def produceMessageCalls (headers : Ptr) (context : List (Str × Str)) (o : ProducerOutcomes) : List LibCall :=
  if o.producer then
    .headersCreate headers :: (context.map (fun _ => .headersAdd headers) ++
      match o.produce with
      | none => [.produce headers true]
      | some _ => [.produce headers false, .headersDelete headers])
  else []

/-- The headers are adopted or deleted, and not both. -/
theorem produceMessageCalls_closed (headers : Ptr) (context : List (Str × Str)) (o : ProducerOutcomes) :
    lifetime.Closed ((produceMessageCalls headers context o).flatMap LibCall.touches) := by
  unfold produceMessageCalls
  by_cases hproducer : o.producer = true
  · rw [if_pos hproducer]
    have hsingle := closed_single (Kind.kafkaHeaders, headers)
      ((context.map fun _ => LibCall.headersAdd headers).flatMap LibCall.touches ++
        [⟨(.kafkaHeaders, headers), .use⟩]) fun x hx => by
          simp [LibCall.touches, onPtr] at hx
          tauto
    cases o.produce with
    | none => simpa [LibCall.touches, onPtr] using hsingle
    | some error => simpa [LibCall.touches, onPtr] using hsingle
  · rw [if_neg hproducer]
    exact Protocol.closed_nil

end KafkaProducer

/-! ### The Kafka consumer -/

namespace KafkaConsumer

/-- Whether the agent faults when it looks up the keys of a context in the headers of a message. -/
def lookupFaults (contextKeys : KafkaHeaders → List Str) : ConsumeResult → Bool
  | .message m =>
    match m.headers with
    | none => false
    | some headers =>
      match KafkaTraceContextReader.getAll ⟨some headers, .empty⟩ (contextKeys headers) with
      | .error _ => true
      | .ok _ => false
  | _ => false

/-- The number of keys that are looked up: all, or up to the first one with a null value. -/
def lookups (headers : KafkaHeaders) (keys : List Str) : Nat :=
  match keys.findIdx? fun key => headers.lastValue key = some none with
  | none => keys.length
  | some k => k + 1

/-- A message at `msg` while it is processed: its error, its headers and the keys that are looked up in them, the
record it is, and its payload with its length. -/
def messageCalls (contextKeys : KafkaHeaders → List Str) (msg : Ptr) (result : ConsumeResult) : List LibCall :=
  match result with
  | .message m =>
    let start := match m.headers with
      | none => 2
      | some headers => 2 + lookups headers (contextKeys headers)
    let payload := match m.payload with
      | none => 1
      | some _ => 3
    List.replicate (if lookupFaults contextKeys result then start else start + 2 + payload) (.messageField msg)
  | _ => [.messageField msg]

/-- `while (run)`, and what follows it; the `k`-th message is at `msg k`.  Nothing follows a lookup that faults. -/
def loopCalls (contextKeys : KafkaHeaders → List Str) (consumer : Ptr) (msg : Nat → Ptr) :
    Nat → Bool → List Iteration → List LibCall
  | _, false, _ => [.consumerClose consumer, .consumerDelete consumer]
  | _, true, [] => []
  | k, true, it :: its =>
    .consumerConsume consumer (msg k) :: (messageCalls contextKeys (msg k) it.result ++
      if lookupFaults contextKeys it.result then []
      else .messageDelete (msg k) :: loopCalls contextKeys consumer msg (k + 1) (!it.signalled) its)

/-- `main` after the consumer was made. -/
def afterCreate (contextKeys : KafkaHeaders → List Str) (consumer : Ptr) (msg : Nat → Ptr) (env : Environment) :
    List LibCall :=
  .consumerSubscribe consumer ::
    if env.subscribeError.isSome then [.consumerDelete consumer]
    else loopCalls contextKeys consumer msg 0 (!env.signalledFirst) env.iterations

/-- `main` until the consumer was made, or was not. -/
def createCalls (conf : Ptr) (consumer : Option Ptr) : List LibCall :=
  [.confCreate conf, .confSet conf, .confSet conf, .confSet conf, .consumerCreate conf consumer, .confDelete conf]

/-- `main`. -/
def mainCalls (contextKeys : KafkaHeaders → List Str) (conf consumer : Ptr) (msg : Nat → Ptr) (env : Environment) :
    List LibCall :=
  if env.createError.isSome then createCalls conf none
  else createCalls conf (some consumer) ++ afterCreate contextKeys consumer msg env

section calls

variable (contextKeys : KafkaHeaders → List Str) (brokers topicStr : Str)

/-- The process faults where the lookup does. -/
theorem loop_of_faults {it : Iteration} (h : lookupFaults contextKeys it.result = true) (its : List Iteration)
    (p : Process) : ∃ fault, loop contextKeys brokers topicStr true (it :: its) p = .crashed fault := by
  obtain ⟨result, signalled⟩ := it
  cases result with
  | message m =>
    obtain ⟨headers, payload, partition, offset⟩ := m
    cases headers with
    | none => cases h
    | some hs =>
      rcases hget : KafkaTraceContextReader.getAll ⟨some hs, .empty⟩ (contextKeys hs) with fault | r
      · exact ⟨fault, by simp [loop, onMessage, Process.newSpan, hget, bind, Except.bind]⟩
      · simp [lookupFaults, hget] at h
  | timedOut => cases h
  | error code => cases h

/-- Otherwise the loop goes on. -/
theorem loop_of_not_faults {it : Iteration} (h : lookupFaults contextKeys it.result = false) (its : List Iteration)
    (p : Process) : ∃ p', loop contextKeys brokers topicStr true (it :: its) p =
      loop contextKeys brokers topicStr (!it.signalled) its p' := by
  obtain ⟨result, signalled⟩ := it
  cases result with
  | message m =>
    obtain ⟨headers, payload, partition, offset⟩ := m
    cases headers with
    | none => exact ⟨_, rfl⟩
    | some hs =>
      rcases hget : KafkaTraceContextReader.getAll ⟨some hs, .empty⟩ (contextKeys hs) with fault | r
      · simp [lookupFaults, hget] at h
      · simp only [loop, onMessage, Process.newSpan, hget, bind, Except.bind]
        exact ⟨_, rfl⟩
  | timedOut => exact ⟨_, rfl⟩
  | error code => exact ⟨_, rfl⟩

/-- The fields of a message are read while it is live. -/
theorem messageCalls_touches (msg : Ptr) (result : ConsumeResult) :
    ∀ x ∈ (messageCalls contextKeys msg result).flatMap LibCall.touches, x = ⟨(.kafkaMessage, msg), .use⟩ := by
  intro x hx
  cases result with
  | message m =>
    simp only [messageCalls, List.flatMap_replicate, LibCall.touches, onPtr] at hx
    obtain ⟨xs, hxs, hx⟩ := List.mem_flatten.1 hx
    rw [List.eq_of_mem_replicate hxs] at hx
    exact List.mem_singleton.1 hx
  | timedOut => simpa [messageCalls, LibCall.touches, onPtr] using hx
  | error code => simpa [messageCalls, LibCall.touches, onPtr] using hx

private theorem on_messageCalls {h : LibHandle} {msg : Ptr} (hne : (Kind.kafkaMessage, msg) ≠ h)
    (result : ConsumeResult) :
    on h ((messageCalls contextKeys msg result).flatMap LibCall.touches) = [] :=
  on_eq_nil fun x hx => by
    rw [messageCalls_touches contextKeys msg result x hx]
    exact hne

variable {contextKeys brokers topicStr}

/-- The consumer is deleted exactly if the loop is left. -/
theorem loopCalls_consumer_iff (consumer : Ptr) (msg : Nat → Ptr) (k : Nat) (run : Bool) (its : List Iteration)
    (p : Process) :
    exec lifetime.next true (on (.kafkaConsumer, consumer)
      ((loopCalls contextKeys consumer msg k run its).flatMap LibCall.touches)) = some false ↔
      ∃ code p', loop contextKeys brokers topicStr run its p = .returned code p' := by
  induction its generalizing k run p with
  | nil =>
    cases run with
    | false => exact iff_of_true (by simp [loopCalls, LibCall.touches, lifetime]) ⟨0, _, rfl⟩
    | true =>
      refine iff_of_false (by simp [loopCalls]) ?_
      rintro ⟨code, p', h⟩
      cases h
  | cons it its ih =>
    cases run with
    | false => exact iff_of_true (by simp [loopCalls, LibCall.touches, lifetime]) ⟨0, _, rfl⟩
    | true =>
      -- the consumer is no part of the work on a message
      have hmessage : on (.kafkaConsumer, consumer) ((messageCalls contextKeys (msg k) it.result).flatMap
          LibCall.touches) = [] := on_messageCalls contextKeys (by simp) it.result
      cases hfaults : lookupFaults contextKeys it.result with
      | true =>
        obtain ⟨fault, hcrashed⟩ := loop_of_faults contextKeys brokers topicStr hfaults its p
        refine iff_of_false (by simp [loopCalls, LibCall.touches, hmessage, hfaults, lifetime]) ?_
        rintro ⟨code, p', h⟩
        rw [hcrashed] at h
        cases h
      | false =>
        obtain ⟨p', hnext⟩ := loop_of_not_faults contextKeys brokers topicStr hfaults its p
        rw [hnext, ← ih (k + 1) (!it.signalled) p']
        simp [loopCalls, LibCall.touches, hmessage, hfaults, lifetime]

/-- Each message is deleted in the pass that got it, unless that pass faults. -/
theorem loopCalls_others (consumer : Ptr) (msg : Nat → Ptr) (k : Nat) (run : Bool) (its : List Iteration)
    {p p' : Process} {code : Int} (hreturned : loop contextKeys brokers topicStr run its p = .returned code p')
    {h : LibHandle} (hh : h ≠ (.kafkaConsumer, consumer)) :
    exec lifetime.next false (on h ((loopCalls contextKeys consumer msg k run its).flatMap LibCall.touches)) =
      some false := by
  have hne : (Kind.kafkaConsumer, consumer) ≠ h := Ne.symm hh
  induction its generalizing k run p with
  | nil => cases run <;> simp [loopCalls, LibCall.touches, onPtr, hne]
  | cons it its ih =>
    cases run with
    | false => simp [loopCalls, LibCall.touches, onPtr, hne]
    | true =>
      cases hfaults : lookupFaults contextKeys it.result with
      | true =>
        obtain ⟨fault, hcrashed⟩ := loop_of_faults contextKeys brokers topicStr hfaults its p
        rw [hcrashed] at hreturned
        cases hreturned
      | false =>
        obtain ⟨p₁, hnext⟩ := loop_of_not_faults contextKeys brokers topicStr hfaults its p
        have hsingle := closed_single _ _ (messageCalls_touches contextKeys (msg k) it.result)
        -- a pass that returns ends with the release of its message
        have htouches : (loopCalls contextKeys consumer msg k true (it :: its)).flatMap LibCall.touches =
            ⟨(.kafkaConsumer, consumer), .use⟩ ::
              ((⟨(.kafkaMessage, msg k), .acquire⟩ ::
                ((messageCalls contextKeys (msg k) it.result).flatMap LibCall.touches ++
                  [⟨(.kafkaMessage, msg k), .release⟩])) ++
              (loopCalls contextKeys consumer msg (k + 1) (!it.signalled) its).flatMap LibCall.touches) := by
          simp [loopCalls, LibCall.touches, onPtr, hfaults]
        have hmessage : exec lifetime.next false _ = some false := hsingle h
        rw [htouches, on_cons_ne hne, on_append, exec_append, hmessage]
        exact ih (k + 1) (!it.signalled) (hnext ▸ hreturned)

/-- The configuration is given back. -/
theorem exec_createCalls (conf : Ptr) (consumer : Option Ptr) {h : LibHandle}
    (hh : ∀ p, consumer = some p → (Kind.kafkaConsumer, p) ≠ h) :
    exec lifetime.next false (on h ((createCalls conf consumer).flatMap LibCall.touches)) = some false := by
  by_cases hc : (Kind.kafkaConf, conf) = h
  · subst hc
    cases consumer <;> simp [createCalls, LibCall.touches, onPtr, lifetime]
  · cases consumer with
    | none => simp [createCalls, LibCall.touches, onPtr, hc]
    | some p => simp [createCalls, LibCall.touches, onPtr, hc, hh p rfl]

private theorem on_createCalls (conf consumer : Ptr) :
    on (Kind.kafkaConsumer, consumer) ((createCalls conf (some consumer)).flatMap LibCall.touches) = [.acquire] := by
  simp [createCalls, LibCall.touches]

/-- With the calls before it, what follows the creation of the consumer gives everything back, if it deletes the
consumer and gives back all the rest. -/
theorem closed_createCalls_append_iff (conf consumer : Ptr) (calls : List LibCall) :
    lifetime.Closed ((createCalls conf (some consumer) ++ calls).flatMap LibCall.touches) ↔
      exec lifetime.next true (on (Kind.kafkaConsumer, consumer) (calls.flatMap LibCall.touches)) = some false ∧
      ∀ h, h ≠ (Kind.kafkaConsumer, consumer) →
        exec lifetime.next false (on h (calls.flatMap LibCall.touches)) = some false := by
  have hself : exec lifetime.next false (on (Kind.kafkaConsumer, consumer)
      ((createCalls conf (some consumer) ++ calls).flatMap LibCall.touches)) =
      exec lifetime.next true (on (Kind.kafkaConsumer, consumer) (calls.flatMap LibCall.touches)) := by
    rw [List.flatMap_append, on_append, on_createCalls]
    rfl
  have hother (h : LibHandle) (hh : h ≠ (Kind.kafkaConsumer, consumer)) :
      exec lifetime.next false (on h ((createCalls conf (some consumer) ++ calls).flatMap LibCall.touches)) =
        exec lifetime.next false (on h (calls.flatMap LibCall.touches)) := by
    have hconf := exec_createCalls conf (some consumer) (h := h) (by simpa using Ne.symm hh)
    rw [List.flatMap_append, on_append, exec_append, hconf]
    rfl
  constructor
  · intro hclosed
    exact ⟨hself ▸ hclosed _, fun h hh => hother h hh ▸ hclosed h⟩
  · rintro ⟨hconsumer, hothers⟩ h
    by_cases hh : h = (Kind.kafkaConsumer, consumer)
    · rw [hh]
      exact hself.trans hconsumer
    · exact (hother h hh).trans (hothers h hh)

end calls

/-- A run of the consumer gives everything back exactly if it returns. -/
theorem mainCalls_closed_iff (contextKeys : KafkaHeaders → List Str) (conf consumer : Ptr) (msg : Nat → Ptr)
    (env : Environment) : lifetime.Closed ((mainCalls contextKeys conf consumer msg env).flatMap LibCall.touches) ↔
      ∃ code p, main contextKeys env = .returned code p := by
  obtain ⟨kafkaBrokers, startAgent, createError, subscribeError, signalledFirst, iterations⟩ := env
  cases createError with
  | some errstr => exact iff_of_true (fun h => exec_createCalls conf none (by simp)) ⟨1, _, rfl⟩
  | none =>
    cases subscribeError with
    | some err =>
      refine iff_of_true ((closed_createCalls_append_iff conf consumer _).2 ⟨?_, fun h hh => ?_⟩) ⟨1, _, rfl⟩
      · simp [afterCreate, LibCall.touches, lifetime]
      · simp [afterCreate, LibCall.touches, onPtr, Ne.symm hh]
    | none =>
      have hafter : afterCreate contextKeys consumer msg
          ⟨kafkaBrokers, startAgent, none, none, signalledFirst, iterations⟩ =
          .consumerSubscribe consumer :: loopCalls contextKeys consumer msg 0 (!signalledFirst) iterations := rfl
      have hself : exec lifetime.next true (on (Kind.kafkaConsumer, consumer) ((.consumerSubscribe consumer ::
          loopCalls contextKeys consumer msg 0 (!signalledFirst) iterations).flatMap LibCall.touches)) =
          exec lifetime.next true (on (Kind.kafkaConsumer, consumer)
            ((loopCalls contextKeys consumer msg 0 (!signalledFirst) iterations).flatMap LibCall.touches)) := by
        simp [LibCall.touches, lifetime]
      refine (closed_createCalls_append_iff conf consumer _).trans ?_
      rw [hafter, hself]
      constructor
      · rintro ⟨hconsumer, -⟩
        exact (loopCalls_consumer_iff consumer msg 0 _ iterations _).1 hconsumer
      · rintro ⟨code, p, hreturned⟩
        refine ⟨(loopCalls_consumer_iff consumer msg 0 _ iterations _).2 ⟨code, p, hreturned⟩, fun h hh => ?_⟩
        have hothers := loopCalls_others consumer msg 0 _ iterations hreturned hh
        simpa [LibCall.touches, onPtr, Ne.symm hh] using hothers

end KafkaConsumer

/-! ### All of them -/

/-- A request to one of the servers, or a run of the consumer, with what becomes of its calls and where the pointers
are. -/
inductive LibJob
  | redis (c : Ptr) (r : Nat → Ptr) (o : Redis.RedisOutcomes)
  | curl (easy : Ptr) (list : Nat → Ptr) (context : List (Str × Str)) (o : CurlWeb.CurlOutcomes)
  | produce (headers : Ptr) (context : List (Str × Str)) (o : KafkaProducer.ProducerOutcomes)
  | consume (contextKeys : KafkaHeaders → List Str) (conf consumer : Ptr) (msg : Nat → Ptr)
    (env : KafkaConsumer.Environment)

namespace LibJob

def calls : LibJob → List LibCall
  | .redis c r o => Redis.runRedisDemoCalls c r o
  | .curl easy list context o => CurlWeb.performCurlRequestCalls easy list context o
  | .produce headers context o => KafkaProducer.produceMessageCalls headers context o
  | .consume contextKeys conf consumer msg env => KafkaConsumer.mainCalls contextKeys conf consumer msg env

/-- What a job must be spared to give back what it got: an append that fails after one that succeeded, and a run of
the consumer that faults or is still polling. -/
def Spared : LibJob → Prop
  | .redis _ _ _ => True
  | .curl _ _ context o => o.easyInit = true → SetCall.FailsFirst [] (o.setCalls context)
  | .produce _ _ _ => True
  | .consume contextKeys _ _ _ env => ∃ code p, KafkaConsumer.main contextKeys env = .returned code p

private theorem closed_iff (j : LibJob) : lifetime.Closed (j.calls.flatMap LibCall.touches) ↔ j.Spared := by
  cases j with
  | redis c r o => exact iff_of_true (Redis.runRedisDemoCalls_closed c r o) trivial
  | curl easy list context o => exact CurlWeb.performCurlRequestCalls_closed_iff easy list context o
  | produce headers context o =>
    exact iff_of_true (KafkaProducer.produceMessageCalls_closed headers context o) trivial
  | consume contextKeys conf consumer msg env =>
    exact KafkaConsumer.mainCalls_closed_iff contextKeys conf consumer msg env

end LibJob

/-- A job that gives back what it got. -/
abbrev SparedJob := { j : LibJob // j.Spared }

def SparedJob.calls (j : SparedJob) : List LibCall := j.1.calls

/-- Threads that have nothing to do. -/
def idleThreads : State Nat LibCall := ⟨fun _ => [], []⟩

/-- Alone, a job uses its pointers while they are live and gives each of them back once, exactly if it is spared.
However the threads take their turns with such jobs, a pointer is used only by the thread that got it, while it is
live, and is given back once; a thread between two jobs has given back all. -/
theorem handles_respected (actions : List (Action Nat SparedJob)) {s : State Nat LibCall}
    (h : exec (step lifetime LibCall.touches SparedJob.calls) idleThreads actions = some s) :
    (∀ j : LibJob, lifetime.Closed (j.calls.flatMap LibCall.touches) ↔ j.Spared) ∧
      Respected lifetime LibCall.touches s ∧
      ∀ t, onThread t s.log ++ s.rest t = (jobsOf t actions).flatMap SparedJob.calls :=
  ⟨LibJob.closed_iff, exec_respects (fun j => j.1.closed_iff.2 j.2) (fun _ => Protocol.closed_nil) h,
    fun t => exec_onThread lifetime LibCall.touches SparedJob.calls h t⟩

/-- A request that finds no server. -/
def refused : SparedJob := ⟨.redis 7 id ⟨.failed "Connection refused", fun _ => .null []⟩, trivial⟩

/-- Two threads fail to connect; the second one gets the context that the first one freed. -/
def twoConnects : List (Action Nat SparedJob) :=
  [.job 0 refused, .call 0, .call 0, .job 1 refused, .call 0, .call 0, .call 1, .call 1, .call 1, .call 1]

theorem handles_respected_twoConnects :
    ∃ s, exec (step lifetime LibCall.touches SparedJob.calls) idleThreads twoConnects = some s ∧
      Respected lifetime LibCall.touches s :=
  ⟨_, rfl, (handles_respected twoConnects rfl).2.1⟩

end PinpointExamples
