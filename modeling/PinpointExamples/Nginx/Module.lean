import Mathlib
import PinpointExamples.Server.Agent

/-!
# The nginx module

The callbacks of the module as functions: `init_process`, `exit_process` and the handler of the LOG phase.  Each
returns the calls it makes on the C interface of the agent, and the first two return the `g_agent` they leave.  What
the agent answers is a parameter; a null handle is `none`.
-/

namespace PinpointExamples.Nginx

abbrev Pid := Nat

/-- `ngx_process`. -/
inductive NgxProcess
  | single
  | master
  | signaller
  | worker
  | helper
  deriving DecidableEq, Repr

structure PinpointMainConf where
  enable : Int
  configFile : Str
  deriving DecidableEq, Repr

/-- `pt_agent_t`: the agent that was started in a process. -/
structure PtAgent where
  startedIn : Pid
  deriving DecidableEq, Repr

/-! ### Requests -/

/-- `ngx_http_upstream_state_t`; the times are in `ngx_msec_t`. -/
structure UpstreamState where
  peer : Option Str
  responseTime : UInt64
  status : UInt64
  deriving DecidableEq, Repr

/-- `ngx_http_request_t`, as far as the module reads it; the headers are the parts of an `ngx_list_t`. -/
structure NgxRequest where
  isMain : Bool
  uri : Str
  methodName : Str
  addrText : Str
  server : Str
  headersIn : List (List (Str × Str))
  startSec : Int64
  startMsec : UInt64
  errStatus : UInt64
  status : UInt64
  upstreamStates : Option (List UpstreamState)
  deriving DecidableEq, Repr

/-- `ngx_time_t`. -/
structure NgxTime where
  sec : Int64
  msec : UInt64
  deriving DecidableEq, Repr

def toMs (sec : Int64) (msec : UInt64) : Int64 := sec * 1000 + msec.toInt64

/-- `ngx_http_pinpoint_to_cstr`: the text in a buffer of this size. -/
def toCstr (src : Str) (dstSize : Nat) : Str := (cStr (src.take (dstSize - 1))).chars

/-! ### The C interface -/

inductive PtServiceType
  | cppHttpClient
  deriving DecidableEq, Repr

inductive PtAnnotation
  | httpUrl
  | httpStatusCode
  deriving DecidableEq, Repr

/-- The calls, with what they return where the module looks at it. -/
inductive PtCall
  | agentOptionsNew (allocated : Bool)
  | agentOptionsSetConfigFile (path : Str)
  | agentOptionsSetServerMetadata (serverInfo : Str)
  | startAgent (started : Bool)
  | globalAgent
  | agentOptionsFree
  | agentShutdown (agent : PtAgent)
  | agentDestroy (agent : PtAgent)
  | agentIsEnabled (agent : PtAgent) (enabled : Bool)
  | agentNewSpanWithMethod (agent : PtAgent) (operation uri method : Str) (reader : List (List (Str × Str)))
    (span : SpanPtr)
  | spanSetStartTimeMs (span : SpanId) (ms : Int64)
  | spanSetRemoteAddress (span : SpanId) (remoteAddr : Str)
  | spanSetEndPoint (span : SpanId) (endpoint : Str)
  | spanSetAcceptorHost (span : SpanId) (host : Str)
  | spanSetStatusCode (span : SpanId) (status : Int32)
  | spanSetUrlStat (span : SpanId) (uri method : Str) (status : Int32)
  | spanNewEventWithType (span : SpanId) (operation : Str) (type : PtServiceType) (event : Option EventId)
  | spanEventSetStartTimeMs (event : Option EventId) (ms : Int64)
  | spanEventSetEndPoint (event : Option EventId) (endPoint : Str)
  | spanEventSetDestination (event : Option EventId) (destination : Str)
  | spanEventSetAnnotationString (event : Option EventId) (key : PtAnnotation) (value : Str)
  | spanEventSetAnnotationInt (event : Option EventId) (key : PtAnnotation) (value : Int32)
  | spanEventEnd (event : Option EventId)
  | spanEventDestroy (event : Option EventId)
  | spanEnd (span : SpanId)
  | spanDestroy (span : SpanId)
  deriving DecidableEq, Repr

/-! ### The lifecycle of a worker -/

structure InitOutcome where
  optionsNew : Bool
  startAgent : Bool
  deriving DecidableEq, Repr

/-- What a lifecycle callback did: its calls, the errors it logged, and the `g_agent` it leaves. -/
structure Lifecycle where
  calls : List PtCall
  errors : List Str
  gAgent : Option PtAgent
  deriving DecidableEq, Repr

/-- `"nginx/%s%Z"` in a buffer of 64 whose last byte is left alone. -/
def serverInfo (nginxVersion : Str) : Str := (cStr (("nginx/" ++ nginxVersion).take 63)).chars

/-- The setup of the options of an agent. -/
def optionCalls (nginxVersion : Str) (pmcf : PinpointMainConf) : List PtCall :=
  (if 0 < pmcf.configFile.length ∧ pmcf.configFile.length < 1024 then
    [.agentOptionsSetConfigFile (cStr pmcf.configFile).chars] else []) ++
    [.agentOptionsSetServerMetadata (serverInfo nginxVersion)]

/-- `ngx_http_pinpoint_init_process`, in the process `self`. -/
def initProcess (nginxVersion : Str) (self : Pid) (ngxProcess : NgxProcess) (mainConf : Option PinpointMainConf)
    (o : InitOutcome) (gAgent : Option PtAgent) : Lifecycle :=
  if ngxProcess ≠ .worker ∧ ngxProcess ≠ .single then ⟨[], [], gAgent⟩
  else
    match mainConf with
    | none => ⟨[], [], gAgent⟩
    | some pmcf =>
      if pmcf.enable ≠ 1 then ⟨[], [], gAgent⟩
      else if ¬ o.optionsNew then
        ⟨[.agentOptionsNew false], ["pinpoint: agent options allocation failed"], gAgent⟩
      else
        let opts := .agentOptionsNew true :: optionCalls nginxVersion pmcf
        if o.startAgent then
          ⟨opts ++ [.startAgent true, .globalAgent, .agentOptionsFree], [], some ⟨self⟩⟩
        else
          ⟨opts ++ [.startAgent false, .agentOptionsFree],
            ["pinpoint: agent start failed; worker runs untraced (check the pinpoint agent log for the cause)"],
            gAgent⟩

/-- `ngx_http_pinpoint_exit_process`. -/
def exitProcess (gAgent : Option PtAgent) : Lifecycle :=
  match gAgent with
  | none => ⟨[], [], none⟩
  | some agent => ⟨[.agentShutdown agent, .agentDestroy agent], [], none⟩

/-! ### The LOG phase -/

/-- `(ngx_msec_t) -1`. -/
def untimed : UInt64 := -1

/-- What the agent answers in the LOG phase. -/
structure LogOutcome where
  isEnabled : Bool
  span : SpanPtr
  event : Option EventId
  deriving DecidableEq, Repr

/-- `ngx_http_pinpoint_record_upstream`. -/
def recordUpstream (span : SpanId) (r : NgxRequest) (endMs : Int64) (event : Option EventId) : List PtCall :=
  match r.upstreamStates with
  | none => []
  | some states =>
    match states.getLast? with
    | none => []
    | some last =>
      let total := states.foldl
        (fun total state => if state.responseTime ≠ untimed then total + state.responseTime.toInt64 else total) 0
      let uri := toCstr r.uri 1024
      [.spanNewEventWithType span "upstream" .cppHttpClient event, .spanEventSetStartTimeMs event (endMs - total)] ++
        (match last.peer with
          | none => []
          | some peer =>
            [.spanEventSetEndPoint event (toCstr peer 256), .spanEventSetDestination event (toCstr peer 256)]) ++
        [.spanEventSetAnnotationString event .httpUrl uri] ++
        (if last.status ≠ 0 then
          [.spanEventSetAnnotationInt event .httpStatusCode last.status.toUInt32.toInt32] else []) ++
        [.spanEventEnd event, .spanEventDestroy event]

/-- What `ngx_http_pinpoint_log_handler` calls on its span. -/
def spanCalls (span : SpanId) (r : NgxRequest) (now : NgxTime) (event : Option EventId) : List PtCall :=
  let uri := toCstr r.uri 1024
  let method := toCstr r.methodName 16
  let endpoint := toCstr r.server 256
  let status := (if r.errStatus ≠ 0 then r.errStatus else r.status).toUInt32.toInt32
  let endPointCalls : List PtCall :=
    if 0 < r.server.length then [.spanSetEndPoint span endpoint, .spanSetAcceptorHost span endpoint] else []
  .spanSetStartTimeMs span (toMs r.startSec r.startMsec) ::
    .spanSetRemoteAddress span (toCstr r.addrText 128) ::
    (endPointCalls ++
      .spanSetStatusCode span status ::
      .spanSetUrlStat span uri method status ::
      (recordUpstream span r (toMs now.sec now.msec) event ++ [.spanEnd span, .spanDestroy span]))

/-- `ngx_http_pinpoint_log_handler`. -/
def logHandler (r : NgxRequest) (now : NgxTime) (o : LogOutcome) (gAgent : Option PtAgent) : List PtCall :=
  match gAgent with
  | none => []
  | some agent =>
    let enabled := PtCall.agentIsEnabled agent o.isEnabled
    if ¬ o.isEnabled then [enabled]
    else if ¬ r.isMain then [enabled]
    else
      let newSpan := PtCall.agentNewSpanWithMethod agent "NGINX" (toCstr r.uri 1024) (toCstr r.methodName 16)
        r.headersIn o.span
      match o.span with
      | none => [enabled, newSpan]
      | some span => [enabled, newSpan] ++ spanCalls span r now o.event

/-! ### Calls on events -/

/-- The calls on events, and those that make them. -/
def isEventCall : PtCall → Bool
  | .spanNewEventWithType .. => true
  | .spanEventSetStartTimeMs .. => true
  | .spanEventSetEndPoint .. => true
  | .spanEventSetDestination .. => true
  | .spanEventSetAnnotationString .. => true
  | .spanEventSetAnnotationInt .. => true
  | .spanEventEnd _ => true
  | .spanEventDestroy _ => true
  | _ => false

/-- `record_upstream` makes only calls on its event. -/
theorem isEventCall_recordUpstream (span : SpanId) (r : NgxRequest) (event : Option EventId) (endMs : Int64) :
    ∀ c ∈ recordUpstream span r endMs event, isEventCall c = true := by
  unfold recordUpstream
  split
  · simp
  · split
    · simp
    · rename_i last _
      cases last.peer <;> by_cases hs : last.status ≠ 0 <;> simp [hs, isEventCall]

end PinpointExamples.Nginx
