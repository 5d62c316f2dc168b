import Mathlib
import PinpointExamples.Lib.Int64
import PinpointExamples.Lib.Intervals
import PinpointExamples.Nginx.Module

/-!
# The upstream event of the nginx module

`ngx_http_pinpoint_record_upstream` folds the tries of a proxied request into one event, which starts as long before
the end as the timed tries took together.  Tries that do not overlap fit into the lifetime of the request
(`timedTotal_le`), so the sum has 64 bits, no addition on the way overflows (`upstreamTotal_toInt`), and the event
lies in the span (`upstream_event_exact`).
-/

namespace PinpointExamples.Nginx

open Intervals

/-! ### The tries of a request -/

/-- How long a try took; a try that is not timed counts as nothing. -/
def timedMs (state : UpstreamState) : ℕ :=
  if state.responseTime ≠ untimed then state.responseTime.toNat else 0

/-- The exact time of all tries. -/
def timedTotal (states : List UpstreamState) : ℕ := (states.map timedMs).sum

/-- Where the tries are on the clock: their intervals do not overlap and lie in the lifetime of the request.  A try
that is not timed or took no time has the empty interval. -/
structure Timeline (states : List UpstreamState) (startMs endMs : ℤ) (begins : Fin states.length → ℤ) : Prop where
  ordered : startMs ≤ endMs
  inside : ∀ i, interval begins (fun i => timedMs states[i]) i ⊆ Finset.Ico startMs endMs
  disjoint : Pairwise fun i j =>
    Disjoint (interval begins (fun i => timedMs states[i]) i) (interval begins (fun i => timedMs states[i]) j)

private theorem timedTotal_cons (state : UpstreamState) (states : List UpstreamState) :
    timedTotal (state :: states) = timedMs state + timedTotal states := List.sum_cons

private theorem timedTotal_append (states states' : List UpstreamState) :
    timedTotal (states ++ states') = timedTotal states + timedTotal states' := by
  rw [timedTotal, List.map_append, List.sum_append]
  rfl

/-- The tries take no longer than the request. -/
theorem timedTotal_le {states : List UpstreamState} {startMs endMs : ℤ} {begins : Fin states.length → ℤ}
    (h : Timeline states startMs endMs begins) : (timedTotal states : ℤ) ≤ endMs - startMs := by
  have hsum := sum_length_le h.disjoint h.inside
  have htotal : ∑ i : Fin states.length, timedMs states[i] = timedTotal states :=
    Fin.sum_univ_fun_getElem states timedMs
  have hordered := h.ordered
  rw [htotal] at hsum
  omega

/-! ### The sum of the code -/

/-- The sum of `record_upstream`. -/
def upstreamTotal (states : List UpstreamState) : Int64 :=
  states.foldl
    (fun total state => if state.responseTime ≠ untimed then total + state.responseTime.toInt64 else total) 0

/-- The sum goes on exactly from an exact sum, as long as it has 64 bits. -/
theorem foldl_total {states : List UpstreamState} {total : Int64} {n : ℕ} (htotal : total.toInt = n)
    (hfits : n + timedTotal states < 2 ^ 63) :
    (states.foldl
      (fun total state => if state.responseTime ≠ untimed then total + state.responseTime.toInt64 else total)
      total).toInt = n + timedTotal states := by
  -- the exact sum bounds every sum on the way
  induction states generalizing total n with
  | nil => simpa [timedTotal] using htotal
  | cons state states ih =>
    rw [timedTotal_cons] at hfits ⊢
    rw [List.foldl_cons]
    by_cases htimed : state.responseTime ≠ untimed
    · have hms : timedMs state = state.responseTime.toNat := if_pos htimed
      have hcast := Exact.toInt_toInt64 (n := state.responseTime) (by omega)
      have hadd : (total + state.responseTime.toInt64).toInt = (n + timedMs state : ℕ) := by
        rw [Exact.toInt_add (by omega) (by omega)]
        omega
      rw [if_pos htimed, ih hadd (by omega)]
      push_cast
      omega
    · have hms : timedMs state = 0 := if_neg htimed
      rw [if_neg htimed, ih htotal (by omega), hms]
      push_cast
      omega

private theorem upstreamTotal_toInt {states : List UpstreamState} (hfits : timedTotal states < 2 ^ 63) :
    (upstreamTotal states).toInt = timedTotal states := by
  have hzero : (0 : Int64).toInt = (0 : ℕ) := rfl
  rw [upstreamTotal, foldl_total hzero (by omega)]
  omega

/-! ### What is recorded -/

/-- The start time that a call gives a span. -/
def spanStart? : PtCall → Option Int64
  | .spanSetStartTimeMs _ ms => some ms
  | _ => none

/-- The name of the event that a call makes. -/
def newEvent? : PtCall → Option Str
  | .spanNewEventWithType _ operation _ _ => some operation
  | _ => none

def eventStart? : PtCall → Option Int64
  | .spanEventSetStartTimeMs _ ms => some ms
  | _ => none

def eventEndPoint? : PtCall → Option Str
  | .spanEventSetEndPoint _ endPoint => some endPoint
  | _ => none

def eventDestination? : PtCall → Option Str
  | .spanEventSetDestination _ destination => some destination
  | _ => none

def eventStatus? : PtCall → Option Int32
  | .spanEventSetAnnotationInt _ .httpStatusCode status => some status
  | _ => none

/-- The calls make one upstream event, which lies between `startMs` and `endMs` and takes as long as the timed tries;
its peer and its status are those of the last try. -/
structure UpstreamEvent (states : List UpstreamState) (last : UpstreamState) (startMs endMs : Int64)
    (calls : List PtCall) : Prop where
  one : calls.filterMap newEvent? = ["upstream"]
  start : calls.filterMap eventStart? = [endMs - upstreamTotal states]
  afterStart : startMs ≤ endMs - upstreamTotal states
  beforeEnd : endMs - upstreamTotal states ≤ endMs
  exact : endMs.toInt - (endMs - upstreamTotal states).toInt = timedTotal states
  endPoint : calls.filterMap eventEndPoint? = (last.peer.map fun peer => toCstr peer 256).toList
  destination : calls.filterMap eventDestination? = (last.peer.map fun peer => toCstr peer 256).toList
  status : calls.filterMap eventStatus? = if last.status ≠ 0 then [last.status.toUInt32.toInt32] else []
  /-- A peer that fits into the buffer is recorded whole, and so is a status of 31 bits. -/
  wholePeer : ∀ peer, last.peer = some peer → peer.length < 256 → '\x00' ∉ peer → toCstr peer 256 = peer
  wholeStatus : last.status.toNat < 2 ^ 31 → last.status.toUInt32.toInt32.toInt = last.status.toNat

/-- No step of the sum overflows: the cast of every timed try and the sum up to any try are exact. -/
structure ExactSum (states : List UpstreamState) : Prop where
  casts : ∀ state ∈ states, state.responseTime ≠ untimed →
    state.responseTime.toInt64.toInt = state.responseTime.toNat
  sums : ∀ before after, states = before ++ after → (upstreamTotal before).toInt = timedTotal before

/-- A time of nginx's clock, in milliseconds since the epoch. -/
structure ClockTime (sec : Int64) (msec : UInt64) (ms : ℕ) : Prop where
  epoch : 0 ≤ sec.toInt
  exact : sec.toInt * 1000 + msec.toNat = ms
  fits : ms < 2 ^ 63

private theorem toMs_toInt {sec : Int64} {msec : UInt64} {ms : ℕ} (h : ClockTime sec msec ms) :
    (toMs sec msec).toInt = ms := by
  obtain ⟨hepoch, hexact, hfits⟩ := h
  have hthousand : (1000 : Int64).toInt = 1000 := rfl
  have hmsec := Exact.toInt_toInt64 (n := msec) (by omega)
  have hmul : (sec * 1000).toInt = sec.toInt * 1000 := by
    rw [Exact.toInt_mul (by rw [hthousand]; omega) (by rw [hthousand]; omega), hthousand]
  rw [toMs, Exact.toInt_add (by omega) (by omega)]
  omega

private theorem toCstr_of_short {peer : Str} (hlen : peer.length < 256) (hnul : '\x00' ∉ peer) :
    toCstr peer 256 = peer := by
  rw [toCstr, List.take_of_length_le (by omega)]
  exact cStr_of_noNul hnul

private theorem toInt_status {status : UInt64} (h : status.toNat < 2 ^ 31) :
    status.toUInt32.toInt32.toInt = status.toNat := by
  have hbits : status.toUInt32.toInt32.toInt = status.toUInt32.toBitVec.toInt := rfl
  have hnat : status.toUInt32.toNat = status.toNat := by
    rw [UInt64.toNat_toUInt32]
    omega
  rw [hbits, BitVec.toInt_eq_toNat_of_lt]
  · exact congrArg Nat.cast hnat
  · change 2 * status.toUInt32.toNat < 2 ^ 32
    omega

private theorem exactSum_of_fits {states : List UpstreamState} (hfits : timedTotal states < 2 ^ 63) :
    ExactSum states := by
  constructor
  · intro state hmem htimed
    have hms : timedMs state = state.responseTime.toNat := if_pos htimed
    have hle : timedMs state ≤ timedTotal states := List.le_sum_of_mem (List.mem_map_of_mem hmem)
    exact Exact.toInt_toInt64 (by omega)
  · rintro before after rfl
    rw [timedTotal_append] at hfits
    exact upstreamTotal_toInt (by omega)

section record

variable (span : SpanId) (r : NgxRequest) (now : NgxTime) (event : Option EventId)

/-- Without tries nothing is recorded. -/
theorem recordUpstream_of_no_tries {endMs : Int64} (h : r.upstreamStates.getD [] = []) :
    recordUpstream span r endMs event = [] := by
  unfold recordUpstream
  rcases hstates : r.upstreamStates with _ | states
  · rfl
  · rw [hstates] at h
    obtain rfl : states = [] := h
    rfl

/-- On a span, only `record_upstream` makes calls on events. -/
theorem eventCalls_spanCalls : (spanCalls span r now event).filter isEventCall =
    recordUpstream span r (toMs now.sec now.msec) event := by
  have hupstream := List.filter_eq_self.2 (isEventCall_recordUpstream span r event (toMs now.sec now.msec))
  unfold spanCalls
  by_cases hs : 0 < r.server.length <;> simp [hs, hupstream, isEventCall]

/-- The span starts when the request did. -/
theorem spanStart_spanCalls : (spanCalls span r now event).filterMap spanStart? = [toMs r.startSec r.startMsec] := by
  have hupstream : (recordUpstream span r (toMs now.sec now.msec) event).filterMap spanStart? = [] := by
    rw [List.filterMap_eq_nil_iff]
    intro c hc
    have hevent := isEventCall_recordUpstream span r event _ c hc
    cases c with
    | spanSetStartTimeMs span ms => cases hevent
    | _ => rfl
  unfold spanCalls
  by_cases hs : 0 < r.server.length <;> simp [hs, hupstream, spanStart?, List.filterMap_cons]

/-- The facts of the event that is recorded. -/
theorem recordUpstream_facts {states : List UpstreamState} {last : UpstreamState}
    (hstates : r.upstreamStates = some states) (hlast : states.getLast? = some last) (endMs : Int64) :
    let calls := recordUpstream span r endMs event
    calls.filterMap newEvent? = [("upstream" : Str)] ∧
    calls.filterMap eventStart? = [endMs - upstreamTotal states] ∧
    calls.filterMap eventEndPoint? = (last.peer.map fun peer => toCstr peer 256).toList ∧
    calls.filterMap eventDestination? = (last.peer.map fun peer => toCstr peer 256).toList ∧
    calls.filterMap eventStatus? = if last.status ≠ 0 then [last.status.toUInt32.toInt32] else [] := by
  intro calls
  have hcalls : calls = recordUpstream span r endMs event := rfl
  unfold recordUpstream at hcalls
  rw [hstates] at hcalls
  dsimp only at hcalls
  rw [hlast] at hcalls
  dsimp only at hcalls
  rw [hcalls, ← upstreamTotal]
  rcases last.peer with _ | peer
  · by_cases hs : last.status ≠ 0 <;>
      simp [hs, List.filterMap_cons, newEvent?, eventStart?, eventEndPoint?, eventDestination?, eventStatus?]
  · by_cases hs : last.status ≠ 0 <;>
      simp [hs, List.filterMap_cons, newEvent?, eventStart?, eventEndPoint?, eventDestination?, eventStatus?]

/-- Tries that fit into the lifetime of the request give an event that lies in it. -/
theorem upstreamEvent_of_timeline {states : List UpstreamState} {last : UpstreamState} {startMs endMs : Int64}
    {begins : Fin states.length → ℤ} (hstates : r.upstreamStates = some states) (hlast : states.getLast? = some last)
    (hstart : 0 ≤ startMs) (h : Timeline states startMs.toInt endMs.toInt begins) :
    UpstreamEvent states last startMs endMs (recordUpstream span r endMs event) ∧ ExactSum states := by
  have hle := timedTotal_le h
  have hend := Int64.toInt_lt endMs
  have hepoch : 0 ≤ startMs.toInt := Int64.le_iff_toInt_le.1 hstart
  have htotal : (upstreamTotal states).toInt = timedTotal states := upstreamTotal_toInt (by omega)
  have hsub : (endMs - upstreamTotal states).toInt = endMs.toInt - timedTotal states := by
    rw [Exact.toInt_sub (by omega) (by omega), htotal]
  have hafter : startMs ≤ endMs - upstreamTotal states := by
    rw [Int64.le_iff_toInt_le]
    omega
  have hbefore : endMs - upstreamTotal states ≤ endMs := by
    rw [Int64.le_iff_toInt_le]
    omega
  obtain ⟨hone, hfirst, hpoint, hdestination, hstatus⟩ := recordUpstream_facts span r event hstates hlast endMs
  exact ⟨⟨hone, hfirst, hafter, hbefore, by omega, hpoint, hdestination, hstatus, fun _ _ => toCstr_of_short,
    toInt_status⟩, exactSum_of_fits (by omega)⟩

end record

/-- The calls on events that the log handler makes on a span: none without tries; otherwise, if the tries do not
overlap and lie between the start of the span and the end of the request on nginx's clock, one event that lies there,
too, and takes exactly as long as the timed tries, without overflow.  The times of the clock are exact. -/
theorem upstream_event_exact (span : SpanId) (r : NgxRequest) (now : NgxTime) (event : Option EventId) :
    let startMs := toMs r.startSec r.startMsec
    let endMs := toMs now.sec now.msec
    let calls := (spanCalls span r now event).filter isEventCall
    (spanCalls span r now event).filterMap spanStart? = [startMs] ∧
    (∀ states last begins, r.upstreamStates = some states → states.getLast? = some last → 0 ≤ startMs →
      Timeline states startMs.toInt endMs.toInt begins →
      UpstreamEvent states last startMs endMs calls ∧ ExactSum states) ∧
    (r.upstreamStates.getD [] = [] → calls = []) ∧
    ∀ sec msec ms, ClockTime sec msec ms → (toMs sec msec).toInt = ms := by
  intro startMs endMs calls
  have hcalls : calls = recordUpstream span r endMs event := eventCalls_spanCalls span r now event
  rw [hcalls]
  refine ⟨spanStart_spanCalls span r now event, ?_, recordUpstream_of_no_tries span r event, fun _ _ _ => toMs_toInt⟩
  intro states last begins hstates hlast hstart h
  exact upstreamEvent_of_timeline span r event hstates hlast hstart h

/-- A first try that failed, one that never got a response, the separator of an internal redirect, and a last try. -/
def retries : List UpstreamState :=
  [⟨some "10.0.0.3:80", 20, 502⟩, ⟨some "10.0.0.4:80", untimed, 0⟩, ⟨none, 0, 0⟩, ⟨some "10.0.0.5:80", 30, 200⟩]

def retriedRequest : NgxRequest where
  isMain := true
  uri := "/api"
  methodName := "GET"
  addrText := "10.0.0.1"
  server := "localhost"
  headersIn := [[("Host", "localhost")]]
  startSec := 1
  startMsec := 0
  errStatus := 0
  status := 200
  upstreamStates := some retries

def retryBegins (i : Fin retries.length) : ℤ := if i.val = 0 then 1010 else 1050

private theorem mem_retry {i : Fin retries.length} {x : ℤ}
    (hx : x ∈ interval retryBegins (fun i => timedMs retries[i]) i) :
    i.val = 0 ∧ 1010 ≤ x ∧ x < 1030 ∨ i.val = 3 ∧ 1050 ≤ x ∧ x < 1080 := by
  obtain ⟨hle, hlt⟩ := mem_interval.1 hx
  rcases i with ⟨_ | _ | _ | _ | n, hi⟩
  · exact .inl ⟨rfl, hle, hlt⟩
  · exact absurd (lt_of_le_of_lt hle hlt) (lt_irrefl 1050)
  · exact absurd (lt_of_le_of_lt hle hlt) (lt_irrefl 1050)
  · exact .inr ⟨rfl, hle, hlt⟩
  · exact absurd hi (by simp [retries])

private theorem timeline_retries : Timeline retries 1000 1100 retryBegins := by
  refine ⟨by omega, fun i x hx => ?_, fun i j hij => Finset.disjoint_left.2 fun x hx hx' => ?_⟩
  · have hx := mem_retry hx
    rw [Finset.mem_Ico]
    omega
  · have hx := mem_retry hx
    have hx' := mem_retry hx'
    have hval : i.val ≠ j.val := fun h => hij (Fin.ext h)
    omega

/-- The event of these tries takes 50 ms, and its peer and its status are those of the last try. -/
theorem upstream_event_exact_retries :
    let calls := (spanCalls 7 retriedRequest ⟨1, 100⟩ (some 8)).filter isEventCall
    calls.filterMap eventStart? = [1050] ∧ calls.filterMap eventEndPoint? = [("10.0.0.5:80" : Str)] ∧
      calls.filterMap eventStatus? = [200] := by
  intro calls
  have hevent := (upstream_event_exact 7 retriedRequest ⟨1, 100⟩ (some 8)).2.1 retries ⟨some "10.0.0.5:80", 30, 200⟩
    retryBegins rfl rfl (by decide) timeline_retries
  exact ⟨hevent.1.start, hevent.1.endPoint, hevent.1.status⟩

end PinpointExamples.Nginx
