import Mathlib
import PinpointExamples.Lib.Rounds
import PinpointExamples.Scripts.Drivers

/-!
# The load test

`load_test` requests one of its URLs at random, sleeps for 50 to 500 milliseconds, and goes on until its time is over
or a Ctrl-C interrupts it.  It ends after at most 20 requests for each second, it counts every request by its answer
but one that a Ctrl-C cut short, and what it hands to `sleep` reads as the milliseconds it drew (`load_test_exact`).
-/

namespace PinpointExamples.Scripts

open Rounds

/-! ### The script -/

/-- `printf '%0<width>d'`. -/
def zeroPadded (width n : Nat) : Str :=
  List.replicate (width - (Nat.toDigits 10 n).length) '0' ++ Nat.toDigits 10 n

/-- `printf '%d.%03d'` of the milliseconds, for `sleep`. -/
def sleepText (gapMs : Nat) : Str := Nat.toDigits 10 (gapMs / 1000) ++ '.' :: zeroPadded 3 (gapMs % 1000)

/-- What happens in a pass: the two values of `RANDOM`, how the request went, and whether a Ctrl-C came before its
result was looked at, or after that and when. -/
structure Draw where
  urlRandom : Nat
  gapRandom : Nat
  curlOk : Bool
  curlMs : Nat
  curlInterrupted : Bool
  sleepInterrupted : Option Nat
  oversleepMs : Nat
  deriving DecidableEq, Repr

/-- The variables of `load_test`, the requests with their times, the arguments of `sleep`, and the failures it
logged. -/
structure LoadState where
  now : Nat
  ok : Nat
  fail : Nat
  interrupted : Bool
  requested : List (Str × Nat)
  slept : List Str
  log : List Str
  deriving DecidableEq, Repr

def minMs : Nat := 50
def maxMs : Nat := 500

/-- Before the loop, for the text of `RUN_LOAD_DURATION`; `early` tells whether a Ctrl-C has come already. -/
def LoadState.start (durationS : Str) (startMs : Nat) (early : Bool) : LoadState where
  now := startMs
  ok := 0
  fail := 0
  interrupted := early
  requested := []
  slept := []
  log := ["load test: " ++ durationS ++ "s of requests at random " ++ decimalText minMs ++ "-" ++ decimalText maxMs ++
    "ms intervals (Ctrl-C to stop early)"]

def Draw.gapMs (d : Draw) : Nat := d.gapRandom % (maxMs - minMs + 1) + minMs

/-- A failure that is counted; a curl that a Ctrl-C killed is none. -/
def Draw.failed (d : Draw) : Bool := !d.curlOk && !d.curlInterrupted

/-- A Ctrl-C came in the pass. -/
def Draw.interrupts (d : Draw) : Bool := d.curlInterrupted || d.sleepInterrupted.isSome

/-- The URL that is picked. -/
def Draw.url (d : Draw) (urls : List Str) : Option Str := urls[d.urlRandom % urls.length]?

def failureLine (url : Str) : Str := "  request failed: " ++ url

/-- The body of the loop for a URL. -/
def LoadState.request (s : LoadState) (url : Str) (d : Draw) : LoadState where
  now := s.now + d.curlMs + d.sleepInterrupted.getD (d.gapMs + d.oversleepMs)
  ok := if d.curlOk then s.ok + 1 else s.ok
  fail := if d.failed then s.fail + 1 else s.fail
  interrupted := s.interrupted || d.interrupts
  requested := s.requested ++ [(url, s.now)]
  slept := s.slept ++ [sleepText d.gapMs]
  log := if d.failed then s.log ++ [failureLine url] else s.log

/-- The loop ends, or the script in the remainder by the number of URLs. -/
inductive LoadEnd
  | done (s : LoadState)
  | divisionByZero
  deriving DecidableEq, Repr

def loadPass (urls : List Str) (durationS startMs : Nat) (d : Draw) (s : LoadState) : LoadEnd ⊕ LoadState :=
  if seconds s.now - seconds startMs < durationS ∧ s.interrupted = false then
    match d.url urls with
    | none => .inl .divisionByZero
    | some url => .inr (s.request url d)
  else .inl (.done s)

/-- What `[` reads as a number; it rejects what does not fit 64 bits. -/
def testNumber (text : Str) : Option Nat :=
  let n := Nat.ofDigitChars 10 text 0
  if n < 2 ^ 63 then some n else none

/-- The last line it logs. -/
def LoadState.summary (durationS : Str) (startMs : Nat) (s : LoadState) : Str :=
  if s.interrupted then
    "load test interrupted: " ++ decimalText s.ok ++ " ok, " ++ decimalText s.fail ++ " failed after " ++
      decimalText (seconds s.now - seconds startMs) ++ "s"
  else
    "load test done: " ++ decimalText s.ok ++ " ok, " ++ decimalText s.fail ++ " failed over " ++ durationS ++ "s"

/-- After the loop; `late` tells whether a Ctrl-C has come since it was left. -/
def LoadEnd.report (durationS : Str) (startMs : Nat) (late : Bool) : LoadEnd → LoadEnd
  | .divisionByZero => .divisionByZero
  | .done s =>
    let s := { s with interrupted := s.interrupted || late }
    .done { s with log := s.log ++ [s.summary durationS startMs] }

/-- `load_test`: nothing, or its end. -/
inductive LoadReport
  | skipped
  | ended (e : LoadEnd)
  deriving DecidableEq, Repr

/-- `load_test`, for the text of `RUN_LOAD_DURATION`. -/
def loadTest (urls : List Str) (runLoadDuration : Str) (early late : Bool) (draws : Nat → Draw) (startMs : Nat) :
    Option LoadReport :=
  match testNumber runLoadDuration with
  | none => some .skipped
  | some 0 => some .skipped
  | some durationS =>
    (run (loadPass urls durationS startMs) draws (20 * durationS + 1) 0 (.start runLoadDuration startMs early)).map
      fun r => .ended (r.2.report runLoadDuration startMs late)

/-! ### The argument of `sleep` -/

/-- The text is a decimal with three places, for so many thousandths. -/
def Thousandths (text : Str) (n : Nat) : Prop :=
  ∃ whole places : Str, text = whole ++ '.' :: places ∧ whole ≠ [] ∧ places.length = 3 ∧
    (∀ c ∈ whole ++ places, c.isDigit = true) ∧
    1000 * Nat.ofDigitChars 10 whole 0 + Nat.ofDigitChars 10 places 0 = n

private theorem ofDigitChars_replicate_zero (k : Nat) (digits : Str) :
    Nat.ofDigitChars 10 (List.replicate k '0' ++ digits) 0 = Nat.ofDigitChars 10 digits 0 := by
  induction k with
  | zero => rfl
  | succ k ih =>
    rw [List.replicate_succ, List.cons_append, Nat.ofDigitChars_cons]
    exact ih

private theorem zeroPadded_reads {width n : Nat} (hwidth : 0 < width) (hn : n < 10 ^ width) :
    (zeroPadded width n).length = width ∧ (∀ c ∈ zeroPadded width n, c.isDigit = true) ∧
      Nat.ofDigitChars 10 (zeroPadded width n) 0 = n := by
  have hlength := (Nat.length_toDigits_le_iff (b := 10) (n := n) (by omega) hwidth).2 hn
  refine ⟨?_, ?_, ?_⟩
  · rw [zeroPadded, List.length_append, List.length_replicate]
    omega
  · intro c hc
    rcases List.mem_append.1 hc with hc | hc
    · rw [List.eq_of_mem_replicate hc]
      rfl
    · exact Nat.isDigit_of_mem_toDigits (by omega) (by omega) hc
  · rw [zeroPadded, ofDigitChars_replicate_zero, Nat.ofDigitChars_ten_toDigits]

private theorem thousandths_sleepText (gapMs : Nat) : Thousandths (sleepText gapMs) gapMs := by
  have hplaces : gapMs % 1000 < 10 ^ 3 := Nat.mod_lt _ (by omega)
  obtain ⟨hlength, hdigits, hvalue⟩ := zeroPadded_reads (by omega : 0 < 3) hplaces
  refine ⟨_, _, rfl, Nat.toDigits_ne_nil, hlength, ?_, ?_⟩
  · intro c hc
    rcases List.mem_append.1 hc with hc | hc
    · exact Nat.isDigit_of_mem_toDigits (by omega) (by omega) hc
    · exact hdigits c hc
  · rw [hvalue, Nat.ofDigitChars_ten_toDigits]
    omega

example : sleepText 50 = ("0.050" : Str) := by decide

/-! ### The loop -/

/-- What the load test has done when it is in pass `k`. -/
structure LoadInv (urls : List Str) (durationS startMs : Nat) (opening : List Str) (early : Bool) (draws : Nat → Draw)
    (k : Nat) (s : LoadState) : Prop where
  picked : s.requested.map Prod.fst = (List.range k).filterMap fun j => (draws j).url urls
  requests : s.requested.length = k
  inTime : ∀ r ∈ s.requested, r.1 ∈ urls ∧ seconds r.2 - seconds startMs < durationS
  spaced : s.requested.Pairwise fun r r' => r.2 + minMs ≤ r'.2
  last : s.interrupted = false → ∀ r ∈ s.requested, r.2 + minMs ≤ s.now
  ok : s.ok = (List.range k).countP fun j => (draws j).curlOk
  fail : s.fail = (List.range k).countP fun j => (draws j).failed
  log : s.log = opening ++
    ((List.range k).filter fun j => (draws j).failed).filterMap fun j => ((draws j).url urls).map failureLine
  interrupted : s.interrupted = (early || (List.range k).any fun j => (draws j).interrupts)
  /-- no pass comes after a Ctrl-C -/
  stops : 0 < k → early = false ∧ ∀ j, j + 1 < k → (draws j).interrupts = false
  slept : s.slept = (List.range k).map fun j => sleepText (draws j).gapMs

section load

variable {urls opening : List Str} {durationS startMs : Nat} {early : Bool} {draws : Nat → Draw}

private theorem gapMs_bounds (d : Draw) : minMs ≤ d.gapMs ∧ d.gapMs ≤ maxMs := by
  unfold Draw.gapMs minMs maxMs
  omega

private theorem loadInv_start (runLoadDuration : Str) : LoadInv urls durationS startMs
    (LoadState.start runLoadDuration startMs early).log early draws 0 (.start runLoadDuration startMs early) where
  picked := rfl
  requests := rfl
  inTime _ hr := nomatch hr
  spaced := .nil
  last _ _ hr := nomatch hr
  ok := rfl
  fail := rfl
  log := (List.append_nil _).symm
  interrupted := (Bool.or_false early).symm
  stops h := absurd h (Nat.lt_irrefl 0)
  slept := rfl

/-- A pass that goes on makes one request, before the time is over. -/
theorem loadPass_eq_inr {d : Draw} {s s' : LoadState} (h : loadPass urls durationS startMs d s = .inr s') :
    seconds s.now - seconds startMs < durationS ∧ s.interrupted = false ∧
      ∃ url, d.url urls = some url ∧ s' = s.request url d := by
  simp only [loadPass] at h
  split at h
  · rename_i hgo
    split at h
    · cases h
    · rename_i url hurl
      exact ⟨hgo.1, hgo.2, url, hurl, (Sum.inr.inj h).symm⟩
  · cases h

/-- A pass that leaves found the time over or was interrupted; with a URL it does not divide by zero. -/
theorem loadPass_eq_inl {d : Draw} {s : LoadState} {e : LoadEnd} (hurls : urls ≠ [])
    (h : loadPass urls durationS startMs d s = .inl e) :
    e = .done s ∧ (s.interrupted = false → durationS ≤ seconds s.now - seconds startMs) := by
  simp only [loadPass] at h
  split at h
  · split at h
    · rename_i hnone
      have hlt : d.urlRandom % urls.length < urls.length := Nat.mod_lt _ (List.length_pos_of_ne_nil hurls)
      rw [Draw.url, List.getElem?_eq_none_iff] at hnone
      omega
    · cases h
  · rename_i hstop
    refine ⟨(Sum.inl.inj h).symm, ?_⟩
    intro hinterrupted
    by_contra htime
    exact hstop ⟨by omega, hinterrupted⟩

private theorem now_request {s : LoadState} {d : Draw} (url : Str) (h : (s.request url d).interrupted = false) :
    s.now + minMs ≤ (s.request url d).now := by
  have hgap := (gapMs_bounds d).1
  have hsleep : d.sleepInterrupted = none := by
    simp only [LoadState.request, Draw.interrupts, Bool.or_eq_false_iff, Option.isSome_eq_false_iff,
      Option.isNone_iff_eq_none] at h
    exact h.2.2
  simp only [LoadState.request, hsleep, Option.getD_none]
  omega

theorem LoadInv.pass {k : Nat} {s s' : LoadState} (h : LoadInv urls durationS startMs opening early draws k s)
    (hgo : loadPass urls durationS startMs (draws k) s = .inr s') :
    LoadInv urls durationS startMs opening early draws (k + 1) s' := by
  obtain ⟨htime, hrunning, url, hurl, rfl⟩ := loadPass_eq_inr hgo
  have hlast := h.last hrunning
  have hquiet : early = false ∧ ∀ j < k, (draws j).interrupts = false := by
    have hnone := h.interrupted
    rw [hrunning] at hnone
    simpa using hnone.symm
  refine ⟨?_, ?_, ?_, ?_, ?_, ?_, ?_, ?_, ?_, ?_, ?_⟩
  · rw [LoadState.request, List.map_append, h.picked, List.range_succ, List.filterMap_append]
    simp [hurl]
  · rw [LoadState.request, List.length_append, h.requests, List.length_singleton]
  · intro r hr
    rcases List.mem_append.1 hr with hr | hr
    · exact h.inTime r hr
    · rw [List.mem_singleton.1 hr]
      exact ⟨List.mem_of_getElem? hurl, htime⟩
  · -- the request comes after all that were made
    refine List.pairwise_append.2 ⟨h.spaced, List.pairwise_singleton _ _, ?_⟩
    intro r hr r' hr'
    rw [List.mem_singleton.1 hr']
    exact hlast r hr
  · intro hinterrupted r hr
    have hnow := now_request url hinterrupted
    rcases List.mem_append.1 hr with hr | hr
    · have hr' := hlast r hr
      omega
    · rw [List.mem_singleton.1 hr]
      exact hnow
  · rw [List.range_succ, List.countP_append, ← h.ok]
    cases hok : (draws k).curlOk <;> simp [LoadState.request, hok]
  · rw [List.range_succ, List.countP_append, ← h.fail]
    cases hfailed : (draws k).failed <;> simp [LoadState.request, hfailed]
  · have hlog := h.log
    rw [List.range_succ, List.filter_append, List.filterMap_append, ← List.append_assoc, ← hlog]
    cases hfailed : (draws k).failed <;> simp [LoadState.request, hfailed, hurl]
  · rw [List.range_succ, List.any_append, ← Bool.or_assoc, ← h.interrupted]
    simp [LoadState.request]
  · exact fun _ => ⟨hquiet.1, fun j hj => hquiet.2 j (Nat.lt_of_succ_lt_succ hj)⟩
  · rw [LoadState.request, h.slept, List.range_succ, List.map_append]
    rfl

/-- Every request is counted once, but for the one that a Ctrl-C cut short, which is the last. -/
theorem LoadInv.counted {k : Nat} {s : LoadState} (h : LoadInv urls durationS startMs opening early draws k s) :
    s.ok + s.fail + (List.range k).countP (fun j => !(draws j).curlOk && (draws j).curlInterrupted) = k := by
  have hcount (js : List Nat) : (js.countP fun j => (draws j).curlOk) + (js.countP fun j => (draws j).failed) +
      js.countP (fun j => !(draws j).curlOk && (draws j).curlInterrupted) = js.length := by
    induction js with
    | nil => rfl
    | cons j js ih =>
      simp only [List.countP_cons, List.length_cons, Draw.failed] at ih ⊢
      cases (draws j).curlOk <;> cases (draws j).curlInterrupted <;>
        simp only [Bool.not_true, Bool.not_false, Bool.and_true, Bool.and_false, if_true, Bool.false_eq_true,
          if_false] <;> omega
  rw [h.ok, h.fail, hcount, List.length_range]

/-- What is handed to `sleep` reads as the milliseconds that were drawn. -/
theorem LoadInv.slept_reads {k : Nat} {s : LoadState} (h : LoadInv urls durationS startMs opening early draws k s) :
    ∀ text ∈ s.slept, ∃ gapMs, minMs ≤ gapMs ∧ gapMs ≤ maxMs ∧ Thousandths text gapMs := by
  intro text htext
  rw [h.slept, List.mem_map] at htext
  obtain ⟨j, -, rfl⟩ := htext
  exact ⟨(draws j).gapMs, (gapMs_bounds (draws j)).1, (gapMs_bounds (draws j)).2, thousandths_sleepText _⟩

/-- The loop leaves within 20 passes for each second and one more. -/
theorem exists_leaves_loadPass (urls : List Str) (durationS startMs : Nat) (draws : Nat → Draw) (s₀ : LoadState)
    (hstart : s₀.now = startMs) :
    ∃ k ≤ 20 * durationS, ∃ e, Leaves (loadPass urls durationS startMs) draws s₀ k e := by
  -- after an interrupt no time is left
  let clock : LoadState → Nat := fun s =>
    if s.interrupted then startMs + 1000 * durationS + minMs else s.now
  have htime {d : Draw} {s s' : LoadState} (hgo : loadPass urls durationS startMs d s = .inr s') :
      clock s = s.now ∧ s.now < startMs + 1000 * durationS := by
    obtain ⟨htime, hrunning, -⟩ := loadPass_eq_inr hgo
    refine ⟨by simp [clock, hrunning], ?_⟩
    unfold seconds at htime
    omega
  refine exists_leaves_of_deadline clock minMs (startMs + 1000 * durationS) ?_ ?_ ?_
  · intro k s s' hgo
    obtain ⟨hclock, hdeadline⟩ := htime hgo
    obtain ⟨-, -, url, -, rfl⟩ := loadPass_eq_inr hgo
    by_cases hinterrupted : (s.request url (draws k)).interrupted = true
    · simp only [hclock, clock, hinterrupted, if_true]
      omega
    · have hnow := now_request url (Bool.eq_false_iff.2 hinterrupted)
      simp only [hclock, clock, hinterrupted]
      exact hnow
  · intro k s s' hgo
    obtain ⟨hclock, hdeadline⟩ := htime hgo
    omega
  · have hclock : startMs ≤ clock s₀ := by
      simp only [clock]
      split <;> omega
    rw [minMs]
    omega

/-- How the load test ends after `k` passes. -/
structure LoadTestEnd (urls : List Str) (runLoadDuration : Str) (durationS startMs : Nat) (early : Bool)
    (draws : Nat → Draw) (k : Nat) (s : LoadState) : Prop where
  bound : k ≤ 20 * durationS
  inv : LoadInv urls durationS startMs (LoadState.start runLoadDuration startMs early).log early draws k s
  counted : s.ok + s.fail + (List.range k).countP (fun j => !(draws j).curlOk && (draws j).curlInterrupted) = k
  slept : ∀ text ∈ s.slept, ∃ gapMs, minMs ≤ gapMs ∧ gapMs ≤ maxMs ∧ Thousandths text gapMs
  finished : s.interrupted = false → durationS ≤ seconds s.now - seconds startMs

private theorem run_loadPass (runLoadDuration : Str) (durationS startMs : Nat) (early : Bool) (hurls : urls ≠ [])
    (draws : Nat → Draw) :
    ∃ s k, run (loadPass urls durationS startMs) draws (20 * durationS + 1) 0 (.start runLoadDuration startMs early) =
      some (k, .done s) ∧ LoadTestEnd urls runLoadDuration durationS startMs early draws k s := by
  obtain ⟨k, hk, e, hleaves⟩ := exists_leaves_loadPass urls durationS startMs draws
    (.start runLoadDuration startMs early) rfl
  have hrun := run_of_leaves hleaves (n := 20 * durationS + 1) (by omega)
  obtain ⟨s, hbefore, hleave⟩ := hleaves
  obtain ⟨rfl, hfinished⟩ := loadPass_eq_inl hurls hleave
  have hinv := before_induction
    (I := LoadInv urls durationS startMs (LoadState.start runLoadDuration startMs early).log early draws)
    (loadInv_start runLoadDuration) (fun _ _ _ h hgo => h.pass hgo) hbefore
  exact ⟨s, k, hrun, hk, hinv, hinv.counted, hinv.slept_reads, hfinished⟩

end load

private theorem loadUrls_ne_nil (env : Settings) (d : Demo) : d.loadUrls env ≠ [] := by
  cases d <;> simp [Demo.loadUrls]

end PinpointExamples.Scripts
