import Mathlib
import PinpointExamples.Carrier.Curl

/-!
# Failed appends to a libcurl header list

`Set` stores what `curl_slist_append` returns as the new head of the list.  A failed append returns the null pointer,
so it drops the lines that were there before.  A sequence of `Set` calls keeps the lines of all calls that succeeded
exactly when nothing had been appended before a call that fails (`failed_append_iff`).
-/

namespace PinpointExamples

/-- A call of `CurlTraceContextWriter::Set`, and whether its append succeeds. -/
structure SetCall where
  key : Str
  value : Str
  succeeds : Bool

namespace SetCall

def line (c : SetCall) : CString := cStr (c.key ++ ": " ++ c.value)

/-- The list behind `headers_` after a sequence of calls. -/
def run (headers : CurlSlist) (calls : List SetCall) : CurlSlist :=
  calls.foldl (fun h c => CurlTraceContextWriter.set c.succeeds h c.key c.value) headers

/-- The lines of the calls that succeed, in order. -/
def appended (calls : List SetCall) : CurlSlist := (calls.filter SetCall.succeeds).map line

private theorem run_cons_of_succeeds (headers : CurlSlist) {c : SetCall} (calls : List SetCall)
    (h : c.succeeds = true) :
    run headers (c :: calls) = run (headers ++ [c.line]) calls := by
  rw [run, List.foldl_cons, h]
  rfl

private theorem run_cons_of_fails (headers : CurlSlist) {c : SetCall} (calls : List SetCall)
    (h : c.succeeds = false) :
    run headers (c :: calls) = run [] calls := by
  rw [run, List.foldl_cons, h]
  rfl

private theorem appended_cons_of_succeeds {c : SetCall} (calls : List SetCall) (h : c.succeeds = true) :
    appended (c :: calls) = c.line :: appended calls := by
  rw [appended, List.filter_cons_of_pos h]
  rfl

private theorem appended_cons_of_fails {c : SetCall} (calls : List SetCall) (h : c.succeeds = false) :
    appended (c :: calls) = appended calls := by
  have hneg : ¬ c.succeeds = true := by simp [h]
  rw [appended, List.filter_cons_of_neg hneg]
  rfl

/-- A sequence of calls may lose lines, but adds none of its own. -/
theorem length_run_le (headers : CurlSlist) (calls : List SetCall) :
    (run headers calls).length ≤ headers.length + (appended calls).length := by
  induction calls generalizing headers with
  | nil => exact Nat.le_refl _
  | cons c calls ih =>
    cases h : c.succeeds with
    | true =>
      have hle := ih (headers ++ [c.line])
      rw [run_cons_of_succeeds headers calls h, appended_cons_of_succeeds calls h]
      simp only [List.length_append, List.length_cons, List.length_nil] at hle ⊢
      omega
    | false =>
      have hle := ih []
      rw [run_cons_of_fails headers calls h, appended_cons_of_fails calls h]
      simp only [List.length_nil] at hle
      omega

/-- Nothing is appended before a call that fails: no call that succeeds comes before it, and the list was empty. -/
structure FailsFirst (headers : CurlSlist) (calls : List SetCall) : Prop where
  order : calls.Pairwise fun a b => a.succeeds = true → b.succeeds = true
  initial : headers = [] ∨ ∀ c ∈ calls, c.succeeds = true

theorem failsFirst_cons_of_succeeds {headers : CurlSlist} {c : SetCall} {calls : List SetCall}
    (h : c.succeeds = true) : FailsFirst headers (c :: calls) ↔ FailsFirst (headers ++ [c.line]) calls := by
  have hne : headers ++ [c.line] ≠ [] := by simp
  constructor
  · rintro ⟨horder, -⟩
    rw [List.pairwise_cons] at horder
    exact ⟨horder.2, .inr fun b hb => horder.1 b hb h⟩
  · rintro ⟨horder, hinit⟩
    have hall := hinit.resolve_left hne
    refine ⟨List.pairwise_cons.2 ⟨fun b hb _ => hall b hb, horder⟩, .inr ?_⟩
    intro b hb
    rcases List.mem_cons.1 hb with rfl | hb
    · exact h
    · exact hall b hb

theorem failsFirst_cons_of_fails {headers : CurlSlist} {c : SetCall} {calls : List SetCall}
    (h : c.succeeds = false) : FailsFirst headers (c :: calls) ↔ headers = [] ∧ FailsFirst [] calls := by
  constructor
  · rintro ⟨horder, hinit⟩
    rw [List.pairwise_cons] at horder
    refine ⟨hinit.resolve_right ?_, horder.2, .inl rfl⟩
    intro hall
    have hc := hall c List.mem_cons_self
    rw [h] at hc
    cases hc
  · rintro ⟨rfl, horder, -⟩
    refine ⟨List.pairwise_cons.2 ⟨?_, horder⟩, .inl rfl⟩
    intro b _ hc
    rw [h] at hc
    cases hc

private theorem run_eq_iff (headers : CurlSlist) (calls : List SetCall) :
    run headers calls = headers ++ appended calls ↔ FailsFirst headers calls := by
  induction calls generalizing headers with
  | nil => exact ⟨fun _ => ⟨.nil, .inr (by simp)⟩, fun _ => (List.append_nil headers).symm⟩
  | cons c calls ih =>
    cases h : c.succeeds with
    | true =>
      rw [run_cons_of_succeeds headers calls h, appended_cons_of_succeeds calls h, failsFirst_cons_of_succeeds h,
        ← ih, List.append_assoc]
      rfl
    | false =>
      rw [run_cons_of_fails headers calls h, appended_cons_of_fails calls h, failsFirst_cons_of_fails h, ← ih]
      constructor
      · intro heq
        -- the lines from before are gone, so there were none
        have hle := length_run_le [] calls
        have hlen := congrArg List.length heq
        rw [List.length_append] at hlen
        have hzero : headers.length = 0 := by
          rw [List.length_nil] at hle
          omega
        obtain rfl := List.length_eq_zero_iff.1 hzero
        exact ⟨rfl, heq⟩
      · rintro ⟨rfl, heq⟩
        exact heq

end SetCall

open SetCall

/-- The list holds the lines of the calls that succeeded, behind those it started with, exactly when no call fails
after something was appended; and a failing call leaves the list as it was exactly when the list was empty. -/
theorem failed_append_iff (headers : CurlSlist) :
    (∀ calls, SetCall.run headers calls = headers ++ appended calls ↔ FailsFirst headers calls) ∧
    ∀ key value, CurlTraceContextWriter.set false headers key value = headers ↔ headers = [] := by
  constructor
  · exact run_eq_iff headers
  · intro key value
    exact eq_comm

/-- Three `Set` calls, the second of which fails. -/
def secondFails : List SetCall :=
  [⟨"a", "1", true⟩, ⟨"b", "2", false⟩, ⟨"c", "3", true⟩]

/-- The first line is lost, and the last call starts a list of its own. -/
theorem first_line_lost :
    SetCall.run [] secondFails = [cStr "c: 3"] ∧
    SetCall.run [] secondFails ≠ [] ++ appended secondFails := by
  have hrun : SetCall.run [] secondFails = [cStr "c: 3"] := rfl
  refine ⟨hrun, ?_⟩
  intro h
  have hlen := congrArg List.length h
  rw [hrun] at hlen
  exact absurd hlen (by decide)

end PinpointExamples
