import Mathlib
import PinpointExamples.Lib.Assoc
import PinpointExamples.Lib.Parts
import PinpointExamples.Nginx.Module

/-!
# Request headers in the nginx module

`ngx_http_pinpoint_header_get` looks a header up for the agent.  nginx keeps the headers of a request in parts, and
the loop walks them with an index that starts again in every part.  Since no part after the first is empty, the loop
stays inside the parts, ends, and finds the first header under the key (`header_get_finds_first`); an empty first
part does no harm.
-/

namespace PinpointExamples.Nginx

open Assoc Parts

/-- What is known of `ngx_strncasecmp`: it compares at most `n` bytes and ignores ASCII case.  It would stop at a NUL
of both strings, but the second one has none. -/
structure IsStrncasecmp (cmp : Str → Str → Nat → Int) : Prop where
  eq_zero_iff : ∀ (s : Str) (t : CString) (n : Nat), n ≤ s.length → n ≤ t.chars.length →
    (cmp s t.chars n = 0 ↔ EqIgnoreCase (s.take n) (t.chars.take n))

/-- The body of the loop: the value of a header, if its key is the given one. -/
def headerValue (ngxStrncasecmp : Str → Str → Nat → Int) (key : CString) (h : Str × Str) : Option Str :=
  let keyLen := key.chars.length
  if h.1.length = keyLen ∧ ngxStrncasecmp h.1 key.chars keyLen = 0 then some h.2 else none

/-- Where the loop starts. -/
def headersStart : List (List (Str × Str)) → Cursor (Str × Str)
  | [] => ⟨[], [], 0⟩
  | part :: next => ⟨part, next, 0⟩

/-- `ngx_http_pinpoint_header_get`, for at most so many passes of its loop; it returns a null pointer for `none`. -/
def headerGet (ngxStrncasecmp : Str → Str → Nat → Int) (r : NgxRequest) (key : CString) (passes : Nat) :
    Option (Outcome Str) :=
  (headersStart r.headersIn).run (headerValue ngxStrncasecmp key) passes

/-- The parts that `ngx_list_push` leaves: a first part, which may be empty if it is the only one, and other parts
with at least one element. -/
structure PushedParts (parts : List (List (Str × Str))) : Prop where
  hasFirst : parts ≠ []
  first : parts.head? = some [] → parts.tail = []
  later : ∀ part ∈ parts.tail, part ≠ []

/-- The header is under the key: the lengths are the same, and so are the texts but for ASCII case. -/
def HasKey (key : CString) (h : Str × Str) : Prop := h.1.length = key.chars.length ∧ EqIgnoreCase h.1 key.chars

instance (key : CString) : DecidablePred (HasKey key) := fun h =>
  inferInstanceAs (Decidable (h.1.length = key.chars.length ∧ EqIgnoreCase h.1 key.chars))

/-- The value of the first header under the key, in the order of all parts. -/
def firstValue (parts : List (List (Str × Str))) (key : CString) : Option Str :=
  (parts.flatten.find? fun h => HasKey key h).map Prod.snd

private theorem hasKey_iff {key : CString} {h : Str × Str} : HasKey key h ↔ EqIgnoreCase h.1 key.chars := by
  constructor
  · exact And.right
  · intro heq
    have hlen := congrArg List.length (show toLower h.1 = toLower key.chars from heq)
    rw [toLower, toLower, List.length_map, List.length_map] at hlen
    exact ⟨hlen, heq⟩

/-- The value is the one that the readers of the other carriers find. -/
theorem firstValue_eq_first (parts : List (List (Str × Str))) (key : CString) :
    firstValue parts key = first EqIgnoreCase key.chars parts.flatten := by
  rw [firstValue, first_eq_find?]
  simp only [hasKey_iff]

private theorem firstValue_eq_none_iff {parts : List (List (Str × Str))} {key : CString} :
    firstValue parts key = none ↔ ∀ h ∈ parts.flatten, ¬ HasKey key h := by
  rw [firstValue, Option.map_eq_none_iff, List.find?_eq_none]
  simp only [decide_eq_true_eq]

section lookup

variable {ngxStrncasecmp : Str → Str → Nat → Int}

private theorem headerValue_eq (hcmp : IsStrncasecmp ngxStrncasecmp) (key : CString) (h : Str × Str) :
    headerValue ngxStrncasecmp key h = if HasKey key h then some h.2 else none := by
  have hiff : h.1.length = key.chars.length ∧ ngxStrncasecmp h.1 key.chars key.chars.length = 0 ↔ HasKey key h := by
    refine and_congr_right fun hlen => ?_
    have hzero := hcmp.eq_zero_iff h.1 key key.chars.length hlen.ge le_rfl
    rwa [← hlen, List.take_length, hlen, List.take_length] at hzero
  by_cases hkey : HasKey key h
  · rw [headerValue, if_pos hkey, if_pos (hiff.2 hkey)]
  · rw [headerValue, if_neg hkey, if_neg fun hboth => hkey (hiff.1 hboth)]

/-- The first value of the body is that of the first header under the key. -/
theorem findSome_headerValue (hcmp : IsStrncasecmp ngxStrncasecmp) (key : CString) (l : List (Str × Str)) :
    l.findSome? (headerValue ngxStrncasecmp key) = (l.find? fun h => HasKey key h).map Prod.snd := by
  induction l with
  | nil => rfl
  | cons h l ih =>
    rw [List.findSome?_cons, List.find?_cons, headerValue_eq hcmp]
    by_cases hkey : HasKey key h
    · simp [hkey]
    · simpa [hkey] using ih

theorem inside_headersStart {parts : List (List (Str × Str))} (h : PushedParts parts) :
    (headersStart parts).Inside := by
  cases parts with
  | nil => exact absurd rfl h.hasFirst
  | cons part next => exact ⟨Nat.zero_le _, h.later⟩

theorem remaining_headersStart (parts : List (List (Str × Str))) :
    (headersStart parts).remaining = parts.flatten := by
  cases parts with
  | nil => rfl
  | cons part next => rfl

end lookup

/-- The lookup never reads outside of a part, it ends, and it finds the first header under the key, or nothing if
there is none. -/
theorem header_get_finds_first (ngxStrncasecmp : Str → Str → Nat → Int) (hcmp : IsStrncasecmp ngxStrncasecmp)
    (r : NgxRequest) (h : PushedParts r.headersIn) (key : CString) :
    (∀ passes, headerGet ngxStrncasecmp r key passes = none ∨
      headerGet ngxStrncasecmp r key passes = some (.found (firstValue r.headersIn key))) ∧
    (∀ passes, r.headersIn.flatten.length < passes →
      headerGet ngxStrncasecmp r key passes = some (.found (firstValue r.headersIn key))) ∧
    (firstValue r.headersIn key = none ↔ ∀ h ∈ r.headersIn.flatten, ¬ HasKey key h) := by
  have hinside := inside_headersStart h
  have hvalue : (headersStart r.headersIn).remaining.findSome? (headerValue ngxStrncasecmp key) =
      firstValue r.headersIn key := by
    rw [remaining_headersStart, findSome_headerValue hcmp]
    rfl
  refine ⟨fun passes => ?_, fun passes hlt => ?_, firstValue_eq_none_iff⟩
  · rw [← hvalue]
    exact Cursor.run_eq _ hinside passes
  · rw [← hvalue]
    rw [← remaining_headersStart] at hlt
    exact Cursor.run_of_length_lt _ hinside hlt

/-- Compares byte by byte, ignoring ASCII case, and stops at a NUL of both strings. -/
def asciiStrncasecmp : Str → Str → Nat → Int
  | c :: s, d :: t, n + 1 =>
    if c.toLower = d.toLower then
      if c.toLower = '\x00' then 0 else asciiStrncasecmp s t n
    else (c.toLower.toNat : Int) - d.toLower.toNat
  | _, _, _ => 0

private theorem asciiStrncasecmp_eq_zero_iff {s t : Str} (ht : '\x00' ∉ t) {n : Nat} (hs : n ≤ s.length)
    (hn : n ≤ t.length) :
    asciiStrncasecmp s t n = 0 ↔ EqIgnoreCase (s.take n) (t.take n) := by
  induction n generalizing s t with
  | zero => simp [asciiStrncasecmp, EqIgnoreCase, toLower]
  | succ n ih =>
    obtain ⟨c, s, rfl⟩ := List.exists_cons_of_length_pos (show 0 < s.length by omega)
    obtain ⟨d, t, rfl⟩ := List.exists_cons_of_length_pos (show 0 < t.length by omega)
    simp only [List.mem_cons, not_or] at ht
    simp only [List.length_cons, Nat.add_le_add_iff_right] at hs hn
    have hrest : EqIgnoreCase ((c :: s).take (n + 1)) ((d :: t).take (n + 1)) ↔
        c.toLower = d.toLower ∧ EqIgnoreCase (s.take n) (t.take n) := by
      simp [EqIgnoreCase, toLower]
    rw [hrest, asciiStrncasecmp]
    by_cases hcd : c.toLower = d.toLower
    · -- the comparison does not stop here, since `d` is no NUL
      have hnul : '\x00' ∉ toLower [d] := by
        rw [mem_toLower_iff (by decide)]
        simpa using ht.1
      have hc : c.toLower ≠ '\x00' := by
        intro hzero
        rw [hcd] at hzero
        exact hnul (by simp [toLower, hzero])
      rw [if_pos hcd, if_neg hc, ih ht.2 hs hn]
      simp [hcd]
    · rw [if_neg hcd]
      refine iff_of_false ?_ fun h => hcd h.1
      intro hzero
      have hnat : c.toLower.toNat = d.toLower.toNat := by omega
      exact hcd (Char.toNat_inj.1 hnat)

theorem isStrncasecmp_ascii : IsStrncasecmp asciiStrncasecmp :=
  ⟨fun _ t _ hs hn => asciiStrncasecmp_eq_zero_iff t.noNul hs hn⟩

/-- A request with two parts of headers. -/
def twoPartRequest : NgxRequest where
  isMain := true
  uri := "/api"
  methodName := "GET"
  addrText := "10.0.0.1"
  server := "localhost"
  headersIn := [[("Host", "localhost"), ("Accept", "*/*")], [("pinpoint-traceid", "agent^1^2")]]
  startSec := 1
  startMsec := 0
  errStatus := 0
  status := 200
  upstreamStates := none

theorem header_get_finds_first_twoParts :
    headerGet asciiStrncasecmp twoPartRequest (cStr "Pinpoint-TraceID") 4 =
      some (.found (some ("agent^1^2" : Str))) := by
  have hparts : PushedParts twoPartRequest.headersIn := ⟨by simp [twoPartRequest], by simp [twoPartRequest],
    by simp [twoPartRequest]⟩
  have hfirst : firstValue twoPartRequest.headersIn (cStr "Pinpoint-TraceID") = some ("agent^1^2" : Str) := by decide
  rw [← hfirst]
  exact (header_get_finds_first asciiStrncasecmp isStrncasecmp_ascii twoPartRequest hparts _).2.1 4 (by decide)

end PinpointExamples.Nginx
