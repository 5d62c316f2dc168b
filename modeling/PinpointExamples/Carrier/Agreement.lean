import Mathlib
import PinpointExamples.Carrier.Civetweb
import PinpointExamples.Carrier.Curl
import PinpointExamples.Carrier.Http

/-!
# Lookup and iteration of the header readers

Three readers offer both a lookup by name and an iteration over all pairs.  HTTP field names ignore case, so the two
agree if a lookup succeeds exactly when the iteration visits a pair with this name ignoring case, and returns the
value of such a pair.  `HttpHeaderReader` and `CurlHeaderReader` agree; the static array of the CivetWeb example
compares letter case in the lookup, and agrees only for a name that is spelled as in the array
(`readers_agree_iff`).
-/

namespace PinpointExamples

open Assoc Visit

/-- The lookup of `key` gave `get`, and the iteration visited the pairs `visited`. -/
structure Agrees (get : Option Str) (visited : List (Str × Str)) (key : Str) : Prop where
  isSome_iff : get.isSome ↔ ∃ p ∈ visited, EqIgnoreCase p.1 key
  value : ∀ v, get = some v → ∃ p ∈ visited, EqIgnoreCase p.1 key ∧ p.2 = v

/-- As `Agrees`, and the value is that of the first pair with the name. -/
structure AgreesFirst (get : Option Str) (visited : List (Str × Str)) (key : Str) : Prop
    extends Agrees get visited key where
  valueFirst : ∀ v, get = some v → ∃ p, (visited.find? fun p => EqIgnoreCase p.1 key) = some p ∧ p.2 = v

/-- A callback that records what it is handed and never stops. -/
def recordAll : Str × Str → List (Str × Str) → Bool × List (Str × Str) := recorder fun _ => true

private theorem isSome_first_iff {key : Str} {l : List (Str × Str)} :
    (first EqIgnoreCase key l).isSome ↔ ∃ p ∈ l, EqIgnoreCase p.1 key := by
  rcases h : first EqIgnoreCase key l with _ | v
  · have := first_eq_none.1 h
    simpa using this
  · obtain ⟨e, he, hk, _⟩ := exists_of_first_eq_some h
    simpa using ⟨e.1, ⟨e.2, he⟩, hk⟩

private theorem agreesFirst_iff {key : Str} {get : Option Str} {l : List (Str × Str)} :
    AgreesFirst get l key ↔ get = first EqIgnoreCase key l := by
  constructor
  · intro h
    rcases hg : get with _ | v
    · have hn : ¬ ∃ p ∈ l, EqIgnoreCase p.1 key := by
        rw [← h.isSome_iff, hg]
        simp
      exact (first_eq_none.2 fun e he hk => hn ⟨e, he, hk⟩).symm
    · obtain ⟨p, hp, rfl⟩ := h.valueFirst v hg
      rw [first_eq_find?, hp]
      rfl
  · rintro rfl
    refine ⟨⟨isSome_first_iff, ?_⟩, ?_⟩
    · intro v hv
      exact exists_of_first_eq_some hv
    · intro v hv
      rw [first_eq_find?, Option.map_eq_some_iff] at hv
      exact hv

/-! ### The static array -/

/-- The first pair with the name ignoring case is spelled as `key`, or the first pair spelled as `key` has the same
value. -/
def SpelledAlike (entries : List (Str × Str)) (key : Str) : Prop :=
  ∀ e, (entries.find? fun e => EqIgnoreCase e.1 key) = some e →
    e.1 = key ∨ ∃ e', (entries.find? fun e => e.1 = key) = some e' ∧ e'.2 = e.2

private theorem first_eq_first_iff {key : Str} {l : List (Str × Str)} :
    first Eq key l = first EqIgnoreCase key l ↔ SpelledAlike l key := by
  rw [first_eq_find?, first_eq_find?, SpelledAlike]
  constructor
  · intro h e he
    rw [he, Option.map_some, Option.map_eq_some_iff] at h
    exact .inr h
  · intro h
    rcases he : l.find? fun e => EqIgnoreCase e.1 key with _ | e
    · -- a pair that is spelled as the key also has its name
      have hn : (l.find? fun e => e.1 = key) = none := by
        rw [List.find?_eq_none] at he ⊢
        intro x hx
        have := he x hx
        simp only [decide_eq_true_eq] at this ⊢
        rintro rfl
        exact this (.refl _)
      rw [hn, he]
    · rw [he, Option.map_some, Option.map_eq_some_iff]
      rcases h e he with rfl | h
      · refine ⟨e, ?_, rfl⟩
        obtain ⟨_, l₁, l₂, rfl, hl₁⟩ := List.find?_eq_some_iff_append.1 he
        refine List.find?_eq_some_iff_append.2 ⟨by simp, l₁, l₂, rfl, ?_⟩
        intro x hx
        have hx' := hl₁ x hx
        simp only [Bool.not_eq_true', decide_eq_false_iff_not] at hx' ⊢
        intro hxe
        exact hx' (hxe ▸ .refl _)
      · exact h

private theorem agrees_first_iff {key : Str} {l : List (Str × Str)} :
    Agrees (first Eq key l) l key ↔ ((∃ e ∈ l, EqIgnoreCase e.1 key) → ∃ e ∈ l, e.1 = key) := by
  have hsome : (first Eq key l).isSome ↔ ∃ e ∈ l, e.1 = key := by
    rcases h : first Eq key l with _ | v
    · have hno := first_eq_none.1 h
      simp only [Option.isSome_none, Bool.false_eq_true, false_iff]
      rintro ⟨e, he, hk⟩
      exact hno e he hk
    · obtain ⟨e, he, hk, _⟩ := exists_of_first_eq_some h
      simp only [Option.isSome_some, true_iff]
      exact ⟨e, he, hk⟩
  constructor
  · rintro h hex
    exact hsome.1 (h.isSome_iff.2 hex)
  · intro h
    refine ⟨⟨?_, fun hex => hsome.2 (h hex)⟩, ?_⟩
    · intro hs
      obtain ⟨e, he, rfl⟩ := hsome.1 hs
      exact ⟨e, he, .refl _⟩
    · intro v hv
      obtain ⟨e, he, rfl, rfl⟩ := exists_of_first_eq_some hv
      exact ⟨e, he, .refl _, rfl⟩

/-! ### The three readers -/

private theorem http_agrees (lib : HttplibHeaders) (headers : Headers) (key : Str) :
    Agrees (HttpHeaderReader.get lib headers key) (HttpHeaderReader.forEach recordAll headers []) key := by
  have hv : HttpHeaderReader.forEach recordAll headers [] = headers := visit_recorder_all headers
  rw [hv]
  exact ⟨HttpHeaderReader.get_isSome_iff lib, fun v h => HttpHeaderReader.get_eq_some lib h⟩

private theorem curl_agreesFirst (headers : CurlSlist) (key : Str) :
    AgreesFirst (CurlHeaderReader.get headers key) (CurlHeaderReader.forEach recordAll headers []) key := by
  have hv : CurlHeaderReader.forEach recordAll headers [] = CurlHeaderReader.pairs headers := by
    rw [CurlHeaderReader.forEach_eq_visit]
    exact visit_recorder_all _
  rw [hv, agreesFirst_iff]
  exact CurlHeaderReader.get_eq_first headers key

/-- The lookup and the iteration of `HttpHeaderReader` and of `CurlHeaderReader` agree on every carrier and key; those
of the static array agree exactly when the array has no pair with the name, or has one that is spelled as the key
(for the value of the first pair with the name: when `SpelledAlike` holds). -/
theorem readers_agree_iff (lib : HttplibHeaders) (headers : Headers) (list : CurlSlist) (arr : StaticHeaderArray)
    (key : Str) (name : CString) :
    Agrees (HttpHeaderReader.get lib headers key) (HttpHeaderReader.forEach recordAll headers []) key ∧
    AgreesFirst (CurlHeaderReader.get list key) (CurlHeaderReader.forEach recordAll list []) key ∧
    (AgreesFirst ((staticHeaderGet arr name).map CString.chars) (staticHeaderForEach arr recordAll []) name.chars ↔
      SpelledAlike arr.entries name.chars) ∧
    (Agrees ((staticHeaderGet arr name).map CString.chars) (staticHeaderForEach arr recordAll []) name.chars ↔
      ((∃ e ∈ arr.entries, EqIgnoreCase e.1 name.chars) → ∃ e ∈ arr.entries, e.1 = name.chars)) := by
  refine ⟨http_agrees lib headers key, curl_agreesFirst list key, ?_⟩
  have hv : staticHeaderForEach arr recordAll [] = arr.entries := by
    rw [staticHeaderForEach_eq_visit]
    exact visit_recorder_all _
  rw [hv, staticHeaderGet_eq_first, agreesFirst_iff]
  exact ⟨first_eq_first_iff, agrees_first_iff⟩

/-- The array of one pair `Content-Type: text/html`. -/
def contentTypeArray : StaticHeaderArray where
  pairs := [cStr "Content-Type", cStr "text/html"]
  count := 1
  bound := by decide

/-- The iteration visits the pair, but the lookup of `content-type` finds nothing. -/
theorem static_lookup_misses_case :
    staticHeaderGet contentTypeArray (cStr "content-type") = none ∧
    staticHeaderForEach contentTypeArray recordAll [] = [(("Content-Type" : Str), ("text/html" : Str))] ∧
    ¬ Agrees ((staticHeaderGet contentTypeArray (cStr "content-type")).map CString.chars)
      (staticHeaderForEach contentTypeArray recordAll []) "content-type" := by
  have hg : staticHeaderGet contentTypeArray (cStr "content-type") = none := by decide
  have hv : staticHeaderForEach contentTypeArray recordAll [] = [(("Content-Type" : Str), ("text/html" : Str))] := by
    decide
  refine ⟨hg, hv, ?_⟩
  intro h
  have hsome := h.isSome_iff.2 ⟨("Content-Type", "text/html"), by rw [hv]; simp, by decide⟩
  rw [hg] at hsome
  simp at hsome

end PinpointExamples
