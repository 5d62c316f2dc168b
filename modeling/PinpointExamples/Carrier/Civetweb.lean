import Mathlib
import PinpointExamples.Lib.Assoc
import PinpointExamples.Lib.Visit
import PinpointExamples.Text

/-!
# The static header array of the CivetWeb example

The response headers are a C array `{ key, value, key, value, … }` with the number of its pairs.  `static_header_get`
compares the keys with `strcmp`, so it takes the first key that is equal to the given one, letter case included.
-/

namespace PinpointExamples

open Assoc Visit

/-- `static_header_array`: the array holds at least `count` key/value pairs. -/
structure StaticHeaderArray where
  pairs : List CString
  count : Nat
  bound : 2 * count ≤ pairs.length

namespace StaticHeaderArray

variable (arr : StaticHeaderArray)

/-- `arr->pairs[i * 2]`. -/
def key (i : Fin arr.count) : CString :=
  arr.pairs.get ⟨i * 2, by have := i.isLt; have := arr.bound; omega⟩

/-- `arr->pairs[i * 2 + 1]`. -/
def value (i : Fin arr.count) : CString :=
  arr.pairs.get ⟨i * 2 + 1, by have := i.isLt; have := arr.bound; omega⟩

def entries : List (Str × Str) :=
  (List.finRange arr.count).map fun i => ((arr.key i).chars, (arr.value i).chars)

end StaticHeaderArray

/-- `static_header_get`: the loop returns at the first `i` for which `strcmp` gives 0. -/
def staticHeaderGet (arr : StaticHeaderArray) (key : CString) : Option CString :=
  (List.finRange arr.count).findSome? fun i => if arr.key i = key then some (arr.value i) else none

/-- `static_header_for_each`: the loop breaks when the callback does not return 0. -/
def staticHeaderForEach {σ : Type} (arr : StaticHeaderArray) (callback : Str × Str → σ → Bool × σ) (s : σ) : σ :=
  visit (fun i => callback ((arr.key i).chars, (arr.value i).chars)) (List.finRange arr.count) s

theorem staticHeaderForEach_eq_visit {σ : Type} (arr : StaticHeaderArray)
    (callback : Str × Str → σ → Bool × σ) (s : σ) :
    staticHeaderForEach arr callback s = visit callback arr.entries s := by
  rw [StaticHeaderArray.entries, visit_map]
  rfl

/-- `static_header_get` finds the first pair whose key is spelled as the given one. -/
theorem staticHeaderGet_eq_first (arr : StaticHeaderArray) (key : CString) :
    (staticHeaderGet arr key).map CString.chars = first Eq key.chars arr.entries := by
  rw [first_eq_find?, StaticHeaderArray.entries, staticHeaderGet]
  induction List.finRange arr.count with
  | nil => rfl
  | cons i l ih =>
    rw [List.findSome?_cons, List.map_cons, List.find?_cons]
    by_cases h : arr.key i = key
    · simp [h]
    · have h' : (arr.key i).chars ≠ key.chars := fun e => h (CString.ext e)
      simpa [h, h'] using ih

end PinpointExamples
