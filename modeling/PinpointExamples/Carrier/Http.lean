import Mathlib
import PinpointExamples.Lib.Assoc
import PinpointExamples.Lib.Visit
import PinpointExamples.Text

/-!
# The cpp-httplib carrier

`httplib::Headers` is a multimap whose keys are compared ignoring case.  The library is not part of the repository:
`HttplibHeaders` says what the adapters rely on.  `HttpHeaderReader` and `HttpHeaderReaderWriter` are thin wrappers
around it.
-/

namespace PinpointExamples

open Assoc Visit

/-- The entries of a `httplib::Headers`, in the order of an iteration. -/
abbrev Headers := List (Str × Str)

/-- `find` may return any entry under the key, and `emplace` adds an entry anywhere and never replaces one. -/
structure HttplibHeaders where
  find : Headers → Str → Option (Str × Str)
  emplace : Headers → Str → Str → Headers
  find_some : ∀ {h k e}, find h k = some e → e ∈ h ∧ EqIgnoreCase e.1 k
  find_none : ∀ {h k}, find h k = none → ∀ e ∈ h, ¬ EqIgnoreCase e.1 k
  emplace_perm : ∀ h k v, (emplace h k v).Perm ((k, v) :: h)

/-- `get_header_value`: the value of an entry under the key, or the empty string. -/
def HttplibHeaders.getHeaderValue (lib : HttplibHeaders) (headers : Headers) (key : Str) : Str :=
  match lib.find headers key with
  | some e => e.2
  | none => []

namespace HttpHeaderReader

def get (lib : HttplibHeaders) (headers : Headers) (key : Str) : Option Str :=
  match lib.find headers key with
  | none => none
  | some it => some it.2

def forEach {σ : Type} (callback : Str × Str → σ → Bool × σ) (headers : Headers) (s : σ) : σ :=
  visit callback headers s

end HttpHeaderReader

namespace HttpHeaderReaderWriter

def get (lib : HttplibHeaders) (headers : Headers) (key : Str) : Option Str :=
  match lib.find headers key with
  | none => none
  | some it => some it.2

def forEach {σ : Type} (callback : Str × Str → σ → Bool × σ) (headers : Headers) (s : σ) : σ :=
  visit callback headers s

def set (lib : HttplibHeaders) (headers : Headers) (key value : Str) : Headers :=
  lib.emplace headers key value

/-- The headers after a sequence of `Set` calls. -/
def setAll (lib : HttplibHeaders) (headers : Headers) (kvs : List (Str × Str)) : Headers :=
  kvs.foldl (fun h kv => set lib h kv.1 kv.2) headers

theorem setAll_cons (lib : HttplibHeaders) (headers : Headers) (kv : Str × Str) (kvs : List (Str × Str)) :
    setAll lib headers (kv :: kvs) = setAll lib (lib.emplace headers kv.1 kv.2) kvs := rfl

theorem setAll_perm (lib : HttplibHeaders) (headers : Headers) (kvs : List (Str × Str)) :
    (setAll lib headers kvs).Perm (headers ++ kvs) := by
  induction kvs generalizing headers with
  | nil => rw [List.append_nil]; exact .refl _
  | cons kv kvs ih =>
    rw [setAll_cons]
    refine (ih _).trans (((lib.emplace_perm headers kv.1 kv.2).append_right kvs).trans ?_)
    exact List.perm_middle.symm

theorem get_eq (lib : HttplibHeaders) (headers : Headers) (key : Str) :
    get lib headers key = HttpHeaderReader.get lib headers key := rfl

end HttpHeaderReaderWriter

namespace HttpHeaderReader

variable (lib : HttplibHeaders) {headers : Headers} {key : Str}

theorem get_eq_none (h : get lib headers key = none) : ∀ e ∈ headers, ¬ EqIgnoreCase e.1 key := by
  unfold get at h
  split at h
  · rename_i hf
    exact lib.find_none hf
  · simp at h

theorem get_eq_some {v : Str} (h : get lib headers key = some v) :
    ∃ e ∈ headers, EqIgnoreCase e.1 key ∧ e.2 = v := by
  unfold get at h
  split at h
  · simp at h
  · rename_i it hf
    have := lib.find_some hf
    exact ⟨it, this.1, this.2, by simpa using h⟩

theorem get_isSome_iff : (get lib headers key).isSome ↔ ∃ e ∈ headers, EqIgnoreCase e.1 key := by
  rcases h : get lib headers key with _ | v
  · have := get_eq_none lib h
    simpa using this
  · obtain ⟨e, he, hk, _⟩ := get_eq_some lib h
    simpa using ⟨e.1, ⟨e.2, he⟩, hk⟩

end HttpHeaderReader

/-! ### Two libraries that keep the contract -/

/-- The first entry under the key is found, and new entries go to the end. -/
def HttplibHeaders.firstFound : HttplibHeaders where
  find h k := h.find? fun e => EqIgnoreCase e.1 k
  emplace h k v := h ++ [(k, v)]
  find_some hf := ⟨List.mem_of_find?_eq_some hf, by simpa using List.find?_some hf⟩
  find_none hf := by simpa using hf
  emplace_perm h k v := List.perm_append_singleton (k, v) h

/-- As `firstFound`, but in the headers `h₀` and under the key `k₀` the given entry is found. -/
def HttplibHeaders.finding (h₀ : Headers) (k₀ : Str) (e₀ : Str × Str) (hm : e₀ ∈ h₀)
    (hk : EqIgnoreCase e₀.1 k₀) : HttplibHeaders where
  find h k := if h = h₀ ∧ k = k₀ then some e₀ else firstFound.find h k
  emplace := firstFound.emplace
  find_some hf := by
    split at hf
    · rename_i h
      rw [Option.some.injEq] at hf
      rw [h.1, h.2, ← hf]
      exact ⟨hm, hk⟩
    · exact firstFound.find_some hf
  find_none hf := by
    split at hf
    · simp at hf
    · exact firstFound.find_none hf
  emplace_perm := firstFound.emplace_perm

end PinpointExamples
