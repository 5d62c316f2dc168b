import Mathlib
import PinpointExamples.Lib.Assoc
import PinpointExamples.Lib.Visit
import PinpointExamples.Text

/-!
# The libcurl carrier

`CurlTraceContextWriter` appends `Key: value` lines to a `curl_slist`, and `CurlHeaderReader` reads such a list,
whoever built it.  The reader has two code paths, `get` and `forEach`.  Both are described by one list, the `pairs`
of the lines that contain a colon: `get` is its first entry under the name (`get_eq_first`), `forEach` visits it
(`forEach_eq_visit`).
-/

namespace PinpointExamples

open Assoc Visit

/-- The lines behind a `curl_slist *`; the empty list is the null pointer. -/
abbrev CurlSlist := List CString

/-- `curl_slist_append`: the list with a copy of `data` at its end; the null pointer when an allocation fails. -/
def curlSlistAppend (succeeds : Bool) (list : CurlSlist) (data : CString) : CurlSlist :=
  if succeeds then list ++ [data] else []

/-- `CurlTraceContextWriter::Set`: `*headers_` afterwards. -/
def CurlTraceContextWriter.set (succeeds : Bool) (headers : CurlSlist) (key value : Str) : CurlSlist :=
  let header := key ++ ": " ++ value
  curlSlistAppend succeeds headers (cStr header)

/-- A sequence of `Set` calls none of whose allocations fails. -/
def CurlTraceContextWriter.setAll (headers : CurlSlist) (kvs : List (Str × Str)) : CurlSlist :=
  kvs.foldl (fun h kv => set true h kv.1 kv.2) headers

namespace CurlHeaderReader

def trimValue (value : Str) : Str := value.dropWhile fun c => c = ' '

/-- The comparison of a field name with the key: the sizes, then `std::equal` with `std::tolower`. -/
def sameName (name key : Str) : Bool :=
  name.length == key.length && (name.zip key).all fun p => p.1.toLower == p.2.toLower

def get : CurlSlist → Str → Option Str
  | [], _ => none
  | item :: next, key =>
    let line := item.chars
    match line.idxOf? ':' with
    | none => get next key
    | some sep =>
      let name := line.take sep
      if sameName name key then some (trimValue (line.drop (sep + 1))) else get next key

def forEach {σ : Type} (callback : Str × Str → σ → Bool × σ) : CurlSlist → σ → σ
  | [], s => s
  | item :: next, s =>
    let line := item.chars
    match line.idxOf? ':' with
    | none => forEach callback next s
    | some sep =>
      match callback (line.take sep, trimValue (line.drop (sep + 1))) s with
      | (true, s') => forEach callback next s'
      | (false, s') => s'

/-- The name and the value of a line, if it has a colon. -/
def splitLine (item : CString) : Option (Str × Str) :=
  (item.chars.idxOf? ':').map fun sep => (item.chars.take sep, trimValue (item.chars.drop (sep + 1)))

def pairs (headers : CurlSlist) : List (Str × Str) := headers.filterMap splitLine

@[simp] theorem pairs_append (headers headers' : CurlSlist) :
    pairs (headers ++ headers') = pairs headers ++ pairs headers' := List.filterMap_append ..

private theorem pairs_cons_of_none {item : CString} (next : CurlSlist) (h : splitLine item = none) :
    pairs (item :: next) = pairs next := List.filterMap_cons_none h

private theorem pairs_cons_of_some {item : CString} {p : Str × Str} (next : CurlSlist) (h : splitLine item = some p) :
    pairs (item :: next) = p :: pairs next := List.filterMap_cons_some h

private theorem zip_all_iff {name key : Str} (h : name.length = key.length) :
    ((name.zip key).all fun p => p.1.toLower == p.2.toLower) = true ↔ EqIgnoreCase name key := by
  unfold EqIgnoreCase
  induction name generalizing key with
  | nil =>
    cases key with
    | nil => simp
    | cons b key => simp at h
  | cons a name ih =>
    cases key with
    | nil => simp at h
    | cons b key =>
      have h : name.length = key.length := by simpa using h
      have := ih h
      simp only [List.zip_cons_cons, List.all_cons, Bool.and_eq_true, beq_iff_eq, this]
      simp [toLower]

private theorem sameName_iff {name key : Str} : sameName name key = true ↔ EqIgnoreCase name key := by
  rw [sameName, Bool.and_eq_true, beq_iff_eq]
  constructor
  · rintro ⟨h, ha⟩
    exact (zip_all_iff h).1 ha
  · intro h
    have hl : name.length = key.length := by simpa [toLower] using congrArg List.length h
    exact ⟨hl, (zip_all_iff hl).2 h⟩

/-- A name read from a line has neither a colon nor a NUL. -/
theorem name_of_mem_pairs {headers : CurlSlist} {p : Str × Str} (hp : p ∈ pairs headers) :
    ':' ∉ p.1 ∧ '\x00' ∉ p.1 := by
  obtain ⟨item, _, hs⟩ := List.mem_filterMap.1 hp
  rw [splitLine, Option.map_eq_some_iff] at hs
  obtain ⟨sep, hsep, rfl⟩ := hs
  constructor
  · intro h
    obtain ⟨_, _, hfirst⟩ := List.idxOf?_eq_some_iff.1 hsep
    obtain ⟨i, hi, he⟩ := List.mem_take_iff_getElem.1 h
    exact hfirst i (by omega) he
  · exact fun h => item.noNul (List.mem_of_mem_take h)

/-- `get` finds the first line under the name. -/
theorem get_eq_first (headers : CurlSlist) (key : Str) :
    get headers key = first EqIgnoreCase key (pairs headers) := by
  rw [first_eq_find?]
  induction headers with
  | nil => rfl
  | cons item next ih =>
    rcases h : item.chars.idxOf? ':' with _ | sep
    · rw [pairs_cons_of_none next (by rw [splitLine, h]; rfl), ← ih]
      simp only [get, h]
    · rw [pairs_cons_of_some next (by rw [splitLine, h]; rfl), List.find?_cons]
      simp only [get, h]
      by_cases hn : EqIgnoreCase (item.chars.take sep) key
      · simp [hn, sameName_iff.2 hn]
      · have hs : sameName (item.chars.take sep) key = false := by
          rw [Bool.eq_false_iff]
          exact fun hs => hn (sameName_iff.1 hs)
        simpa [hn, hs] using ih

/-- `forEach` visits the lines with a colon. -/
theorem forEach_eq_visit {σ : Type} (callback : Str × Str → σ → Bool × σ) (headers : CurlSlist) (s : σ) :
    forEach callback headers s = visit callback (pairs headers) s := by
  induction headers generalizing s with
  | nil => rfl
  | cons item next ih =>
    rcases h : item.chars.idxOf? ':' with _ | sep
    · rw [pairs_cons_of_none next (by rw [splitLine, h]; rfl), ← ih]
      simp only [forEach, h]
    · rw [pairs_cons_of_some next (by rw [splitLine, h]; rfl)]
      simp only [forEach, h]
      rcases hc : callback (item.chars.take sep, trimValue (item.chars.drop (sep + 1))) s with ⟨_ | _, s'⟩
      · rw [visit_cons_of_false _ hc]
      · rw [visit_cons_of_true _ hc]
        exact ih s'

end CurlHeaderReader

/-! ### What the writer writes -/

open CurlHeaderReader

private theorem trimValue_of_head {v : Str} (hv : v.head? ≠ some ' ') : trimValue v = v := by
  cases v with
  | nil => rfl
  | cons c v =>
    have hc : c ≠ ' ' := by simpa using hv
    simp [trimValue, hc]

/-- A line that `Set` writes splits into the key and the value again. -/
theorem splitLine_header {k v : Str} (hk : ':' ∉ k) (hk0 : '\x00' ∉ k) (hv0 : '\x00' ∉ v)
    (hv : v.head? ≠ some ' ') : splitLine (cStr (k ++ ": " ++ v)) = some (k, v) := by
  have h0 : '\x00' ∉ k ++ ": " ++ v := by simp [hk0, hv0]
  have hl : k ++ ": " ++ v = k ++ ':' :: ' ' :: v := by simp
  rw [splitLine, cStr_of_noNul h0, hl, Occurrence.idxOf?_append_cons hk]
  have ht : trimValue (' ' :: v) = trimValue v := by simp [trimValue]
  simp [ht, trimValue_of_head hv]

theorem CurlTraceContextWriter.setAll_cons (headers : CurlSlist) (kv : Str × Str) (kvs : List (Str × Str)) :
    setAll headers (kv :: kvs) = setAll (headers ++ [cStr (kv.1 ++ ": " ++ kv.2)]) kvs := rfl

theorem CurlTraceContextWriter.setAll_eq (headers : CurlSlist) (kvs : List (Str × Str)) :
    setAll headers kvs = headers ++ kvs.map fun kv => cStr (kv.1 ++ ": " ++ kv.2) := by
  induction kvs generalizing headers with
  | nil => simp [setAll]
  | cons kv kvs ih => rw [setAll_cons, ih, List.append_assoc]; rfl

/-- Keys and values that the `Key: value` format can carry. -/
structure CurlPair (kv : Str × Str) : Prop where
  keyNoColon : ':' ∉ kv.1
  keyNoNul : '\x00' ∉ kv.1
  valueNoNul : '\x00' ∉ kv.2
  valueNoSpace : kv.2.head? ≠ some ' '

private theorem CurlPair.splitLine_eq {kv : Str × Str} (h : CurlPair kv) :
    splitLine (cStr (kv.1 ++ ": " ++ kv.2)) = some kv :=
  splitLine_header h.keyNoColon h.keyNoNul h.valueNoNul h.valueNoSpace

theorem pairs_setAll {headers : CurlSlist} {kvs : List (Str × Str)} (h : ∀ kv ∈ kvs, CurlPair kv) :
    pairs (CurlTraceContextWriter.setAll headers kvs) = pairs headers ++ kvs := by
  rw [CurlTraceContextWriter.setAll_eq, pairs_append]
  congr 1
  rw [pairs, List.filterMap_map]
  induction kvs with
  | nil => rfl
  | cons kv kvs ih =>
    rw [List.filterMap_cons, Function.comp_apply, (h kv (by simp)).splitLine_eq]
    exact congrArg _ (ih fun kv' h' => h kv' (by simp [h']))

/-- What is written to an empty list comes back, from both readers and ignoring the case of the names. -/
theorem curl_roundtrip (kvs : List (Str × Str)) (hkv : ∀ kv ∈ kvs, CurlPair kv)
    (hd : kvs.Pairwise fun a b => ¬ EqIgnoreCase a.1 b.1) :
    forEach (recorder fun _ => true) (CurlTraceContextWriter.setAll [] kvs) [] = kvs ∧
    (∀ kv ∈ kvs, ∀ k, EqIgnoreCase k kv.1 → get (CurlTraceContextWriter.setAll [] kvs) k = some kv.2) ∧
    (∀ k, (∀ kv ∈ kvs, ¬ EqIgnoreCase k kv.1) → get (CurlTraceContextWriter.setAll [] kvs) k = none) ∧
    ∀ (go : List (Str × Str) → Bool) (i : Nat), 0 < i → i ≤ kvs.length →
      (∀ j, 0 < j → j < i → go (kvs.take j) = true) → go (kvs.take i) = false →
      forEach (recorder go) (CurlTraceContextWriter.setAll [] kvs) [] = kvs.take i := by
  have hp : pairs (CurlTraceContextWriter.setAll [] kvs) = kvs := pairs_setAll hkv
  simp only [forEach_eq_visit, get_eq_first, hp]
  refine ⟨visit_recorder_all kvs, ?_, ?_, ?_⟩
  · intro kv hm k hk
    exact first_eq_of_pairwise eqIgnoreCase_equivalence hd hm hk.symm
  · intro k hk
    apply first_eq_none.2
    intro kv hm h
    exact hk kv hm h.symm
  · intro go i hi hil hgo hstop
    exact visit_recorder_stop hi hil hgo hstop

/-- A value with a colon and a space in it, and an empty one. -/
theorem curl_roundtrip_colon :
    get (CurlTraceContextWriter.setAll [] [("Trace-Id", "a:b c"), ("Span-Id", [])]) "TRACE-ID" = some "a:b c" := by
  have hkv : ∀ kv ∈ ([("Trace-Id", "a:b c"), ("Span-Id", [])] : List (Str × Str)), CurlPair kv := by
    intro kv hm
    rcases List.mem_pair.1 hm with rfl | rfl
    · exact ⟨by decide, by decide, by decide, by decide⟩
    · exact ⟨by decide, by decide, by decide, by decide⟩
  exact (curl_roundtrip _ hkv (by decide)).2.1 ("Trace-Id", "a:b c") List.mem_cons_self "TRACE-ID" (by decide)

end PinpointExamples
