import Mathlib
import PinpointExamples.Lib.Assoc
import PinpointExamples.Text

/-!
# The gRPC carrier

`GrpcClientTraceContextWriter` adds lower-cased keys to the client metadata of a call, a multimap ordered by key;
`GrpcServerTraceContextReader` scans the metadata the server received for the first key that matches ignoring case.
A null context is `none`.
-/

namespace PinpointExamples

open Assoc

/-- `std::multimap<std::string, std::string>`. -/
abbrev Metadata := SortedMultimap Str Str

/-- `GrpcClientTraceContextWriter::Set`: the client metadata afterwards. -/
def GrpcClientTraceContextWriter.set (context : Option Metadata) (key value : Str) : Option Metadata :=
  match context with
  | none => none
  | some metadata => some (metadata.insert (toLower key) value)

/-- `GrpcServerTraceContextReader::Get`. -/
def GrpcServerTraceContextReader.get (context : Option Metadata) (key : Str) : Option Str :=
  match context with
  | none => none
  | some metadata =>
    let lowerKey := toLower key
    (metadata.entries.find? fun entry => toLower entry.1 = lowerKey).map Prod.snd

namespace GrpcServerTraceContextReader

theorem get_eq_first (metadata : Metadata) (key : Str) :
    get (some metadata) key = first EqIgnoreCase key metadata.entries := by
  rw [first_eq_find?]
  rfl

end GrpcServerTraceContextReader

namespace GrpcClientTraceContextWriter

/-- The client metadata after a sequence of `Set` calls. -/
def setAll (metadata : Metadata) (kvs : List (Str × Str)) : Metadata :=
  kvs.foldl (fun md kv => md.insert (toLower kv.1) kv.2) metadata

theorem setAll_cons (metadata : Metadata) (kv : Str × Str) (kvs : List (Str × Str)) :
    setAll metadata (kv :: kvs) = setAll (metadata.insert (toLower kv.1) kv.2) kvs := rfl

theorem foldl_set (metadata : Metadata) (kvs : List (Str × Str)) :
    kvs.foldl (fun c kv => set c kv.1 kv.2) (some metadata) = some (setAll metadata kvs) := by
  induction kvs generalizing metadata with
  | nil => rfl
  | cons kv kvs ih => exact ih (metadata.insert (toLower kv.1) kv.2)

theorem setAll_perm (metadata : Metadata) (kvs : List (Str × Str)) :
    (setAll metadata kvs).entries.Perm (kvs.map (fun kv => (toLower kv.1, kv.2)) ++ metadata.entries) := by
  induction kvs generalizing metadata with
  | nil => exact .refl _
  | cons kv kvs ih =>
    rw [setAll_cons, List.map_cons, List.cons_append]
    refine (ih _).trans (List.Perm.trans ?_ List.perm_middle)
    exact (metadata.insert_perm (toLower kv.1) kv.2).append_left _

/-- Ignoring case, what is set comes behind the initial entries, in the order of the `Set` calls: a key comes
before its lower-case form. -/
theorem under_setAll (metadata : Metadata) (kvs : List (Str × Str)) (k : Str) :
    under EqIgnoreCase k (setAll metadata kvs).entries =
      under EqIgnoreCase k metadata.entries ++
        under EqIgnoreCase k (kvs.map fun kv => (toLower kv.1, kv.2)) := by
  induction kvs generalizing metadata with
  | nil => rw [List.map_nil, under_nil, List.append_nil]; rfl
  | cons kv kvs ih =>
    have hle : EqIgnoreCase (toLower kv.1) k → ∀ x, EqIgnoreCase x k → x ≤ toLower kv.1 := by
      intro hk x hx
      have hxk : toLower x = toLower kv.1 := hx.trans (hk.symm.trans (eqIgnoreCase_toLower kv.1))
      exact hxk ▸ le_toLower x
    rw [setAll_cons, ih, SortedMultimap.under_insert metadata kv.2 hle, List.append_assoc, ← under_append]
    rfl

theorem mem_setAll {metadata : Metadata} {kvs : List (Str × Str)} {e : Str × Str} :
    e ∈ (setAll metadata kvs).entries ↔ (∃ kv ∈ kvs, (toLower kv.1, kv.2) = e) ∨ e ∈ metadata.entries := by
  rw [(setAll_perm metadata kvs).mem_iff, List.mem_append, List.mem_map]

end GrpcClientTraceContextWriter

open GrpcClientTraceContextWriter GrpcServerTraceContextReader

/-- The metadata of a call that carries a token. -/
def tokenMetadata : Metadata where
  entries := [("token", "x")]
  sorted := by simp

end PinpointExamples
