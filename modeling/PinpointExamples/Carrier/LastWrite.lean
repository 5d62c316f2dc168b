import Mathlib
import PinpointExamples.Carrier.Curl
import PinpointExamples.Carrier.Grpc
import PinpointExamples.Carrier.Http
import PinpointExamples.Carrier.Kafka

/-!
# Which write of a repeated key a carrier returns

A carrier keeps the promise of `Set` if, after any sequence of `Set` calls, the reader on the other side returns for
every key the value of its last `Set` (`LastWriteWins`).  The Kafka carrier appends and reads the last entry, so it
always does.  The libcurl and the gRPC carrier also append but read the first entry, and the cpp-httplib carrier may
find any entry, so they do only when the entry that is read happens to carry the last value
(`last_write_wins_iff`).
-/

namespace PinpointExamples

open Assoc

/-- For every key that was set, `get` returns the value of the last `Set` under it. -/
def LastWriteWins (r : Str → Str → Prop) [DecidableRel r] (kvs : List (Str × Str))
    (get : Str → Except Fault (Option Str)) : Prop :=
  ∀ kv ∈ kvs, get kv.1 = .ok (last r kv.1 kvs)

/-- Under every key that was set, the first entry has the value of the last `Set`. -/
def FirstIsLast (initial kvs : List (Str × Str)) : Prop :=
  ∀ kv ∈ kvs, first EqIgnoreCase kv.1 (initial ++ kvs) = last EqIgnoreCase kv.1 kvs

/-- Under every key that was set, every entry has the value of the last `Set`. -/
def AllAreLast (initial kvs : List (Str × Str)) : Prop :=
  ∀ kv ∈ kvs, ∀ e ∈ initial ++ kvs, EqIgnoreCase e.1 kv.1 → some e.2 = last EqIgnoreCase kv.1 kvs

/-- A key that the `Key: value` format can carry. -/
def CurlKey (key : Str) : Prop := ':' ∉ key ∧ '\x00' ∉ key

/-- A value that is not empty, printable and does not start with a space. -/
structure HeaderValue (value : Str) : Prop where
  nonempty : value ≠ []
  printable : ∀ c ∈ value, ' ' ≤ c ∧ c ≤ '~'
  noSpace : value.head? ≠ some ' '

theorem HeaderValue.noNul {value : Str} (h : HeaderValue value) : '\x00' ∉ value := by
  intro hm
  exact absurd (h.printable _ hm).1 (by decide)

/-! ### cpp-httplib -/

private theorem setAll_of_append {lib : HttplibHeaders} (hl : ∀ h k v, lib.emplace h k v = h ++ [(k, v)])
    (headers : Headers) (kvs : List (Str × Str)) :
    HttpHeaderReaderWriter.setAll lib headers kvs = headers ++ kvs := by
  induction kvs generalizing headers with
  | nil => rw [List.append_nil]; rfl
  | cons kv kvs ih =>
    rw [HttpHeaderReaderWriter.setAll_cons, ih, hl, List.append_assoc]
    rfl

private theorem http_lastWriteWins_iff (headers : Headers) (kvs : List (Str × Str)) :
    (∀ lib, LastWriteWins EqIgnoreCase kvs fun k =>
      .ok (HttpHeaderReader.get lib (HttpHeaderReaderWriter.setAll lib headers kvs) k)) ↔
      AllAreLast headers kvs := by
  constructor
  · -- a library that finds the entry `e` shows that `e` has to carry the last value
    intro h kv hkv e he hk
    have hw := h (.finding (headers ++ kvs) kv.1 e he hk) kv hkv
    rw [setAll_of_append (fun _ _ _ => rfl)] at hw
    have hw := Except.ok.inj hw
    have hg : HttpHeaderReader.get (.finding (headers ++ kvs) kv.1 e he hk) (headers ++ kvs) kv.1 = some e.2 := by
      simp [HttpHeaderReader.get, HttplibHeaders.finding]
    rwa [hg] at hw
  · intro h lib kv hkv
    show Except.ok (HttpHeaderReader.get lib _ kv.1) = _
    have hp := HttpHeaderReaderWriter.setAll_perm lib headers kvs
    rcases hg : HttpHeaderReader.get lib (HttpHeaderReaderWriter.setAll lib headers kvs) kv.1 with _ | v
    · have hmem := hp.mem_iff.2 (List.mem_append_right headers hkv)
      exact absurd rfl (HttpHeaderReader.get_eq_none lib hg kv hmem)
    · obtain ⟨e, he, hk, rfl⟩ := HttpHeaderReader.get_eq_some lib hg
      exact congrArg _ (h kv hkv e (hp.mem_iff.1 he) hk)

/-! ### libcurl -/

private theorem curl_lastWriteWins_iff (headers : CurlSlist) {kvs : List (Str × Str)}
    (hv : ∀ kv ∈ kvs, HeaderValue kv.2) :
    (LastWriteWins EqIgnoreCase kvs fun k =>
      .ok (CurlHeaderReader.get (CurlTraceContextWriter.setAll headers kvs) k)) ↔
      (∀ kv ∈ kvs, CurlKey kv.1) ∧ FirstIsLast (CurlHeaderReader.pairs headers) kvs := by
  have hpairs : (∀ kv ∈ kvs, CurlKey kv.1) → CurlHeaderReader.pairs (CurlTraceContextWriter.setAll headers kvs) =
      CurlHeaderReader.pairs headers ++ kvs := fun hk =>
    pairs_setAll fun kv h => ⟨(hk kv h).1, (hk kv h).2, (hv kv h).noNul, (hv kv h).noSpace⟩
  constructor
  · intro h
    have hk : ∀ kv ∈ kvs, CurlKey kv.1 := by
      intro kv hkv
      -- a key that is found again has no colon and no NUL
      obtain ⟨v, hl⟩ := last_isSome_of_mem (r := EqIgnoreCase) hkv (.refl kv.1)
      have hg := Except.ok.inj (h kv hkv)
      rw [hl, CurlHeaderReader.get_eq_first] at hg
      obtain ⟨p, hp, hpk, _⟩ := exists_of_first_eq_some hg
      obtain ⟨hc, h0⟩ := CurlHeaderReader.name_of_mem_pairs hp
      exact ⟨fun hm => hc ((hpk.mem_iff rfl).2 hm), fun hm => h0 ((hpk.mem_iff rfl).2 hm)⟩
    refine ⟨hk, ?_⟩
    intro kv hkv
    have hg := Except.ok.inj (h kv hkv)
    rwa [CurlHeaderReader.get_eq_first, hpairs hk] at hg
  · rintro ⟨hk, h⟩ kv hkv
    show Except.ok (CurlHeaderReader.get _ kv.1) = _
    rw [CurlHeaderReader.get_eq_first, hpairs hk]
    exact congrArg _ (h kv hkv)

/-! ### gRPC -/

private theorem grpc_lastWriteWins_iff (metadata : Metadata) (kvs : List (Str × Str)) :
    (LastWriteWins EqIgnoreCase kvs fun k =>
      .ok (GrpcServerTraceContextReader.get (some (GrpcClientTraceContextWriter.setAll metadata kvs)) k)) ↔
      FirstIsLast metadata.entries kvs := by
  have hfirst : ∀ k, GrpcServerTraceContextReader.get
      (some (GrpcClientTraceContextWriter.setAll metadata kvs)) k =
        first EqIgnoreCase k (metadata.entries ++ kvs) := by
    intro k
    have hf : ∀ x, EqIgnoreCase (toLower x) k ↔ EqIgnoreCase x k := by
      intro x
      unfold EqIgnoreCase
      rw [toLower_toLower]
    rw [GrpcServerTraceContextReader.get_eq_first, first_append, ← first_map_key hf kvs, ← first_append]
    unfold first
    rw [GrpcClientTraceContextWriter.under_setAll, under_append]
  simp only [LastWriteWins, FirstIsLast, hfirst, Except.ok.injEq]

/-! ### librdkafka -/

/-- The headers after a sequence of `Set` calls. -/
def KafkaTraceContextWriter.setAll (headers : Option KafkaHeaders) (kvs : List (Str × Str)) : Option KafkaHeaders :=
  kvs.foldl (fun h kv => set h kv.1 kv.2) headers

theorem KafkaTraceContextWriter.setAll_eq (headers : KafkaHeaders) (kvs : List (Str × Str)) :
    setAll (some headers) kvs = some (headers ++ kvs.map fun kv => (kv.1, some kv.2)) := by
  induction kvs generalizing headers with
  | nil => rw [List.map_nil, List.append_nil]; rfl
  | cons kv kvs ih =>
    have h := ih (headers ++ [(kv.1, some kv.2)])
    rw [List.append_assoc] at h
    exact h

theorem kafka_lastWriteWins (headers : KafkaHeaders) (buffer : ValueBuffer) {kvs : List (Str × Str)}
    (hv : ∀ kv ∈ kvs, HeaderValue kv.2) :
    LastWriteWins Eq kvs fun k =>
      KafkaTraceContextReader.getValue ⟨KafkaTraceContextWriter.setAll (some headers) kvs, buffer⟩ k := by
  intro kv hkv
  have hmem : (kv.1, some kv.2) ∈ kvs.map fun kv : Str × Str => (kv.1, some kv.2) := List.mem_map.2 ⟨kv, hkv, rfl⟩
  obtain ⟨v, hl⟩ := last_isSome_of_mem (r := Eq) hkv rfl
  obtain ⟨e, he, _, rfl⟩ := exists_of_last_eq_some hl
  have hlast : KafkaHeaders.lastValue (headers ++ kvs.map fun kv => (kv.1, some kv.2)) kv.1 = some (some e.2) := by
    rw [KafkaHeaders.lastValue, last_append_of_mem hmem rfl, last_map_value, hl]
    rfl
  show KafkaTraceContextReader.getValue _ kv.1 = _
  rw [KafkaTraceContextWriter.setAll_eq, KafkaTraceContextReader.getValue_eq, hlast, hl]
  simp [cStr_of_noNul (hv e he).noNul]

/-! ### The four carriers -/

/-- When the last write of every key wins: with librdkafka always, with libcurl and gRPC when the first entry under
the key carries the last value (and the libcurl key fits the format), with cpp-httplib when all of them do. -/
theorem last_write_wins_iff (kvs : List (Str × Str)) (hv : ∀ kv ∈ kvs, HeaderValue kv.2) :
    (∀ headers : Headers,
      ((∀ lib, LastWriteWins EqIgnoreCase kvs fun k =>
        .ok (HttpHeaderReaderWriter.get lib (HttpHeaderReaderWriter.setAll lib headers kvs) k)) ↔
        AllAreLast headers kvs) ∧
      ((∀ lib, LastWriteWins EqIgnoreCase kvs fun k =>
        .ok (HttpHeaderReader.get lib (HttpHeaderReaderWriter.setAll lib headers kvs) k)) ↔
        AllAreLast headers kvs)) ∧
    (∀ headers : CurlSlist,
      (LastWriteWins EqIgnoreCase kvs fun k =>
        .ok (CurlHeaderReader.get (CurlTraceContextWriter.setAll headers kvs) k)) ↔
        (∀ kv ∈ kvs, CurlKey kv.1) ∧ FirstIsLast (CurlHeaderReader.pairs headers) kvs) ∧
    (∀ metadata : Metadata,
      (LastWriteWins EqIgnoreCase kvs fun k =>
        .ok (GrpcServerTraceContextReader.get (some (GrpcClientTraceContextWriter.setAll metadata kvs)) k)) ↔
        FirstIsLast metadata.entries kvs) ∧
    ∀ (headers : KafkaHeaders) (buffer : ValueBuffer),
      LastWriteWins Eq kvs fun k =>
        KafkaTraceContextReader.getValue ⟨KafkaTraceContextWriter.setAll (some headers) kvs, buffer⟩ k := by
  refine ⟨fun headers => ⟨?_, http_lastWriteWins_iff headers kvs⟩, fun headers => curl_lastWriteWins_iff headers hv,
    fun metadata => grpc_lastWriteWins_iff metadata kvs, fun headers buffer => kafka_lastWriteWins headers buffer hv⟩
  simp only [HttpHeaderReaderWriter.get_eq]
  exact http_lastWriteWins_iff headers kvs

/-- One key, set twice. -/
def setTwice : List (Str × Str) := [("Pinpoint-TraceID", "a"), ("Pinpoint-TraceID", "b")]

private theorem setTwice_headerValue : ∀ kv ∈ setTwice, HeaderValue kv.2 := by
  have h : ∀ c : Char, ' ' < c → c ≤ '~' → HeaderValue [c] := by
    intro c hl hu
    refine ⟨by simp, ?_, by simpa using ne_of_gt hl⟩
    intro d hd
    obtain rfl := List.mem_singleton.1 hd
    exact ⟨le_of_lt hl, hu⟩
  intro kv hkv
  simp only [setTwice, List.mem_cons, List.not_mem_nil, or_false] at hkv
  rcases hkv with rfl | rfl
  · exact h 'a' (by decide) (by decide)
  · exact h 'b' (by decide) (by decide)

/-- A reader that returns the first of the two writes breaks the promise. -/
theorem not_lastWriteWins_setTwice {get : Str → Except Fault (Option Str)}
    (hget : get "Pinpoint-TraceID" = .ok (some ("a" : Str))) : ¬ LastWriteWins EqIgnoreCase setTwice get := by
  intro h
  have hlast : last EqIgnoreCase ("Pinpoint-TraceID" : Str) setTwice = some ("b" : Str) := by decide
  have hb := h ("Pinpoint-TraceID", "a") List.mem_cons_self
  rw [hget, hlast] at hb
  exact absurd (Except.ok.inj hb) (by decide)

/-- On empty carriers, cpp-httplib may find the first of two writes, and libcurl and gRPC do find it. -/
theorem first_of_two_writes_read :
    (¬ ∀ lib, LastWriteWins EqIgnoreCase setTwice fun k =>
      .ok (HttpHeaderReader.get lib (HttpHeaderReaderWriter.setAll lib [] setTwice) k)) ∧
    (¬ LastWriteWins EqIgnoreCase setTwice fun k =>
      .ok (CurlHeaderReader.get (CurlTraceContextWriter.setAll [] setTwice) k)) ∧
    ¬ LastWriteWins EqIgnoreCase setTwice fun k =>
      .ok (GrpcServerTraceContextReader.get (some (GrpcClientTraceContextWriter.setAll .empty setTwice)) k) := by
  have hhttp : HttpHeaderReader.get .firstFound (HttpHeaderReaderWriter.setAll .firstFound [] setTwice)
      "Pinpoint-TraceID" = some ("a" : Str) := by decide
  have hcurl : CurlHeaderReader.get (CurlTraceContextWriter.setAll [] setTwice) "Pinpoint-TraceID" =
      some ("a" : Str) := by decide
  have hgrpc : GrpcServerTraceContextReader.get (some (GrpcClientTraceContextWriter.setAll .empty setTwice))
      "Pinpoint-TraceID" = some ("a" : Str) := by decide
  refine ⟨?_, ?_, ?_⟩
  · intro h
    exact not_lastWriteWins_setTwice (congrArg _ hhttp) (h .firstFound)
  · exact not_lastWriteWins_setTwice (congrArg _ hcurl)
  · exact not_lastWriteWins_setTwice (congrArg _ hgrpc)

theorem last_write_wins_iff_setTwice :
    LastWriteWins Eq setTwice fun k =>
      KafkaTraceContextReader.getValue ⟨KafkaTraceContextWriter.setAll (some []) setTwice, .empty⟩ k :=
  (last_write_wins_iff setTwice setTwice_headerValue).2.2.2 [] .empty

end PinpointExamples
