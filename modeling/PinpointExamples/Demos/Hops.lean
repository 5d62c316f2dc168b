import Mathlib
import PinpointExamples.Carrier.KafkaViews
import PinpointExamples.Carrier.LastWrite
import PinpointExamples.Demos.Cpptrace
import PinpointExamples.Lib.Propagation
import PinpointExamples.Nginx.HeaderGet

/-!
# Traces across the demos

A span of one process continues in another over HTTP, over gRPC or over a Kafka record.  On the way a carrier is
written by one class and read by another, and the transport in between may add headers of its own.  If no append to a
libcurl list fails and the agent copies each value before its next lookup, every such hop carries the context that the
agent injects (`hop_carries`), so in any network of the demos the recorded parents are the spans that sent the
messages, and the traces are told apart (`traces_faithful`).
-/

namespace PinpointExamples

open Assoc Parts

/-- What may go wrong in a lookup: a fault of the reader, a read through a view that dangles, or, in the nginx module,
a read outside of the parts or a loop that does not end. -/
inductive LookupFault
  | fault (f : Fault)
  | dangling
  | outside
  | endless
  deriving DecidableEq, Repr

/-- No key of the agent is spelled like this, ignoring case. -/
def Foreign (keys : List Str) (name : Str) : Prop := ∀ key ∈ keys, ¬ EqIgnoreCase name key

/-- A pair under the same name ignoring case, with the same value. -/
def Respelled (e s : Str × Str) : Prop := EqIgnoreCase e.1 s.1 ∧ e.2 = s.2

/-- Everything that was sent arrives, perhaps with its name respelled, in any order and more than once, and what else
arrives is under names that are foreign to the agent. -/
structure Arrives (keys : List Str) (sent received : List (Str × Str)) : Prop where
  origin : ∀ e ∈ received, (∃ s ∈ sent, Respelled e s) ∨ Foreign keys e.1
  all : ∀ s ∈ sent, ∃ e ∈ received, Respelled e s

/-- A reader that finds some pair under each of the keys, if there is one, and nothing otherwise. -/
def FindsAny {F : Type} (keys : List Str) (received : List (Str × Str)) (get : Str → Except F (Option Str)) : Prop :=
  ∀ key ∈ keys, (get key = .ok none ∧ ∀ e ∈ received, ¬ EqIgnoreCase e.1 key) ∨
    ∃ e ∈ received, EqIgnoreCase e.1 key ∧ get key = .ok (some e.2)

theorem Respelled.trans {a b c : Str × Str} (h : Respelled a b) (h' : Respelled b c) : Respelled a c :=
  ⟨h.1.trans h'.1, h.2.trans h'.2⟩

section arrives

variable {keys : List Str} {kvs sent received : List (Str × Str)}

private theorem Foreign.respelled {a b : Str} (h : Foreign keys b) (hab : EqIgnoreCase a b) : Foreign keys a :=
  fun key hkey hak => h key hkey (hab.symm.trans hak)

theorem Arrives.refl (keys : List Str) (kvs : List (Str × Str)) : Arrives keys kvs kvs where
  origin e he := .inl ⟨e, he, .refl _, rfl⟩
  all s hs := ⟨s, hs, .refl _, rfl⟩

theorem Arrives.trans (h : Arrives keys kvs sent) (h' : Arrives keys sent received) : Arrives keys kvs received where
  origin e he := by
    rcases h'.origin e he with ⟨s, hs, hes⟩ | hforeign
    · rcases h.origin s hs with ⟨kv, hkv, hskv⟩ | hforeign
      · exact .inl ⟨kv, hkv, hes.trans hskv⟩
      · exact .inr (hforeign.respelled hes.1)
    · exact .inr hforeign
  all kv hkv := by
    obtain ⟨s, hs, hskv⟩ := h.all kv hkv
    obtain ⟨e, he, hes⟩ := h'.all s hs
    exact ⟨e, he, hes.trans hskv⟩

/-- If the keys are told apart ignoring case, such a reader finds what was sent and nothing else under the keys. -/
theorem Arrives.get_eq {F : Type} {get : Str → Except F (Option Str)}
    (hkeys : keys.Pairwise fun a b => ¬ EqIgnoreCase a b) (hmem : ∀ kv ∈ kvs, kv.1 ∈ keys)
    (hnodup : (kvs.map Prod.fst).Nodup) (h : Arrives keys kvs received) (hget : FindsAny keys received get) :
    (∀ kv ∈ kvs, get kv.1 = .ok (some kv.2)) ∧
    ∀ key ∈ keys, (∀ kv ∈ kvs, kv.1 ≠ key) → get key = .ok none := by
  -- a pair that is received under a key is the one that was sent under it
  have hsent : ∀ key ∈ keys, ∀ e ∈ received, EqIgnoreCase e.1 key → ∃ kv ∈ kvs, kv.1 = key ∧ e.2 = kv.2 := by
    intro key hkey e he hek
    rcases h.origin e he with ⟨kv, hkv, hname, hvalue⟩ | hforeign
    · refine ⟨kv, hkv, ?_, hvalue⟩
      have : Std.Symm fun a b : Str => ¬ EqIgnoreCase a b := ⟨fun _ _ hne hba => hne hba.symm⟩
      by_contra hne
      exact hkeys.forall (hmem kv hkv) hkey hne (hname.symm.trans hek)
    · exact absurd hek (hforeign key hkey)
  constructor
  · intro kv hkv
    rcases hget kv.1 (hmem kv hkv) with ⟨-, hnone⟩ | ⟨e, he, hek, heq⟩
    · obtain ⟨e, he, hres⟩ := h.all kv hkv
      exact absurd hres.1 (hnone e he)
    · obtain ⟨kv', hkv', hkey, hvalue⟩ := hsent kv.1 (hmem kv hkv) e he hek
      obtain rfl : kv' = kv := List.inj_on_of_nodup_map hnodup hkv' hkv hkey
      rw [heq, hvalue]
  · intro key hkey hother
    rcases hget key hkey with ⟨heq, -⟩ | ⟨e, he, hek, -⟩
    · exact heq
    · obtain ⟨kv, hkv, hkv1, -⟩ := hsent key hkey e he hek
      exact absurd hkv1 (hother kv hkv)

end arrives

/-! ### The readers -/

/-- `ngx_http_pinpoint_header_get` of a request; a loop that has not ended after one pass more than there are headers
never ends. -/
def Nginx.readHeader (ngxStrncasecmp : Str → Str → Nat → Int) (r : NgxRequest) (key : Str) :
    Except LookupFault (Option Str) :=
  match headerGet ngxStrncasecmp r (cStr key) (r.headersIn.flatten.length + 1) with
  | some (.found v) => .ok v
  | some .outside => .error .outside
  | none => .error .endless

section readers

variable {F : Type} {keys : List Str}

private theorem findsAny_of_first {received : List (Str × Str)} {get : Str → Except F (Option Str)}
    (h : ∀ key ∈ keys, get key = .ok (first EqIgnoreCase key received)) : FindsAny keys received get := by
  intro key hkey
  rw [h key hkey]
  rcases hf : first EqIgnoreCase key received with _ | v
  · exact .inl ⟨rfl, first_eq_none.1 hf⟩
  · obtain ⟨e, he, hk, rfl⟩ := exists_of_first_eq_some hf
    exact .inr ⟨e, he, hk, rfl⟩

private theorem HttpHeaderReader.findsAny (lib : HttplibHeaders) (headers : Headers) :
    FindsAny keys headers fun key => (.ok (get lib headers key) : Except F _) := by
  intro key _
  rcases hg : get lib headers key with _ | v
  · exact .inl ⟨congrArg _ hg, get_eq_none lib hg⟩
  · obtain ⟨e, he, hk, rfl⟩ := get_eq_some lib hg
    exact .inr ⟨e, he, hk, congrArg _ hg⟩

private theorem GrpcServerTraceContextReader.findsAny (metadata : Metadata) :
    FindsAny keys metadata.entries fun key => (.ok (get (some metadata) key) : Except F _) :=
  findsAny_of_first fun key _ => congrArg _ (get_eq_first metadata key)

private theorem Nginx.findsAny {ngxStrncasecmp : Str → Str → Nat → Int} (hcmp : IsStrncasecmp ngxStrncasecmp)
    {r : NgxRequest}
    (hr : PushedParts r.headersIn) (hkeys : ∀ key ∈ keys, '\x00' ∉ key) :
    FindsAny keys r.headersIn.flatten (readHeader ngxStrncasecmp r) := by
  apply findsAny_of_first
  intro key hkey
  have hlt : (headersStart r.headersIn).remaining.length < r.headersIn.flatten.length + 1 := by
    rw [remaining_headersStart]
    omega
  have hvalue : (headersStart r.headersIn).remaining.findSome? (headerValue ngxStrncasecmp (cStr key)) =
      first EqIgnoreCase key r.headersIn.flatten := by
    rw [remaining_headersStart, findSome_headerValue hcmp, ← cStr_of_noNul (hkeys key hkey), ← firstValue_eq_first]
    simp only [cStr_of_noNul (hkeys key hkey)]
    rfl
  rw [readHeader, headerGet, Cursor.run_of_length_lt _ (inside_headersStart hr) hlt, hvalue]

end readers

/-! ### The lookups of the agent -/

namespace KafkaTraceContextReader

/-- What the agent has under a key when it looks up all its keys on one reader, one after the other: the value that it
copied before the next lookup, or what the view shows after all of them. -/
def getAmong (copies : Bool) (reader : KafkaTraceContextReader) (keys : List Str) (key : Str) :
    Except LookupFault (Option Str) :=
  match reader.getAll keys with
  | .error fault => .error (.fault fault)
  | .ok (results, reader') =>
    match (keys.zip results).lookup key with
    | none | some none => .ok none
    | some (some (view, shown)) =>
      if copies then .ok (some shown)
      else
        match view.read reader' with
        | none => .error .dangling
        | some late => .ok (some late)

private theorem getValue_eq_found {headers : KafkaHeaders} (buffer : ValueBuffer) {key : Str}
    (h : headers.lastValue key ≠ some none) :
    getValue ⟨some headers, buffer⟩ key = .ok ((found headers key).map CString.chars) := by
  rw [getValue_eq, found]
  rcases hv : headers.lastValue key with _ | _ | v
  · rfl
  · exact absurd hv h
  · rfl

/-- Each lookup returns its value. -/
theorem lookup_viewsOf (headers : KafkaHeaders) (buffer : ValueBuffer) {keys : List Str} {key : Str}
    (hkey : key ∈ keys) : ∃ result, (keys.zip (viewsOf headers buffer keys)).lookup key = some result ∧
      result.map Prod.snd = (found headers key).map CString.chars := by
  induction keys generalizing buffer with
  | nil => cases hkey
  | cons k keys ih =>
    by_cases hk : key = k
    · subst hk
      rcases hf : found headers key with _ | value
      · exact ⟨none, by simp [viewsOf, hf], rfl⟩
      · exact ⟨some (_, value.chars), by simp [viewsOf, hf]; rfl, rfl⟩
    · have hrest := List.mem_of_ne_of_mem hk hkey
      have hne : (key == k) = false := beq_eq_false_iff_ne.2 hk
      rcases hf : found headers k with _ | value
      · obtain ⟨result, hlookup, hresult⟩ := ih buffer hrest
        exact ⟨result, by simpa [viewsOf, hf, List.lookup_cons, hne] using hlookup, hresult⟩
      · obtain ⟨result, hlookup, hresult⟩ := ih (buffer.assign value) hrest
        exact ⟨result, by simpa [viewsOf, hf, List.lookup_cons, hne] using hlookup, hresult⟩

/-- An agent that copies what it reads gets what a reader of its own for each key would give it. -/
theorem getAmong_of_copies {headers : KafkaHeaders} {buffer : ValueBuffer} {keys : List Str}
    (h : ∀ key ∈ keys, ∃ v, getValue ⟨some headers, buffer⟩ key = .ok v) {key : Str} (hkey : key ∈ keys) :
    getAmong true ⟨some headers, buffer⟩ keys key = (getValue ⟨some headers, buffer⟩ key).mapError .fault := by
  have hnull : ∀ key ∈ keys, headers.lastValue key ≠ some none := by
    intro key hkey hv
    obtain ⟨v, hget⟩ := h key hkey
    rw [getValue_eq, hv] at hget
    cases hget
  obtain ⟨result, hlookup, hresult⟩ := lookup_viewsOf headers buffer hkey
  rw [getValue_eq_found buffer (hnull key hkey), ← hresult]
  simp only [getAmong, getAll_eq buffer hnull, hlookup]
  rcases result with _ | ⟨view, shown⟩ <;> rfl

/-- Null headers have no values. -/
theorem getAmong_of_null (copies : Bool) (buffer : ValueBuffer) (keys : List Str) (key : Str) :
    getAmong copies ⟨none, buffer⟩ keys key = .ok none := by
  have hall : getAll ⟨none, buffer⟩ keys = .ok (keys.map fun _ => none, ⟨none, buffer⟩) := by
    induction keys with
    | nil => rfl
    | cons k keys ih =>
      rw [getAll]
      show (getAll ⟨none, buffer⟩ keys).bind _ = _
      rw [ih]
      rfl
  simp only [getAmong, hall]
  rcases hlookup : (keys.zip (keys.map fun _ => (none : Option (BufferView × Str)))).lookup key with _ | _ | result
  · rfl
  · rfl
  · obtain ⟨before, after, hzip, -⟩ := List.lookup_eq_some_iff.1 hlookup
    have hmem : (key, some result) ∈ before ++ (key, some result) :: after := by simp
    rw [← hzip] at hmem
    obtain ⟨k, -, hnone⟩ := List.mem_map.1 (List.of_mem_zip hmem).2
    cases hnone

end KafkaTraceContextReader

/-! ### The agent -/

/-- A key or a value that every carrier takes: printable, without spaces, not empty. -/
structure Token (s : Str) : Prop where
  nonempty : s ≠ []
  printable : ∀ c ∈ s, '!' ≤ c ∧ c ≤ '~'

theorem Token.headerValue {s : Str} (h : Token s) : HeaderValue s where
  nonempty := h.nonempty
  printable c hc := ⟨le_trans (by decide) (h.printable c hc).1, (h.printable c hc).2⟩
  noSpace hs := by
    have hm : ' ' ∈ s := List.mem_of_mem_head? hs
    exact absurd (h.printable ' ' hm).1 (by decide)

/-- What the demos rely on in the agent: its keys differ by more than their case and are not those that the
cpp-httplib demo sends itself, a context has no key twice, and keys and values are tokens. -/
structure PinpointTracer (T : Type) extends Propagation.Tracer Str Str T where
  keysDistinct : keys.Pairwise fun a b => ¬ EqIgnoreCase a b
  keysOwn : Foreign keys "User-Agent" ∧ Foreign keys "Accept" ∧ Foreign keys "Accept-Language"
  keyToken : ∀ key ∈ keys, Token key ∧ ':' ∉ key
  injectNodup : ∀ trace span, ((inject trace span).map Prod.fst).Nodup
  injectToken : ∀ trace span, ∀ kv ∈ inject trace span, Token kv.2

section carries

variable {T : Type} (tracer : PinpointTracer T)

private theorem PinpointTracer.curlPair (trace : T) (span : Nat) :
    ∀ kv ∈ tracer.inject trace span, CurlPair kv := by
  intro kv hkv
  obtain ⟨hkey, hcolon⟩ := tracer.keyToken kv.1 (tracer.key_mem trace span kv hkv)
  have hvalue := (tracer.injectToken trace span kv hkv).headerValue
  exact ⟨hcolon, hkey.headerValue.noNul, hvalue.noNul, hvalue.noSpace⟩

theorem PinpointTracer.keyNoNul : ∀ key ∈ tracer.keys, '\x00' ∉ key :=
  fun key hkey => (tracer.keyToken key hkey).1.headerValue.noNul

/-- Next to the context, `handle_outgoing` sends three headers that are foreign to the agent. -/
theorem arrives_outgoingHeaders (lib : HttplibHeaders) (kvs : List (Str × Str)) :
    Arrives tracer.keys kvs (HttpHeaderReaderWriter.setAll lib (Cpptrace.outgoingHeaders lib) kvs) := by
  have hperm := HttpHeaderReaderWriter.setAll_perm lib (Cpptrace.outgoingHeaders lib) kvs
  constructor
  · intro e he
    rcases List.mem_append.1 (hperm.mem_iff.1 he) with he | he
    · right
      have hown := (HttpHeaderReaderWriter.setAll_perm lib [] _).mem_iff.1 he
      obtain ⟨hagent, haccept, hlanguage⟩ := tracer.keysOwn
      simp only [List.nil_append, List.mem_cons, List.not_mem_nil, or_false] at hown
      rcases hown with rfl | rfl | rfl
      · exact hagent
      · exact haccept
      · exact hlanguage
    · exact .inl ⟨e, he, .refl _, rfl⟩
  · intro s hs
    exact ⟨s, hperm.mem_iff.2 (List.mem_append_right _ hs), .refl _, rfl⟩

private theorem arrives_curl (trace : T) (span : Nat) :
    Arrives tracer.keys (tracer.inject trace span)
      (CurlHeaderReader.pairs (CurlTraceContextWriter.setAll [] (tracer.inject trace span))) := by
  have hpairs : CurlHeaderReader.pairs (CurlTraceContextWriter.setAll [] (tracer.inject trace span)) =
      tracer.inject trace span := pairs_setAll (tracer.curlPair trace span)
  rw [hpairs]
  exact .refl _ _

private theorem arrives_grpc (keys : List Str) (kvs : List (Str × Str)) :
    Arrives keys kvs (GrpcClientTraceContextWriter.setAll .empty kvs).entries where
  origin e he := by
    rcases GrpcClientTraceContextWriter.mem_setAll.1 he with ⟨kv, hkv, rfl⟩ | he
    · exact .inl ⟨kv, hkv, eqIgnoreCase_toLower kv.1, rfl⟩
    · cases he
  all s hs := by
    exact ⟨(toLower s.1, s.2), GrpcClientTraceContextWriter.mem_setAll.2 (.inl ⟨s, hs, rfl⟩),
      eqIgnoreCase_toLower s.1, rfl⟩

/-- The Kafka reader finds the last value, and no key was set twice. -/
theorem kafka_getValue_inject (trace : T) (span : Nat) (buffer : ValueBuffer) :
    (∀ kv ∈ tracer.inject trace span, KafkaTraceContextReader.getValue
      ⟨KafkaTraceContextWriter.setAll (some []) (tracer.inject trace span), buffer⟩ kv.1 = .ok (some kv.2)) ∧
    ∀ key, (∀ kv ∈ tracer.inject trace span, kv.1 ≠ key) → KafkaTraceContextReader.getValue
      ⟨KafkaTraceContextWriter.setAll (some []) (tracer.inject trace span), buffer⟩ key = .ok none := by
  have hv : ∀ kv ∈ tracer.inject trace span, HeaderValue kv.2 :=
    fun kv hkv => (tracer.injectToken trace span kv hkv).headerValue
  constructor
  · intro kv hkv
    have hwins : KafkaTraceContextReader.getValue
        ⟨KafkaTraceContextWriter.setAll (some []) (tracer.inject trace span), buffer⟩ kv.1 =
          .ok (last Eq kv.1 (tracer.inject trace span)) := kafka_lastWriteWins [] buffer hv kv hkv
    obtain ⟨v, hlast⟩ := last_isSome_of_mem (r := Eq) hkv rfl
    obtain ⟨kv', hkv', hkey, rfl⟩ := exists_of_last_eq_some hlast
    obtain rfl : kv' = kv := List.inj_on_of_nodup_map (tracer.injectNodup trace span) hkv' hkv hkey
    rw [hwins, hlast]
  · intro key hkey
    have hnone : KafkaHeaders.lastValue
        ((tracer.inject trace span).map fun kv => (kv.1, some kv.2)) key = none := by
      rw [KafkaHeaders.lastValue, last_map_value, last_eq_none.2 hkey]
      rfl
    rw [KafkaTraceContextWriter.setAll_eq, List.nil_append, KafkaTraceContextReader.getValue_eq, hnone]

/-- So the agent has the context, if it copies what it reads. -/
theorem kafka_getAmong_inject (trace : T) (span : Nat) (buffer : ValueBuffer) :
    (∀ kv ∈ tracer.inject trace span, KafkaTraceContextReader.getAmong true
      ⟨KafkaTraceContextWriter.setAll (some []) (tracer.inject trace span), buffer⟩ tracer.keys kv.1 =
        .ok (some kv.2)) ∧
    ∀ key ∈ tracer.keys, (∀ kv ∈ tracer.inject trace span, kv.1 ≠ key) → KafkaTraceContextReader.getAmong true
      ⟨KafkaTraceContextWriter.setAll (some []) (tracer.inject trace span), buffer⟩ tracer.keys key = .ok none := by
  obtain ⟨hset, hother⟩ := kafka_getValue_inject tracer trace span buffer
  rw [KafkaTraceContextWriter.setAll_eq] at hset hother ⊢
  have hvalues : ∀ key ∈ tracer.keys, ∃ v, KafkaTraceContextReader.getValue
      ⟨some ([] ++ (tracer.inject trace span).map fun kv => (kv.1, some kv.2)), buffer⟩ key = .ok v := by
    intro key _
    by_cases hkey : ∃ kv ∈ tracer.inject trace span, kv.1 = key
    · obtain ⟨kv, hkv, rfl⟩ := hkey
      exact ⟨_, hset kv hkv⟩
    · push Not at hkey
      exact ⟨_, hother key hkey⟩
  constructor
  · intro kv hkv
    rw [KafkaTraceContextReader.getAmong_of_copies hvalues (tracer.key_mem trace span kv hkv), hset kv hkv]
    rfl
  · intro key hmem hkey
    rw [KafkaTraceContextReader.getAmong_of_copies hvalues hmem, hother key hkey]
    rfl

/-- A record without headers has no context. -/
theorem kafka_inject_eq_nil {kvs : List (Str × Str)} (h : KafkaTraceContextWriter.setAll (some []) kvs = some []) :
    kvs = [] := by
  rw [KafkaTraceContextWriter.setAll_eq, List.nil_append, Option.some.injEq] at h
  simpa using h

end carries

/-! ### The hops -/

/-- The ways a context travels between two spans: HTTP from cpp-httplib or libcurl to cpp-httplib or nginx, gRPC, and
Kafka records. -/
inductive Hop
  | httplib
  | httplibToNginx
  | curl
  | curlToNginx
  | grpc
  | kafka
  deriving DecidableEq, Repr

/-- A request as nginx keeps it. -/
abbrev Nginx.ReceivedRequest := { r : Nginx.NgxRequest // Nginx.PushedParts r.headersIn }

/-- What the adapters work with: the header library, the comparison of nginx, the agent, whether it copies each value
that a `Get` returns before its next `Get`, and whether the appends to a list of libcurl succeed, by their number. -/
structure Surroundings (T : Type) where
  lib : HttplibHeaders
  ngxStrncasecmp : Str → Str → Nat → Int
  isStrncasecmp : Nginx.IsStrncasecmp ngxStrncasecmp
  tracer : PinpointTracer T
  copies : Bool
  appends : Nat → Bool

/-- A list of libcurl, and how many lines were appended to it or should have been. -/
abbrev CountedSlist := CurlSlist × Nat

def Surroundings.setCurl {T : Type} (w : Surroundings T) (headers : CountedSlist) (key value : Str) : CountedSlist :=
  (CurlTraceContextWriter.set (w.appends headers.2) headers.1 key value, headers.2 + 1)

open Propagation in
/-- The channel of a hop.  A record without headers is delivered with null headers. -/
def Surroundings.channel {T : Type} (w : Surroundings T) : Hop → Channel Str Str LookupFault
  | .httplib => {
      Sent := Headers
      Received := Headers
      initial := Cpptrace.outgoingHeaders w.lib
      set := HttpHeaderReaderWriter.set w.lib
      Delivers := Arrives w.tracer.keys
      get := fun r key => .ok (HttpHeaderReader.get w.lib r key) }
  | .httplibToNginx => {
      Sent := Headers
      Received := Nginx.ReceivedRequest
      initial := Cpptrace.outgoingHeaders w.lib
      set := HttpHeaderReaderWriter.set w.lib
      Delivers := fun s r => Arrives w.tracer.keys s r.1.headersIn.flatten
      get := fun r => Nginx.readHeader w.ngxStrncasecmp r.1 }
  | .curl => {
      Sent := CountedSlist
      Received := Headers
      initial := ([], 0)
      set := w.setCurl
      Delivers := fun s => Arrives w.tracer.keys (CurlHeaderReader.pairs s.1)
      get := fun r key => .ok (HttpHeaderReader.get w.lib r key) }
  | .curlToNginx => {
      Sent := CountedSlist
      Received := Nginx.ReceivedRequest
      initial := ([], 0)
      set := w.setCurl
      Delivers := fun s r => Arrives w.tracer.keys (CurlHeaderReader.pairs s.1) r.1.headersIn.flatten
      get := fun r => Nginx.readHeader w.ngxStrncasecmp r.1 }
  | .grpc => {
      Sent := Option Metadata
      Received := Metadata
      initial := some .empty
      set := GrpcClientTraceContextWriter.set
      Delivers := fun s r => ∃ m, s = some m ∧ Arrives w.tracer.keys m.entries r.entries
      get := fun r key => .ok (GrpcServerTraceContextReader.get (some r) key) }
  | .kafka => {
      Sent := Option KafkaHeaders
      Received := KafkaTraceContextReader
      initial := some []
      set := KafkaTraceContextWriter.set
      Delivers := fun s r => r.headers = s ∨ s = some [] ∧ r.headers = none
      get := fun r => r.getAmong w.copies w.tracer.keys }

section network

variable {T : Type} (w : Surroundings T)

private theorem foldl_setCurl (happends : ∀ n, w.appends n = true) (headers : CountedSlist) (kvs : List (Str × Str)) :
    (kvs.foldl (fun s kv => w.setCurl s kv.1 kv.2) headers).1 = CurlTraceContextWriter.setAll headers.1 kvs := by
  induction kvs generalizing headers with
  | nil => rfl
  | cons kv kvs ih =>
    rw [List.foldl_cons, ih, Surroundings.setCurl, happends]
    rfl

/-- Whatever the transport delivers, the reader at the other end of a hop finds the context that was injected, if the
agent copies the values it reads and all appends succeed. -/
theorem hop_carries (hcopies : w.copies = true) (happends : ∀ n, w.appends n = true) (hop : Hop) (trace : T)
    (span : Nat) : (w.channel hop).Carries w.tracer.keys (w.tracer.inject trace span) := by
  have hget {F : Type} {received : List (Str × Str)} {get : Str → Except F (Option Str)}
      (harrives : Arrives w.tracer.keys (w.tracer.inject trace span) received)
      (hfinds : FindsAny w.tracer.keys received get) :=
    harrives.get_eq w.tracer.keysDistinct (w.tracer.key_mem trace span) (w.tracer.injectNodup trace span) hfinds
  have hhttp := arrives_outgoingHeaders w.tracer w.lib (w.tracer.inject trace span)
  have hcurl := arrives_curl w.tracer trace span
  rw [← foldl_setCurl w happends ([], 0)] at hcurl
  intro r hr
  cases hop with
  | httplib => exact hget (hhttp.trans hr) (HttpHeaderReader.findsAny w.lib r)
  | httplibToNginx => exact hget (hhttp.trans hr) (Nginx.findsAny w.isStrncasecmp r.2 w.tracer.keyNoNul)
  | curl => exact hget (hcurl.trans hr) (HttpHeaderReader.findsAny w.lib r)
  | curlToNginx => exact hget (hcurl.trans hr) (Nginx.findsAny w.isStrncasecmp r.2 w.tracer.keyNoNul)
  | grpc =>
    obtain ⟨m, hm, hr⟩ := hr
    have hset := GrpcClientTraceContextWriter.foldl_set .empty (w.tracer.inject trace span)
    obtain rfl := Option.some.inj (hset.symm.trans hm)
    exact hget ((arrives_grpc _ _).trans hr) (GrpcServerTraceContextReader.findsAny r)
  | kafka =>
    obtain ⟨headers, buffer⟩ := r
    rcases hr with rfl | ⟨hempty, rfl⟩
    · obtain ⟨hset, hother⟩ := kafka_getAmong_inject w.tracer trace span buffer
      rw [← hcopies] at hset hother
      exact ⟨hset, hother⟩
    · rw [kafka_inject_eq_nil hempty]
      exact ⟨by simp, fun key _ _ => KafkaTraceContextReader.getAmong_of_null w.copies buffer w.tracer.keys key⟩

end network

/-! ### A tracer -/

def decimal (n : Nat) : Str := Nat.toDigits 10 n

def ofDecimal (s : Str) : Nat := Nat.ofDigitChars 10 s 0

private theorem token_decimal (n : Nat) : Token (decimal n) where
  nonempty := Nat.toDigits_ne_nil
  printable c hc := by
    have hdigit : c.isDigit = true := Nat.isDigit_of_mem_toDigits (by decide) (by decide) hc
    rw [Char.isDigit, Bool.and_eq_true, decide_eq_true_eq, decide_eq_true_eq] at hdigit
    exact ⟨le_trans (by decide) hdigit.1, le_trans hdigit.2 (by decide)⟩

/-- Writes the numbers of the trace and of the span under two of the keys of the agent. -/
def decimalTracer : PinpointTracer Nat where
  keys := ["Pinpoint-TraceID", "Pinpoint-SpanID"]
  inject trace span := [("Pinpoint-TraceID", decimal trace), ("Pinpoint-SpanID", decimal span)]
  extract found := do
    let trace ← found "Pinpoint-TraceID"
    let span ← found "Pinpoint-SpanID"
    pure (ofDecimal trace, ofDecimal span)
  key_mem trace span kv hkv := by
    rcases List.mem_pair.1 hkv with rfl | rfl <;> simp
  extract_inject trace span found hset _ := by
    rw [hset ("Pinpoint-TraceID", decimal trace) (by simp), hset ("Pinpoint-SpanID", decimal span) (by simp)]
    simp [ofDecimal, decimal, Nat.ofDigitChars_ten_toDigits]
  extract_none found hnone := by
    rw [hnone "Pinpoint-TraceID" (by simp)]
    rfl
  keysDistinct := by decide
  keysOwn := by
    unfold Foreign
    decide
  keyToken := by
    intro key hkey
    rcases List.mem_pair.1 hkey with rfl | rfl
    · exact ⟨⟨by simp, by simp⟩, by simp⟩
    · exact ⟨⟨by simp, by simp⟩, by simp⟩
  injectNodup trace span := by
    show (["Pinpoint-TraceID", "Pinpoint-SpanID"].map String.toList).Nodup
    decide
  injectToken trace span kv hkv := by
    rcases List.mem_pair.1 hkv with rfl | rfl
    · exact token_decimal trace
    · exact token_decimal span

def demoSurroundings : Surroundings Nat where
  lib := .firstFound
  ngxStrncasecmp := Nginx.asciiStrncasecmp
  isStrncasecmp := Nginx.isStrncasecmp_ascii
  tracer := decimalTracer
  copies := true
  appends _ := true

/-- An agent that reads the views late finds the span id where it looks for the trace. -/
example : ¬ ({ demoSurroundings with copies := false }.channel .kafka).Carries decimalTracer.keys
    (decimalTracer.inject 7 3) := by
  intro h
  have htrace := (h ⟨some [("Pinpoint-TraceID", some ("7" : Str)), ("Pinpoint-SpanID", some ("3" : Str))], .empty⟩
    (.inl rfl)).1 ("Pinpoint-TraceID", "7") List.mem_cons_self
  cases htrace

end PinpointExamples
