import Mathlib
import PinpointExamples.Carrier.Kafka

/-!
# How long a value of the librdkafka reader lives

Every successful `Get` of a `KafkaTraceContextReader` writes its value to the one buffer of the reader, and the views
returned before look into the same buffer.  A value that does not fit moves the buffer, and then the older views
dangle (`storage_assignAll_iff`); one that fits is written over theirs.  So after a sequence of calls all views show
their values exactly when these are prefixes of the last one and the buffer was not moved after the first one that has
characters (`views_valid_iff`).
-/

namespace PinpointExamples

/-! ### A sequence of assignments -/

namespace ValueBuffer

/-- The buffer after a sequence of assignments. -/
def assignAll (buffer : ValueBuffer) (values : List CString) : ValueBuffer := values.foldl assign buffer

private theorem le_storage_assignAll (buffer : ValueBuffer) (values : List CString) :
    buffer.storage ≤ (buffer.assignAll values).storage := by
  induction values generalizing buffer with
  | nil => exact le_rfl
  | cons value values ih =>
    refine le_trans ?_ (ih (buffer.assign value))
    rw [assign_storage]
    split
    · exact le_rfl
    · exact Nat.le_succ _

/-- The buffer stays where it is exactly as long as everything fits. -/
theorem storage_assignAll_iff (buffer : ValueBuffer) (values : List CString) :
    (buffer.assignAll values).storage = buffer.storage ↔ ∀ value ∈ values, value.chars.length ≤ buffer.capacity := by
  induction values generalizing buffer with
  | nil => simp [assignAll]
  | cons value values ih =>
    have hassign := buffer.assign_storage value
    rw [List.forall_mem_cons]
    by_cases hfits : value.chars.length ≤ buffer.capacity
    · rw [if_pos hfits] at hassign
      have hcapacity : (buffer.assign value).capacity = buffer.capacity := by rw [assign_capacity, room, if_pos hfits]
      have hrest := ih (buffer.assign value)
      rw [hassign, hcapacity] at hrest
      exact hrest.trans (and_iff_right hfits).symm
    · rw [if_neg hfits] at hassign
      have hle := le_storage_assignAll (buffer.assign value) values
      have hmoved : (buffer.assignAll (value :: values)).storage ≠ buffer.storage := by
        show ((buffer.assign value).assignAll values).storage ≠ buffer.storage
        omega
      exact iff_of_false hmoved fun h => hfits h.1

private theorem assignAll_append (buffer : ValueBuffer) (values values' : List CString) :
    buffer.assignAll (values ++ values') = (buffer.assignAll values).assignAll values' := List.foldl_append

/-- The first characters of the buffer are those of a value exactly when it is a prefix of the last one. -/
theorem take_assignAll_iff (buffer : ValueBuffer) (values : List CString) (final value : CString) :
    (buffer.assignAll (values ++ [final])).bytes.take value.chars.length = value.chars ↔
      value.chars <+: final.chars := by
  obtain ⟨rest, hbytes⟩ := (buffer.assignAll values).assign_bytes final
  have hend : (buffer.assignAll (values ++ [final])).bytes = final.chars ++ '\x00' :: rest := by
    rw [assignAll_append]
    exact hbytes
  rw [hend]
  constructor
  · intro htake
    have hgrown : value.chars <+: final.chars ++ '\x00' :: rest := htake ▸ List.take_prefix _ _
    have hnul : final.chars ++ ['\x00'] <+: final.chars ++ '\x00' :: rest := ⟨rest, by simp⟩
    have hnot : ¬ final.chars ++ ['\x00'] <+: value.chars := fun h => value.noNul (h.subset (by simp))
    rcases List.prefix_concat_iff.1 ((List.prefix_or_prefix_of_prefix hgrown hnul).resolve_right hnot) with heq | h
    · exact absurd (heq ▸ List.prefix_rfl) hnot
    · exact h
  · rintro ⟨tail, htail⟩
    rw [← htail, List.append_assoc, List.take_left]

private theorem le_capacity_assignAll (buffer : ValueBuffer) (values : List CString) :
    buffer.capacity ≤ (buffer.assignAll values).capacity := by
  induction values generalizing buffer with
  | nil => exact le_rfl
  | cons value values ih =>
    refine le_trans ?_ (ih (buffer.assign value))
    rw [assign_capacity, room]
    split
    · exact le_rfl
    · rename_i hfits
      exact le_trans (Nat.le_of_not_le hfits) (buffer.growth.fits _ _)

/-- Empty values leave the room as it is. -/
theorem room_assignAll_of_empty (buffer : ValueBuffer) {values : List CString}
    (h : ∀ value ∈ values, value.chars = []) (needed : Nat) :
    (buffer.assignAll values).room needed = buffer.room needed := by
  induction values generalizing buffer with
  | nil => rfl
  | cons value values ih =>
    rw [List.forall_mem_cons] at h
    refine (ih (buffer.assign value) h.2).trans ?_
    simp [room, assign, h.1]

/-- A value that has characters is the first such value or comes later. -/
private theorem prefix_of_empties {empties rest before after : List CString} {first value : CString}
    (hempty : ∀ value ∈ empties, value.chars = []) (hvalue : value.chars.length ≠ 0)
    (hsplit : empties ++ first :: rest = before ++ value :: after) : empties ++ [first] <+: before ++ [value] := by
  rcases List.append_eq_append_iff.1 hsplit with ⟨more, rfl, htail⟩ | ⟨more, rfl, htail⟩
  · cases more with
    | nil =>
      obtain ⟨rfl, -⟩ := List.cons.inj htail
      simp
    | cons first' more =>
      obtain ⟨rfl, -⟩ := List.cons.inj htail
      exact ⟨more ++ [value], by simp⟩
  · cases more with
    | nil =>
      obtain ⟨rfl, -⟩ := List.cons.inj htail
      simp
    | cons value' more =>
      obtain ⟨rfl, -⟩ := List.cons.inj htail
      exact absurd (congrArg List.length (hempty value (by simp))) hvalue

/-- The values that have characters are still where they were assigned, exactly when there is room for the last value
after the first of them. -/
theorem all_in_place_iff (buffer : ValueBuffer) {values : List CString} {final : CString}
    (hfinal : values.getLast? = some final) (hprefixes : ∀ value ∈ values, value.chars <+: final.chars) :
    (∀ before value after, values = before ++ value :: after → value.chars.length = 0 ∨
      (buffer.assignAll (before ++ [value])).storage = (buffer.assignAll values).storage) ↔
    ∀ first ∈ values.find? fun value => !value.chars.isEmpty,
      final.chars.length ≤ buffer.room first.chars.length := by
  have hmoves (before : List CString) (value : CString) (after : List CString) :
      (buffer.assignAll (before ++ value :: after)).storage = (buffer.assignAll (before ++ [value])).storage ↔
        ∀ value' ∈ after, value'.chars.length ≤ (buffer.assignAll (before ++ [value])).capacity := by
    rw [List.append_cons, assignAll_append]
    exact storage_assignAll_iff _ _
  rcases hfind : values.find? fun value => !value.chars.isEmpty with _ | first
  · rw [hfind]
    refine iff_of_true ?_ (by simp)
    rintro before value after rfl
    exact .inl (by simpa using List.find?_eq_none.1 hfind value (by simp))
  · obtain ⟨hfirst, empties, rest, rfl, hempties⟩ := List.find?_eq_some_iff_append.1 hfind
    have hempty : ∀ value ∈ empties, value.chars = [] := fun value hvalue => by simpa using hempties value hvalue
    have hcapacity : (buffer.assignAll (empties ++ [first])).capacity = buffer.room first.chars.length := by
      rw [assignAll_append, ← room_assignAll_of_empty buffer hempty]
      exact assign_capacity _ _
    simp only [hfind, Option.mem_some_iff, forall_eq']
    constructor
    · intro hplaces
      have hnonempty : first.chars.length ≠ 0 := by simpa using hfirst
      have hfits := (hmoves empties first rest).1 ((hplaces empties first rest rfl).resolve_left hnonempty).symm
      rw [hcapacity] at hfits
      have hmem : final ∈ first :: rest := by
        rw [List.getLast?_append_cons] at hfinal
        exact List.mem_of_getLast? hfinal
      rcases List.mem_cons.1 hmem with rfl | hmem
      · exact buffer.le_room _
      · exact hfits final hmem
    · intro hroom before value after hsplit
      by_cases hvalue : value.chars.length = 0
      · exact .inl hvalue
      · -- the room does not shrink after the first one
        obtain ⟨more, hmore⟩ := prefix_of_empties hempty hvalue hsplit
        rw [hsplit]
        refine .inr ((hmoves before value after).2 fun value' hvalue' => ?_).symm
        have hmem : value' ∈ empties ++ first :: rest := by simp [hsplit, hvalue']
        calc
          value'.chars.length ≤ final.chars.length := (hprefixes value' hmem).length_le
          _ ≤ (buffer.assignAll (empties ++ [first])).capacity := hcapacity ▸ hroom
          _ ≤ ((buffer.assignAll (empties ++ [first])).assignAll more).capacity := le_capacity_assignAll _ _
          _ = (buffer.assignAll (before ++ [value])).capacity := by rw [← assignAll_append, hmore]

/-- Every value can still be read where it was assigned, exactly when all of them are prefixes of the last one and
there was room for that after the first one that has characters. -/
theorem all_kept_iff (buffer : ValueBuffer) (values : List CString) :
    (∀ before value after, values = before ++ value :: after → (value.chars.length = 0 ∨
        (buffer.assignAll (before ++ [value])).storage = (buffer.assignAll values).storage) ∧
      (buffer.assignAll values).bytes.take value.chars.length = value.chars) ↔
    ∀ final ∈ values.getLast?, (∀ value ∈ values, value.chars <+: final.chars) ∧
      ∀ first ∈ values.find? fun value => !value.chars.isEmpty,
        final.chars.length ≤ buffer.room first.chars.length := by
  rcases hfinal : values.getLast? with _ | final
  · obtain rfl := List.getLast?_eq_none_iff.1 hfinal
    simp
  · obtain ⟨init, hinit⟩ := List.getLast?_eq_some_iff.1 hfinal
    have htake (value : CString) : (buffer.assignAll values).bytes.take value.chars.length = value.chars ↔
        value.chars <+: final.chars := by
      rw [hinit]
      exact buffer.take_assignAll_iff init final value
    simp only [Option.mem_some_iff, forall_eq']
    constructor
    · intro hkept
      have hprefixes : ∀ value ∈ values, value.chars <+: final.chars := by
        intro value hvalue
        obtain ⟨before, after, hsplit⟩ := List.append_of_mem hvalue
        exact (htake value).1 (hkept before value after hsplit).2
      exact ⟨hprefixes, (buffer.all_in_place_iff hfinal hprefixes).1 fun before value after hsplit =>
        (hkept before value after hsplit).1⟩
    · rintro ⟨hprefixes, hroom⟩ before value after hsplit
      have hvalue : value ∈ values := by simp [hsplit]
      exact ⟨(buffer.all_in_place_iff hfinal hprefixes).2 hroom before value after hsplit,
        (htake value).2 (hprefixes value hvalue)⟩

end ValueBuffer

private theorem BufferView.read_eq_some {view : BufferView} {reader : KafkaTraceContextReader} {shown : Str} :
    view.read reader = some shown ↔ (view.size = 0 ∨ view.storage = reader.valueBuffer.storage) ∧
      reader.valueBuffer.bytes.take view.size = shown := by
  simp [BufferView.read]

/-! ### A sequence of lookups -/

namespace KafkaTraceContextReader

open KafkaHeaders

/-- A sequence of `Get` calls on one reader: each view with the value it shows when it is returned, and the reader
afterwards. -/
def getAll : KafkaTraceContextReader → List Str →
    Except Fault (List (Option (BufferView × Str)) × KafkaTraceContextReader)
  | reader, [] => .ok ([], reader)
  | reader, key :: keys => do
    let (view, reader) ← reader.get key
    let shown := view.bind fun view => (view.read reader).map fun value => (view, value)
    let (results, reader') ← getAll reader keys
    pure (shown :: results, reader')

/-- No call faults, and read through after all of them every view shows the value it was returned for. -/
def ViewsValid (reader : KafkaTraceContextReader) (keys : List Str) : Prop :=
  ∃ results reader', reader.getAll keys = .ok (results, reader') ∧
    ∀ view value, some (view, value) ∈ results → view.read reader' = some value

/-- The value that `Get` finds: the last one under the key, up to its first NUL. -/
def found (headers : KafkaHeaders) (key : Str) : Option CString := ((headers.lastValue key).bind id).map cStr

/-- The values that a sequence of `Get` calls finds, in order. -/
def allFound (headers : KafkaHeaders) (keys : List Str) : List CString := keys.filterMap (found headers)

/-- The views that are returned for values, with the values. -/
def viewsOf (headers : KafkaHeaders) : ValueBuffer → List Str → List (Option (BufferView × Str))
  | _, [] => []
  | buffer, key :: keys =>
    match found headers key with
    | none => none :: viewsOf headers buffer keys
    | some value =>
      some (⟨(buffer.assign value).storage, value.chars.length⟩, value.chars) ::
        viewsOf headers (buffer.assign value) keys

section lookups

variable {headers : KafkaHeaders} {key : Str} {keys : List Str}

private theorem get_of_null (buffer : ValueBuffer) (h : headers.lastValue key = some none) :
    get ⟨some headers, buffer⟩ key = .error .nullPointer := by
  rw [lastValue_eq, Option.map_eq_some_iff] at h
  obtain ⟨⟨k, v⟩, hl, hv⟩ := h
  have hv : v = none := hv
  simp [get, hl, hv, valueString]

private theorem get_of_found (buffer : ValueBuffer) {value : CString} (h : found headers key = some value) :
    get ⟨some headers, buffer⟩ key =
      .ok (some ⟨(buffer.assign value).storage, value.chars.length⟩, ⟨some headers, buffer.assign value⟩) := by
  unfold found at h
  rw [lastValue_eq] at h
  rcases hl : headers.getLast key with _ | ⟨k, _ | v⟩
  · rw [hl] at h
    cases h
  · rw [hl] at h
    cases h
  · obtain rfl : cStr v = value := by simpa [hl] using h
    simp [get, hl, valueString]

private theorem get_of_absent (buffer : ValueBuffer) (hnull : headers.lastValue key ≠ some none)
    (h : found headers key = none) : get ⟨some headers, buffer⟩ key = .ok (none, ⟨some headers, buffer⟩) := by
  unfold found at h
  rw [lastValue_eq] at h hnull
  rcases hl : headers.getLast key with _ | ⟨k, _ | v⟩
  · simp [get, hl]
  · rw [hl] at hnull
    exact absurd rfl hnull
  · rw [hl] at h
    cases h

private theorem getAll_cons_of_found (buffer : ValueBuffer) {value : CString} (h : found headers key = some value)
    (keys : List Str) : getAll ⟨some headers, buffer⟩ (key :: keys) =
      (getAll ⟨some headers, buffer.assign value⟩ keys).map fun r =>
        (some (⟨(buffer.assign value).storage, value.chars.length⟩, value.chars) :: r.1, r.2) := by
  rw [getAll, get_of_found buffer h]
  show (getAll _ keys).bind _ = _
  rcases getAll ⟨some headers, buffer.assign value⟩ keys with fault | ⟨results, reader'⟩
  · rfl
  · simp [Except.bind, Except.map, pure, Except.pure, read_assign]

private theorem getAll_cons_of_absent (buffer : ValueBuffer) (hnull : headers.lastValue key ≠ some none)
    (h : found headers key = none) (keys : List Str) : getAll ⟨some headers, buffer⟩ (key :: keys) =
      (getAll ⟨some headers, buffer⟩ keys).map fun r => (none :: r.1, r.2) := by
  rw [getAll, get_of_absent buffer hnull h]
  show (getAll _ keys).bind _ = _
  rcases getAll ⟨some headers, buffer⟩ keys with fault | ⟨results, reader'⟩ <;> rfl

private theorem getAll_of_null (buffer : ValueBuffer) (h : ∃ key ∈ keys, headers.lastValue key = some none) :
    getAll ⟨some headers, buffer⟩ keys = .error .nullPointer := by
  induction keys generalizing buffer with
  | nil =>
    obtain ⟨key, hkey, -⟩ := h
    cases hkey
  | cons key keys ih =>
    by_cases hk : headers.lastValue key = some none
    · rw [getAll, get_of_null buffer hk]
      rfl
    · have hrest : ∃ key ∈ keys, headers.lastValue key = some none := by
        obtain ⟨key', hmem, hnull⟩ := h
        rcases List.mem_cons.1 hmem with rfl | hmem
        · exact absurd hnull hk
        · exact ⟨key', hmem, hnull⟩
      rcases hf : found headers key with _ | value
      · rw [getAll_cons_of_absent buffer hk hf, ih buffer hrest]
        rfl
      · rw [getAll_cons_of_found buffer hf, ih (buffer.assign value) hrest]
        rfl

/-- After a sequence of calls the buffer was assigned all values that were found. -/
theorem getAll_eq (buffer : ValueBuffer) (h : ∀ key ∈ keys, headers.lastValue key ≠ some none) :
    getAll ⟨some headers, buffer⟩ keys =
      .ok (viewsOf headers buffer keys, ⟨some headers, buffer.assignAll (allFound headers keys)⟩) := by
  induction keys generalizing buffer with
  | nil => rfl
  | cons key keys ih =>
    have hkeys (buffer : ValueBuffer) := ih buffer fun key' hmem => h key' (List.mem_cons_of_mem key hmem)
    rcases hf : found headers key with _ | value
    · rw [getAll_cons_of_absent buffer (h key List.mem_cons_self) hf, hkeys buffer]
      simp [Except.map, viewsOf, hf, allFound]
    · rw [getAll_cons_of_found buffer hf, hkeys (buffer.assign value)]
      simp [Except.map, viewsOf, hf, allFound, ValueBuffer.assignAll]

/-- A view is in the storage that the buffer had after its value was assigned. -/
theorem mem_viewsOf {buffer : ValueBuffer} {view : BufferView} {shown : Str} :
    some (view, shown) ∈ viewsOf headers buffer keys ↔
      ∃ before value after, allFound headers keys = before ++ value :: after ∧
        view = ⟨(buffer.assignAll (before ++ [value])).storage, value.chars.length⟩ ∧ shown = value.chars := by
  induction keys generalizing buffer with
  | nil => simp [viewsOf, allFound]
  | cons key keys ih =>
    rcases hf : found headers key with _ | first
    · have hall : allFound headers (key :: keys) = allFound headers keys := by simp [allFound, hf]
      have hviews : viewsOf headers buffer (key :: keys) = none :: viewsOf headers buffer keys := by
        simp only [viewsOf, hf]
      rw [hall, hviews, List.mem_cons, or_iff_right (by simp)]
      exact ih
    · have hall : allFound headers (key :: keys) = first :: allFound headers keys := by simp [allFound, hf]
      have hviews : viewsOf headers buffer (key :: keys) =
          some (⟨(buffer.assign first).storage, first.chars.length⟩, first.chars) ::
            viewsOf headers (buffer.assign first) keys := by simp only [viewsOf, hf]
      rw [hall, hviews, List.mem_cons, ih]
      constructor
      · rintro (heq | ⟨before, value, after, hsplit, hview, hshown⟩)
        · obtain ⟨rfl, rfl⟩ := Prod.mk.inj (Option.some.inj heq)
          exact ⟨[], first, _, rfl, rfl, rfl⟩
        · exact ⟨first :: before, value, after, by rw [hsplit]; rfl, hview, hshown⟩
      · rintro ⟨before, value, after, hsplit, hview, hshown⟩
        cases before with
        | nil =>
          obtain ⟨rfl, -⟩ := List.cons.inj hsplit
          exact .inl (by rw [hview, hshown]; rfl)
        | cons first' before =>
          obtain ⟨rfl, hrest⟩ := List.cons.inj hsplit
          exact .inr ⟨before, value, after, hrest, hview, hshown⟩

end lookups

/-- The views stay valid exactly when no null value is looked up, every value that is found is a prefix of the last
one, and the buffer has room for that after the first one that has characters. -/
theorem views_valid_iff (headers : KafkaHeaders) (buffer : ValueBuffer) (keys : List Str) :
    ViewsValid ⟨some headers, buffer⟩ keys ↔
      (∀ key ∈ keys, headers.lastValue key ≠ some none) ∧
      ∀ final ∈ (allFound headers keys).getLast?,
        (∀ value ∈ allFound headers keys, value.chars <+: final.chars) ∧
        ∀ first ∈ (allFound headers keys).find? fun value => !value.chars.isEmpty,
          final.chars.length ≤ buffer.room first.chars.length := by
  by_cases hnull : ∃ key ∈ keys, headers.lastValue key = some none
  · refine iff_of_false ?_ ?_
    · rintro ⟨results, reader', hget, -⟩
      rw [getAll_of_null buffer hnull] at hget
      cases hget
    · rintro ⟨hne, -⟩
      obtain ⟨key, hkey, hv⟩ := hnull
      exact hne key hkey hv
  · have hne : ∀ key ∈ keys, headers.lastValue key ≠ some none := fun key hmem h => hnull ⟨key, hmem, h⟩
    rw [and_iff_right hne]
    have hget := getAll_eq buffer hne
    rw [← buffer.all_kept_iff]
    constructor
    · rintro ⟨results, reader', hget', hread⟩ before value after hsplit
      rw [hget] at hget'
      obtain ⟨rfl, rfl⟩ := Prod.mk.inj (Except.ok.inj hget')
      exact BufferView.read_eq_some.1 (hread _ _ (mem_viewsOf.2 ⟨before, value, after, hsplit, rfl, rfl⟩))
    · intro hkept
      refine ⟨_, _, hget, ?_⟩
      intro view shown hmem
      obtain ⟨before, value, after, hsplit, rfl, rfl⟩ := mem_viewsOf.1 hmem
      exact BufferView.read_eq_some.2 (hkept before value after hsplit)

/-- The headers of a record with a trace context. -/
def contextHeaders : KafkaHeaders :=
  [("Pinpoint-TraceID", some "agent^1^2"), ("Pinpoint-SpanID", some "77")]

/-- A short value, and one that begins with it and needs more room than a new buffer has. -/
def growingHeaders : KafkaHeaders :=
  [("Pinpoint-SpanID", some "77"), ("Pinpoint-TraceID", some "77-agent-of-the-caller^1^2")]

/-- After the span id was fetched, the view of the trace id shows the span id; and the view of a span id dangles after
a long trace id was fetched. -/
theorem trace_id_view_overwritten :
    ¬ ViewsValid ⟨some contextHeaders, .empty⟩ ["Pinpoint-TraceID", "Pinpoint-SpanID"] ∧
    ¬ ViewsValid ⟨some growingHeaders, .empty⟩ ["Pinpoint-SpanID", "Pinpoint-TraceID"] := by
  constructor
  · rintro ⟨results, reader', hget, hread⟩
    cases hget
    exact absurd (hread ⟨0, 9⟩ "agent^1^2" List.mem_cons_self) (by decide)
  · rintro ⟨results, reader', hget, hread⟩
    cases hget
    exact absurd (hread ⟨0, 2⟩ "77" List.mem_cons_self) (by decide)

end KafkaTraceContextReader

end PinpointExamples
