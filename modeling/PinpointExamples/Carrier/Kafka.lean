import Mathlib
import PinpointExamples.Lib.Assoc
import PinpointExamples.Text

/-!
# The librdkafka carrier

Record headers are a list of keys with values that may be any bytes, or null.  `KafkaTraceContextReader::Get` copies
the last value under the key into a buffer of the reader and returns a view of the buffer.  It reads the value as a C
string, so it faults on a null value and cuts a value at its first NUL (`getValue_eq`).
-/

namespace PinpointExamples

open Assoc

/-- A record header: the key, and the value (`none` for the null value). -/
abbrev KafkaHeader := Str × Option Str

abbrev KafkaHeaders := List KafkaHeader

/-- What ends the process: here, reading through a null pointer. -/
inductive Fault
  | nullPointer
  deriving DecidableEq, Repr

namespace KafkaHeaders

/-- `RdKafka::Headers::add`. -/
def add (headers : KafkaHeaders) (key value : Str) : KafkaHeaders := headers ++ [(key, some value)]

/-- `RdKafka::Headers::get_last`: the last header under the key, or an error code. -/
def getLast (headers : KafkaHeaders) (key : Str) : Option KafkaHeader :=
  (headers.filter fun header => header.1 = key).getLast?

/-- The value of the last header under the key. -/
def lastValue (headers : KafkaHeaders) (key : Str) : Option (Option Str) := last Eq key headers

theorem lastValue_eq (headers : KafkaHeaders) (key : Str) :
    lastValue headers key = (getLast headers key).map Prod.snd := rfl

@[simp] theorem lastValue_add (headers : KafkaHeaders) (key value : Str) :
    lastValue (add headers key value) key = some (some value) := by
  rw [lastValue, add, last_append_of_mem (e := (key, some value)) (by simp) rfl]
  simp [last, under]

end KafkaHeaders

/-- `RdKafka::Headers::Header::value_string`: the value as a `const char *`. -/
def valueString (header : KafkaHeader) : Option CString := header.2.map cStr

/-- How a `std::string` grows: the capacity it takes when so many characters do not fit into the one it has. -/
structure Growth where
  capacity : Nat → Nat → Nat
  fits : ∀ old needed, needed ≤ capacity old needed

/-- The growth of libstdc++: at least twice the old capacity. -/
def Growth.double : Growth where
  capacity old needed := max needed (2 * old)
  fits _ _ := le_max_left _ _

/-- A `std::string` that is assigned to: which of its storages it is in, how many characters that has room for, and
what is in it, the NUL and what is left of longer strings included. -/
structure ValueBuffer where
  growth : Growth
  storage : Nat
  capacity : Nat
  bytes : Str

namespace ValueBuffer

/-- A new string, which has room for 15 characters in the object itself. -/
def empty : ValueBuffer where
  growth := .double
  storage := 0
  capacity := 15
  bytes := ['\x00']

/-- The string is assigned a C string.  If this does not fit, it moves to a new storage and gives the old one back. -/
def assign (buffer : ValueBuffer) (value : CString) : ValueBuffer :=
  if value.chars.length ≤ buffer.capacity then
    { buffer with bytes := value.chars ++ '\x00' :: buffer.bytes.drop (value.chars.length + 1) }
  else { buffer with
    storage := buffer.storage + 1
    capacity := buffer.growth.capacity buffer.capacity value.chars.length
    bytes := value.chars ++ ['\x00'] }

/-- The room that the string has when it holds so many characters. -/
def room (buffer : ValueBuffer) (needed : Nat) : Nat :=
  if needed ≤ buffer.capacity then buffer.capacity else buffer.growth.capacity buffer.capacity needed

theorem le_room (buffer : ValueBuffer) (needed : Nat) : needed ≤ buffer.room needed := by
  unfold room
  split
  · assumption
  · exact buffer.growth.fits _ _

theorem assign_capacity (buffer : ValueBuffer) (value : CString) :
    (buffer.assign value).capacity = buffer.room value.chars.length := by
  unfold assign room
  split <;> rfl

theorem assign_storage (buffer : ValueBuffer) (value : CString) :
    (buffer.assign value).storage =
      if value.chars.length ≤ buffer.capacity then buffer.storage else buffer.storage + 1 := by
  unfold assign
  split <;> rfl

/-- The storage begins with the string and its NUL. -/
theorem assign_bytes (buffer : ValueBuffer) (value : CString) :
    ∃ rest, (buffer.assign value).bytes = value.chars ++ '\x00' :: rest := by
  unfold assign
  split
  · exact ⟨_, rfl⟩
  · exact ⟨[], rfl⟩

end ValueBuffer

/-- `KafkaTraceContextReader`: the headers (a null pointer is `none`) and `value_buffer_`. -/
structure KafkaTraceContextReader where
  headers : Option KafkaHeaders
  valueBuffer : ValueBuffer

/-- A `std::string_view` of `value_buffer_`: it starts where the storage starts that the buffer had, and has a
length. -/
structure BufferView where
  storage : Nat
  size : Nat

/-- What the view shows while the reader is in this state; it dangles once the buffer is in another storage, unless it
has no characters to read. -/
def BufferView.read (view : BufferView) (reader : KafkaTraceContextReader) : Option Str :=
  if view.size = 0 ∨ view.storage = reader.valueBuffer.storage then some (reader.valueBuffer.bytes.take view.size)
  else none

namespace KafkaTraceContextReader

/-- `KafkaTraceContextReader::Get`: the view, and the reader afterwards. -/
def get (reader : KafkaTraceContextReader) (key : Str) :
    Except Fault (Option BufferView × KafkaTraceContextReader) :=
  match reader.headers with
  | none => .ok (none, reader)
  | some headers =>
    match headers.getLast key with
    | none => .ok (none, reader)
    | some result =>
      match valueString result with
      | none => .error .nullPointer
      | some s =>
        let buffer := reader.valueBuffer.assign s
        .ok (some ⟨buffer.storage, s.chars.length⟩, { reader with valueBuffer := buffer })

/-- The value that the view shows right after `get`. -/
def getValue (reader : KafkaTraceContextReader) (key : Str) : Except Fault (Option Str) :=
  (reader.get key).map fun r => r.1.bind fun view => view.read r.2

/-- A view shows its value when it is returned. -/
theorem read_assign (headers : Option KafkaHeaders) (buffer : ValueBuffer) (value : CString) :
    (BufferView.mk (buffer.assign value).storage value.chars.length).read ⟨headers, buffer.assign value⟩ =
      some value.chars := by
  obtain ⟨rest, hbytes⟩ := buffer.assign_bytes value
  rw [BufferView.read, if_pos (.inr rfl), hbytes, List.take_left]

end KafkaTraceContextReader

/-- `KafkaTraceContextWriter::Set`: the headers afterwards. -/
def KafkaTraceContextWriter.set (headers : Option KafkaHeaders) (key value : Str) : Option KafkaHeaders :=
  match headers with
  | none => none
  | some h => some (h.add key value)

namespace KafkaTraceContextReader

open KafkaHeaders

/-- A null value is read through, any other value is cut at its first NUL. -/
theorem getValue_eq (headers : KafkaHeaders) (buffer : ValueBuffer) (key : Str) :
    getValue ⟨some headers, buffer⟩ key =
      match headers.lastValue key with
      | none => .ok none
      | some none => .error .nullPointer
      | some (some v) => .ok (some (cStr v).chars) := by
  rw [lastValue_eq]
  rcases h : headers.getLast key with _ | ⟨k, _ | v⟩
  · simp [getValue, get, h, Except.map]
  · simp [getValue, get, h, valueString, Except.map]
  · simp [getValue, get, h, valueString, Except.map, read_assign]

/-- What a faithful reader returns: the bytes of the last value, if there is one and it is not null. -/
def Faithful (headers : KafkaHeaders) (key : Str) (result : Except Fault (Option Str)) : Prop :=
  result = .ok ((headers.lastValue key).bind id)

/-- The values a C string can carry: no value at all, or one that is not null and has no NUL. -/
def Readable : Option (Option Str) → Prop
  | none => True
  | some none => False
  | some (some v) => '\x00' ∉ v

private theorem faithful_getValue_iff (headers : KafkaHeaders) (buffer : ValueBuffer) (key : Str) :
    Faithful headers key (getValue ⟨some headers, buffer⟩ key) ↔ Readable (headers.lastValue key) := by
  rw [Faithful, getValue_eq]
  rcases headers.lastValue key with _ | _ | v
  · simp [Readable]
  · simp [Readable]
  · simp [Readable, cStr_eq_self_iff]

/-- The reader returns the bytes of the last value exactly when that value is absent, or not null and without NUL;
in particular a written value comes back exactly when it has no NUL. -/
theorem kafka_get_faithful_iff (headers : KafkaHeaders) (buffer : ValueBuffer) :
    (∀ key, Faithful headers key (getValue ⟨some headers, buffer⟩ key) ↔ Readable (headers.lastValue key)) ∧
    ∀ k v, getValue ⟨KafkaTraceContextWriter.set (some headers) k v, buffer⟩ k = .ok (some v) ↔ '\x00' ∉ v := by
  refine ⟨faithful_getValue_iff headers buffer, ?_⟩
  intro k v
  rw [KafkaTraceContextWriter.set, getValue_eq, lastValue_add]
  simp [cStr_eq_self_iff]

/-- A null value faults, and a value with a NUL is cut. -/
theorem kafka_get_null_and_nul :
    getValue ⟨some [("Pinpoint-TraceID", none)], .empty⟩ "Pinpoint-TraceID" = .error .nullPointer ∧
    ¬ Faithful [("Pinpoint-TraceID", none)] "Pinpoint-TraceID"
      (getValue ⟨some [("Pinpoint-TraceID", none)], .empty⟩ "Pinpoint-TraceID") ∧
    getValue ⟨some [("k", some ("a\x00b" : String))], .empty⟩ "k" = .ok (some ("a" : String)) ∧
    ¬ Faithful [("k", some ("a\x00b" : String))] "k"
      (getValue ⟨some [("k", some ("a\x00b" : String))], .empty⟩ "k") := by
  unfold Faithful
  refine ⟨rfl, ?_, rfl, ?_⟩
  · intro h
    simp [getValue, get, getLast, valueString, Except.map, lastValue, last, under] at h
  · intro h
    have h' : (Except.ok (some ['a']) : Except Fault (Option Str)) = .ok (some ['a', '\x00', 'b']) := h
    simp at h'

end KafkaTraceContextReader

end PinpointExamples
