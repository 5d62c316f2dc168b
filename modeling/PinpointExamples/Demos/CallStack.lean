import Mathlib
import PinpointExamples.Text

/-!
# The call stack of the cpptrace demo

`CppTraceCallStackReader` hands the frames of a stack trace to a callback, without those of the standard library.
The symbol of a frame is cut at its last `::` into a module and a function; a symbol without `::` is the function,
and the file name gives the module.  What cpptrace makes of a symbol and of a path are parameters
(`pruneSymbol`, `basename`).
-/

namespace PinpointExamples.Cpptrace

/-- `cpptrace::stacktrace_frame`, as far as the reader looks at it. -/
structure StackFrame where
  filename : Str
  line : Option UInt32
  symbol : Str
  deriving DecidableEq, Repr

/-- The arguments of one call of the callback. -/
structure StackCall where
  module : Str
  function : Str
  file : Str
  line : Int32
  deriving DecidableEq, Repr

def startsWith (str pre : Str) : Bool :=
  if str.length < pre.length then false else str.take pre.length = pre

/-- The file and the line of a frame. -/
def fileAndLine (file : Str) (line : Option UInt32) : Str × UInt32 :=
  if file.isEmpty then ("unknown", 0) else (file, line.getD 0)

/-- The module and the function: the two sides of the last `::`, or else the file name up to its first dot. -/
def moduleAndFunction (symbol file : Str) : Str × Str :=
  match rfind "::" symbol with
  | some pos => (symbol.take pos, symbol.drop (pos + 2))
  | none =>
    match find "." file with
    | some pos => (file.take pos, symbol)
    | none => ("unknown", symbol)

section reader

variable (pruneSymbol basename : Str → Str)

/-- The body of the loop of `ForEach`: the call it makes, if it makes one. -/
def stackCall (frame : StackFrame) : Option StackCall :=
  let symbol := pruneSymbol frame.symbol
  if symbol.isEmpty || startsWith symbol "std::" then none
  else
    let (file, line) := fileAndLine (basename frame.filename) frame.line
    let (module, function) := moduleAndFunction symbol file
    some ⟨module, function, file, line.toInt32⟩

/-- `ForEach`, for the frames of the trace and a callback that acts on a state. -/
def forEach {σ : Type} (callback : StackCall → σ → σ) : List StackFrame → σ → σ
  | [], s => s
  | frame :: frames, s =>
    match stackCall pruneSymbol basename frame with
    | none => forEach callback frames s
    | some call => forEach callback frames (callback call s)

end reader

/-! ### What is reported -/

/-- A frame that is reported: it has a symbol, and not one of the standard library. -/
def Reported (symbol : Str) : Prop := symbol ≠ [] ∧ ¬ ("std::" : Str) <+: symbol

instance : DecidablePred Reported := fun symbol =>
  inferInstanceAs (Decidable (symbol ≠ [] ∧ ¬ ("std::" : Str) <+: symbol))

/-- The symbol has a qualifier. -/
def Qualified (symbol : Str) : Prop := ("::" : Str) <:+: symbol

/-- What a call says about a symbol, a file name (empty if it is missing) and a line. -/
structure Describes (symbol file : Str) (line : Option UInt32) (call : StackCall) : Prop where
  /-- The module, `::` and the function make up the symbol, and no qualifier is left in the function. -/
  qualified : Qualified symbol → call.module ++ "::" ++ call.function = symbol ∧ ¬ Qualified call.function
  plain : ¬ Qualified symbol → call.function = symbol
  /-- Without a qualifier the module is the file name up to its first dot. -/
  dotted : ¬ Qualified symbol → '.' ∈ file → call.module = file.takeWhile fun c => c ≠ '.'
  undotted : ¬ Qualified symbol → '.' ∉ file → call.module = ("unknown" : Str)
  hasFile : call.file ≠ []
  sameFile : file ≠ [] → call.file = file ∧ call.line = (line.getD 0).toInt32
  noFile : file = [] → call.line = 0

private theorem startsWith_iff {str pre : Str} : startsWith str pre = true ↔ pre <+: str := by
  rw [List.prefix_iff_eq_take]
  unfold startsWith
  split
  · rename_i hlt
    constructor
    · intro h
      cases h
    · intro h
      have hlen := congrArg List.length h
      rw [List.length_take] at hlen
      omega
  · rw [decide_eq_true_eq]
    exact eq_comm

section reader

variable (pruneSymbol basename : Str → Str)

private theorem stackCall_eq_none_iff {frame : StackFrame} :
    stackCall pruneSymbol basename frame = none ↔ ¬ Reported (pruneSymbol frame.symbol) := by
  unfold stackCall Reported
  dsimp only
  split
  · rename_i h
    rw [Bool.or_eq_true, startsWith_iff, List.isEmpty_iff] at h
    refine iff_of_true rfl ?_
    rintro ⟨hne, hstd⟩
    exact h.elim hne hstd
  · rename_i h
    rw [Bool.or_eq_true, startsWith_iff, List.isEmpty_iff, not_or] at h
    exact iff_of_false (by simp) (not_not.2 h)

/-- A symbol with a qualifier is cut at the last one. -/
theorem moduleAndFunction_of_qualified {symbol : Str} (h : Qualified symbol) (file : Str) :
    (moduleAndFunction symbol file).1 ++ "::" ++ (moduleAndFunction symbol file).2 = symbol ∧
      ¬ Qualified (moduleAndFunction symbol file).2 := by
  rcases hpos : rfind "::" symbol with _ | pos
  · exact absurd h (Occurrence.lastOccurrence_eq_none_iff.1 hpos)
  · have hcut := Occurrence.cut_lastOccurrence (by decide) hpos
    have heq : moduleAndFunction symbol file = (symbol.take pos, symbol.drop (pos + 2)) := by
      rw [moduleAndFunction, hpos]
    rw [heq]
    exact hcut

-- in a run of colons the last two are cut out
example : moduleAndFunction "a:::b" "x.cpp" = (("a:" : Str), ("b" : Str)) := by decide

/-- A symbol without a qualifier is the function. -/
theorem moduleAndFunction_of_plain {symbol : Str} (h : ¬ Qualified symbol) (file : Str) :
    moduleAndFunction symbol file =
      (if '.' ∈ file then file.takeWhile fun c => c ≠ '.' else ("unknown" : Str), symbol) := by
  have hnone : rfind "::" symbol = none := Occurrence.lastOccurrence_eq_none_iff.2 h
  have htake := Occurrence.elim_idxOf?_take '.' file
  have hfind : find "." file = file.idxOf? '.' := find_singleton '.' file
  unfold moduleAndFunction
  rw [hnone]
  dsimp only
  rw [hfind]
  rcases hdot : file.idxOf? '.' with _ | pos
  · rw [if_neg (List.idxOf?_eq_none_iff.1 hdot)]
  · have hmem : '.' ∈ file := by
      by_contra hno
      rw [List.idxOf?_eq_none_iff.2 hno] at hdot
      cases hdot
    rw [hdot] at htake
    rw [if_pos hmem, ← htake]
    rfl

/-- The call that is made describes the frame. -/
theorem describes_of_stackCall {frame : StackFrame} {call : StackCall}
    (h : stackCall pruneSymbol basename frame = some call) :
    Describes (pruneSymbol frame.symbol) (basename frame.filename) frame.line call := by
  unfold stackCall at h
  dsimp only at h
  split at h
  · cases h
  · cases h
    generalize pruneSymbol frame.symbol = symbol
    generalize basename frame.filename = file
    by_cases hfile : file = []
    · -- the name that stands for a missing one has no dot
      subst hfile
      have hplain (hq : ¬ Qualified symbol) := moduleAndFunction_of_plain hq "unknown"
      refine ⟨fun hq => moduleAndFunction_of_qualified hq _, ?_, ?_, ?_, ?_, fun hne => absurd rfl hne, fun _ => rfl⟩
      · intro hq
        exact congrArg Prod.snd (hplain hq)
      · intro _ hdot
        cases hdot
      · intro hq _
        exact congrArg Prod.fst (hplain hq)
      · have hunknown : ("unknown" : Str) ≠ [] := by decide
        exact hunknown
    · have hsame : fileAndLine file frame.line = (file, frame.line.getD 0) := by
        rw [fileAndLine, if_neg (by simpa using hfile)]
      rw [hsame]
      have hplain (hq : ¬ Qualified symbol) := moduleAndFunction_of_plain hq file
      refine ⟨fun hq => moduleAndFunction_of_qualified hq _, ?_, ?_, ?_, hfile, fun _ => ⟨rfl, rfl⟩,
        fun hnil => absurd hnil hfile⟩
      · intro hq
        exact congrArg Prod.snd (hplain hq)
      · intro hq hdot
        have hmodule := congrArg Prod.fst (hplain hq)
        rwa [if_pos hdot] at hmodule
      · intro hq hdot
        have hmodule := congrArg Prod.fst (hplain hq)
        rwa [if_neg hdot] at hmodule

/-- The loop hands the calls of the frames to the callback, one after the other. -/
theorem forEach_eq_foldl {σ : Type} (callback : StackCall → σ → σ) (frames : List StackFrame) (s : σ) :
    forEach pruneSymbol basename callback frames s =
      (frames.filterMap (stackCall pruneSymbol basename)).foldl (fun s call => callback call s) s := by
  induction frames generalizing s with
  | nil => rfl
  | cons frame frames ih =>
    unfold forEach
    rcases hcall : stackCall pruneSymbol basename frame with _ | call
    · rw [List.filterMap_cons_none hcall]
      exact ih s
    · rw [List.filterMap_cons_some hcall, List.foldl_cons]
      exact ih (callback call s)

/-- There is one call for each frame that is reported, in order. -/
theorem describes_filterMap (frames : List StackFrame) :
    List.Forall₂
      (fun frame call => Describes (pruneSymbol frame.symbol) (basename frame.filename) frame.line call)
      (frames.filter fun frame => Reported (pruneSymbol frame.symbol))
      (frames.filterMap (stackCall pruneSymbol basename)) := by
  induction frames with
  | nil => exact .nil
  | cons frame frames ih =>
    rcases hcall : stackCall pruneSymbol basename frame with _ | call
    · have hnot := (stackCall_eq_none_iff pruneSymbol basename).1 hcall
      rw [List.filterMap_cons_none hcall, List.filter_cons_of_neg (by simpa using hnot)]
      exact ih
    · have hreported : Reported (pruneSymbol frame.symbol) := by
        by_contra hno
        rw [(stackCall_eq_none_iff pruneSymbol basename).2 hno] at hcall
        cases hcall
      rw [List.filterMap_cons_some hcall, List.filter_cons_of_pos (by simpa using hreported)]
      exact .cons (describes_of_stackCall pruneSymbol basename hcall) ih

end reader

/-- `ForEach` calls the callback once for each frame that is reported, in order, with a description of the frame, and
for no other frame. -/
theorem for_each_reports (pruneSymbol basename : Str → Str) (frames : List StackFrame) :
    ∃ calls : List StackCall,
      (∀ (σ : Type) (callback : StackCall → σ → σ) (s : σ),
        forEach pruneSymbol basename callback frames s = calls.foldl (fun s call => callback call s) s) ∧
      List.Forall₂
        (fun frame call => Describes (pruneSymbol frame.symbol) (basename frame.filename) frame.line call)
        (frames.filter fun frame => Reported (pruneSymbol frame.symbol)) calls :=
  ⟨frames.filterMap (stackCall pruneSymbol basename),
    fun _ callback s => forEach_eq_foldl pruneSymbol basename callback frames s,
    describes_filterMap pruneSymbol basename frames⟩

end PinpointExamples.Cpptrace
