import Mathlib
import PinpointExamples.Lib.Occurrence

/-!
# Strings

A `std::string` is the list of its characters.  Where the code compares, searches and splits strings it does so at
ASCII characters, and a character may be read as one byte of a raw value or as one Unicode character of a UTF-8 text.
Where it counts, it counts bytes, and a character is one byte: `substr(0, 200)` of the answer of the libcurl demo, the
buffers of `snprintf` in the CivetWeb demo and of `ngx_http_pinpoint_to_cstr`.  A `const char *` is a string without
NUL (`CString`); a string that is handed over as one is cut at its first NUL (`cStr`).
-/

namespace PinpointExamples

abbrev Str := List Char

instance : Coe String Str := ⟨String.toList⟩

/-- A NUL-terminated string: the characters before the NUL. -/
@[ext] structure CString where
  chars : Str
  noNul : '\x00' ∉ chars
  deriving DecidableEq

/-- What a reader of `s.c_str()` sees. -/
def cStr (s : Str) : CString where
  chars := s.takeWhile (· ≠ '\x00')
  noNul := fun h => by simpa using List.mem_takeWhile_imp h

theorem cStr_of_noNul {s : Str} (h : '\x00' ∉ s) : (cStr s).chars = s := by
  apply List.takeWhile_eq_self_iff.2
  intro c hc
  have : c ≠ '\x00' := fun e => h (e ▸ hc)
  simpa using this

private theorem cStr_length_lt {s : Str} (h : '\x00' ∈ s) : (cStr s).chars.length < s.length := by
  induction s with
  | nil => simp at h
  | cons c s ih =>
    by_cases hc : c = '\x00'
    · simp [cStr, hc]
    · have hs : '\x00' ∈ s := by simpa [Ne.symm hc] using h
      simpa [cStr, hc] using ih hs

theorem cStr_eq_self_iff {s : Str} : (cStr s).chars = s ↔ '\x00' ∉ s := by
  constructor
  · intro h hm
    have hlt := cStr_length_lt hm
    rw [h] at hlt
    omega
  · exact cStr_of_noNul

/-! ### Searching -/

/-- `std::string::find` of a string: where it occurs first. -/
def find (pattern : Str) : Str → Option Nat
  | [] => if pattern.isEmpty then some 0 else none
  | c :: s => if pattern.isPrefixOf (c :: s) then some 0 else (find pattern s).map (· + 1)

/-- `std::string::find` of a character, from a position on. -/
def findCharFrom (c : Char) (start : Nat) (s : Str) : Option Nat :=
  ((s.drop start).idxOf? c).map (· + start)

/-- `std::string::rfind` of a character: where it occurs last. -/
def rfindChar (c : Char) (s : Str) : Option Nat :=
  (s.reverse.idxOf? c).map fun i => s.length - 1 - i

/-- `std::string::rfind` of a string: where it occurs last. -/
def rfind (pattern s : Str) : Option Nat := Occurrence.lastOccurrence pattern s

/-- What comes before the first `c` from a position on. -/
theorem take_findCharFrom (c : Char) (start : Nat) (s : Str) :
    ((findCharFrom c start s).elim (s.drop start) fun stop => (s.drop start).take (stop - start)) =
      (s.drop start).takeWhile fun b => b ≠ c := by
  rw [← Occurrence.elim_idxOf?_take, findCharFrom]
  rcases (s.drop start).idxOf? c with _ | i
  · rfl
  · simp

theorem rfindChar_append_cons {c : Char} (s : Str) {r : Str} (h : c ∉ r) :
    rfindChar c (s ++ c :: r) = some s.length := by
  rw [rfindChar, Occurrence.idxOf?_reverse_append_cons s h]
  simp only [Option.map_some, List.length_append, List.length_cons, Option.some.injEq]
  omega

/-- A pattern occurs first where its first character does, if the pattern follows there. -/
theorem find_append_of_not_mem {c : Char} {pattern s : Str} (h : c ∉ s) (r : Str) :
    find (c :: pattern) (s ++ (c :: pattern ++ r)) = some s.length := by
  induction s with
  | nil =>
    have hpre : (c :: pattern).isPrefixOf (c :: (pattern ++ r)) = true := by simp
    rw [List.nil_append, List.cons_append, find, if_pos hpre]
    rfl
  | cons d s ih =>
    simp only [List.mem_cons, not_or] at h
    have hpre : ¬ (c :: pattern).isPrefixOf (d :: (s ++ (c :: pattern ++ r))) = true := by
      simp [h.1]
    rw [List.cons_append, find, if_neg hpre, ih h.2]
    rfl

theorem find_singleton (c : Char) (s : Str) : find [c] s = s.idxOf? c := by
  induction s with
  | nil => rfl
  | cons d s ih =>
    rw [find, List.idxOf?_cons, ih]
    by_cases h : d = c
    · simp [h]
    · simp [h, Ne.symm h]

/-- A string that is found is in the text. -/
theorem eq_append_of_find_eq_some {pattern s : Str} {i : Nat} (h : find pattern s = some i) :
    i + pattern.length ≤ s.length ∧ s = s.take i ++ pattern ++ s.drop (i + pattern.length) := by
  induction s generalizing i with
  | nil =>
    cases pattern with
    | nil =>
      obtain rfl : 0 = i := by simpa [find] using h
      simp
    | cons c pattern => simp [find] at h
  | cons d s ih =>
    unfold find at h
    split at h
    · rename_i hpre
      obtain rfl := Option.some.inj h
      obtain ⟨r, hr⟩ := List.isPrefixOf_iff_prefix.1 hpre
      rw [← hr]
      simp
    · obtain ⟨j, hj, rfl⟩ := Option.map_eq_some_iff.1 h
      obtain ⟨hle, heq⟩ := ih hj
      refine ⟨by simpa [Nat.add_right_comm] using hle, ?_⟩
      have hdrop : (d :: s).drop (j + 1 + pattern.length) = s.drop (j + pattern.length) := by
        rw [Nat.add_right_comm, List.drop_succ_cons]
      rw [hdrop, List.take_succ_cons, List.cons_append, List.cons_append, ← heq]

/-- A pattern without the character does not reach over it. -/
theorem prefix_append_cons_iff {d : Char} {pattern x y : Str} (hd : d ∉ pattern) :
    pattern <+: x ++ d :: y ↔ pattern <+: x := by
  constructor
  · intro h
    rcases Nat.lt_or_ge x.length pattern.length with hlt | hle
    · obtain ⟨r, hr⟩ := h
      have hget : pattern[x.length]? = some d := by
        have hlook := congrArg (·[x.length]?) hr
        simpa [List.getElem?_append_left hlt] using hlook
      exact absurd (List.mem_of_getElem? hget) hd
    · exact List.prefix_of_prefix_length_le h (List.prefix_append x _) hle
  · exact fun h => h.trans (List.prefix_append x _)

/-- A pattern without the character is found before it, or else after it. -/
theorem find_append_cons {d : Char} {pattern : Str} (hp : pattern ≠ []) (hd : d ∉ pattern) (x y : Str) :
    find pattern (x ++ d :: y) = (find pattern x).or ((find pattern y).map (· + (x.length + 1))) := by
  induction x with
  | nil =>
    have hpre : ¬ pattern.isPrefixOf (d :: y) = true := by
      rw [List.isPrefixOf_iff_prefix, ← List.nil_append (d :: y), prefix_append_cons_iff hd]
      simpa using hp
    simp [find, hpre, hp]
  | cons c x ih =>
    have hpre : pattern.isPrefixOf (c :: (x ++ d :: y)) = pattern.isPrefixOf (c :: x) := by
      rw [Bool.eq_iff_iff, List.isPrefixOf_iff_prefix, List.isPrefixOf_iff_prefix, ← List.cons_append]
      exact prefix_append_cons_iff hd
    rw [List.cons_append, find, find, hpre, ih]
    split
    · rfl
    · rcases find pattern x with _ | i
      · rcases find pattern y with _ | j
        · rfl
        · simp [Nat.add_assoc]
      · rfl

/-! ### ASCII case -/

/-- `detail::ToLower`: every character through the ASCII `std::tolower`. -/
def toLower (value : Str) : Str := value.map Char.toLower

/-- Equality ignoring ASCII case. -/
def EqIgnoreCase (a b : Str) : Prop := toLower a = toLower b

instance (a b : Str) : Decidable (EqIgnoreCase a b) := inferInstanceAs (Decidable (toLower a = toLower b))

@[refl] theorem EqIgnoreCase.refl (a : Str) : EqIgnoreCase a a := rfl

@[symm] theorem EqIgnoreCase.symm {a b : Str} (h : EqIgnoreCase a b) : EqIgnoreCase b a := Eq.symm h

theorem EqIgnoreCase.trans {a b c : Str} (h : EqIgnoreCase a b) (h' : EqIgnoreCase b c) : EqIgnoreCase a c :=
  Eq.trans h h'

theorem eqIgnoreCase_equivalence : Equivalence EqIgnoreCase := ⟨.refl, .symm, .trans⟩

theorem toLower_toLower (s : Str) : toLower (toLower s) = toLower s := by
  simp [toLower]

theorem eqIgnoreCase_toLower (s : Str) : EqIgnoreCase (toLower s) s := toLower_toLower s

private theorem char_toLower_eq_iff {c d : Char} (hd : d.isAlpha = false) : c.toLower = d ↔ c = d := by
  constructor
  · intro h
    have ha : c.isAlpha = false := by rw [← Char.isAlpha_toLower_eq_isAlpha, h, hd]
    have hu : ¬ c.isUpper = true := by
      intro hu
      simp [Char.isAlpha, hu] at ha
    rwa [Char.toLower_eq_of_not_isUpper hu] at h
  · rintro rfl
    have hu : ¬ c.isUpper = true := by
      intro hu
      simp [Char.isAlpha, hu] at hd
    exact Char.toLower_eq_of_not_isUpper hu

/-- Lower-casing neither adds nor removes a character that is not a letter. -/
theorem mem_toLower_iff {d : Char} (hd : d.isAlpha = false) {s : Str} : d ∈ toLower s ↔ d ∈ s := by
  rw [toLower, List.mem_map]
  simp only [char_toLower_eq_iff hd, exists_eq_right]

theorem EqIgnoreCase.mem_iff {a b : Str} (h : EqIgnoreCase a b) {d : Char} (hd : d.isAlpha = false) :
    d ∈ a ↔ d ∈ b := by
  have hl : d ∈ toLower a ↔ d ∈ toLower b := by rw [show toLower a = toLower b from h]
  rwa [mem_toLower_iff hd, mem_toLower_iff hd] at hl

private theorem char_le_toLower (c : Char) : c ≤ c.toLower := by
  rw [Char.toLower, Char.le_def]
  split
  · rename_i h
    have hz : c.val.toNat ≤ 90 := UInt32.le_iff_toNat_le.1 h.2
    rw [UInt32.le_iff_toNat_le]
    simp only [UInt32.toNat_add]
    have : ('a'.val - 'A'.val).toNat = 32 := rfl
    omega
  · exact UInt32.le_refl _

/-- Lower-casing moves a string up in the order of `std::string`. -/
theorem le_toLower (s : Str) : s ≤ toLower s := by
  induction s with
  | nil => exact le_refl _
  | cons c s ih =>
    rw [toLower, List.map_cons]
    rcases lt_or_eq_of_le (char_le_toLower c) with h | h
    · exact le_of_lt (List.cons_lt_cons_iff.2 (.inl h))
    · rw [← h]
      exact List.cons_le_cons c ih

end PinpointExamples
