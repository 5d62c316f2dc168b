import Mathlib
import PinpointExamples.Lib.Json

/-!
# Values in any layout

A text is read as a value in every place if it is read up to its end whatever follows it.  Strings, arrays and
objects are texts of this kind, with any whitespace between their parts; the rules of this file put them together.
-/

namespace JsonText

/-- Nothing but whitespace. -/
def Blank (b : List Char) : Prop := ∀ c ∈ b, IsSpace c

/-- The text is read as the value, whatever follows. -/
def ReadsAs (text : List Char) (v : Value) : Prop :=
  ∃ n, ∀ rest, readValue n (text ++ rest) = some (v, rest)

/-- The text is read as the items of an array, up to the bracket after them. -/
def ReadsItems (text : List Char) (vs : List Value) : Prop :=
  ∃ n, ∀ rest, readItems n (text ++ rest) = some (vs, rest)

/-- The text is read as the members of an object, up to the brace after them. -/
def ReadsMembers (text : List Char) (ms : List (List Char × Value)) : Prop :=
  ∃ n, ∀ rest, readMembers n (text ++ rest) = some (ms, rest)

/-! ### Whitespace -/

private theorem skipSpace_idem (x : List Char) : skipSpace (skipSpace x) = skipSpace x := by
  rw [skipSpace, skipSpace, List.dropWhile_idempotent]

theorem skipSpace_cons {c : Char} (h : IsSpace c) (x : List Char) : skipSpace (c :: x) = skipSpace x := by
  rw [skipSpace, List.dropWhile_cons_of_pos (by simpa using h)]
  rfl

/-- What is read depends on what stands behind the whitespace only. -/
private theorem readValue_congr (n : Nat) {x y : List Char} (h : skipSpace x = skipSpace y) :
    readValue n x = readValue n y := by
  cases n with
  | zero => rw [readValue, readValue]
  | succ n => rw [readValue, readValue, h]

private theorem readItems_congr (n : Nat) {x y : List Char} (h : skipSpace x = skipSpace y) :
    readItems n x = readItems n y := by
  cases n with
  | zero => rw [readItems, readItems]
  | succ n => rw [readItems, readItems, readValue_congr n h]

private theorem readMembers_congr (n : Nat) {x y : List Char} (h : skipSpace x = skipSpace y) :
    readMembers n x = readMembers n y := by
  cases n with
  | zero => rw [readMembers, readMembers]
  | succ n => rw [readMembers, readMembers, h]

theorem readMembers_space (n : Nat) {c : Char} (h : IsSpace c) (x : List Char) :
    readMembers n (c :: x) = readMembers n x := readMembers_congr n (skipSpace_cons h x)

private theorem readItems_skipSpace (n : Nat) (x : List Char) : readItems n (skipSpace x) = readItems n x :=
  readItems_congr n (skipSpace_idem x)

theorem readMembers_skipSpace (n : Nat) (x : List Char) : readMembers n (skipSpace x) = readMembers n x :=
  readMembers_congr n (skipSpace_idem x)

private theorem readItems_mono {n m : Nat} (hnm : n ≤ m) {x : List Char} {r : List Value × List Char}
    (h : readItems n x = some r) : readItems m x = some r :=
  Nat.le_induction h (fun k _ ih => (read_succ k).2.1 x r ih) m hnm

section blank

variable {b : List Char}

theorem blank_spaces (n : Nat) : Blank (List.replicate n ' ') := fun _ hc => .inl (List.eq_of_mem_replicate hc)

/-- A new line and its indentation. -/
theorem blank_indent (n : Nat) : Blank ('\n' :: List.replicate n ' ') := by
  intro c hc
  rcases List.mem_cons.1 hc with rfl | hc
  · exact .inr (.inl rfl)
  · exact blank_spaces n c hc

theorem blank_nil : Blank [] := fun _ h => nomatch h

theorem Blank.tail {c : Char} (h : Blank (c :: b)) : Blank b := fun c' hc => h c' (List.mem_cons_of_mem c hc)

private theorem skipSpace_blank (h : Blank b) (x : List Char) : skipSpace (b ++ x) = skipSpace x := by
  induction b with
  | nil => rfl
  | cons c b ih => rw [List.cons_append, skipSpace_cons (h c List.mem_cons_self), ih h.tail]

private theorem readValue_blank (n : Nat) (h : Blank b) (x : List Char) : readValue n (b ++ x) = readValue n x :=
  readValue_congr n (skipSpace_blank h x)

private theorem readItems_blank (n : Nat) (h : Blank b) (x : List Char) : readItems n (b ++ x) = readItems n x :=
  readItems_congr n (skipSpace_blank h x)

end blank

/-! ### Strings and literals -/

private theorem plain_toDigits (n : Nat) : Plain (Nat.toDigits 10 n) := by
  intro c hc
  have hd : c.isDigit = true := Nat.isDigit_of_mem_toDigits (by omega) (by omega) hc
  refine ⟨?_, ?_, ?_⟩
  · rintro rfl
    exact absurd hd (by decide)
  · rintro rfl
    exact absurd hd (by decide)
  · intro hlt
    have h0 : '0'.toNat ≤ c.toNat := (Char.isDigit_iff_toNat.1 hd).1
    have hspace : c.toNat < ' '.toNat := hlt
    have hle : ' '.toNat ≤ '0'.toNat := by decide
    omega

theorem plain_toString (i : Int) : Plain (toString i).toList := by
  rw [Int.toString_eq_repr, Int.repr_eq_if]
  by_cases hi : 0 ≤ i
  · rw [if_pos hi, Nat.toList_repr]
    exact plain_toDigits _
  · rw [if_neg hi, String.toList_append, Nat.toList_repr]
    exact plain_append.2 ⟨by simp [Plain], plain_toDigits _⟩

/-- A string between quotes, as it is. -/
def quoted (s : List Char) : List Char := '"' :: (s ++ ['"'])

theorem ReadsAs.quoted {s : List Char} (h : Plain s) : ReadsAs (quoted s) (.str s) := by
  refine ⟨1, fun rest => ?_⟩
  have htext : JsonText.quoted s ++ rest = '"' :: (s ++ '"' :: rest) := by simp [JsonText.quoted]
  rw [htext, readValue_string, readString_plain h]
  rfl

theorem ReadsAs.true : ReadsAs ['t', 'r', 'u', 'e'] (.bool true) := ⟨1, fun _ => rfl⟩

theorem ReadsAs.false : ReadsAs ['f', 'a', 'l', 's', 'e'] (.bool false) := ⟨1, fun _ => rfl⟩

theorem ReadsAs.denotes {text : List Char} {v : Value} (h : ReadsAs text v) : Denotes text v := by
  obtain ⟨n, hn⟩ := h
  refine ⟨n, [], ?_, rfl⟩
  rw [← hn [], List.append_nil]

/-- A text has one value. -/
theorem Denotes.unique {text : List Char} {v v' : Value} (h : Denotes text v) (h' : Denotes text v') : v = v' := by
  obtain ⟨n, t, hn, -⟩ := h
  obtain ⟨m, t', hm, -⟩ := h'
  exact congrArg Prod.fst (readValue_unique hn hm)

/-! ### Arrays -/

section arrays

variable {pre post text items : List Char} {v : Value} {vs : List Value}

theorem ReadsAs.lastItem (h : ReadsAs text v) (hpre : Blank pre) (hpost : Blank post) :
    ReadsItems (pre ++ text ++ post ++ [']']) [v] := by
  obtain ⟨n, hn⟩ := h
  refine ⟨n + 1, fun rest => ?_⟩
  have hbracket : skipSpace (post ++ ']' :: rest) = ']' :: rest := by
    rw [skipSpace_blank hpost]
    rfl
  simp only [List.append_assoc, List.cons_append, List.nil_append]
  rw [readItems_blank _ hpre, readItems, hn]
  simp only [hbracket]

theorem ReadsAs.item (h : ReadsAs text v) (hpre : Blank pre) (hpost : Blank post) (hitems : ReadsItems items vs) :
    ReadsItems (pre ++ text ++ post ++ ',' :: items) (v :: vs) := by
  obtain ⟨n, hn⟩ := h
  obtain ⟨m, hm⟩ := hitems
  refine ⟨max n m + 1, fun rest => ?_⟩
  have hcomma : skipSpace (post ++ ',' :: (items ++ rest)) = ',' :: (items ++ rest) := by
    rw [skipSpace_blank hpost]
    rfl
  have hvalue := readValue_mono (Nat.le_max_left n m) (hn (post ++ ',' :: (items ++ rest)))
  have hrest := readItems_mono (Nat.le_max_right n m) (hm rest)
  simp only [List.append_assoc, List.cons_append]
  rw [readItems_blank _ hpre, readItems, hvalue]
  simp only [hcomma, hrest]
  rfl

theorem ReadsItems.blank (h : ReadsItems items vs) (hpre : Blank pre) : ReadsItems (pre ++ items) vs := by
  obtain ⟨n, hn⟩ := h
  refine ⟨n, fun rest => ?_⟩
  rw [List.append_assoc, readItems_blank n hpre, hn]

/-- No value starts with a closing bracket. -/
theorem readValue_bracket (n : Nat) {x t : List Char} (h : skipSpace x = ']' :: t) : readValue n x = none := by
  cases n with
  | zero => rw [readValue]
  | succ n =>
    rw [readValue, h]
    rfl

theorem ReadsItems.array (h : ReadsItems items vs) : ReadsAs ('[' :: items) (.arr vs) := by
  obtain ⟨n, hn⟩ := h
  refine ⟨n + 1, fun rest => ?_⟩
  have hitems := hn rest
  have hopen : skipSpace ('[' :: items ++ rest) = '[' :: (items ++ rest) := rfl
  rw [readValue]
  simp only [hopen]
  split
  · rename_i t ht
    cases n with
    | zero =>
      rw [readItems] at hitems
      cases hitems
    | succ n =>
      rw [readItems, readValue_bracket n ht] at hitems
      cases hitems
  · rw [readItems_skipSpace, hitems]
    rfl

end arrays

/-! ### Objects -/

section objects

variable {pre mid post text members key : List Char} {v : Value} {ms : List (List Char × Value)}

/-- The rest of the members, after the value under the key `k` was read. -/
def membersAfter (n : Nat) (k : List Char) :
    Option (Value × List Char) → Option (List (List Char × Value) × List Char)
  | none => none
  | some (v, t) =>
    match skipSpace t with
    | ',' :: t' => (readMembers n t').map fun p => ((k, v) :: p.1, p.2)
    | '\x7d' :: t' => some ([(k, v)], t')
    | _ => none

/-- The text of a member, with whitespace before its key and before its value. -/
def memberText (pre key mid text : List Char) : List Char := pre ++ '"' :: (key ++ '"' :: ':' :: (mid ++ text))

theorem readMembers_memberText (n : Nat) (hpre : Blank pre) (hkey : Plain key) (hmid : Blank mid) (rest : List Char) :
    readMembers (n + 1) (memberText pre key mid text ++ rest) = membersAfter n key (readValue n (text ++ rest)) := by
  have htext : memberText pre key mid text ++ rest =
      pre ++ '"' :: (key ++ '"' :: ':' :: (mid ++ (text ++ rest))) := by
    simp [memberText]
  have hquote : skipSpace (pre ++ '"' :: (key ++ '"' :: ':' :: (mid ++ (text ++ rest)))) =
      '"' :: (key ++ '"' :: ':' :: (mid ++ (text ++ rest))) := by
    rw [skipSpace_blank hpre]
    rfl
  have hcolon : skipSpace (':' :: (mid ++ (text ++ rest))) = ':' :: (mid ++ (text ++ rest)) := rfl
  rw [htext, readMembers, hquote]
  simp only [readString_plain hkey, hcolon, readValue_blank n hmid]
  rfl

theorem ReadsAs.lastMember (h : ReadsAs text v) (hpre : Blank pre) (hkey : Plain key) (hmid : Blank mid)
    (hpost : Blank post) : ReadsMembers (memberText pre key mid text ++ post ++ ['\x7d']) [(key, v)] := by
  obtain ⟨n, hn⟩ := h
  refine ⟨n + 1, fun rest => ?_⟩
  have hbrace : skipSpace (post ++ '\x7d' :: rest) = '\x7d' :: rest := by
    rw [skipSpace_blank hpost]
    rfl
  simp only [List.append_assoc, List.cons_append, List.nil_append]
  rw [readMembers_memberText n hpre hkey hmid, hn]
  simp only [membersAfter, hbrace]

theorem ReadsAs.member (h : ReadsAs text v) (hpre : Blank pre) (hkey : Plain key) (hmid : Blank mid)
    (hpost : Blank post) (hmembers : ReadsMembers members ms) :
    ReadsMembers (memberText pre key mid text ++ post ++ ',' :: members) ((key, v) :: ms) := by
  obtain ⟨n, hn⟩ := h
  obtain ⟨m, hm⟩ := hmembers
  refine ⟨max n m + 1, fun rest => ?_⟩
  have hcomma : skipSpace (post ++ ',' :: (members ++ rest)) = ',' :: (members ++ rest) := by
    rw [skipSpace_blank hpost]
    rfl
  have hvalue := readValue_mono (Nat.le_max_left n m) (hn (post ++ ',' :: (members ++ rest)))
  have hrest := readMembers_mono (Nat.le_max_right n m) (hm rest)
  simp only [List.append_assoc, List.cons_append]
  rw [readMembers_memberText _ hpre hkey hmid, hvalue]
  simp only [membersAfter, hcomma, hrest]
  rfl

/-- No member starts with a closing brace. -/
theorem readMembers_brace (n : Nat) {x t : List Char} (h : skipSpace x = '\x7d' :: t) : readMembers n x = none := by
  cases n with
  | zero => rw [readMembers]
  | succ n =>
    rw [readMembers, h]
    rfl

theorem ReadsMembers.object (h : ReadsMembers members ms) : ReadsAs ('\x7b' :: members) (.obj ms) := by
  obtain ⟨n, hn⟩ := h
  refine ⟨n + 1, fun rest => ?_⟩
  have hmembers := hn rest
  have hopen : skipSpace ('\x7b' :: members ++ rest) = '\x7b' :: (members ++ rest) := rfl
  rw [readValue]
  simp only [hopen]
  split
  · rename_i t ht
    rw [readMembers_brace n ht] at hmembers
    cases hmembers
  · rw [readMembers_skipSpace, hmembers]
    rfl

end objects

/-! ### One part a line -/

section lines

/-- A member with the text of its value. -/
structure Field where
  key : List Char
  text : List Char
  value : Value

/-- A new line and its indentation. -/
def indent (n : Nat) : List Char := '\n' :: List.replicate n ' '

def Field.line (n : Nat) (f : Field) : List Char := memberText (indent n) f.key [' '] f.text

/-- An object with a member a line, after its brace. -/
def fieldLines (n m : Nat) (f : Field) : List Field → List Char
  | [] => f.line n ++ indent m ++ ['\x7d']
  | f' :: fs => f.line n ++ ',' :: fieldLines n m f' fs

/-- The lines before the last one. -/
def firstLines (n : Nat) : List Field → List Char
  | [] => []
  | f :: fs => f.line n ++ ',' :: firstLines n fs

theorem fieldLines_concat (n m : Nat) (f : Field) (fs : List Field) (last : Field) :
    fieldLines n m f (fs ++ [last]) = firstLines n (f :: fs) ++ (last.line n ++ (indent m ++ ['\x7d'])) := by
  induction fs generalizing f with
  | nil => simp [fieldLines, firstLines]
  | cons f' fs ih => simp [fieldLines, firstLines, ih]

/-- An array with an item a line, after its bracket. -/
def itemLines (n m : Nat) (s : List Char) : List (List Char) → List Char
  | [] => indent n ++ s ++ indent m ++ [']']
  | s' :: ss => indent n ++ s ++ ',' :: itemLines n m s' ss

/-- The key needs no escape, and the text is read as the value. -/
structure Field.Sound (f : Field) : Prop where
  key : Plain f.key
  text : ReadsAs f.text f.value

theorem ReadsAs.fields {f : Field} {fs : List Field} (n m : Nat) (h : ∀ f' ∈ f :: fs, f'.Sound) :
    ReadsAs ('\x7b' :: fieldLines n m f fs) (.obj ((f :: fs).map fun f' => (f'.key, f'.value))) := by
  have hspace : Blank [' '] := blank_spaces 1
  have hmembers : ReadsMembers (fieldLines n m f fs) ((f :: fs).map fun f' => (f'.key, f'.value)) := by
    induction fs generalizing f with
    | nil =>
      have hf := h f List.mem_cons_self
      exact hf.text.lastMember (blank_indent n) hf.key hspace (blank_indent m)
    | cons f' fs ih =>
      have hf := h f List.mem_cons_self
      have hrest := ih fun f'' hm => h f'' (List.mem_cons_of_mem f hm)
      have hmember := hf.text.member (blank_indent n) hf.key hspace blank_nil hrest
      rwa [List.append_nil] at hmember
  exact hmembers.object

theorem ReadsAs.strings {s : List Char} {ss : List (List Char)} (n m : Nat) (h : ∀ s' ∈ s :: ss, Plain s') :
    ReadsAs ('[' :: itemLines n m (JsonText.quoted s) (ss.map JsonText.quoted)) (.arr ((s :: ss).map .str)) := by
  have hitems : ReadsItems (itemLines n m (JsonText.quoted s) (ss.map JsonText.quoted)) ((s :: ss).map .str) := by
    induction ss generalizing s with
    | nil => exact (ReadsAs.quoted (h s List.mem_cons_self)).lastItem (blank_indent n) (blank_indent m)
    | cons s' ss ih =>
      have hrest := ih fun s'' hm => h s'' (List.mem_cons_of_mem s hm)
      have hitem := (ReadsAs.quoted (h s List.mem_cons_self)).item (blank_indent n) blank_nil hrest
      rwa [List.append_nil] at hitem
  exact hitems.array

end lines

end JsonText
