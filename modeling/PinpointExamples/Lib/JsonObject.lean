import Mathlib
import PinpointExamples.Lib.JsonLayout

/-!
# Objects that were printed one member a line

A printer that puts an object together line by line, without escaping: the value of a member is either a string
that is put between quotes as it is, or the text of some other value.  `faithful_iff` is the round trip: the text
reads as the object of its members exactly when every string put into it is plain.
-/

namespace JsonText

/-- The value of a member: a string put between quotes, or the text of a value. -/
inductive Part
  | embedded (s : List Char)
  | literal (text : List Char) (v : Value)

abbrev Member := List Char × Part

namespace Part

def text : Part → List Char
  | embedded s => '"' :: (s ++ ['"'])
  | literal text _ => text

def value : Part → Value
  | embedded s => .str s
  | literal _ v => v

end Part

def Member.line (m : Member) : List Char :=
  ' ' :: ' ' :: '"' :: (m.1 ++ '"' :: ':' :: ' ' :: m.2.text)

/-- The lines of the members, and the brace after them. -/
def linesText (m : Member) : List Member → List Char
  | [] => m.line ++ ['\n', '\x7d']
  | m' :: ms => m.line ++ ',' :: '\n' :: linesText m' ms

def objectText (m : Member) (ms : List Member) : List Char := '\x7b' :: '\n' :: linesText m ms

def Member.entry (m : Member) : List Char × Value := (m.1, m.2.value)

/-- The text reads as an object with these members, in whatever order. -/
def Faithful (text : List Char) (members : List (List Char × Value)) : Prop :=
  ∃ ms, Denotes text (.obj ms) ∧ ms.Perm members

/-- What follows the value of a member. -/
def AfterValue (rest : List Char) : Prop := ∃ t, rest = ',' :: '\n' :: t ∨ rest = ['\n', '\x7d']

/-- The text reads as the value, whatever follows the member. -/
def Reads (text : List Char) (v : Value) : Prop :=
  ∃ n, ∀ rest, AfterValue rest → readValue n (text ++ rest) = some (v, rest)

namespace Part

/-- The text of a literal reads as its value. -/
def Sound : Part → Prop
  | embedded _ => True
  | literal text v => Reads text v

/-- An embedded string needs no escape. -/
def IsPlain : Part → Prop
  | embedded s => Plain s
  | literal _ _ => True

end Part

/-! ### One member -/

private theorem AfterValue.breaksFirst {rest : List Char} (h : AfterValue rest) : BreaksFirst rest := by
  obtain ⟨t, rfl | rfl⟩ := h
  · exact ⟨[','], '\n', t, rfl, by decide, by simp⟩
  · exact ⟨[], '\n', ['\x7d'], rfl, by decide, by simp⟩

private theorem AfterValue.endsNumber {rest : List Char} (h : AfterValue rest) : EndsNumber rest := by
  intro c t he
  obtain ⟨t', rfl | rfl⟩ := h
  · obtain ⟨rfl, -⟩ := List.cons.inj he
    decide
  · obtain ⟨rfl, -⟩ := List.cons.inj he
    decide

theorem ReadsAs.reads {text : List Char} {v : Value} (h : ReadsAs text v) : Reads text v := by
  obtain ⟨n, hn⟩ := h
  exact ⟨n, fun rest _ => hn rest⟩

/-- A part reads as its value if it is plain. -/
theorem Part.reads_of_isPlain {p : Part} (hs : p.Sound) (hp : p.IsPlain) : Reads p.text p.value := by
  cases p with
  | embedded s => exact (ReadsAs.quoted hp).reads
  | literal text v => exact hs

/-- A part that reads as its value is plain, and is read up to its end. -/
theorem Part.isPlain_of_readValue {p : Part} (hs : p.Sound) {rest t : List Char} (hrest : AfterValue rest) {n : Nat}
    (h : readValue n (p.text ++ rest) = some (p.value, t)) : p.IsPlain ∧ t = rest := by
  cases p with
  | embedded s =>
    cases n with
    | zero =>
      rw [readValue] at h
      cases h
    | succ n =>
      have htext : (Part.embedded s).text ++ rest = '"' :: (s ++ '"' :: rest) := by simp [Part.text]
      rw [htext, readValue_string, Option.map_eq_some_iff] at h
      obtain ⟨⟨s', t'⟩, hread, he⟩ := h
      obtain ⟨rfl, rfl⟩ : s' = s ∧ t' = t := by simpa [Part.value] using he
      exact plain_of_readString hrest.breaksFirst hread
  | literal text v =>
    obtain ⟨k, hk⟩ := hs
    have he := readValue_unique h (hk rest hrest)
    exact ⟨trivial, congrArg Prod.snd he⟩

private theorem Member.readMembers_line (n : Nat) {m : Member} (hk : Plain m.1) (rest : List Char) :
    readMembers (n + 1) (m.line ++ rest) = membersAfter n m.1 (readValue n (m.2.text ++ rest)) := by
  have hindent : Blank [' ', ' '] := blank_spaces 2
  have hsep : Blank [' '] := blank_spaces 1
  exact readMembers_memberText n hindent hk hsep rest

/-- What was read of a member: its value, and more members if there is a comma after it. -/
theorem Member.of_readMembers {n : Nat} {m : Member} (hk : Plain m.1) {rest t : List Char}
    {es : List (List Char × Value)} (h : readMembers n (m.line ++ rest) = some (es, t)) :
    ∃ k v t' es', readValue k (m.2.text ++ rest) = some (v, t') ∧ es = (m.1, v) :: es' ∧
      ∀ t'', skipSpace t' = ',' :: t'' → readMembers k t'' = some (es', t) := by
  cases n with
  | zero =>
    rw [readMembers] at h
    cases h
  | succ n =>
    rw [Member.readMembers_line n hk, membersAfter.eq_def] at h
    split at h
    · cases h
    · rename_i v t' hvalue
      split at h
      · rename_i u ht
        obtain ⟨⟨es', t''⟩, hmembers, he⟩ := Option.map_eq_some_iff.1 h
        obtain ⟨rfl, rfl⟩ : (m.1, v) :: es' = es ∧ t'' = t := by simpa using he
        refine ⟨n, v, t', es', hvalue, rfl, ?_⟩
        intro u' hu
        obtain ⟨-, rfl⟩ := List.cons.inj (ht.symm.trans hu)
        exact hmembers
      · rename_i u ht
        refine ⟨n, v, t', [], hvalue, ?_, ?_⟩
        · have he : [(m.1, v)] = es ∧ u = t := by simpa using h
          exact he.1.symm
        · intro u' hu
          -- the object was closed here
          exact absurd (List.cons.inj (ht.symm.trans hu)).1 (by decide)
      · cases h

/-! ### Literals -/

theorem reads_true : Reads ['t', 'r', 'u', 'e'] (.bool true) := ReadsAs.true.reads

theorem reads_false : Reads ['f', 'a', 'l', 's', 'e'] (.bool false) := ReadsAs.false.reads

theorem reads_toString (i : Int) : Reads (toString i).toList (.num i) := by
  refine ⟨1, fun rest h => ?_⟩
  have hnumber := readNumber_toString i h.endsNumber
  obtain ⟨c, t, hi, hc⟩ := toString_eq_cons i
  rw [hi, List.cons_append] at hnumber ⊢
  rw [readValue_number 0 hc, hnumber]
  rfl

/-- The items of an array of strings, and the bracket after them. -/
def stringsText (s : List Char) : List (List Char) → List Char
  | [] => '"' :: (s ++ ['"', ']'])
  | s' :: ss => '"' :: (s ++ '"' :: ',' :: ' ' :: stringsText s' ss)

private theorem readsItems_stringsText {s : List Char} {ss : List (List Char)} (h : ∀ s' ∈ s :: ss, Plain s') :
    ReadsItems (stringsText s ss) ((s :: ss).map .str) := by
  have hs := ReadsAs.quoted (h s List.mem_cons_self)
  induction ss generalizing s with
  | nil =>
    have hlast := hs.lastItem blank_nil blank_nil
    simpa [stringsText, quoted] using hlast
  | cons s' ss ih =>
    have hrest : ∀ s'' ∈ s' :: ss, Plain s'' := fun s'' hm => h s'' (List.mem_cons_of_mem _ hm)
    have hsep : Blank [' '] := blank_spaces 1
    have hitems := (ih hrest (ReadsAs.quoted (hrest s' List.mem_cons_self))).blank hsep
    have hitem := hs.item blank_nil blank_nil hitems
    simpa [stringsText, quoted] using hitem

theorem reads_strings {s : List Char} {ss : List (List Char)} (h : ∀ s' ∈ s :: ss, Plain s') :
    Reads ('[' :: stringsText s ss) (.arr ((s :: ss).map .str)) :=
  (readsItems_stringsText h).array.reads

/-! ### All members -/

/-- What is put together from these members has plain and different keys, and sound literals. -/
structure Sound (ms : List Member) : Prop where
  keys : ∀ k ∈ ms.map Prod.fst, Plain k
  distinct : (ms.map Prod.fst).Nodup
  literals : ∀ m ∈ ms, m.2.Sound

theorem Sound.tail {m : Member} {ms : List Member} (h : Sound (m :: ms)) : Sound ms where
  keys k hk := h.keys k (List.mem_cons_of_mem _ hk)
  distinct := (List.nodup_cons.1 h.distinct).2
  literals m' hm := h.literals m' (List.mem_cons_of_mem _ hm)

/-- The member under a key is the one with the key. -/
theorem Sound.value_of_perm {m : Member} {ms : List Member} (h : Sound (m :: ms)) {v : Value}
    {es : List (List Char × Value)} (hperm : ((m.1, v) :: es).Perm ((m :: ms).map Member.entry)) :
    v = m.2.value := by
  have hmem : (m.1, v) ∈ (m :: ms).map Member.entry := hperm.mem_iff.1 List.mem_cons_self
  obtain ⟨m', hm', he⟩ := List.mem_map.1 hmem
  obtain ⟨hkey, rfl⟩ : m'.1 = m.1 ∧ m'.2.value = v := by simpa [Member.entry] using he
  rcases List.mem_cons.1 hm' with rfl | hm'
  · rfl
  · exact absurd (hkey ▸ List.mem_map_of_mem hm') (List.nodup_cons.1 h.distinct).1

private theorem afterValue_comma (t : List Char) : AfterValue (',' :: '\n' :: t) := ⟨t, .inl rfl⟩

private theorem afterValue_end : AfterValue ['\n', '\x7d'] := ⟨[], .inr rfl⟩

/-- Plain members are read back. -/
theorem readMembers_lines {m : Member} {ms : List Member} (h : Sound (m :: ms))
    (hplain : ∀ m' ∈ m :: ms, m'.2.IsPlain) :
    ∃ n, readMembers n (linesText m ms) = some ((m :: ms).map Member.entry, []) := by
  obtain ⟨k, hk⟩ := Part.reads_of_isPlain (h.literals m List.mem_cons_self) (hplain m List.mem_cons_self)
  have hkey := h.keys m.1 List.mem_cons_self
  induction ms generalizing m k with
  | nil =>
    refine ⟨k + 1, ?_⟩
    rw [linesText, Member.readMembers_line k hkey, hk _ afterValue_end]
    rfl
  | cons m' ms ih =>
    have hplain' := fun m'' hm => hplain m'' (List.mem_cons_of_mem _ hm)
    obtain ⟨k', hk'⟩ :=
      Part.reads_of_isPlain (h.tail.literals m' List.mem_cons_self) (hplain' m' List.mem_cons_self)
    obtain ⟨n, hn⟩ := ih h.tail hplain' k' hk' (h.tail.keys m'.1 List.mem_cons_self)
    refine ⟨max k n + 1, ?_⟩
    have hvalue := readValue_mono (Nat.le_max_left k n) (hk _ (afterValue_comma (linesText m' ms)))
    have hrest := readMembers_mono (Nat.le_max_right k n) hn
    rw [← readMembers_space _ (c := '\n') (by decide)] at hrest
    rw [linesText, Member.readMembers_line _ hkey, hvalue]
    show (readMembers (max k n) ('\n' :: linesText m' ms)).map _ = _
    rw [hrest]
    rfl

/-- Members that are read back, in whatever order, are plain. -/
theorem isPlain_of_readMembers {m : Member} {ms : List Member} (h : Sound (m :: ms)) {n : Nat}
    {es : List (List Char × Value)} {t : List Char} (hread : readMembers n (linesText m ms) = some (es, t))
    (hperm : es.Perm ((m :: ms).map Member.entry)) : ∀ m' ∈ m :: ms, m'.2.IsPlain := by
  have hkey := h.keys m.1 List.mem_cons_self
  have hsound := h.literals m List.mem_cons_self
  induction ms generalizing m n es t with
  | nil =>
    obtain ⟨k, v, t', es', hvalue, rfl, -⟩ := Member.of_readMembers hkey hread
    obtain rfl := h.value_of_perm hperm
    have hplain := (Part.isPlain_of_readValue hsound afterValue_end hvalue).1
    simpa using hplain
  | cons m' ms ih =>
    obtain ⟨k, v, t', es', hvalue, rfl, hcomma⟩ := Member.of_readMembers hkey hread
    obtain rfl := h.value_of_perm hperm
    -- the value is read up to its end, so the comma after it is the one that was printed
    obtain ⟨hplain, rfl⟩ := Part.isPlain_of_readValue hsound (afterValue_comma _) hvalue
    have hrest := hcomma ('\n' :: linesText m' ms) rfl
    rw [readMembers_space _ (by decide)] at hrest
    have hperm' : es'.Perm ((m' :: ms).map Member.entry) := List.Perm.cons_inv hperm
    have htail := ih h.tail hrest hperm' (h.tail.keys m'.1 List.mem_cons_self)
      (h.tail.literals m' List.mem_cons_self)
    intro m'' hm
    rcases List.mem_cons.1 hm with rfl | hm
    · exact hplain
    · exact htail m'' hm

private theorem readValue_objectText (n : Nat) (m : Member) (ms : List Member) :
    readValue (n + 1) (objectText m ms) =
      (readMembers n (linesText m ms)).map fun p => (.obj p.1, p.2) := by
  have hlines : ∃ t, skipSpace (linesText m ms) = '"' :: t := by
    cases ms with
    | nil => exact ⟨_, rfl⟩
    | cons m' ms => exact ⟨_, rfl⟩
  have hopen : skipSpace (objectText m ms) = objectText m ms := rfl
  obtain ⟨t, ht⟩ := hlines
  have hskip : skipSpace ('\n' :: linesText m ms) = '"' :: t := by
    rw [skipSpace_cons (by decide), ht]
  rw [← readMembers_skipSpace n (linesText m ms), ht, readValue, hopen, objectText]
  simp only [hskip]
  rfl

/-- The text reads as the object of its members exactly when every embedded string is plain. -/
theorem faithful_iff {m : Member} {ms : List Member} (h : Sound (m :: ms)) :
    Faithful (objectText m ms) ((m :: ms).map Member.entry) ↔ ∀ m' ∈ m :: ms, m'.2.IsPlain := by
  constructor
  · rintro ⟨es, ⟨n, t, hread, -⟩, hperm⟩
    cases n with
    | zero =>
      rw [readValue] at hread
      cases hread
    | succ n =>
      rw [readValue_objectText, Option.map_eq_some_iff] at hread
      obtain ⟨⟨es', t'⟩, hmembers, he⟩ := hread
      obtain ⟨rfl, rfl⟩ : es' = es ∧ t' = t := by simpa using he
      exact isPlain_of_readMembers h hmembers hperm
  · intro hplain
    obtain ⟨n, hn⟩ := readMembers_lines h hplain
    refine ⟨_, ⟨n + 1, [], ?_, rfl⟩, List.Perm.refl _⟩
    rw [readValue_objectText, hn]
    rfl

theorem faithful_iff_of_text {text : List Char} {m : Member} {ms : List Member} (htext : text = objectText m ms)
    (hkeys : ∀ k ∈ (m :: ms).map Prod.fst, Plain k) (hdistinct : ((m :: ms).map Prod.fst).Nodup)
    (hliterals : (m :: ms).Forall fun m' => m'.2.Sound) :
    Faithful text ((m :: ms).map Member.entry) ↔ (m :: ms).Forall fun m' => m'.2.IsPlain := by
  rw [List.forall_iff_forall_mem] at hliterals ⊢
  rw [htext]
  exact faithful_iff ⟨hkeys, hdistinct, hliterals⟩

end JsonText
