import Mathlib

/-!
# JSON texts

A reader for JSON texts, without a limit on their nesting: `Denotes x v` says that the text `x` is a JSON text with
the value `v`.  An object is the list of its members, in the order of the text, so a key that occurs twice is seen.
A `\u` escape that is half of a surrogate pair denotes no character and is not read.

The second half is about texts that were put together from parts.  A string whose characters need no escape is
`Plain`; between quotes it reads as itself (`readString_plain`).  The converse is `plain_of_readString`: if a string
was put between quotes as it is, and a control character follows before the next quote, then it can only read as
itself if it is plain.
-/

namespace JsonText

inductive Value
  | null
  | bool (b : Bool)
  | num (q : ℚ)
  | str (s : List Char)
  | arr (vs : List Value)
  | obj (ms : List (List Char × Value))

def IsSpace (c : Char) : Prop := c = ' ' ∨ c = '\n' ∨ c = '\t' ∨ c = '\r'

instance : DecidablePred IsSpace := fun c => inferInstanceAs (Decidable (c = ' ' ∨ c = '\n' ∨ c = '\t' ∨ c = '\r'))

def skipSpace (x : List Char) : List Char := x.dropWhile fun c => IsSpace c

/-! ### Strings -/

/-- The text up to the quote that ends a string, and what follows the quote. -/
def rawString : List Char → Option (List Char × List Char)
  | [] => none
  | '"' :: t => some ([], t)
  | '\\' :: c :: t => if c < ' ' then none else (rawString t).map fun p => ('\\' :: c :: p.1, p.2)
  | c :: t => if c < ' ' then none else (rawString t).map fun p => (c :: p.1, p.2)

def hexDigit (c : Char) : Option Nat :=
  if c.isDigit then some (c.toNat - '0'.toNat)
  else if 'a' ≤ c ∧ c ≤ 'f' then some (c.toNat - 'a'.toNat + 10)
  else if 'A' ≤ c ∧ c ≤ 'F' then some (c.toNat - 'A'.toNat + 10)
  else none

def hex4 (a b c d : Char) : Option Nat := do
  let a ← hexDigit a
  let b ← hexDigit b
  let c ← hexDigit c
  let d ← hexDigit d
  pure (((a * 16 + b) * 16 + c) * 16 + d)

def simpleEscape : Char → Option Char
  | '"' => some '"'
  | '\\' => some '\\'
  | '/' => some '/'
  | 'b' => some '\x08'
  | 'f' => some '\x0c'
  | 'n' => some '\n'
  | 'r' => some '\r'
  | 't' => some '\t'
  | _ => none

/-- The characters that the text of a string stands for. -/
def unescape : List Char → Option (List Char)
  | [] => some []
  | '\\' :: 'u' :: a :: b :: c :: d :: s =>
    match hex4 a b c d with
    | none => none
    | some n =>
      if 0xD800 ≤ n ∧ n < 0xDC00 then
        match s with
        | '\\' :: 'u' :: e :: f :: g :: h :: s' =>
          match hex4 e f g h with
          | none => none
          | some m =>
            if 0xDC00 ≤ m ∧ m < 0xE000 then
              (unescape s').map (Char.ofNat (0x10000 + (n - 0xD800) * 0x400 + (m - 0xDC00)) :: ·)
            else none
        | _ => none
      else if 0xDC00 ≤ n ∧ n < 0xE000 then none
      else (unescape s).map (Char.ofNat n :: ·)
  | '\\' :: c :: s =>
    match simpleEscape c with
    | none => none
    | some d => (unescape s).map (d :: ·)
  | ['\\'] => none
  | c :: s => (unescape s).map (c :: ·)

/-- Reads a string after its opening quote. -/
def readString (x : List Char) : Option (List Char × List Char) :=
  match rawString x with
  | none => none
  | some (raw, t) => (unescape raw).map fun s => (s, t)

/-! ### Numbers -/

def readInt : List Char → Option (Nat × List Char)
  | [] => none
  | '0' :: t => some (0, t)
  | c :: t =>
    if c.isDigit then
      some (Nat.ofDigitChars 10 ((c :: t).takeWhile Char.isDigit) 0, (c :: t).dropWhile Char.isDigit)
    else none

def readFraction : List Char → Option (ℚ × List Char)
  | '.' :: t =>
    let digits := t.takeWhile Char.isDigit
    if digits.isEmpty then none
    else some (Nat.ofDigitChars 10 digits 0 / 10 ^ digits.length, t.dropWhile Char.isDigit)
  | x => some (0, x)

/-- The digits of an exponent, after its sign. -/
def readExponentDigits (negative : Bool) (x : List Char) : Option (ℚ × List Char) :=
  let digits := x.takeWhile Char.isDigit
  if digits.isEmpty then none
  else
    let e := Nat.ofDigitChars 10 digits 0
    some (if negative then 1 / 10 ^ e else 10 ^ e, x.dropWhile Char.isDigit)

/-- The factor of an exponent. -/
def readExponent : List Char → Option (ℚ × List Char)
  | c :: t =>
    if c = 'e' ∨ c = 'E' then
      match t with
      | '+' :: t' => readExponentDigits false t'
      | '-' :: t' => readExponentDigits true t'
      | _ => readExponentDigits false t
    else some (1, c :: t)
  | [] => some (1, [])

def readUnsigned (x : List Char) : Option (ℚ × List Char) := do
  let (i, x) ← readInt x
  let (f, x) ← readFraction x
  let (e, x) ← readExponent x
  pure ((i + f) * e, x)

def readNumber : List Char → Option (ℚ × List Char)
  | '-' :: t => (readUnsigned t).map fun p => (-p.1, p.2)
  | x => readUnsigned x

/-! ### Values -/

mutual

/-- Reads a value, nested at most as deep as the fuel allows. -/
def readValue : Nat → List Char → Option (Value × List Char)
  | 0, _ => none
  | n + 1, x =>
    match skipSpace x with
    | 'n' :: 'u' :: 'l' :: 'l' :: t => some (.null, t)
    | 't' :: 'r' :: 'u' :: 'e' :: t => some (.bool true, t)
    | 'f' :: 'a' :: 'l' :: 's' :: 'e' :: t => some (.bool false, t)
    | '"' :: t => (readString t).map fun p => (.str p.1, p.2)
    | '[' :: t =>
      match skipSpace t with
      | ']' :: t' => some (.arr [], t')
      | t' => (readItems n t').map fun p => (.arr p.1, p.2)
    | '\x7b' :: t =>
      match skipSpace t with
      | '\x7d' :: t' => some (.obj [], t')
      | t' => (readMembers n t').map fun p => (.obj p.1, p.2)
    | y => (readNumber y).map fun p => (.num p.1, p.2)

/-- Reads the items of an array and the bracket after them. -/
def readItems : Nat → List Char → Option (List Value × List Char)
  | 0, _ => none
  | n + 1, x =>
    match readValue n x with
    | none => none
    | some (v, t) =>
      match skipSpace t with
      | ',' :: t' => (readItems n t').map fun p => (v :: p.1, p.2)
      | ']' :: t' => some ([v], t')
      | _ => none

/-- Reads the members of an object and the brace after them. -/
def readMembers : Nat → List Char → Option (List (List Char × Value) × List Char)
  | 0, _ => none
  | n + 1, x =>
    match skipSpace x with
    | '"' :: t =>
      match readString t with
      | none => none
      | some (k, t) =>
        match skipSpace t with
        | ':' :: t =>
          match readValue n t with
          | none => none
          | some (v, t) =>
            match skipSpace t with
            | ',' :: t' => (readMembers n t').map fun p => ((k, v) :: p.1, p.2)
            | '\x7d' :: t' => some ([(k, v)], t')
            | _ => none
        | _ => none
    | _ => none

end

/-- The text is a JSON text with this value. -/
def Denotes (x : List Char) (v : Value) : Prop := ∃ fuel t, readValue fuel x = some (v, t) ∧ skipSpace t = []

/-! ### Printed integers -/

/-- What follows a number does not go on with it. -/
def EndsNumber (rest : List Char) : Prop :=
  ∀ c t, rest = c :: t → c.isDigit = false ∧ c ≠ '.' ∧ c ≠ 'e' ∧ c ≠ 'E'

/-- The decimal digits of a positive number do not start with zero. -/
theorem exists_toDigits_eq_cons {n : Nat} (h : 0 < n) : ∃ c ds, Nat.toDigits 10 n = c :: ds ∧ c ≠ '0' := by
  induction n using Nat.strong_induction_on with
  | _ n ih =>
    rw [Nat.toDigits_eq_if (by omega)]
    by_cases hn : n < 10
    · rw [if_pos hn]
      refine ⟨_, _, rfl, ?_⟩
      intro hc
      rw [Nat.digitChar_eq_zero] at hc
      omega
    · rw [if_neg hn]
      obtain ⟨c, ds, hds, hc⟩ := ih (n / 10) (by omega) (by omega)
      rw [hds]
      exact ⟨c, _, rfl, hc⟩

private theorem readInt_toDigits (n : Nat) {rest : List Char} (h : EndsNumber rest) :
    readInt (Nat.toDigits 10 n ++ rest) = some (n, rest) := by
  rcases Nat.eq_zero_or_pos n with rfl | hn
  · rfl
  · obtain ⟨c, ds, hds, hc⟩ := exists_toDigits_eq_cons hn
    have hdigit : ∀ d ∈ c :: ds, d.isDigit = true := by
      intro d hd
      rw [← hds] at hd
      exact Nat.isDigit_of_mem_toDigits (by omega) (by omega) hd
    have hrest : rest.takeWhile Char.isDigit = [] ∧ rest.dropWhile Char.isDigit = rest := by
      cases rest with
      | nil => simp
      | cons d t => simp [(h d t rfl).1]
    have htake : (c :: (ds ++ rest)).takeWhile Char.isDigit = c :: ds := by
      rw [← List.cons_append, List.takeWhile_append_of_pos hdigit, hrest.1, List.append_nil]
    have hdrop : (c :: (ds ++ rest)).dropWhile Char.isDigit = rest := by
      rw [← List.cons_append, List.dropWhile_append_of_pos hdigit, hrest.2]
    rw [hds, List.cons_append, readInt]
    · rw [if_pos (hdigit c List.mem_cons_self), htake, hdrop, ← hds, Nat.ofDigitChars_ten_toDigits]
    · exact hc

private theorem readUnsigned_toDigits (n : Nat) {rest : List Char} (h : EndsNumber rest) :
    readUnsigned (Nat.toDigits 10 n ++ rest) = some ((n : ℚ), rest) := by
  have hfraction : readFraction rest = some (0, rest) := by
    cases rest with
    | nil => rfl
    | cons c t =>
      rw [readFraction]
      intro t' he
      exact (h c t rfl).2.1 (List.cons.inj he).1
  have hexponent : readExponent rest = some (1, rest) := by
    cases rest with
    | nil => rfl
    | cons c t =>
      obtain ⟨-, -, he, hE⟩ := h c t rfl
      exact if_neg (not_or.2 ⟨he, hE⟩)
  simp [readUnsigned, readInt_toDigits n h, hfraction, hexponent]

private theorem toDigits_eq_cons (n : Nat) : ∃ c ds, Nat.toDigits 10 n = c :: ds ∧ c.isDigit = true := by
  cases hd : Nat.toDigits 10 n with
  | nil => exact absurd hd Nat.toDigits_ne_nil
  | cons c ds =>
    refine ⟨c, ds, rfl, ?_⟩
    apply Nat.isDigit_of_mem_toDigits (b := 10) (n := n) (by omega) (by omega)
    rw [hd]
    exact List.mem_cons_self

theorem readNumber_toString (i : Int) {rest : List Char} (h : EndsNumber rest) :
    readNumber ((toString i).toList ++ rest) = some ((i : ℚ), rest) := by
  rw [Int.toString_eq_repr, Int.repr_eq_if]
  by_cases hi : 0 ≤ i
  · have hcast : ((i.toNat : ℚ)) = i := by
      rw [← Int.cast_natCast, Int.toNat_of_nonneg hi]
    have hnumber : readNumber (Nat.toDigits 10 i.toNat ++ rest) = readUnsigned (Nat.toDigits 10 i.toNat ++ rest) := by
      rw [readNumber]
      intro t he
      obtain ⟨c, ds, hd, hc⟩ := toDigits_eq_cons i.toNat
      rw [hd] at he
      rw [(List.cons.inj he).1] at hc
      exact absurd hc (by decide)
    rw [if_pos hi, Nat.toList_repr, hnumber, readUnsigned_toDigits _ h, hcast]
  · have hcast : ((-i).toNat : ℚ) = -i := by
      rw [← Int.cast_natCast, Int.toNat_of_nonneg (by omega), Int.cast_neg]
    rw [if_neg hi, String.toList_append, Nat.toList_repr]
    show (readUnsigned (Nat.toDigits 10 (-i).toNat ++ rest)).map (fun p => (-p.1, p.2)) = _
    rw [readUnsigned_toDigits _ h, hcast, Option.map_some, neg_neg]

/-- A printed integer starts with its sign or a digit. -/
theorem toString_eq_cons (i : Int) : ∃ c t, (toString i).toList = c :: t ∧ (c = '-' ∨ c.isDigit = true) := by
  rw [Int.toString_eq_repr, Int.repr_eq_if]
  by_cases hi : 0 ≤ i
  · obtain ⟨c, ds, hd, hc⟩ := toDigits_eq_cons i.toNat
    rw [if_pos hi, Nat.toList_repr, hd]
    exact ⟨c, ds, rfl, .inr hc⟩
  · rw [if_neg hi, String.toList_append]
    exact ⟨'-', _, rfl, .inl rfl⟩

theorem readValue_number (n : Nat) {c : Char} (hc : c = '-' ∨ c.isDigit = true) (t : List Char) :
    readValue (n + 1) (c :: t) = (readNumber (c :: t)).map fun p => (.num p.1, p.2) := by
  have hne : ∀ d : Char, d ≠ '-' → d.isDigit = false → c ≠ d := by
    rintro d hd hdigit rfl
    rcases hc with hc | hc
    · exact hd hc
    · rw [hdigit] at hc
      cases hc
  have hspace : ¬ IsSpace c := by
    rintro (h | h | h | h)
    all_goals exact hne _ (by decide) (by decide) h
  have hskip : skipSpace (c :: t) = c :: t := by
    rw [skipSpace, List.dropWhile_cons_of_neg (by simpa using hspace)]
  rw [readValue, hskip]
  split
  case h_7 => rfl
  all_goals
    rename_i he
    exact absurd (List.cons.inj he).1 (hne _ (by decide) (by decide))

theorem readValue_string (n : Nat) (t : List Char) :
    readValue (n + 1) ('"' :: t) = (readString t).map fun p => (.str p.1, p.2) := by
  rw [readValue]
  rfl

/-! ### Fuel -/

private theorem map_of_imp {α β : Type} {a b : Option α} {f : α → β} {r : β} (h : a.map f = some r)
    (himp : ∀ x, a = some x → b = some x) : b.map f = some r := by
  obtain ⟨x, hx, hr⟩ := Option.map_eq_some_iff.1 h
  exact Option.map_eq_some_iff.2 ⟨x, himp x hx, hr⟩

/-- What was read with some fuel is read with more fuel. -/
theorem read_succ (n : Nat) :
    (∀ x r, readValue n x = some r → readValue (n + 1) x = some r) ∧
    (∀ x r, readItems n x = some r → readItems (n + 1) x = some r) ∧
    (∀ x r, readMembers n x = some r → readMembers (n + 1) x = some r) := by
  induction n with
  | zero =>
    refine ⟨?_, ?_, ?_⟩
    · intro x r h
      rw [readValue] at h
      cases h
    · intro x r h
      rw [readItems] at h
      cases h
    · intro x r h
      rw [readMembers] at h
      cases h
  | succ n ih =>
    obtain ⟨ihValue, ihItems, ihMembers⟩ := ih
    refine ⟨?_, ?_, ?_⟩
    · intro x r h
      rw [readValue] at h ⊢
      split at h
      -- only arrays and objects read further values
      case h_5 =>
        split at h
        · exact h
        · exact map_of_imp h (ihItems _)
      case h_6 =>
        split at h
        · exact h
        · exact map_of_imp h (ihMembers _)
      all_goals exact h
    · intro x r h
      rw [readItems] at h ⊢
      split at h
      · cases h
      · rename_i v t hv
        simp only [ihValue _ _ hv]
        split at h
        · exact map_of_imp h (ihItems _)
        · exact h
        · cases h
    · intro x r h
      rw [readMembers] at h ⊢
      split at h
      · split at h
        · cases h
        · split at h
          · split at h
            · cases h
            · rename_i v t hv
              simp only [ihValue _ _ hv]
              split at h
              · exact map_of_imp h (ihMembers _)
              · exact h
              · cases h
          · cases h
      · cases h

theorem readValue_mono {n m : Nat} (hnm : n ≤ m) {x : List Char} {r : Value × List Char}
    (h : readValue n x = some r) : readValue m x = some r :=
  Nat.le_induction h (fun k _ ih => (read_succ k).1 x r ih) m hnm

theorem readMembers_mono {n m : Nat} (hnm : n ≤ m) {x : List Char} {r : List (List Char × Value) × List Char}
    (h : readMembers n x = some r) : readMembers m x = some r :=
  Nat.le_induction h (fun k _ ih => (read_succ k).2.2 x r ih) m hnm

/-- Fuel does not change what is read. -/
theorem readValue_unique {n m : Nat} {x : List Char} {r r' : Value × List Char} (h : readValue n x = some r)
    (h' : readValue m x = some r') : r = r' := by
  have hl := readValue_mono (Nat.le_max_left n m) h
  have hr := readValue_mono (Nat.le_max_right n m) h'
  exact Option.some.inj (hl.symm.trans hr)

/-! ### Strings that were put between quotes as they are -/

/-- No character needs an escape. -/
def Plain (s : List Char) : Prop := ∀ c ∈ s, c ≠ '"' ∧ c ≠ '\\' ∧ ¬ c < ' '

/-- A control character comes before any quote. -/
def BreaksFirst (x : List Char) : Prop := ∃ pre c post, x = pre ++ c :: post ∧ c < ' ' ∧ '"' ∉ pre

private theorem Plain.cons_iff {c : Char} {s : List Char} :
    Plain (c :: s) ↔ (c ≠ '"' ∧ c ≠ '\\' ∧ ¬ c < ' ') ∧ Plain s := by
  simp [Plain]

theorem plain_append {a b : List Char} : Plain (a ++ b) ↔ Plain a ∧ Plain b := by
  simp only [Plain, List.mem_append, or_imp, forall_and]
  tauto

private theorem rawString_cons {c : Char} {t : List Char} (hq : c ≠ '"') (hb : c ≠ '\\') (hc : ¬ c < ' ') :
    rawString (c :: t) = (rawString t).map fun p => (c :: p.1, p.2) := by
  rw [rawString]
  · rw [if_neg hc]
  · exact hq
  · intro d t' h
    exact absurd h hb

private theorem unescape_cons {c : Char} {s : List Char} (hb : c ≠ '\\') :
    unescape (c :: s) = (unescape s).map (c :: ·) := by
  rw [unescape]
  · intro a b d e s' h
    exact absurd h hb
  · intro d s' h
    exact absurd h hb
  · intro h
    exact absurd h hb

private theorem rawString_plain {s : List Char} (h : Plain s) (t : List Char) :
    rawString (s ++ '"' :: t) = some (s, t) := by
  induction s with
  | nil => rfl
  | cons c s ih =>
    obtain ⟨⟨hq, hb, hc⟩, hs⟩ := Plain.cons_iff.1 h
    rw [List.cons_append, rawString_cons hq hb hc, ih hs]
    rfl

private theorem unescape_plain {s : List Char} (h : Plain s) : unescape s = some s := by
  induction s with
  | nil => rfl
  | cons c s ih =>
    obtain ⟨⟨_, hb, _⟩, hs⟩ := Plain.cons_iff.1 h
    rw [unescape_cons hb, ih hs]
    rfl

/-- Between quotes a plain string reads as itself. -/
theorem readString_plain {s : List Char} (h : Plain s) (t : List Char) :
    readString (s ++ '"' :: t) = some (s, t) := by
  rw [readString, rawString_plain h t]
  simp only [unescape_plain h, Option.map_some]

/-- The text of a string ends at a quote, contains no control character, and contains a quote only in an escape. -/
theorem rawString_spec {x raw t : List Char} (h : rawString x = some (raw, t)) :
    x = raw ++ '"' :: t ∧ (∀ c ∈ raw, ¬ c < ' ') ∧ ('\\' ∉ raw → '"' ∉ raw) := by
  fun_induction rawString x generalizing raw with
  | case1 => cases h
  | case2 t' =>
    obtain ⟨rfl, rfl⟩ : [] = raw ∧ t' = t := by simpa using h
    simp
  | case3 c t' hc => cases h
  | case4 c t' hc ih =>
    simp only [Option.map_eq_some_iff, Prod.mk.injEq] at h
    obtain ⟨⟨raw', t''⟩, hr, rfl, rfl⟩ := h
    obtain ⟨rfl, hctl, -⟩ := ih hr
    refine ⟨rfl, ?_, ?_⟩
    · intro d hd
      rcases List.mem_cons.1 hd with rfl | hd
      · decide
      · rcases List.mem_cons.1 hd with rfl | hd
        · exact hc
        · exact hctl d hd
    · intro hb
      -- an escape starts with a backslash
      exact absurd List.mem_cons_self hb
  | case5 c t' hq hb hc => cases h
  | case6 c t' hq hb hc ih =>
    simp only [Option.map_eq_some_iff, Prod.mk.injEq] at h
    obtain ⟨⟨raw', t''⟩, hr, rfl, rfl⟩ := h
    obtain ⟨rfl, hctl, hquote⟩ := ih hr
    refine ⟨rfl, ?_, ?_⟩
    · intro d hd
      rcases List.mem_cons.1 hd with rfl | hd
      · exact hc
      · exact hctl d hd
    · intro hnot hm
      rcases List.mem_cons.1 hm with he | hm
      · exact hq he.symm
      · exact hquote (fun hb' => hnot (List.mem_cons_of_mem _ hb')) hm

private theorem length_le_of_escape {s v : List Char} {d : Char}
    (ih : ∀ {v}, unescape s = some v → v.length ≤ s.length) (h : (unescape s).map (d :: ·) = some v) :
    v.length ≤ s.length + 1 := by
  obtain ⟨v', hv, rfl⟩ := Option.map_eq_some_iff.1 h
  have hlen := ih hv
  rw [List.length_cons]
  omega

/-- A string is at most as long as its text, and as long only if there is no escape in it. -/
theorem unescape_spec {raw v : List Char} (h : unescape raw = some v) :
    v.length ≤ raw.length ∧ (v.length = raw.length → v = raw ∧ '\\' ∉ raw) := by
  fun_induction unescape raw generalizing v with
  | case1 =>
    obtain rfl : [] = v := by simpa using h
    simp
  -- an escape stands for one character, and takes two at least
  | case4 a b c d n hn hlo e f g h' s' m hm hhi ih =>
    have hlen := length_le_of_escape (fun h => (ih h).1) h
    simp only [List.length_cons]
    omega
  | case8 a b c d s n hn hlo hhi ih =>
    have hlen := length_le_of_escape (fun h => (ih h).1) h
    simp only [List.length_cons]
    omega
  | case10 c s hu d hd ih =>
    have hlen := length_le_of_escape (fun h => (ih h).1) h
    simp only [List.length_cons]
    omega
  | case12 c s hu hb hb' ih =>
    obtain ⟨v', hv, rfl⟩ := Option.map_eq_some_iff.1 h
    have hc : '\\' ≠ c := by
      intro hc
      cases s with
      | nil => exact hb' hc.symm rfl
      | cons d s => exact hb d s hc.symm rfl
    constructor
    · have hlen := (ih hv).1
      simp only [List.length_cons]
      omega
    · intro hlen
      obtain ⟨rfl, hnot⟩ := (ih hv).2 (by simpa using hlen)
      refine ⟨rfl, ?_⟩
      intro hmem
      rcases List.mem_cons.1 hmem with h | h
      · exact hc h
      · exact hnot h
  | case2 | case3 | case5 | case6 | case7 | case9 | case11 => cases h

/-- Every quote after the control character of `BreaksFirst` has the control character before it. -/
theorem control_of_later_quote {s rest raw t : List Char} (hrest : BreaksFirst rest)
    (h : s ++ '"' :: rest = raw ++ '"' :: t) (hlen : s.length < raw.length) : ∃ c ∈ raw, c < ' ' := by
  obtain ⟨pre, c, post, rfl, hc, hpre⟩ := hrest
  refine ⟨c, ?_, hc⟩
  have hne : c ≠ '"' := by
    rintro rfl
    exact absurd hc (by decide)
  have h' : (s ++ '"' :: pre) ++ c :: post = raw ++ '"' :: t := by simpa using h
  rcases List.append_eq_append_iff.1 h' with ⟨e, hraw, he⟩ | ⟨e, hraw, he⟩
  · cases e with
    | nil => exact absurd (List.cons.inj he).1 hne
    | cons d e =>
      obtain ⟨rfl, -⟩ := List.cons.inj he
      simp [hraw]
  · -- the quote would be one of `pre`
    exfalso
    cases e with
    | nil => exact hne (List.cons.inj he).1.symm
    | cons d e =>
      obtain ⟨rfl, -⟩ := List.cons.inj he
      rcases List.append_eq_append_iff.1 hraw with ⟨e', rfl, he'⟩ | ⟨e', rfl, -⟩
      · cases e' with
        | nil => simp at hlen
        | cons d e' =>
          obtain ⟨-, rfl⟩ := List.cons.inj he'
          exact hpre (by simp)
      · simp only [List.length_append] at hlen
        omega

/-- A string that was put between quotes as it is reads as itself only if no character of it needs an escape. -/
theorem plain_of_readString {s rest t : List Char} (hrest : BreaksFirst rest)
    (h : readString (s ++ '"' :: rest) = some (s, t)) : Plain s ∧ t = rest := by
  unfold readString at h
  cases hr : rawString (s ++ '"' :: rest) with
  | none => rw [hr] at h; cases h
  | some p =>
    obtain ⟨raw, t'⟩ := p
    rw [hr] at h
    obtain ⟨v, hv, he⟩ := Option.map_eq_some_iff.1 h
    obtain ⟨rfl, rfl⟩ : v = s ∧ t' = t := by simpa using he
    obtain ⟨hx, hctl, hquote⟩ := rawString_spec hr
    obtain ⟨hle, heq⟩ := unescape_spec hv
    -- the text read is as long as `v` only if the quote put after `v` is the one that ends it
    rcases Nat.eq_or_lt_of_le hle with hlen | hlen
    · obtain ⟨rfl, hb⟩ := heq hlen
      have hrest' : rest = t' := by simpa using hx
      refine ⟨?_, hrest'.symm⟩
      intro c hc
      refine ⟨?_, ?_, hctl c hc⟩
      · rintro rfl
        exact hquote hb hc
      · rintro rfl
        exact hb hc
    · -- else the text goes on to a later quote, over the control character
      obtain ⟨c, hc, hlt⟩ := control_of_later_quote hrest hx hlen
      exact absurd hlt (hctl c hc)

end JsonText
