import Mathlib
import PinpointExamples.Text

/-!
# The options of the demo scripts

`_lib.sh` reads the arguments of a driver in one loop with a flag for the operand of `--load`, and `demo_main` runs
the command that it leaves in `DEMO_CMD`.  The arguments that the loop accepts are the sequences of commands and
durations (`Item`): it reads back the words of such a sequence (`readOptions_args`), and what it reads to the end is
one (`items_of_readOptions`).
-/

namespace PinpointExamples.Scripts

/-! ### The script -/

/-- The variables of the loop. -/
structure Options where
  demoCmd : Str
  runLoadDuration : Str
  expectDuration : Bool
  deriving DecidableEq, Repr

def Options.start : Options where
  demoCmd := "up"
  runLoadDuration := "0"
  expectDuration := false

/-- The pattern `''|*[!0-9]*`. -/
def noInteger (opt : Str) : Bool := opt.isEmpty || opt.any fun c => !('0' ≤ c && c ≤ '9')

/-- The body of the loop; an error is the text that `die` prints before the script exits.  `script` is `$0`. -/
def readOption (script : Str) (o : Options) (opt : Str) : Except Str Options :=
  if o.expectDuration then
    if noInteger opt then .error ("--load requires an integer duration in seconds, got '" ++ opt ++ "'")
    else .ok { o with runLoadDuration := opt, expectDuration := false }
  else if opt = "up" ∨ opt = "test" ∨ opt = "down" then .ok { o with demoCmd := opt }
  else if opt = "--load" then .ok { o with expectDuration := true }
  else .error ("unknown option '" ++ opt ++ "' (usage: " ++ script ++ " [up|test|down] [--load <seconds>])")

/-- The loop. -/
def readOptions (script : Str) (o : Options) (args : List Str) : Except Str Options :=
  args.foldlM (readOption script) o

/-- The loop and the check after it. -/
def parseOptions (script : Str) (args : List Str) : Except Str Options := do
  let o ← readOptions script .start args
  if o.expectDuration then .error "--load requires a duration in seconds" else .ok o

/-- The functions of a driver that `demo_main` may run. -/
inductive DemoFunction
  | up
  | testEndpoints
  | down
  deriving DecidableEq, Repr

/-- `demo_main`: the functions it runs. -/
def demoMain (demoCmd : Str) : List DemoFunction :=
  if demoCmd = "up" then [.up]
  else if demoCmd = "test" then [.testEndpoints]
  else if demoCmd = "down" then [.down]
  else []

/-- What a driver runs. -/
def driver (script : Str) (args : List Str) : Except Str (List DemoFunction) := do
  let o ← parseOptions script args
  pure (demoMain o.demoCmd)

/-! ### The arguments it is meant for -/

inductive Command
  | up
  | test
  | down
  deriving DecidableEq, Repr

namespace Command

def word : Command → Str
  | up => "up"
  | test => "test"
  | down => "down"

def function : Command → DemoFunction
  | up => .up
  | test => .testEndpoints
  | down => .down

end Command

/-- A non-empty string of decimal digits. -/
structure Duration where
  digits : Str
  nonempty : digits ≠ []
  isDigit : ∀ c ∈ digits, c.isDigit = true
  deriving DecidableEq

inductive Item
  | command (c : Command)
  | load (d : Duration)
  deriving DecidableEq

namespace Item

def words : Item → List Str
  | command c => [c.word]
  | load d => ["--load", d.digits]

def command? : Item → Option Command
  | command c => some c
  | load _ => none

def duration? : Item → Option Duration
  | command _ => none
  | load d => some d

end Item

/-- The arguments for a sequence of items. -/
def args (items : List Item) : List Str := items.flatMap Item.words

/-- The last command word; `up` if there is none. -/
def lastCommand (items : List Item) : Command := (items.filterMap Item.command?).getLastD .up

/-- The last duration; 0 if there is none. -/
def lastDuration (items : List Item) : Str := ((items.filterMap Item.duration?).map Duration.digits).getLastD "0"

/-! ### One word -/

section word

variable (script : Str) {o o' : Options} {opt : Str}

private theorem Command.word_cases (c : Command) : c.word = "up" ∨ c.word = "test" ∨ c.word = "down" := by
  cases c
  · exact .inl rfl
  · exact .inr (.inl rfl)
  · exact .inr (.inr rfl)

/-- The pattern leaves the durations. -/
theorem noInteger_eq_false_iff : noInteger opt = false ↔ opt ≠ [] ∧ ∀ c ∈ opt, c.isDigit = true := by
  simp [noInteger, Char.isDigit, Char.le_def]

private theorem exists_command_of_word (h : opt = "up" ∨ opt = "test" ∨ opt = "down") :
    ∃ c : Command, opt = c.word := by
  rcases h with rfl | rfl | rfl
  · exact ⟨.up, rfl⟩
  · exact ⟨.test, rfl⟩
  · exact ⟨.down, rfl⟩

private theorem readOption_command (h : o.expectDuration = false) (c : Command) :
    readOption script o c.word = .ok { o with demoCmd := c.word } := by
  unfold readOption
  rw [if_neg (by simp [h]), if_pos c.word_cases]

private theorem readOption_load (h : o.expectDuration = false) :
    readOption script o "--load" = .ok { o with expectDuration := true } := by
  unfold readOption
  rw [if_neg (by simp [h]), if_neg (by decide), if_pos rfl]

/-- The word after `--load` only sets the duration. -/
theorem readOption_duration (h : o.expectDuration = true) (d : Duration) :
    readOption script o d.digits = .ok { o with runLoadDuration := d.digits, expectDuration := false } := by
  have hinteger : noInteger d.digits = false := noInteger_eq_false_iff.2 ⟨d.nonempty, d.isDigit⟩
  unfold readOption
  rw [if_pos h, if_neg (by simp [hinteger])]

/-- All that a word can do. -/
theorem readOption_cases {script : Str} (h : readOption script o opt = .ok o') :
    (o.expectDuration = true ∧ o'.expectDuration = false ∧ ∃ d : Duration, opt = d.digits) ∨
    (o.expectDuration = false ∧ o'.expectDuration = false ∧ ∃ c : Command, opt = c.word) ∨
    (o.expectDuration = false ∧ o'.expectDuration = true ∧ opt = "--load") := by
  unfold readOption at h
  split at h
  · rename_i hexpect
    split at h
    · cases h
    · rename_i hinteger
      cases h
      obtain ⟨hne, hdigit⟩ := noInteger_eq_false_iff.1 (Bool.eq_false_iff.2 hinteger)
      exact .inl ⟨hexpect, rfl, ⟨opt, hne, hdigit⟩, rfl⟩
  · rename_i hexpect
    have hfree : o.expectDuration = false := by simpa using hexpect
    split at h
    · rename_i hword
      cases h
      exact .inr (.inl ⟨hfree, hfree, exists_command_of_word hword⟩)
    · split at h
      · rename_i hload
        cases h
        exact .inr (.inr ⟨hfree, rfl, hload⟩)
      · cases h

end word

/-! ### All words -/

section run

variable (script : Str) {o o' : Options}

private theorem args_command (c : Command) (items : List Item) :
    args (.command c :: items) = c.word :: args items := rfl

private theorem args_load (d : Duration) (items : List Item) :
    args (.load d :: items) = ("--load" : Str) :: d.digits :: args items := rfl

private theorem readOptions_cons (opt : Str) (words : List Str) :
    readOptions script o (opt :: words) =
      (readOption script o opt).bind fun o' => readOptions script o' words := rfl

private theorem readOptions_command (h : o.expectDuration = false) (c : Command) (words : List Str) :
    readOptions script o (c.word :: words) = readOptions script { o with demoCmd := c.word } words := by
  rw [readOptions_cons, readOption_command script h]
  rfl

private theorem readOptions_load (h : o.expectDuration = false) (d : Duration) (words : List Str) :
    readOptions script o (("--load" : Str) :: d.digits :: words) =
      readOptions script { o with runLoadDuration := d.digits } words := by
  have hd := readOption_duration script (o := { o with expectDuration := true }) rfl d
  rw [readOptions_cons, readOption_load script h]
  change readOptions script { o with expectDuration := true } (d.digits :: words) = _
  rw [readOptions_cons, hd, ← h]
  rfl

/-- The loop reads a sequence of items, and the last of each kind stays. -/
theorem readOptions_args (h : o.expectDuration = false) (items : List Item) :
    readOptions script o (args items) = .ok { o with
      demoCmd := ((items.filterMap Item.command?).map Command.word).getLastD o.demoCmd
      runLoadDuration := ((items.filterMap Item.duration?).map Duration.digits).getLastD o.runLoadDuration } := by
  induction items generalizing o with
  | nil => rfl
  | cons item items ih =>
    cases item with
    | command c =>
      have hrest := ih (o := { o with demoCmd := c.word }) h
      rw [args_command, readOptions_command script h, hrest]
      simp only [List.filterMap_cons, Item.command?, Item.duration?, List.map_cons, List.getLastD_cons]
    | load d =>
      have hrest := ih (o := { o with runLoadDuration := d.digits }) h
      rw [args_load, readOptions_load script h, hrest]
      simp only [List.filterMap_cons, Item.command?, Item.duration?, List.map_cons, List.getLastD_cons]

/-- A `--load` whose operand is still to come. -/
def pending (o : Options) : List Str := if o.expectDuration then ["--load"] else []

private theorem pending_of_expect (h : o.expectDuration = true) : pending o = ["--load"] := if_pos h

private theorem pending_of_not_expect (h : o.expectDuration = false) : pending o = [] := if_neg (by simp [h])

/-- What the loop reads to the end, with the pending `--load` put back in front, is a sequence of items. -/
theorem items_of_readOptions {script : Str} {words : List Str} (h : readOptions script o words = .ok o')
    (ho' : o'.expectDuration = false) : ∃ items, pending o ++ words = args items := by
  -- word by word; the flag of the loop says whether the word is an operand
  induction words generalizing o with
  | nil =>
    cases h
    exact ⟨[], by rw [pending_of_not_expect ho']; rfl⟩
  | cons opt words ih =>
    rw [readOptions_cons] at h
    rcases hread : readOption script o opt with message | o₁
    · rw [hread] at h
      cases h
    · rw [hread] at h
      obtain ⟨items, hitems⟩ := ih h
      rcases readOption_cases hread with ⟨ho, ho₁, d, rfl⟩ | ⟨ho, ho₁, c, rfl⟩ | ⟨ho, ho₁, rfl⟩
      · rw [pending_of_not_expect ho₁, List.nil_append] at hitems
        refine ⟨.load d :: items, ?_⟩
        rw [pending_of_expect ho, args_load, ← hitems]
        rfl
      · rw [pending_of_not_expect ho₁, List.nil_append] at hitems
        refine ⟨.command c :: items, ?_⟩
        rw [pending_of_not_expect ho, args_command, ← hitems]
        rfl
      · -- the operand follows in the rest
        refine ⟨items, ?_⟩
        rw [pending_of_not_expect ho, ← hitems, pending_of_expect ho₁]
        rfl

/-- The check after the loop. -/
theorem parseOptions_ok_iff (words : List Str) (o : Options) :
    parseOptions script words = .ok o ↔ readOptions script .start words = .ok o ∧ o.expectDuration = false := by
  unfold parseOptions
  rcases readOptions script .start words with message | o₁
  · constructor
    · intro h
      cases h
    · rintro ⟨h, -⟩
      cases h
  · change (if o₁.expectDuration = true then _ else _) = _ ↔ _
    constructor
    · intro h
      split at h
      · cases h
      · rename_i hfree
        cases h
        exact ⟨rfl, by simpa using hfree⟩
    · rintro ⟨h, hfree⟩
      cases h
      rw [if_neg (by simp [hfree])]

private theorem parseOptions_args (items : List Item) : parseOptions script (args items) =
    .ok { demoCmd := (lastCommand items).word, runLoadDuration := lastDuration items, expectDuration := false } := by
  have hread := readOptions_args script (o := .start) rfl items
  have hcommand : ((items.filterMap Item.command?).map Command.word).getLastD Options.start.demoCmd =
      (lastCommand items).word :=
    List.getLastD_map (l := items.filterMap Item.command?) (f := Command.word) (a := .up)
  rw [hcommand] at hread
  exact (parseOptions_ok_iff script _ _).2 ⟨hread, rfl⟩

private theorem demoMain_word (c : Command) : demoMain c.word = [c.function] := by
  cases c <;> decide

/-- `--load` begins an item, and the word after it is its duration. -/
theorem word_after_load {items : List Item} {before after : List Str} {w : Str}
    (h : args items = before ++ ("--load" : Str) :: w :: after) :
    ∃ (front back : List Item) (d : Duration), items = front ++ .load d :: back ∧ before = args front ∧
      w = d.digits ∧ after = args back := by
  induction items generalizing before with
  | nil => cases before <;> cases h
  | cons item items ih =>
    cases item with
    | command c =>
      rw [args_command] at h
      cases before with
      | nil =>
        have hword := (List.cons.inj h).1
        cases c <;> exact absurd hword (by decide)
      | cons opt before =>
        obtain ⟨rfl, hrest⟩ := List.cons.inj h
        obtain ⟨front, back, d, rfl, rfl, hw, ha⟩ := ih hrest
        exact ⟨.command c :: front, back, d, rfl, rfl, hw, ha⟩
    | load d =>
      rw [args_load] at h
      rcases before with _ | ⟨opt, _ | ⟨opt', before⟩⟩
      · obtain ⟨-, hrest⟩ := List.cons.inj h
        obtain ⟨rfl, rfl⟩ := List.cons.inj hrest
        exact ⟨[], items, d, rfl, rfl, rfl, rfl⟩
      · -- the operand would be `--load`
        have hdigits := (List.cons.inj (List.cons.inj h).2).1
        have hminus := d.isDigit '-' (by simp [hdigits])
        exact absurd hminus (by decide)
      · obtain ⟨hload, hrest⟩ := List.cons.inj h
        obtain ⟨hdigits, hrest⟩ := List.cons.inj hrest
        obtain ⟨front, back, d', rfl, rfl, hw, ha⟩ := ih hrest
        exact ⟨.load d :: front, back, d', rfl, by rw [← hload, ← hdigits]; rfl, hw, ha⟩

end run

/-- The loop accepts the sequences of items and no other arguments; then `demo_main` runs the one function of the
last command, the duration is the last one, and the word after a `--load` is read as its duration. -/
theorem options_accepted_iff (script : Str) (argv : List Str) :
    ((∃ o, parseOptions script argv = .ok o) ↔ ∃ items, argv = args items) ∧
    (∀ items, argv = args items →
      parseOptions script argv =
          .ok { demoCmd := (lastCommand items).word, runLoadDuration := lastDuration items,
                expectDuration := false } ∧
        driver script argv = .ok [(lastCommand items).function] ∧
        ∀ before w after, argv = before ++ ("--load" : Str) :: w :: after →
          ∃ (front back : List Item) (d : Duration), items = front ++ .load d :: back ∧ before = args front ∧
            w = d.digits ∧ after = args back) := by
  refine ⟨⟨?_, ?_⟩, ?_⟩
  · rintro ⟨o, h⟩
    obtain ⟨hread, hfree⟩ := (parseOptions_ok_iff script argv o).1 h
    exact items_of_readOptions hread hfree
  · rintro ⟨items, rfl⟩
    exact ⟨_, parseOptions_args script items⟩
  · rintro items rfl
    have hparse := parseOptions_args script items
    refine ⟨hparse, ?_, fun before w after h => word_after_load h⟩
    unfold driver
    rw [hparse]
    exact congrArg Except.ok (demoMain_word (lastCommand items))

end PinpointExamples.Scripts
