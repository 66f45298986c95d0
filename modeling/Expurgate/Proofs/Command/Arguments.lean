import Expurgate.Command.Arguments
import Mathlib.Tactic.Common

/-! What reading a command line rests on. An option takes the word behind it for its value or leaves
it, whatever stands further behind, and it is added unless it was given before. So words that spell
one option can be crossed out, and all others are read as before. -/
namespace Expurgate

variable {specs : List OptionSpec} {commands : List String} {g g' : Given}
  {rest rest' : List String} {name v : String}

theorem Given.has_append (l g : Given) (name : String) :
    Given.has (l ++ g) name = (l.has name || g.has name) := List.any_append

/-- What reads options from the front of some words, given those that were read before. -/
abbrev OptionReader := Given → List String → Except Halt (Given × List String)

/-- From the front of some words a reader takes options that were not given before, and words for
their values. It takes the same where other options were given and other words stand behind. -/
structure OptionReader.Takes (read : OptionReader) (added : Given) (taken : List String) (g : Given) :
    Prop where
  fresh : ∀ a ∈ added, g.has a.1 = false
  values : ∀ w ∈ taken, canBeValue w = true
  same : ∀ (g : Given) (rest : List String), (∀ a ∈ added, g.has a.1 = false) →
    read g (taken ++ rest) = .ok (added ++ g, rest)

/-- All that a reader does is to take options. -/
def OptionReader.TakesAll (read : OptionReader) : Prop :=
  ∀ g rest g' rest', read g rest = .ok (g', rest') →
    ∃ added taken, g' = added ++ g ∧ rest = taken ++ rest' ∧ read.Takes added taken g

section Readers

/-- A reader that adds one option behind some words. -/
theorem takes_add {read : OptionReader} {taken : List String} (hFresh : g.has name = false)
    (hValues : ∀ w ∈ taken, canBeValue w = true)
    (hRead : ∀ g rest, read g (taken ++ rest) = (g.add name v).map (·, rest)) :
    read.Takes [(name, v)] taken g where
  fresh := by simpa using hFresh
  values := hValues
  same g rest hNew := by
    rw [hRead, Given.add, hNew _ (List.mem_singleton_self _)]
    rfl

/-- An option is added only where it was not given before, and then it stands in front of the
others. -/
theorem add_map_eq_ok (hAdd : (g.add name v).map (·, rest) = .ok (g', rest')) :
    g.has name = false ∧ g' = [(name, v)] ++ g ∧ rest = rest' := by
  unfold Given.add at hAdd
  split at hAdd
  · cases hAdd
  · rename_i hNew
    cases hAdd
    exact ⟨by simpa using hNew, rfl, rfl⟩

/-- An option with a value takes the value that is attached to it, or the next word. -/
theorem addValued_eq_ok {o : OptionSpec} {accepts : String → Bool} {attached : Option String}
    (hRead : addValued g o accepts attached rest = .ok (g', rest')) :
    ∃ v taken, g.has o.long = false ∧ g' = [(o.long, v)] ++ g ∧ rest = taken ++ rest' ∧
      taken = (if attached.isSome then [] else [v]) ∧ (∀ w ∈ taken, canBeValue w = true) ∧
      ∀ g rest, addValued g o accepts attached (taken ++ rest) = (g.add o.long v).map (·, rest) := by
  cases attached with
  | some v =>
      cases hAccepts : accepts v with
      | false => simp [addValued, hAccepts] at hRead
      | true =>
          simp only [addValued, hAccepts, if_true] at hRead
          obtain ⟨hFresh, hAdded, rfl⟩ := add_map_eq_ok hRead
          exact ⟨v, [], hFresh, hAdded, rfl, rfl, nofun, fun g rest => by simp [addValued, hAccepts]⟩
  | none =>
      cases rest with
      | nil => simp [addValued] at hRead
      | cons v rest =>
          cases hAccepts : canBeValue v && accepts v with
          | false => simp [addValued, hAccepts] at hRead
          | true =>
              simp only [addValued, hAccepts, if_true] at hRead
              obtain ⟨hFresh, hAdded, rfl⟩ := add_map_eq_ok hRead
              have hValue : canBeValue v = true := (Bool.and_eq_true_iff.mp hAccepts).1
              exact ⟨v, [v], hFresh, hAdded, rfl, rfl, by simpa using hValue,
                fun g rest => by simp [addValued, hAccepts]⟩

/-- An option with a value takes the value that is attached, or else the next word, and looks no
further. -/
theorem takesAll_addValued (o : OptionSpec) (accepts : String → Bool) (attached : Option String) :
    OptionReader.TakesAll fun g rest => addValued g o accepts attached rest := by
  intro g rest g' rest' hRead
  obtain ⟨v, taken, hFresh, rfl, rfl, -, hValues, hSame⟩ := addValued_eq_ok hRead
  exact ⟨_, taken, rfl, rfl, takes_add hFresh hValues hSame⟩

theorem takesAll_error (halt : Halt) : OptionReader.TakesAll fun _ _ => .error halt := nofun

/-- An option without a value takes no words at all. -/
theorem takesAll_add (name v : String) :
    OptionReader.TakesAll fun g rest => (g.add name v).map (·, rest) := by
  intro g rest g' rest' hRead
  obtain ⟨hFresh, rfl, rfl⟩ := add_map_eq_ok hRead
  exact ⟨_, [], rfl, rfl, takes_add hFresh nofun fun _ _ => rfl⟩

/-- What a long name spells is settled by the name alone, and so are the words it takes. -/
theorem takesAll_addLong (long : List Char) :
    OptionReader.TakesAll fun g rest => addLong specs g long rest := by
  unfold addLong
  dsimp only
  cases specs.find? (·.long = String.ofList (long.takeWhile (· ≠ '='))) with
  | none => exact takesAll_error _
  | some o =>
      cases hKind : o.kind <;> cases hBehind : long.dropWhile (· ≠ '=') <;> simp only [hKind]
      case value.nil | value.cons => exact takesAll_addValued o _ _
      case switch.nil => exact takesAll_add o.long ""
      all_goals exact takesAll_error _

/-- Short names are taken one by one. Only the last of a row can have a value, and it ends the row.
-/
theorem takesAll_addShort (short : List Char) :
    OptionReader.TakesAll fun g rest => addShort specs rest short g := by
  induction short with
  | nil =>
      intro g rest g' rest' hRead
      cases hRead
      exact ⟨[], [], rfl, rfl, nofun, nofun, fun _ _ _ => rfl⟩
  | cons c more ih =>
      unfold addShort
      cases specs.find? (·.short = some c) with
      | none => exact takesAll_error _
      | some o =>
          cases hKind : o.kind with
          | help | version => simpa only [hKind] using takesAll_error _
          | value accepts => simpa only [hKind] using takesAll_addValued o accepts _
          | switch =>
              -- One option is added here, and those of the other letters on top of it.
              intro g rest g' rest' hRead
              simp only [hKind, Given.add] at hRead
              cases hFresh : g.has o.long with
              | true => simp [hFresh] at hRead
              | false =>
                  simp only [hFresh, Bool.false_eq_true, if_false] at hRead
                  obtain ⟨added, taken, rfl, rfl, takes⟩ := ih _ _ _ _ hRead
                  refine ⟨added ++ [(o.long, "")], taken, by simp, rfl, ?_, takes.values, ?_⟩
                  · intro a ha
                    rcases List.mem_append.mp ha with hLater | hFirst
                    · exact (Bool.or_eq_false_iff.mp (takes.fresh a hLater)).2
                    · rwa [List.mem_singleton.mp hFirst]
                  · intro g rest hNew
                    have hHere : g.has o.long = false := hNew (o.long, "") (by simp)
                    simp only [hKind, Given.add, hHere, Bool.false_eq_true, if_false]
                    rw [takes.same]
                    · simp
                    · intro a ha
                      have hApart := (Bool.or_eq_false_iff.mp (takes.fresh a ha)).1
                      exact Bool.or_eq_false_iff.mpr ⟨hApart, hNew a (by simp [ha])⟩

end Readers

/-- Reads the options that a word stands for. -/
def readWord (specs : List OptionSpec) (arg : String) : OptionReader := fun g rest =>
  match arg.toList with
  | '-' :: '-' :: long => addLong specs g long rest
  | '-' :: c :: short => addShort specs rest (c :: short) g
  | _ => .error .unclear

/-- Any word that is neither a command nor the end of the options is read by itself, and the reading
goes on behind what it took. -/
theorem readOptions_cons {arg : String} {fuel : Nat} (hCommand : arg ∉ commands)
    (hEnd : arg.toList ≠ ['-', '-']) :
    readOptions specs commands (fuel + 1) g (arg :: rest) =
      (readWord specs arg g rest).bind fun (g, rest) =>
        readOptions specs commands fuel g rest := by
  rw [readOptions, if_neg (by simpa using hCommand), readWord]
  split
  · rename_i hArg
    exact absurd hArg hEnd
  · rename_i hArg
    simp only [hArg]
    rfl
  · rename_i c short _ hShort hArg
    split
    · rename_i hLong
      rw [hLong] at hArg
      cases hArg
      exact absurd rfl hShort
    · rename_i hArg'
      rw [hArg'] at hArg
      cases hArg
      rfl
    · rename_i hNot
      exact (hNot c short hArg).elim
  · rename_i hLong hShort
    split
    · exact (hLong _ ‹_›).elim
    · exact (hShort _ _ ‹_›).elim
    · rfl

/-- However a word is written, all that it does is to take options. This is what lets other options
be moved around it. -/
theorem takesAll_readWord (arg : String) : (readWord specs arg).TakesAll := by
  unfold readWord
  split
  · exact takesAll_addLong _
  · exact takesAll_addShort _
  · exact takesAll_error _

section Options

variable {arg first : String} {fuel : Nat} {args before behind : List String}
  {out : Option (String × List String)}

/-- A command ends the options in front of it. The words behind it are left to its own options. -/
theorem readOptions_command (hCommand : arg ∈ commands) :
    readOptions specs commands (fuel + 1) g (arg :: rest) = .ok (g, some (arg, rest)) := by
  rw [readOptions, if_pos (by simpa using hCommand)]

/-- Two hyphens end the options. Nothing may follow them, since no command takes words of its own.
-/
theorem readOptions_end (hCommand : arg ∉ commands) (hEnd : arg.toList = ['-', '-']) :
    readOptions specs commands (fuel + 1) g (arg :: rest) =
      if rest.isEmpty then .ok (g, none) else .error .unclear := by
  rw [readOptions, if_neg (by simpa using hCommand)]
  simp only [hEnd]

/-- What the first of several words is: a command, a sign that no options follow, or an option. -/
theorem readOptions_cases (hRead : readOptions specs commands fuel g (arg :: rest) = .ok (g', out)) :
    (arg ∈ commands ∧ g' = g ∧ out = some (arg, rest)) ∨
    (arg ∉ commands ∧ arg.toList = ['-', '-'] ∧ rest = [] ∧ g' = g ∧ out = none) ∨
    (arg ∉ commands ∧ arg.toList ≠ ['-', '-'] ∧ ∃ n added taken rest', fuel = n + 1 ∧
      rest = taken ++ rest' ∧ (readWord specs arg).Takes added taken g ∧
      readOptions specs commands n (added ++ g) rest' = .ok (g', out)) := by
  cases fuel with
  | zero => cases hRead
  | succ n =>
      by_cases hCommand : arg ∈ commands
      · rw [readOptions_command hCommand] at hRead
        obtain ⟨rfl, rfl⟩ := Prod.mk.inj (Except.ok.inj hRead)
        exact .inl ⟨hCommand, rfl, rfl⟩
      · by_cases hEnd : arg.toList = ['-', '-']
        · rw [readOptions_end hCommand hEnd] at hRead
          split at hRead
          · rename_i hNone
            obtain ⟨rfl, rfl⟩ := Prod.mk.inj (Except.ok.inj hRead)
            exact .inr (.inl ⟨hCommand, hEnd, by simpa using hNone, rfl, rfl⟩)
          · cases hRead
        · rw [readOptions_cons hCommand hEnd] at hRead
          cases hWord : readWord specs arg g rest with
          | error halt => simp [hWord, Except.bind] at hRead
          | ok result =>
              obtain ⟨g₁, rest₁⟩ := result
              obtain ⟨added, taken, rfl, hTaken, takes⟩ := takesAll_readWord arg _ _ _ _ hWord
              rw [hWord] at hRead
              exact .inr (.inr ⟨hCommand, hEnd, n, added, taken, _, rfl, hTaken, takes, hRead⟩)

/-- An option is read in front of other words, and where other options were given. -/
theorem readOptions_takes {added : Given} {taken : List String} (hCommand : arg ∉ commands)
    (hEnd : arg.toList ≠ ['-', '-']) (takes : (readWord specs arg).Takes added taken g')
    (hNew : ∀ a ∈ added, g.has a.1 = false) :
    readOptions specs commands (fuel + 1) g (arg :: (taken ++ rest)) =
      readOptions specs commands fuel (added ++ g) rest := by
  rw [readOptions_cons hCommand hEnd, takes.same g rest hNew]
  rfl

/-- What is read is read again where other options were given, in as many steps as there are words.
-/
theorem readOptions_again (hRead : readOptions specs commands fuel g args = .ok (g', out)) :
    ∃ added, g' = added ++ g ∧ (∀ a ∈ added, g.has a.1 = false) ∧
      ∀ n g, args.length < n → (∀ a ∈ added, Given.has g a.1 = false) →
        readOptions specs commands n g args = .ok (added ++ g, out) := by
  induction fuel generalizing g args with
  | zero => cases hRead
  | succ fuel ih =>
      cases args with
      | nil =>
          obtain ⟨rfl, rfl⟩ := Prod.mk.inj (Except.ok.inj hRead)
          refine ⟨[], rfl, nofun, fun n g hSteps _ => ?_⟩
          obtain ⟨n, rfl⟩ := Nat.exists_eq_add_one.mpr (Nat.zero_lt_of_lt hSteps)
          rfl
      | cons arg rest =>
          rcases readOptions_cases hRead with ⟨hCommand, rfl, rfl⟩ |
            ⟨hCommand, hEnd, rfl, rfl, rfl⟩ |
            ⟨hCommand, hEnd, n, added, taken, behind, hFuel, rfl, takes, hBehind⟩
          · refine ⟨[], rfl, nofun, fun n g hSteps _ => ?_⟩
            obtain ⟨n, rfl⟩ := Nat.exists_eq_add_one.mpr (Nat.zero_lt_of_lt hSteps)
            exact readOptions_command hCommand
          · refine ⟨[], rfl, nofun, fun n g hSteps _ => ?_⟩
            obtain ⟨n, rfl⟩ := Nat.exists_eq_add_one.mpr (Nat.zero_lt_of_lt hSteps)
            exact readOptions_end hCommand hEnd
          · obtain rfl := Nat.succ.inj hFuel
            obtain ⟨others, rfl, hFresh, hOthers⟩ := ih hBehind
            have hApart : ∀ a ∈ others, added.has a.1 = false ∧ g.has a.1 = false := by
              intro a ha
              simpa [Given.has_append] using hFresh a ha
            refine ⟨others ++ added, by simp, ?_, fun n g hSteps hNew => ?_⟩
            · intro a ha
              exact (List.mem_append.mp ha).elim (fun h => (hApart a h).2) (takes.fresh a)
            · obtain ⟨n, rfl⟩ := Nat.exists_eq_add_one.mpr (Nat.zero_lt_of_lt hSteps)
              rw [readOptions_takes hCommand hEnd takes fun a ha => hNew a (by simp [ha]), hOthers]
              · simp
              · simp only [List.length_cons, List.length_append] at hSteps
                omega
              · intro a ha
                rw [Given.has_append, (hApart a ha).1, hNew a (by simp [ha])]
                rfl

/-- Reading that stops at a command does so whatever stands behind the command. -/
theorem readOptions_stop {command : String}
    (hRead : readOptions specs commands fuel g args = .ok (g', some (command, rest))) :
    ∃ before, args = before ++ command :: rest ∧ command ∈ commands ∧
      ∀ tail n, (before ++ command :: tail).length < n →
        readOptions specs commands n g (before ++ command :: tail) =
          .ok (g', some (command, tail)) := by
  induction fuel generalizing g args with
  | zero => cases hRead
  | succ fuel ih =>
      cases args with
      | nil => cases hRead
      | cons arg args =>
          rcases readOptions_cases hRead with ⟨hCommand, rfl, hStop⟩ | ⟨-, -, -, -, hNone⟩ |
            ⟨hCommand, hEnd, n, added, taken, behind, hFuel, rfl, takes, hBehind⟩
          · obtain ⟨rfl, rfl⟩ := Prod.mk.inj (Option.some.inj hStop)
            refine ⟨[], rfl, hCommand, fun tail n hSteps => ?_⟩
            obtain ⟨n, rfl⟩ := Nat.exists_eq_add_one.mpr (Nat.zero_lt_of_lt hSteps)
            exact readOptions_command hCommand
          · cases hNone
          · obtain rfl := Nat.succ.inj hFuel
            obtain ⟨before, rfl, hMem, hTail⟩ := ih hBehind
            refine ⟨arg :: (taken ++ before), by simp, hMem, fun tail n hSteps => ?_⟩
            obtain ⟨n, rfl⟩ := Nat.exists_eq_add_one.mpr (Nat.zero_lt_of_lt hSteps)
            rw [List.cons_append, List.append_assoc,
              readOptions_takes hCommand hEnd takes takes.fresh]
            apply hTail
            simp only [List.length_cons, List.length_append] at hSteps ⊢
            omega

/-- A switch that was not given is put in front of the other options. -/
theorem readOptions_inserted (hCommand : first ∉ commands) (hEnd : first.toList ≠ ['-', '-'])
    (hSwitch : ∀ g rest, readWord specs first g rest = (Given.add g name v).map (·, rest))
    (hRead : readOptions specs commands fuel [] args = .ok (g, out)) (hNone : g.has name = false)
    {n : Nat} (hSteps : args.length < n) :
    readOptions specs commands (n + 1) [] (first :: args) = .ok (g ++ [(name, v)], out) := by
  obtain ⟨added, hAdded, -, hAgain⟩ := readOptions_again hRead
  obtain rfl : g = added := by simpa using hAdded
  have takes : (readWord specs first).Takes [(name, v)] [] [] :=
    takes_add rfl nofun fun g rest => hSwitch g rest
  calc readOptions specs commands (n + 1) [] (first :: args)
      = readOptions specs commands n [(name, v)] args :=
        readOptions_takes hCommand hEnd takes takes.fresh
    _ = .ok (g ++ [(name, v)], out) := by
        apply hAgain n _ hSteps
        intro a ha
        have hApart : a.1 ≠ name := by simpa using List.any_eq_false.mp hNone a ha
        simpa [Given.has] using hApart.symm

/-- A word that cannot be a value stands behind the words that were taken for values. -/
theorem exists_behind_values {taken : List String} (hWord : canBeValue first = false)
    (hValues : ∀ w ∈ taken, canBeValue w = true) (hTaken : before ++ first :: behind = taken ++ rest) :
    ∃ later, before = taken ++ later ∧ rest = later ++ first :: behind := by
  rcases List.append_eq_append_iff.mp hTaken with ⟨more, rfl, hMore⟩ | ⟨later, rfl, rfl⟩
  · cases more with
    | nil => exact ⟨[], by simp, by simpa using hMore.symm⟩
    | cons w more =>
        obtain ⟨rfl, -⟩ := List.cons.inj hMore
        exact absurd (hValues first (by simp)) (by simp [hWord])
  · exact ⟨later, rfl, rfl⟩

/-- Reading comes to a word that cannot be a value, or stops at a command in front of it. In both
cases other words may stand from this one on. -/
theorem readOptions_cut (hWord : canBeValue first = false)
    (hRead : readOptions specs commands fuel g (before ++ first :: behind) = .ok (g', out)) :
    (∃ command ∈ commands, ∃ rest, out = some (command, rest ++ first :: behind) ∧
      rest.length ≤ before.length ∧ ∀ tail n, (before ++ tail).length < n →
        readOptions specs commands n g (before ++ tail) = .ok (g', some (command, rest ++ tail))) ∨
    ∃ g₁ m, readOptions specs commands m g₁ (first :: behind) = .ok (g', out) ∧
      ∀ tail result, (∀ n, tail.length < n → readOptions specs commands n g₁ tail = result) →
        ∀ n, (before ++ tail).length < n →
          readOptions specs commands n g (before ++ tail) = result := by
  induction fuel generalizing g before with
  | zero => cases hRead
  | succ fuel ih =>
      cases before with
      | nil => exact .inr ⟨g, fuel + 1, hRead, fun tail result hTail n hSteps => hTail n hSteps⟩
      | cons arg before =>
          rcases readOptions_cases hRead with ⟨hCommand, rfl, rfl⟩ | ⟨-, -, hNone, -, -⟩ |
            ⟨hCommand, hEnd, n, added, taken, rest, hFuel, hTaken, takes, hRest⟩
          · refine .inl ⟨arg, hCommand, before, rfl, Nat.le_succ _, fun tail n hSteps => ?_⟩
            obtain ⟨n, rfl⟩ := Nat.exists_eq_add_one.mpr (Nat.zero_lt_of_lt hSteps)
            exact readOptions_command hCommand
          · simp at hNone
          · obtain rfl := Nat.succ.inj hFuel
            obtain ⟨later, rfl, rfl⟩ := exists_behind_values hWord takes.values hTaken
            have hStep (tail : List String) (n : Nat) :
                readOptions specs commands (n + 1) g (arg :: (taken ++ later) ++ tail) =
                  readOptions specs commands n (added ++ g) (later ++ tail) := by
              rw [List.cons_append, List.append_assoc]
              exact readOptions_takes hCommand hEnd takes takes.fresh
            have hFewer (tail : List String) (n : Nat)
                (hSteps : (arg :: (taken ++ later) ++ tail).length < n + 1) :
                (later ++ tail).length < n := by
              simp only [List.length_append, List.length_cons] at hSteps ⊢
              omega
            rcases ih hRest with ⟨command, hMem, rest, rfl, hShort, hLater⟩ | ⟨g₁, m, hThere, hLater⟩
            · refine .inl ⟨command, hMem, rest, rfl, ?_, fun tail n hSteps => ?_⟩
              · simp only [List.length_cons, List.length_append]
                omega
              obtain ⟨n, rfl⟩ := Nat.exists_eq_add_one.mpr (Nat.zero_lt_of_lt hSteps)
              exact (hStep tail n).trans (hLater tail n (hFewer tail n hSteps))
            · refine .inr ⟨g₁, m, hThere, fun tail result hTail n hSteps => ?_⟩
              obtain ⟨n, rfl⟩ := Nat.exists_eq_add_one.mpr (Nat.zero_lt_of_lt hSteps)
              exact (hStep tail n).trans (hLater tail result hTail n (hFewer tail n hSteps))

end Options

/-- Words that spell the option of a name, and nothing else. The first one cannot be taken for the
value of another option. -/
structure Spelling (specs : List OptionSpec) (name first : String) (more : List String) : Prop where
  word : canBeValue first = false
  dashes : first.toList ≠ ['-', '-']
  option : ∀ g behind g' rest, readWord specs first g (more ++ behind) = .ok (g', rest) →
    ∃ v, g.has name = false ∧ g' = (name, v) :: g ∧ rest = behind

section Crossing

variable {first : String} {more before behind : List String} {l' : Given}
  {out : Option (String × List String)} {fuel : Nat}

/-- Where reading comes to an option, this one is crossed out, and all others are read as before. -/
theorem Spelling.crossed_here (spelling : Spelling specs name first more)
    (hCommand : first ∉ commands)
    (hThere : readOptions specs commands fuel l' (first :: (more ++ behind)) = .ok (g, out)) :
    (∃ g rest result, readWord specs first g rest = .ok result) ∧
    ∃ l v, g = l ++ (name, v) :: l' ∧ Given.has (l ++ l') name = false ∧
      ∀ n, behind.length < n → readOptions specs commands n l' behind = .ok (l ++ l', out) := by
  rcases readOptions_cases hThere with ⟨hIn, _⟩ | ⟨-, hDashes, _⟩ |
    ⟨-, -, n, added, taken, rest, -, hTaken, takes, hRest⟩
  · exact absurd hIn hCommand
  · exact absurd hDashes spelling.dashes
  · have hWord := takes.same l' rest takes.fresh
    refine ⟨⟨_, _, _, hWord⟩, ?_⟩
    rw [← hTaken] at hWord
    obtain ⟨v, hNew, hAdded, rfl⟩ := spelling.option _ _ _ _ hWord
    rw [hAdded] at hRest
    obtain ⟨l, rfl, hFresh, hAgain⟩ := readOptions_again hRest
    have hApart : ∀ a ∈ l, a.1 ≠ name ∧ l'.has a.1 = false := by
      intro a ha
      have hOr := Bool.or_eq_false_iff.mp (hFresh a ha)
      exact ⟨fun hSame => by simp [hSame] at hOr, hOr.2⟩
    refine ⟨l, v, rfl, ?_, fun n hSteps => hAgain n l' hSteps fun a ha => (hApart a ha).2⟩
    rw [Given.has_append, hNew, Bool.or_false]
    exact List.any_eq_false.mpr fun a ha => by simpa using (hApart a ha).1

/-- Where an option is crossed out, all others are read as before. -/
theorem Spelling.crossed (spelling : Spelling specs name first more)
    (hRead : readOptions specs [] fuel [] (before ++ first :: (more ++ behind)) = .ok (g, out)) :
    ∃ l l' v, g = l ++ (name, v) :: l' ∧ Given.has (l ++ l') name = false ∧
      ∀ n, (before ++ behind).length < n →
        readOptions specs [] n [] (before ++ behind) = .ok (l ++ l', out) := by
  rcases readOptions_cut spelling.word hRead with ⟨_, hNone, _⟩ | ⟨l', m, hThere, hTail⟩
  · cases hNone
  · obtain ⟨-, l, v, hAdded, hNone, hBehind⟩ :=
      spelling.crossed_here (by apply List.not_mem_nil) hThere
    exact ⟨l, l', v, hAdded, hNone, hTail behind _ hBehind⟩

end Crossing

/-- The options that may stand in front of a command. -/
def rootSpecs : List OptionSpec := ⟨"version", some 'V', .version⟩ :: commonSpecs

/-- The request that the options in front of a command and those behind it come to. -/
def invocationOf (outer : Given) (name : String) (inner : Given) : Invocation where
  quiet := outer.has "quiet" || inner.has "quiet"
  debug := outer.has "debug" || inner.has "debug"
  themeFile := (inner.lookup "theme").or (outer.lookup "theme")
  command := commandOf name inner

/-- No command begins with a hyphen, so the name of one would be taken for the value of an option
that misses one. -/
theorem canBeValue_commandNames : ∀ command ∈ commandNames, canBeValue command = true := by decide

/-- A request comes only from a command line that is read without a halt. -/
theorem asked_eq_run {args : List String} {i : Invocation} :
    asked args = .run i ↔ readInvocation args = .ok i := by
  unfold asked
  cases readInvocation args with
  | ok j => simp
  | error halt => cases halt <;> simp

/-- What a command line that asks for something consists of. -/
theorem readInvocation_eq_ok {args : List String} {i : Invocation} :
    readInvocation args = .ok i ↔ ∃ outer command rest inner out,
      readOptions rootSpecs commandNames (args.length + 1) [] args =
        .ok (outer, some (command, rest)) ∧ command ≠ "help" ∧
      readOptions (specsOf command) [] (args.length + 1) [] rest = .ok (inner, out) ∧
      excluded outer = false ∧ excluded inner = false ∧ invocationOf outer command inner = i := by
  unfold readInvocation
  change (readOptions rootSpecs commandNames (args.length + 1) [] args).bind _ = .ok i ↔ _
  constructor
  · intro hRead
    cases hOuter : readOptions rootSpecs commandNames (args.length + 1) [] args with
    | error halt => simp [hOuter, Except.bind] at hRead
    | ok result =>
        obtain ⟨outer, _ | ⟨command, rest⟩⟩ := result
        · simp [hOuter, Except.bind] at hRead
        · simp only [hOuter, Except.bind] at hRead
          split at hRead
          · cases hRead
          · rename_i hHelp
            cases hInner : readOptions (specsOf command) [] (args.length + 1) [] rest with
            | error halt => simp [hInner, bind, Except.bind] at hRead
            | ok result =>
                obtain ⟨inner, out⟩ := result
                simp only [hInner, bind, Except.bind] at hRead
                split at hRead
                · cases hRead
                · rename_i hExcluded
                  obtain ⟨hOut, hIn⟩ := Bool.or_eq_false_iff.mp (by simpa using hExcluded)
                  exact ⟨outer, command, rest, inner, out, rfl, hHelp, hInner, hOut, hIn,
                    Except.ok.inj hRead⟩
  · rintro ⟨outer, command, rest, inner, out, hOuter, hHelp, hInner, hOut, hIn, rfl⟩
    simp [hOuter, hHelp, hInner, hOut, hIn, Except.bind, bind, invocationOf, pure, Except.pure]

/-- Only one name stands for the command that expurgates. -/
theorem eq_filter_of_commandOf {o : FilterOptions} (hCommand : commandOf name g = .filter o) :
    name = "filter" := by
  by_contra hNot
  simp only [commandOf, if_neg hNot] at hCommand
  split at hCommand <;> cases hCommand

theorem Given.lookup_eq_none (hNone : g.has name = false) : g.lookup name = none :=
  List.lookup_eq_none_iff.mpr fun a ha => by
    have hApart : a.1 ≠ name := by simpa using List.any_eq_false.mp hNone a ha
    simpa using hApart.symm

section Crossed

variable {l l' : Given} {other : String}

/-- An option that is crossed out has no influence on what is found under another name. -/
theorem Given.lookup_crossed (hOther : other ≠ name) :
    List.lookup other (l ++ (name, v) :: l') = List.lookup other (l ++ l') := by
  rw [List.lookup_append, List.lookup_append, List.lookup_cons, beq_false_of_ne hOther]

theorem Given.has_crossed (hOther : other ≠ name) :
    Given.has (l ++ (name, v) :: l') other = Given.has (l ++ l') other := by
  simp only [Given.has, List.any_append, List.any_cons, decide_eq_false hOther.symm, Bool.false_or]

/-- The same options but for one, which is given once. -/
def Given.Crosses (g g' : Given) (name : String) : Prop :=
  ∃ l l' v, g = l ++ (name, v) :: l' ∧ g' = l ++ l' ∧ g'.has name = false

theorem Given.Crosses.has (crosses : g.Crosses g' name) (other : String) :
    g.has other = (decide (name = other) || g'.has other) := by
  obtain ⟨l, l', v, rfl, rfl, -⟩ := crosses
  by_cases hOther : other = name
  · simp [hOther, Given.has]
  · rw [Given.has_crossed hOther, decide_eq_false (Ne.symm hOther), Bool.false_or]

/-- Options that differ in one name only agree on the values under all others. -/
theorem Given.Crosses.lookup (crosses : g.Crosses g' name) (hOther : other ≠ name) :
    List.lookup other g = List.lookup other g' := by
  obtain ⟨l, l', v, rfl, rfl, -⟩ := crosses
  exact Given.lookup_crossed hOther

/-- Options that do not exclude each other do not do so without one of them. -/
theorem Given.Crosses.excluded (crosses : g.Crosses g' name) (hTogether : excluded g = false) :
    Expurgate.excluded g' = false := by
  simp only [Expurgate.excluded, crosses.has] at hTogether ⊢
  grind

end Crossed

/-- What is read does not depend on the number of steps, if there are as many as words. -/
theorem readOptions_steps {args : List String} {out : Option (String × List String)} {fuel n : Nat}
    (hRead : readOptions specs commands fuel [] args = .ok (g, out)) (hSteps : args.length < n) :
    readOptions specs commands n [] args = .ok (g, out) := by
  obtain ⟨added, hAdded, -, hAgain⟩ := readOptions_again hRead
  obtain rfl : g = added := by simpa using hAdded
  rw [hAgain n [] hSteps fun _ _ => rfl, List.append_nil]

/-- A command line asks for something where the options in front of the command and those behind it
are read, in any number of steps. -/
theorem asked_of_reads {args rest : List String} {outer inner : Given} {command : String}
    {out : Option (String × List String)} {n m : Nat}
    (hOut : readOptions rootSpecs commandNames n [] args = .ok (outer, some (command, rest)))
    (hHelp : command ≠ "help") (hIn : readOptions (specsOf command) [] m [] rest = .ok (inner, out))
    (hOutside : excluded outer = false) (hInside : excluded inner = false) :
    asked args = .run (invocationOf outer command inner) := by
  obtain ⟨before, rfl, -, -⟩ := readOptions_stop hOut
  rw [asked_eq_run, readInvocation_eq_ok]
  refine ⟨outer, command, rest, inner, out, readOptions_steps hOut (Nat.lt_succ_self _), hHelp,
    readOptions_steps hIn ?_, hOutside, hInside, rfl⟩
  rw [List.length_append, List.length_cons]
  omega

/-- Where the words of an option are crossed out in a command line, the option is missing in front of
the command or behind it, and all the rest is as before. -/
theorem asked_without {first : String} {more before behind : List String} {i : Invocation}
    (hOuter : Spelling rootSpecs name first more)
    (hInner : ∀ outer command inner, invocationOf outer command inner = i →
      Spelling (specsOf command) name first more)
    (hAsked : asked (before ++ first :: (more ++ behind)) = .run i) :
    ∃ outer command inner outer' inner', invocationOf outer command inner = i ∧
      asked (before ++ behind) = .run (invocationOf outer' command inner') ∧
      ((outer' = outer ∧ inner.Crosses inner' name) ∨
        (inner' = inner ∧ outer.Crosses outer' name ∧
          ∃ g rest result, readWord rootSpecs first g rest = .ok result)) := by
  rw [asked_eq_run, readInvocation_eq_ok] at hAsked
  obtain ⟨outer, command, rest, inner, out, hOut, hHelp, hIn, hOutside, hInside, rfl⟩ := hAsked
  rcases readOptions_cut hOuter.word hOut with ⟨_, hCommand, rest', hRest, -, hAgain⟩ |
    ⟨l', m, hThere, hTail⟩
  · obtain ⟨rfl, rfl⟩ := Prod.mk.inj (Option.some.inj hRest)
    obtain ⟨l, l', v, hAdded, hNone, hBehind⟩ := (hInner outer command inner rfl).crossed hIn
    have crosses : inner.Crosses (l ++ l') name := ⟨l, l', v, hAdded, rfl, hNone⟩
    have hAsked' : asked (before ++ behind) = .run (invocationOf outer command (l ++ l')) :=
      asked_of_reads (hAgain behind _ (Nat.lt_succ_self _)) hHelp (hBehind _ (Nat.lt_succ_self _))
        hOutside (crosses.excluded hInside)
    exact ⟨outer, command, inner, outer, l ++ l', rfl, hAsked', .inl ⟨rfl, crosses⟩⟩
  · have hNot : first ∉ commandNames := fun hMem =>
      absurd (canBeValue_commandNames first hMem) (by simp [hOuter.word])
    obtain ⟨hReadable, l, v, hAdded, hNone, hBehind⟩ := hOuter.crossed_here hNot hThere
    have crosses : outer.Crosses (l ++ l') name := ⟨l, l', v, hAdded, rfl, hNone⟩
    have hAsked' : asked (before ++ behind) = .run (invocationOf (l ++ l') command inner) :=
      asked_of_reads (hTail behind _ hBehind _ (Nat.lt_succ_self _)) hHelp hIn
        (crosses.excluded hOutside) hInside
    exact ⟨outer, command, inner, l ++ l', inner, rfl, hAsked', .inr ⟨rfl, crosses, hReadable⟩⟩

end Expurgate
