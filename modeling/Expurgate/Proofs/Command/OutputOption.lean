import Expurgate.Proofs.Command.Arguments

/-! The option for the file to write to. It is written in several ways, and where it is crossed out,
the rest of the request is the same. -/
namespace Expurgate

variable {l l' : Given} {v : String}

/-- The same request with its output printed, and with a seed in place of its own. -/
def FilterOptions.printing (o : FilterOptions) (seed : Option Nat) : FilterOptions :=
  { o with outputFile := none, seed := seed }

/-- The request reads each option for itself. -/
theorem invocationOf_printing {outer : Given} {o : FilterOptions}
    (hNone : Given.has (l ++ l') "output" = false)
    (hCommand : (invocationOf outer "filter" (l ++ ("output", v) :: l')).command = .filter o) :
    invocationOf outer "filter" (l ++ l') =
      { invocationOf outer "filter" (l ++ ("output", v) :: l') with
        command := .filter (o.printing o.seed) } := by
  simp only [invocationOf, commandOf, if_true, Command.filter.injEq] at hCommand
  subst hCommand
  simp [invocationOf, commandOf, FilterOptions.printing, Given.lookup_crossed, Given.has_crossed,
    Given.lookup_eq_none hNone]

def outputSpec : OptionSpec := ⟨"output", some 'o', .value isPath⟩

/-- A word that stands for the option of the file to write to, with the path attached to it or not.
It is read behind the command, and never in front of it. -/
structure SpellsOutput (first : String) (attached : Option String) : Prop where
  word : canBeValue first = false
  dashes : first.toList ≠ ['-', '-']
  outer : ∀ g rest, readWord rootSpecs first g rest = .error .unclear
  inner : ∀ g rest,
    readWord (specsOf "filter") first g rest = addValued g outputSpec isPath attached rest

section Spellings

variable {path : String}

theorem spellsOutput_short : SpellsOutput "-o" none where
  word := rfl
  dashes := by decide
  outer _ _ := rfl
  inner _ _ := rfl

theorem spellsOutput_long : SpellsOutput "--output" none where
  word := rfl
  dashes := by decide
  outer _ _ := rfl
  inner _ _ := rfl

/-- A path may follow the short name at once. An equals sign in front of it does not belong to it.
-/
theorem spellsOutput_short_attached (hPath : path ≠ "") :
    ∃ value, SpellsOutput ("-o" ++ path) (some value) := by
  obtain ⟨c, more, hMore⟩ : ∃ c more, path.toList = c :: more :=
    List.exists_cons_of_ne_nil (mt String.toList_eq_nil_iff.mp hPath)
  have hWord : ("-o" ++ path).toList = '-' :: 'o' :: c :: more := by simp [hMore]
  refine ⟨String.ofList (if c = '=' then more else c :: more), ?_, ?_, fun g rest => ?_,
    fun g rest => ?_⟩
  · simp [canBeValue, hWord, ← String.toList_inj]
  · simp [hWord]
  · simp only [readWord, hWord]
    rfl
  · have hShort : readWord (specsOf "filter") ("-o" ++ path) g rest =
        addShort (specsOf "filter") rest ('o' :: c :: more) g := by
      simp only [readWord, hWord]
      rfl
    have hFind : (specsOf "filter").find? (fun spec => decide (spec.short = some 'o')) =
        some outputSpec := rfl
    rw [hShort]
    simp only [addShort, hFind, outputSpec]
    congr 1
    split
    · contradiction
    · rename_i hSign
      obtain ⟨rfl, rfl⟩ := List.cons.inj hSign
      rfl
    · rename_i hSign
      rw [if_neg fun hEq : c = '=' => hSign more (hEq ▸ rfl)]

/-- Behind the long name a path is attached by an equals sign. What follows the sign is the path,
whatever it is. -/
theorem spellsOutput_long_attached : SpellsOutput ("--output=" ++ path) (some path) := by
  have hWord : ("--output=" ++ path).toList =
      '-' :: '-' :: ("output".toList ++ '=' :: path.toList) := by simp
  refine ⟨?_, ?_, fun g rest => ?_, fun g rest => ?_⟩
  · simp [canBeValue, hWord, ← String.toList_inj]
  · simp [hWord]
  · simp only [readWord, hWord]
    simp [addLong]
    rfl
  · simp [readWord, addLong]
    rfl

/-- The ways to write down the option for the file to write to: its first word, and the others. -/
def outputSpellings (path : String) : List (String × List String) :=
  [("-o", [path]), ("--output", [path]), ("-o" ++ path, []), ("--output=" ++ path, [])]

/-- Each of the ways to write the option down is a spelling of it, with one more word exactly where
the path is not attached. -/
theorem exists_spellsOutput (hPath : path ≠ "") : ∀ w ∈ outputSpellings path,
    ∃ attached, SpellsOutput w.1 attached ∧ w.2.length = if attached.isSome then 0 else 1 := by
  obtain ⟨value, hShort⟩ := spellsOutput_short_attached hPath
  intro w hMem
  simp only [outputSpellings, List.mem_cons, List.not_mem_nil, or_false] at hMem
  rcases hMem with rfl | rfl | rfl | rfl
  · exact ⟨none, spellsOutput_short, rfl⟩
  · exact ⟨none, spellsOutput_long, rfl⟩
  · exact ⟨some value, hShort, rfl⟩
  · exact ⟨some path, spellsOutput_long_attached, rfl⟩

end Spellings

section Asked

variable {first : String} {attached : Option String} {before behind more : List String}
  {i : Invocation} {o : FilterOptions}

/-- In the general terms of how options are read, these are spellings like any other. -/
theorem SpellsOutput.spelling (spells : SpellsOutput first attached)
    (hMore : more.length = if attached.isSome then 0 else 1) :
    Spelling (specsOf "filter") "output" first more where
  word := spells.word
  dashes := spells.dashes
  option g behind g' rest hRead := by
    rw [spells.inner] at hRead
    obtain ⟨v, taken, hNew, hAdded, hTaken, rfl, -⟩ := addValued_eq_ok hRead
    refine ⟨v, hNew, hAdded, (List.append_inj hTaken ?_).2.symm⟩
    rw [hMore]
    cases attached <;> rfl

/-- Where the words that stand for the file to write to are crossed out, the rest of the request is
the same. -/
theorem asked_crossed (spells : SpellsOutput first attached)
    (hMore : more.length = if attached.isSome then 0 else 1)
    (hAsked : asked (before ++ first :: (more ++ behind)) = .run i) (hFilter : i.command = .filter o) :
    asked (before ++ behind) = .run { i with command := .filter (o.printing o.seed) } := by
  have hOuter : Spelling rootSpecs "output" first more :=
    ⟨spells.word, spells.dashes, fun g behind g' rest hRead => by simp [spells.outer] at hRead⟩
  have hName : ∀ outer command inner, invocationOf outer command inner = i → command = "filter" := by
    rintro outer command inner rfl
    exact eq_filter_of_commandOf hFilter
  obtain ⟨outer, command, inner, outer', inner', hRequest, hCrossed,
      ⟨rfl, l, l', v, rfl, rfl, hNone⟩ | ⟨-, -, g, rest, result, hReadable⟩⟩ :=
    asked_without hOuter (fun outer command inner hRequest => hName outer command inner hRequest ▸
      spells.spelling hMore) hAsked
  · obtain rfl := hName _ _ _ hRequest
    subst hRequest
    rw [hCrossed, invocationOf_printing hNone hFilter]
  · -- In front of the command there is no such option.
    rw [spells.outer] at hReadable
    cases hReadable

end Asked

end Expurgate
