import Expurgate.Proofs.Engine.Unmatched

/-! Streams that break off. A line that is no text ends the work, and what was done for the lines in
front of it stays done: they are written, and their matches are counted. -/
namespace Expurgate

section Texts

/-- Bytes that stand for a text. -/
def IsText (bytes : List UInt8) : Prop := ∃ text, bytes = utf8 text

variable {bytes l : List UInt8} {s : String}

/-- Bytes have at most one reading as text, and a text is read back from its own encoding. -/
theorem decodeText_eq_some_iff : decodeText bytes = some s ↔ bytes = utf8 s.toList := by
  constructor
  · exact eq_utf8_of_decodeText
  · rintro rfl
    rw [decodeText_utf8, String.ofList_toList]

theorem isSome_decodeText_iff : (decodeText bytes).isSome = true ↔ IsText bytes := by
  rw [Option.isSome_iff_exists]
  constructor
  · rintro ⟨s, hText⟩
    exact ⟨s.toList, decodeText_eq_some_iff.mp hText⟩
  · rintro ⟨text, rfl⟩
    exact ⟨_, decodeText_utf8 text⟩

instance : DecidablePred IsText := fun _ => decidable_of_iff _ isSome_decodeText_iff

/-- A byte that is a character by itself may be added to a text, or taken off it. -/
theorem isText_concat_iff {c : Char} {b : UInt8} (hByte : String.utf8EncodeChar c = [b])
    (hLow : b.toNat < 128) : IsText (l ++ [b]) ↔ IsText l := by
  constructor
  · rintro ⟨text, hText⟩
    rcases text.eq_nil_or_concat' with rfl | ⟨front, d, rfl⟩
    · simp [utf8] at hText
    · have hLast : b ∈ String.utf8EncodeChar d :=
        mem_of_getLast?_utf8 (by rw [← hText, List.getLast?_concat])
      have hd := toNat_of_mem_utf8EncodeChar hLast hLow
      have hc : c.toNat = b.toNat :=
        toNat_of_mem_utf8EncodeChar (by rw [hByte]; exact List.mem_singleton_self b) hLow
      obtain rfl : d = c := Char.toNat_inj.mp (hd.trans hc.symm)
      rw [utf8_concat, hByte] at hText
      exact ⟨front, List.append_cancel_right hText⟩
  · rintro ⟨text, rfl⟩
    exact ⟨text ++ [c], by rw [utf8_concat, hByte]⟩

/-- An ending of one low byte can be taken off without making bytes a text or keeping them from
being one. Line feeds and carriage returns are such endings. -/
theorem isText_dropEnding_iff {c : Char} {b : UInt8} (hByte : String.utf8EncodeChar c = [b])
    (hLow : b.toNat < 128) : IsText (dropEnding b l) ↔ IsText l := by
  rw [dropEnding]
  split
  · rename_i hLast
    rw [← isText_concat_iff hByte hLow, List.dropLast_append_getLast? b hLast]
  · exact Iff.rfl

/-- The ending of a line does not matter to whether it is text. -/
theorem isText_lineContent_iff : IsText (lineContent l) ↔ IsText l := by
  have hFeed : String.utf8EncodeChar '\n' = [10] := by decide
  have hReturn : String.utf8EncodeChar '\r' = [13] := by decide
  rw [lineContent]
  split
  · rename_i hLast
    rw [isText_dropEnding_iff hReturn (by decide), ← isText_concat_iff hFeed (by decide),
      List.dropLast_append_getLast? 10 hLast]
  · exact Iff.rfl

/-- What is read of a stream are its lines in front of the first one that is no text. -/
theorem readable_streamLines (bytes : List UInt8) :
    (readable (streamLines bytes)).map (fun s => utf8 s.toList) =
      ((linesWithBreaks 10 bytes).takeWhile (IsText ·)).map lineContent := by
  rw [streamLines]
  induction linesWithBreaks 10 bytes with
  | nil => rfl
  | cons first rest ih =>
      rw [List.map_cons]
      by_cases hText : IsText first
      · obtain ⟨s, hs⟩ := Option.isSome_iff_exists.mp
          (isSome_decodeText_iff.mpr (isText_lineContent_iff.mpr hText))
        rw [hs, readable, List.map_cons, ih, List.takeWhile_cons_of_pos (by simpa using hText),
          List.map_cons, decodeText_eq_some_iff.mp hs]
      · have hNone : decodeText (lineContent first) = none := by
          rw [← Option.not_isSome_iff_eq_none, isSome_decodeText_iff, isText_lineContent_iff]
          exact hText
        rw [hNone, readable, List.takeWhile_cons_of_neg (by simpa using hText)]
        · rfl
        · simp

/-- A stream breaks off at the first line that is no text. Line feeds are found before anything is
decoded, as they cannot be part of a longer character. -/
theorem none_mem_streamLines_iff :
    none ∈ streamLines bytes ↔ ∃ l ∈ linesWithBreaks 10 bytes, ¬IsText l := by
  simp only [streamLines, List.mem_map, ← Option.not_isSome_iff_eq_none, isSome_decodeText_iff,
    isText_lineContent_iff]

end Texts

/-- What the caller of a stream is given: the matches, unless it was not read to its end. -/
def Streamed.result (s : Streamed) : Except FileFault (List TermMatch) :=
  match s.fault with
  | some fault => .error fault
  | none => .ok s.matched

namespace Engine

variable (profile : ProfileId)

/-- Only a line that is no text makes a stream fail. The engine has no part in it. -/
theorem fault_stream_eq (lines : List (Option String)) (e : Engine) :
    (Engine.stream profile lines e).1.fault = if none ∈ lines then some .invalidText else none := by
  induction lines generalizing e with
  | nil => rfl
  | cons first rest ih =>
      cases first with
      | none => simp [Engine.stream]
      | some text => simp [Engine.stream, ih]

/-- A stream leaves the engine as the requests for its lines would. -/
theorem engine_stream (lines : List (Option String)) (e : Engine) :
    (Engine.stream profile lines e).2 =
      e.after ((readable lines).map fun text => .expurgate text profile true) := by
  induction lines generalizing e with
  | nil => rfl
  | cons first rest ih =>
      cases first with
      | none => rfl
      | some text => exact ih _

/-- Several recording expurgations add up the matches of their outcomes. -/
theorem occurrences_after_expurgations (texts : List String) (e : Engine) :
    (e.after (texts.map fun text => .expurgate text profile true)).occurrences = e.occurrences +
      UInt64.ofNat ((outcomes profile e texts).flatMap (·.matched)).length := by
  induction texts generalizing e with
  | nil => exact (UInt64.add_zero _).symm
  | cons text rest ih =>
      have hRest := ih (e.expurgate text profile true).2
      simp only [outcomes, List.flatMap_cons, List.length_append]
      rw [UInt64.ofNat_add, ← UInt64.add_assoc, ← (e.expurgate_recording text profile).1]
      exact hRest

/-- With a fixed selector each text comes out as it would alone. -/
theorem outcomes_fixed (c : Config) (index : Nat) (before : List Operation) (texts : List String) :
    let e := (new c (.fixed index)).after before
    outcomes profile e texts = texts.map fun text => (e.expurgate text profile true).1.outcome := by
  induction texts generalizing before with
  | nil => rfl
  | cons text rest ih =>
      intro e
      let done : Operation := .expurgate text profile true
      have hNext : (e.expurgate text profile true).2 =
          (new c (.fixed index)).after (before ++ [done]) := (after_concat _ before done).symm
      have hSame (text' : String) : ((e.expurgate text profile true).2.expurgate text' profile
          true).1.outcome = (e.expurgate text' profile true).1.outcome := by
        have hFixed : e.selector = .fixed index := selector_after_fixed rfl before
        have hLater : (e.expurgate text profile true).2.selector = .fixed index :=
          selector_perform_fixed hFixed done
        have hAlone : (e.expurgate text' profile true).1.outcome = _ :=
          outcome_after c (.fixed index) before text' profile true
        have hAgain : ((e.expurgate text profile true).2.expurgate text' profile true).1.outcome = _ :=
          outcome_again c (.fixed index) before text text' profile profile true true
        rw [hAlone, hAgain, hFixed, hLater]
      have hRest := ih (before ++ [done])
      rw [← hNext] at hRest
      rw [outcomes, List.map_cons]
      dsimp only
      rw [hRest]
      exact congrArg (_ :: ·) (List.map_congr_left fun text' _ => hSame text')

/-- A stream is expurgated up to the first line that is no text, whatever its bytes are. The lines in
front of it are written as they come out one after another, each with a line feed, and the engine is
left as after requests for these lines, so their matches are counted. If there is such a line, this is
the fault, and otherwise the result are the matches of all lines in their order. With a fixed selector
each line comes out as it would alone. -/
theorem stream_until_fault (c : Config) (selector : Selector) (before : List Operation)
    (profile : ProfileId) (bytes : List UInt8) :
    let e := (new c selector).after before
    let lines := linesWithBreaks 10 bytes
    let texts := readable (streamLines bytes)
    let outcomes := Engine.outcomes profile e texts
    let matched := outcomes.flatMap (·.matched)
    let done := Engine.stream profile (streamLines bytes) e
    texts.map (fun text => utf8 text.toList) = (lines.takeWhile (IsText ·)).map lineContent ∧
      done.1.output.toList = outcomes.flatMap (fun o => (line o.filtered).toList) ∧
      done.2 = e.after (texts.map fun text => .expurgate text profile true) ∧
      done.2.occurrences = e.occurrences + UInt64.ofNat matched.length ∧
      done.1.result = (if ∀ l ∈ lines, IsText l then .ok matched else .error .invalidText) ∧
      ∀ index, let fixed := (new c (.fixed index)).after before
        Engine.outcomes profile fixed texts =
          texts.map fun text => (fixed.expurgate text profile true).1.outcome := by
  intro e lines texts outcomes matched done
  obtain ⟨hOutput, hMatched, -⟩ := stream_outcomes profile (streamLines bytes) e
  have hEngine : done.2 = _ := engine_stream profile (streamLines bytes) e
  refine ⟨readable_streamLines bytes, hOutput, hEngine, ?_, ?_, fun index =>
    outcomes_fixed profile c index before texts⟩
  · rw [hEngine]
    exact occurrences_after_expurgations profile texts e
  · have hFault : done.1.fault = _ := fault_stream_eq profile (streamLines bytes) e
    by_cases hAll : ∀ l ∈ lines, IsText l
    · have hNone : none ∉ streamLines bytes := by
        rw [none_mem_streamLines_iff]
        rintro ⟨l, hMem, hNot⟩
        exact hNot (hAll l hMem)
      rw [if_neg hNone] at hFault
      rw [if_pos hAll, Streamed.result, hFault]
      exact congrArg Except.ok hMatched
    · have hSome : none ∈ streamLines bytes := by
        rw [none_mem_streamLines_iff]
        simpa using hAll
      rw [if_pos hSome] at hFault
      rw [if_neg hAll, Streamed.result, hFault]

end Engine

end Expurgate
