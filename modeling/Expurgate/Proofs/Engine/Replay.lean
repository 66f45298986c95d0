import Expurgate.Proofs.Engine.History
import Expurgate.Proofs.Engine.Resolve
import Expurgate.Proofs.TermSet.Order

/-! The reported matches replay what an expurgation did to a text. Each term's turn edits the text
that the turn before it left, and its matches tell exactly these edits. -/
namespace Expurgate

variable {r : Replacer} {t : Term}

/-- A match tells that the characters `raw`, which stand behind `offset` bytes of a text, give way
to its replacement. What surrounds the found text is kept where it is censored or substituted. -/
structure Describes (r : Replacer) (t : Term) (offset : Nat) (raw : List Char) (m : TermMatch) :
    Prop where
  key : m.key = t.text
  nonempty : raw ≠ []
  start : m.start = offset
  stop : m.stop = offset + byteLength raw
  parts : ∃ leading trailing, raw = leading ++ m.found.toList ++ trailing ∧
    (r.settings.filterMethod = .censor →
      m.replacement.toList = leading ++ r.censor m.found.toList ++ trailing) ∧
    (r.settings.filterMethod = .substitute →
      m.replacement.toList = leading ++ r.substitute t m.found.toList ++ trailing)

/-- The matches of one term, in order, turn a text that stands behind `offset` bytes into another
one. Between the matches the text stays, and each choice is made after those for the earlier
matches. -/
inductive Edits (t : Term) : Replacer → Nat → List Char → List TermMatch → List Char → Prop where
  | rest (r : Replacer) (offset : Nat) (text : List Char) : Edits t r offset text [] text
  | edit {r : Replacer} {offset : Nat} {gap raw behind after : List Char} {m : TermMatch}
      {ms : List TermMatch} (hMatch : Describes r t (offset + byteLength gap) raw m)
      (tail : Edits t (r.after t) m.stop behind ms after) :
      Edits t r offset (gap ++ raw ++ behind) (m :: ms) (gap ++ m.replacement.toList ++ after)

/-- One group of matches for each term, in order, turns a text into another one. -/
inductive Replays :
    Replacer → List Term → List Char → List (List TermMatch) → List Char → Prop where
  | done (r : Replacer) (text : List Char) : Replays r [] text [] text
  | turn {r : Replacer} {t : Term} {rest : List Term} {text next final : List Char}
      {group : List TermMatch} {groups : List (List TermMatch)} (edits : Edits t r 0 text group next)
      (others : Replays (r.afterAll t group) rest next groups final) :
      Replays r (t :: rest) text (group :: groups) final

namespace Edits

variable {offset : Nat} {text after : List Char} {ms : List TermMatch}

/-- Text that stays may be added in front. -/
theorem skip (gap : List Char) (edits : Edits t r (offset + byteLength gap) text ms after) :
    Edits t r offset (gap ++ text) ms (gap ++ after) := by
  cases edits with
  | rest => exact .rest _ _ _
  | @edit _ _ gap' raw behind after m ms hMatch tail =>
      rw [Nat.add_assoc, ← byteLength_append] at hMatch
      simpa using Edits.edit hMatch tail

/-- The stretches that are replaced are not empty and follow one another. -/
theorem stretches (edits : Edits t r offset text ms after) :
    (∀ m ∈ ms, offset ≤ m.start ∧ m.start < m.stop ∧ m.stop ≤ offset + byteLength text) ∧
      ms.Pairwise fun a b => a.stop ≤ b.start := by
  induction edits with
  | rest => exact ⟨nofun, .nil⟩
  | @edit r offset gap raw behind after m ms hMatch tail ih =>
      have hStart := hMatch.start
      have hStop := hMatch.stop
      have hPos := byteLength_pos hMatch.nonempty
      simp only [byteLength_append]
      refine ⟨?_, List.pairwise_cons.mpr ⟨fun b hb => (ih.1 b hb).1, ih.2⟩⟩
      intro b hb
      rcases List.mem_cons.mp hb with rfl | hb
      · omega
      · have := ih.1 b hb
        omega

end Edits

/-- Turns that match nothing leave the text as it was and add an empty group each. -/
theorem Replays.still (terms : List Term) (text : List Char) :
    Replays r terms text (terms.map fun _ => []) text := by
  induction terms with
  | nil => exact .done r text
  | cons t rest ih => exact .turn (.rest r 0 text) ih

/-- The matches of each group lie one behind the other. -/
theorem Replays.stretches {terms : List Term} {text final : List Char}
    {groups : List (List TermMatch)} (replays : Replays r terms text groups final) :
    ∀ group ∈ groups, (∀ m ∈ group, m.start < m.stop) ∧
      group.Pairwise fun a b => a.stop ≤ b.start := by
  induction replays with
  | done => exact nofun
  | turn edits _ ih =>
      refine List.forall_mem_cons.mpr ⟨⟨fun m hm => ?_, edits.stretches.2⟩, ih⟩
      exact (edits.stretches.1 m hm).2.1

section Pass

variable {ctx : PassContext} {h : Array Char} {c : Captures}

/-- The parts of a match, one after another, are its text. -/
theorem Term.Tiles.raw_text {p q : Nat} {m : MatchParts} (tiles : Tiles p q m) :
    m.raw = ⟨p, q⟩ ∧ ∃ leading trailing,
      m.raw.text h = leading ++ m.content.text h ++ trailing ∧
        ∀ replacement, Replacer.reattach m h replacement = leading ++ replacement ++ trailing := by
  cases tiles with
  | plain hLe => exact ⟨rfl, [], [], by simp [MatchParts.raw, MatchParts.content],
      fun _ => by simp [Replacer.reattach]⟩
  | @bounded i j hLeading hContent hTrailing =>
      refine ⟨rfl, _, _, ?_, fun _ => rfl⟩
      simp only [MatchParts.raw, MatchParts.content]
      rw [Span.text_append hLeading hContent, Span.text_append (by omega) hTrailing]

/-- What becomes of a match: its text stays without a trace, or is replaced as the record tells. -/
theorem resolve_cases (cache : TokenCache) {m : MatchParts} (hSplit : t.split c = some m)
    (tiles : Term.Tiles c.start c.stop m) :
    let res := (resolve ctx t h c cache).1
    (res.match? = none ∧ res.text h ⟨c.start, c.stop⟩ = Span.text ⟨c.start, c.stop⟩ h) ∨
    ∃ record, res.match? = some record ∧
      res.text h ⟨c.start, c.stop⟩ = record.replacement.toList ∧
      Describes ctx.replacer t (byteOffset h c.start) (Span.text ⟨c.start, c.stop⟩ h) record := by
  simp only [resolve, hSplit]
  obtain ⟨hRaw, leading, trailing, hParts, hReattach⟩ := tiles.raw_text (h := h)
  split
  · exact .inl ⟨rfl, rfl⟩
  · rename_i hContent
    split
    · exact .inl ⟨rfl, rfl⟩
    · refine .inr ⟨_, rfl, by simp [Resolution.text], ?_⟩
      have hNonempty : Span.text ⟨c.start, c.stop⟩ h ≠ [] := by
        rw [← hRaw, hParts]
        simp_all
      have hLe : c.start ≤ c.stop := by
        cases tiles <;> omega
      refine ⟨rfl, hNonempty, by rw [hRaw], ?_, leading, trailing, ?_, ?_, ?_⟩
      · rw [hRaw]
        exact byteOffset_add hLe
      · rw [← hRaw, hParts, String.toList_ofList]
      · intro hMethod
        simp [Replacer.replacement, hMethod, hReattach]
      · intro hMethod
        simp [Replacer.replacement, hMethod, hReattach]

/-- The matches of one pass, resolved from the left, are edits in order that start no earlier than
the pass does. Exempt matches drop out and leave no gap in the order. -/
theorem edits_resolveAll {cs : List Captures} {start : Nat} (cache : TokenCache)
    (hSuccessive : Successive h.size start cs) (hStart : start ≤ h.size)
    (hTiles : ∀ c ∈ cs, ∃ m, t.split c = some m ∧ Term.Tiles c.start c.stop m) :
    let resolved := (resolveAll ctx t h cs cache).1
    Edits t ctx.replacer (byteOffset h start) (Span.text ⟨start, h.size⟩ h)
      (resolved.filterMap (·.2.match?)) (splice h start resolved) := by
  induction hSuccessive generalizing ctx cache with
  | nil start => exact .rest _ _ _
  | @cons start c rest hFrom hLe hSize _ ih =>
      obtain ⟨m, hSplit, tiles⟩ := hTiles c (by simp)
      have hReplacer := replacer_after_resolve ctx t h c cache
      have hTail := @ih (ctx.after [(resolve ctx t h c cache).1]) (resolve ctx t h c cache).2 hSize
        fun d hd => hTiles d (by simp [hd])
      have hText : Span.text ⟨start, h.size⟩ h = Span.text ⟨start, c.start⟩ h ++
          (Span.text ⟨c.start, c.stop⟩ h ++ Span.text ⟨c.stop, h.size⟩ h) := by
        rw [Span.text_append hLe hSize, Span.text_append hFrom (by omega)]
      simp only [resolveAll, splice, List.filterMap_cons]
      rw [hText]
      rcases @resolve_cases t ctx h c cache m hSplit tiles with
        ⟨hNone, hStays⟩ | ⟨record, hSome, hReplaced, hDescribes⟩
      · rw [hNone, Option.isSome_none, if_neg Bool.false_ne_true] at hReplacer
        rw [hReplacer] at hTail
        rw [hNone, hStays, List.append_assoc]
        refine .skip _ (.skip _ ?_)
        rw [← byteOffset_add hFrom, ← byteOffset_add hLe]
        exact hTail
      · rw [hSome, Option.isSome_some, if_pos rfl] at hReplacer
        rw [hReplacer] at hTail
        rw [hSome, hReplaced, ← List.append_assoc]
        rw [byteOffset_add hFrom] at hDescribes
        refine .edit hDescribes ?_
        rw [hDescribes.stop, ← byteOffset_add hFrom, ← byteOffset_add hLe]
        exact hTail

/-- A term's turn edits the text as its matches tell. -/
theorem edits_pass {o : TermOptions} {s : Settings} (ht : Term.Prepared o s t)
    (cache : TokenCache) :
    let result := (t.pass ctx h cache).1
    Edits t ctx.replacer 0 h.toList result.matched result.text.toList := by
  have hSuccessive : Successive h.size 0 (t.occurrences h) := Program.successive_findAll
  have hTiles : ∀ c ∈ t.occurrences h, ∃ m, t.split c = some m ∧ Term.Tiles c.start c.stop m := by
    intro c hMem
    exact ht.tiles_of_mem_occurrences hMem (hSuccessive.le_of_mem hMem)
  have hEdits := @edits_resolveAll t ctx h _ 0 cache hSuccessive (Nat.zero_le _) hTiles
  rw [byteOffset_zero, Span.text_zero_size] at hEdits
  simpa [Term.pass, List.filterMap_map, Function.comp_def] using hEdits

/-- How far a pass advances the choices depends on what it decided and on nothing else, so the
records of a pass are enough to go on from. -/
theorem replacer_after_resolveAll (cs : List Captures) (cache : TokenCache) :
    let decided := (resolveAll ctx t h cs cache).1.map (·.2)
    (ctx.after decided).replacer =
      ctx.replacer.afterAll t (decided.filterMap (·.match?)) := by
  induction cs generalizing ctx cache with
  | nil => rfl
  | cons c rest ih =>
      have hFirst := replacer_after_resolve ctx t h c cache
      have hRest :=
        @ih (ctx.after [(resolve ctx t h c cache).1]) (resolve ctx t h c cache).2
      rw [hFirst] at hRest
      simp only [resolveAll, List.map_cons, List.filterMap_cons]
      refine Eq.trans rfl (hRest.trans ?_)
      cases hMatch : (resolve ctx t h c cache).1.match? <;> rfl

/-- One pass for each term in turn makes a replay, with a group for each term. Each pass reads what
the passes before it wrote. -/
theorem replays_passes {terms : List Term}
    {s : Settings} (hTerms : ∀ t ∈ terms, ∃ o, Term.Prepared o s t) (h : Array Char)
    (cache : TokenCache) :
    let result := passes ctx terms h cache
    ∃ groups, groups.flatten = result.matched ∧
      Replays ctx.replacer terms h.toList groups result.text.toList := by
  induction terms generalizing ctx h cache with
  | nil => exact ⟨[], rfl, .done _ _⟩
  | cons t rest ih =>
      obtain ⟨o, ht⟩ := hTerms t (by simp)
      obtain ⟨groups, hFlatten, others⟩ := @ih (ctx.after (t.pass ctx h cache).1.decided)
        (fun u hu => hTerms u (by simp [hu])) (t.pass ctx h cache).1.text (t.pass ctx h cache).2
      rw [show (ctx.after (t.pass ctx h cache).1.decided).replacer = _ from
        replacer_after_resolveAll (t.occurrences h) cache] at others
      refine ⟨(t.pass ctx h cache).1.matched :: groups, ?_, .turn (edits_pass ht cache) others⟩
      rw [List.flatten_cons, hFlatten]
      simp [passes]

end Pass

/-- The terms of a profile are prepared from the configured ones. -/
theorem Config.compile_of_mem_freshSet (c : Config) (profile : ProfileId) :
    ∀ t ∈ (c.freshSet profile).terms, ∃ o ∈ c.terms, Term.compile o c.settings = .ok t := by
  intro t hMem
  rw [freshSet] at hMem
  split at hMem
  · rw [TermSet.terms_eq] at hMem
    obtain ⟨o, ho, hSome⟩ := List.mem_filterMap.mp hMem
    have hConfigured : o ∈ c.terms.filter (·.belongsTo profile) := List.mem_mergeSort.mp ho
    exact ⟨o, List.mem_of_mem_filter hConfigured, TermSet.compile_of_toOption hSome⟩
  · simp [TermSet.empty] at hMem

/-- Every term of a fresh set was prepared from options of the configuration. No other term finds
its way into a set. -/
theorem Config.prepared_of_mem_freshSet (c : Config) (profile : ProfileId) :
    ∀ t ∈ (c.freshSet profile).terms, ∃ o ∈ c.terms, Term.Prepared o c.settings t := by
  intro t hMem
  obtain ⟨o, ho, hCompile⟩ := c.compile_of_mem_freshSet profile t hMem
  exact ⟨o, ho, Term.prepared_of_compile hCompile⟩

namespace Engine

/-- The matches that an expurgation reports replay it. They fall into one group for each term of the
profile's set, the groups of the terms turn the text into the filtered one, one after another, and
the text counts as modified if that is another text. Substitutions are chosen by the selector as it
is by then, which is the one that the engine began with if it is fixed. -/
theorem expurgate_replays (c : Config) (selector : Selector) (before : List Operation)
    (text : String) (profile : ProfileId) (record : Bool) :
    let e := (new c selector).after before
    let current := c.after before
    let outcome := (e.expurgate text profile record).1.outcome
    (∃ groups, groups.flatten = outcome.matched ∧
      Replays ⟨current.settings, e.selector⟩ (current.freshSet (current.resolve profile)).terms
        text.toList groups outcome.filtered.toList ∧
      ∀ group ∈ groups, (∀ m ∈ group, m.start < m.stop) ∧
        group.Pairwise fun a b => a.stop ≤ b.start) ∧
    (outcome.modified = true ↔ outcome.filtered ≠ text) ∧
    ∀ index, ((new c (.fixed index)).after before).selector = .fixed index := by
  intro e current outcome
  have hFixed (index : Nat) : ((new c (.fixed index)).after before).selector = .fixed index :=
    selector_after_fixed rfl before
  have hCoherent : e.Coherent := (Coherent.new c selector).after before
  have hConfig : e.config = current := config_after (new c selector) before
  have hOutcome : outcome = _ := outcome_expurgate e text profile record
  by_cases hIdle : e.config.settings.filterMethod = .off ∨ text = ""
  · rw [if_pos hIdle] at hOutcome
    have hStill := Replays.still (r := ⟨current.settings, e.selector⟩)
      (current.freshSet (current.resolve profile)).terms text.toList
    rw [hOutcome]
    exact ⟨⟨_, by simp [Outcome.unchanged], hStill, hStill.stretches⟩, by simp [Outcome.unchanged],
      hFixed⟩
  · rw [if_neg hIdle, hCoherent.termSet_set, hConfig] at hOutcome
    have hPrepared : ∀ t ∈ (current.freshSet (current.resolve profile)).terms,
        ∃ o, Term.Prepared o current.settings t := by
      intro t hMem
      obtain ⟨o, -, ht⟩ := current.prepared_of_mem_freshSet (current.resolve profile) t hMem
      exact ⟨o, ht⟩
    obtain ⟨groups, hFlatten, hReplays⟩ :=
      @replays_passes e.context _ _ hPrepared text.toList.toArray .empty
    have hReplacer : e.context.replacer = ⟨current.settings, e.selector⟩ := by
      rw [context, hConfig]
    rw [hReplacer] at hReplays
    rw [hOutcome]
    refine ⟨⟨groups, hFlatten, ?_, hReplays.stretches⟩, by simp [TermSet.expurgate], hFixed⟩
    simpa [TermSet.expurgate] using hReplays

end Engine

end Expurgate
