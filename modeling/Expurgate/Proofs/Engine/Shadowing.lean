import Expurgate.Proofs.Term.Extent

/-! What the turn of a shorter term finds of the text that the turn of a longer one put in. Longer
terms have their turns first, and what they put in is left alone by every later term that could not
match over it in any text. Where a later term is spelled by it, it is matched again. -/
namespace Expurgate

open Unicode

/-- A position of a text, and where its character stands after several turns that leave it. -/
def Carried (ctx : PassContext) : List Turn → Nat → Nat → Prop
  | [], p, k => p = k
  | u :: rest, p, k => ∃ q, source 0 (u.edits ctx) q = .kept p ∧ Carried ctx rest q k

/-- One turn comes before another, with some turns between them. -/
def Precedes (all : List Turn) (u : Turn) (between : List Turn) (v : Turn) : Prop :=
  ∃ earlier later, all = earlier ++ u :: (between ++ v :: later)

namespace Turn

/-- Of what an edit of a turn put in, `len` characters from the `n`-th on still stand there after
some more turns, together, from `k` on. -/
def Leaves (ctx : PassContext) (u : Turn) (between : List Turn) (e : Edit) (n k len : Nat) : Prop :=
  ∀ x < len, ∃ q, source 0 (u.edits ctx) q = .inserted e (n + x) ∧ Carried ctx between q (k + x)

/-- A match of a turn covers one of `len` characters from `k` on. -/
def Touches (v : Turn) (k len : Nat) : Prop :=
  ∃ c ∈ v.term.occurrences v.text, ∃ x < len, c.start ≤ k + x ∧ k + x < c.stop

end Turn

section Chain

variable {ctx : PassContext} {terms : List Term} {h : Array Char} {cache : TokenCache}
  {earlier between later : List Turn} {u v : Turn} {e : Edit} {n p k len : Nat}

/-- The turns go through the terms in order, one for each. -/
theorem map_term_turns (ctx : PassContext) (terms : List Term) (h : Array Char)
    (cache : TokenCache) : (turns ctx terms h cache).map (·.term) = terms := by
  induction terms generalizing ctx h cache with
  | nil => rfl
  | cons t rest ih => exact congrArg (t :: ·) (ih _ _ _)

/-- All that the passes decide is decided in some turn, and in the order of the turns. -/
theorem decided_passes (ctx : PassContext) (terms : List Term) (h : Array Char)
    (cache : TokenCache) : (passes ctx terms h cache).decided =
      (turns ctx terms h cache).flatMap fun u => (u.result ctx).decided := by
  induction terms generalizing ctx h cache with
  | nil => rfl
  | cons t rest ih => exact congrArg ((t.pass ctx h cache).1.decided ++ ·) (ih _ _ _)

/-- The turns behind one of several start from what it leaves. -/
theorem turns_behind (hTurns : turns ctx terms h cache = earlier ++ u :: later) :
    ∃ s terms' cache', turns (ctx.choosing s) terms' (u.result ctx).text cache' = later := by
  induction earlier generalizing ctx terms h cache with
  | nil =>
      cases terms with
      | nil => cases hTurns
      | cons t rest =>
          obtain ⟨rfl, rfl⟩ := List.cons.inj hTurns
          exact ⟨_, rest, _, rfl⟩
  | cons first earlier ih =>
      cases terms with
      | nil => cases hTurns
      | cons t rest =>
          exact @ih (ctx.after (t.pass ctx h cache).1.decided) rest _ _ (List.cons.inj hTurns).2

/-- A character that is carried along is found at its new place, whoever chooses by then. -/
theorem Carried.getElem? {s : Selector}
    (hTurns : turns (ctx.choosing s) terms h cache = between ++ v :: later)
    (carried : Carried ctx between p k) : v.text[k]? = h[p]? := by
  induction between generalizing s terms h cache p with
  | nil =>
      cases terms with
      | nil => cases hTurns
      | cons t rest =>
          obtain ⟨rfl, -⟩ := List.cons.inj hTurns
          rw [show p = k from carried]
  | cons u between ih =>
      cases terms with
      | nil => cases hTurns
      | cons t rest =>
          obtain ⟨rfl, hRest⟩ := List.cons.inj hTurns
          obtain ⟨q, hSource, onward⟩ := carried
          obtain ⟨order, hPatch⟩ := Turn.edits_inOrder ctx
            ⟨t, h, cache, (ctx.choosing s).replacer.selector⟩
          have hChar := getElem?_of_patch order hPatch q
          rw [hSource] at hChar
          exact (ih hRest onward).trans hChar

/-- Characters that one turn put in and the turns between carried along are read by a later turn
where they ended up. -/
theorem Turn.Leaves.getElem?
    (hTurns : turns ctx terms h cache = earlier ++ u :: (between ++ v :: later))
    (leaves : u.Leaves ctx between e n k len) {x : Nat} (hx : x < len) :
    v.text[k + x]? = e.text[n + x]? ∧ n + x < e.text.length := by
  obtain ⟨q, hSource, carried⟩ := leaves x hx
  obtain ⟨s, terms', cache', hBehind⟩ := turns_behind hTurns
  obtain ⟨order, hPatch⟩ := u.edits_inOrder ctx
  have hChar := getElem?_of_patch order hPatch q
  rw [hSource] at hChar
  exact ⟨(carried.getElem? hBehind).trans hChar, (mem_of_source_inserted hSource).2⟩

/-- What is left of an edit is a part of the later text. -/
theorem Turn.Leaves.text_eq
    (hTurns : turns ctx terms h cache = earlier ++ u :: (between ++ v :: later))
    (leaves : u.Leaves ctx between e n k len) : v.text.toList =
      v.text.toList.take k ++ (e.text.drop n).take len ++ v.text.toList.drop (k + len) := by
  have hPart : (e.text.drop n).take len = (v.text.toList.drop k).take len := by
    refine List.ext_getElem? fun x => ?_
    by_cases hx : x < len
    · rw [List.getElem?_take_of_lt hx, List.getElem?_take_of_lt hx, List.getElem?_drop,
        List.getElem?_drop, Array.getElem?_toList, (leaves.getElem? hTurns hx).1]
    · rw [List.getElem?_eq_none (by simp; omega), List.getElem?_eq_none (by simp; omega)]
  rw [hPart, List.append_assoc, ← List.drop_drop, List.take_append_drop, List.take_append_drop]

/-- A term that matches over something that was put in could do so in some text. -/
theorem Turn.Leaves.exposed_of_touches
    (hTurns : turns ctx terms h cache = earlier ++ u :: (between ++ v :: later))
    (leaves : u.Leaves ctx between e n k len) {o : TermOptions} {s : Settings}
    (ht : Term.Prepared o s v.term) (hKeep : s.filterMethod ≠ .remove)
    (hMethod : o.methodIn s ≠ .regex) (touches : v.Touches k len) :
    o.Exposed s ((e.text.drop n).take len) := by
  obtain ⟨c, hMem, x, hx, hFrom, hTo⟩ := touches
  obtain ⟨-, hSize⟩ := ht.bounds_of_mem hMethod hMem
  have hLength : (v.text.toList.take k).length = k := by
    rw [List.length_take, Array.length_toList]
    omega
  have hInside := (leaves.getElem? hTurns hx).2
  refine ⟨v.text.toList.take k, v.text.toList.drop (k + len), x, c.start, c.stop, ?_, ?_, ?_, ?_⟩
  · rw [List.length_take, List.length_drop]
    omega
  · rw [← leaves.text_eq hTurns, Array.toArray_toList]
    exact ht.occupies hKeep hMethod hMem
  · rw [hLength]
    exact hFrom
  · rw [hLength]
    exact hTo

/-- A term that is spelled by what was put in is matched over it, if its matches are spellings. -/
theorem Turn.touches_of_suits {o : TermOptions} {s : Settings} (ht : Term.Prepared o s v.term)
    (hKeep : s.filterMethod ≠ .remove)
    (hBare : o.methodIn s = .within ∨ o.methodIn s = .exact ∧ o.shapeIn s = .plain) {i j : Nat}
    (hFrom : k ≤ i) (hTo : j ≤ k + len) (suits : o.Suits s v.text i j) : v.Touches k len := by
  have hText := ht.toList_ne_nil
  have hLong := suits.spells.length_le
  have hSize := suits.le_size
  have hPos := List.length_pos_iff.mpr hText
  rw [Span.length_text hSize] at hLong
  obtain ⟨c, hMem, hStart, hStop⟩ := ht.exists_overlap hKeep hBare suits
  exact ⟨c, hMem, i - k, by omega, by omega, by omega⟩

end Chain

namespace Config

/-- Longer terms of a set come first. -/
theorem pairwise_freshSet (c : Config) (profile : ProfileId) :
    (c.freshSet profile).terms.Pairwise fun a b => b.text.length ≤ a.text.length := by
  rw [freshSet]
  split
  · rw [TermSet.terms_eq]
    refine (TermSet.longestFirst_candidates c profile).descending.filterMap _ ?_
    intro a b hLe t ht t' ht'
    have hText {o : TermOptions} {t : Term}
        (hSome : (Term.compile o c.settings).toOption = some t) : t.text = o.text :=
      (Term.prepared_of_compile (TermSet.compile_of_toOption hSome)).text
    rw [hText ht, hText ht']
    exact hLe
  · exact .nil

/-- The turn of a term never follows that of a shorter one. -/
theorem not_precedes {c : Config} {selector : Selector} {profile : ProfileId} {text : String}
    {u v : Turn} (hShorter : v.term.text.length < u.term.text.length) (between : List Turn) :
    ¬Precedes (c.turns selector profile text) v between u := by
  rintro ⟨earlier, later, hTurns⟩
  have hOrder := c.pairwise_freshSet (c.resolve profile)
  have hTerms : (c.turns selector profile text).map (·.term) = _ := map_term_turns _ _ _ _
  rw [← hTerms, List.pairwise_map, hTurns, List.pairwise_append, List.pairwise_cons] at hOrder
  have := hOrder.2.1.1 u (List.mem_append_right _ List.mem_cons_self)
  omega

end Config

namespace Engine

/-- The matches of an expurgation are those of its turns. -/
theorem matched_after (c : Config) (selector : Selector) (before : List Operation) {text : String}
    (profile : ProfileId) (record : Bool) (hMethod : (c.after before).settings.filterMethod ≠ .off)
    (hText : text ≠ "") :
    let e := (new c selector).after before
    let current := c.after before
    (e.expurgate text profile record).1.outcome.matched =
      (current.turns e.selector profile text).flatMap fun u =>
        (u.result (current.context e.selector)).matched := by
  intro e current
  rw [outcome_after, if_neg (not_or.mpr ⟨hMethod, hText⟩)]
  simp only [TermSet.expurgate, PassResult.matched, decided_passes, List.filterMap_flatMap]
  rfl

/-- A longer term has its turn before a shorter one that is part of it, and what its turn put in is
shadowed: no match of the shorter term covers any of it, as far as it still stands, unless the
shorter term could match over it in some text, and then it reads one of its characters. But a
shorter term whose matches are its spellings is matched again wherever what was put in spells it. -/
theorem expurgate_shadows_unless (c : Config) (selector : Selector) (before : List Operation)
    (text : String) (profile : ProfileId) (record : Bool) :
    let e := (new c selector).after before
    let current := c.after before
    let s := current.settings
    let ctx := current.context e.selector
    let turns := current.turns e.selector profile text
    let outcome := (e.expurgate text profile record).1.outcome
    s.filterMethod = .censor ∨ s.filterMethod = .substitute →
    (text ≠ "" → outcome.matched = turns.flatMap fun u => (u.result ctx).matched) ∧
    ∀ long short : TermOptions, short.methodIn s ≠ .regex →
      short.text.toList <:+: long.text.toList → short.text ≠ long.text →
      ∀ u v, Term.compile long s = .ok u.term → Term.compile short s = .ok v.term →
        (∀ between, ¬Precedes turns v between u) ∧
        ∀ between, Precedes turns u between v →
          ∀ e ∈ u.edits ctx, ∀ n k len, u.Leaves ctx between e n k len →
            (v.Touches k len → short.Exposed s ((e.text.drop n).take len)) ∧
            (v.Touches k len → ∃ d ∈ (e.text.drop n).take len, short.Reads s d) ∧
            (short.methodIn s = .within ∨ short.methodIn s = .exact ∧ short.shapeIn s = .plain →
              ∀ i j, k ≤ i → j ≤ k + len → short.Suits s v.text i j → v.Touches k len) := by
  intro e current s ctx turns outcome hRewrite
  have hOn : s.filterMethod ≠ .off := by
    rcases hRewrite with hMethod | hMethod <;> simp [hMethod]
  have hKeep : s.filterMethod ≠ .remove := by
    rcases hRewrite with hMethod | hMethod <;> simp [hMethod]
  refine ⟨matched_after c selector before profile record hOn, ?_⟩
  intro long short hMethod hPart hOther u v hLong hShort
  have hPrepared := Term.prepared_of_compile hShort
  refine ⟨Config.not_precedes ?_, ?_⟩
  · rw [hPrepared.text, (Term.prepared_of_compile hLong).text, ← String.length_toList,
      ← String.length_toList]
    refine Nat.lt_of_le_of_ne hPart.length_le fun hSame => hOther ?_
    exact String.toList_inj.mp (hPart.eq_of_length hSame)
  · rintro between ⟨earlier, later, hTurns⟩ e - n k len leaves
    have hExposed := leaves.exposed_of_touches hTurns hPrepared hKeep hMethod
    exact ⟨hExposed, fun touches => (hExposed touches).exists_reads,
      fun hBare i j hFrom hTo => Turn.touches_of_suits hPrepared hKeep hBare hFrom hTo⟩

end Engine

/-- A configuration that masks words but for their first letters, and has such a letter as a term. -/
def Config.initialed : Config := { Config.empty with terms := [.ofText "hell", .ofText "h"] }

section Initialed

variable {t : Term}

/-- The match of the longer term in its own text is all of it. -/
theorem Term.Prepared.bounds_of_hell (ht : Prepared (.ofText "hell") .default t) {c : Captures}
    (hMem : c ∈ t.occurrences "hell".toList.toArray) : c.start = 0 ∧ c.stop = 4 := by
  obtain ⟨i', i, j, j', takes⟩ := ht.occupies (by decide) (by decide) hMem
  obtain ⟨rfl, rfl⟩ := takes.bare (by decide)
  obtain ⟨rfl, rfl⟩ := takes.unbounded (.inl (by decide))
  have hSize : c.stop ≤ 4 := takes.le_size
  have hLong := takes.spells.length_le
  rw [Span.length_text takes.le_size] at hLong
  change 4 ≤ c.stop - c.start at hLong
  omega

/-- Its turn masks the text but for the first letter. -/
theorem edits_of_hell (ht : Term.Prepared (.ofText "hell") .default t) : ∃ rest,
    Turn.edits (Config.initialed.context (.fixed 0)) ⟨t, "hell".toList.toArray, .empty, .fixed 0⟩ =
      ⟨⟨0, 4⟩, "h***".toList⟩ :: rest := by
  let ctx := Config.initialed.context (.fixed 0)
  let u : Turn := ⟨t, "hell".toList.toArray, .empty, .fixed 0⟩
  have hSplit {d : Captures} (hMem : d ∈ t.occurrences "hell".toList.toArray) :
      t.split d = some (.plain ⟨0, 4⟩) := by
    obtain ⟨hStart, hStop⟩ := ht.bounds_of_hell hMem
    rw [Term.split_plain (ht.shape.trans (by decide)), hStart, hStop]
  have hMade : u.edits ctx = (u.replaced ctx).map (ctx.edit t u.text) :=
    u.edits_of_steady ctx (.inr ⟨0, rfl⟩)
  have hEach : ∀ e ∈ u.edits ctx, e = ⟨⟨0, 4⟩, "h***".toList⟩ := by
    intro e he
    rw [hMade] at he
    obtain ⟨m, hReplaced, rfl⟩ := List.mem_map.mp he
    obtain ⟨d, hMem, hParts, -⟩ := mem_replacedIn hReplaced
    rw [hSplit hMem] at hParts
    obtain rfl := Option.some.inj hParts
    rfl
  have hSuits : TermOptions.Suits (.ofText "hell") .default "hell".toList.toArray 0 4 :=
    ⟨by decide, by decide, .self _ _ _, by decide, by decide +kernel⟩
  obtain ⟨d, hMem, -⟩ := ht.exists_overlap (by decide) (.inr ⟨by decide, by decide⟩) hSuits
  have hContent : (MatchParts.plain ⟨0, 4⟩).content.text "hell".toList.toArray ≠ [] := by decide
  have hStrict : ctx.allowList.isEmpty = true := rfl
  have hReplaced := mem_replacedIn_of_strict hStrict hMem (hSplit hMem) hContent .empty
  have hSome : u.edits ctx ≠ [] := by
    rw [hMade]
    exact List.ne_nil_of_mem (List.mem_map_of_mem hReplaced)
  obtain ⟨e, rest, hEdits⟩ := List.exists_cons_of_ne_nil hSome
  have hIs := hEach e (by rw [hEdits]; exact List.mem_cons_self)
  rw [hIs] at hEdits
  exact ⟨rest, hEdits⟩

/-- The letter suits the shorter term in front of a mask. -/
theorem suits_initial {h : Array Char} (hFirst : h[0]? = some 'h') (hMask : h[1]? = some '*') :
    TermOptions.Suits (.ofText "h") .default h 0 1 := by
  have hSpells : Spells false false ['h'] (Span.text ⟨0, 1⟩ h) := by
    rw [Span.text_succ hFirst]
    exact .self _ _ _
  have hAdmits : Shape.plain.Admits h 0 1 := by
    refine ⟨holds_wordEdge_iff.mpr (.inl ⟨⟨'h', hFirst, by decide⟩, nofun⟩),
      holds_wordEdge_iff.mpr (.inr ⟨⟨'h', hFirst, by decide⟩, fun d hd => ?_⟩)⟩
    obtain rfl : '*' = d := Option.some.inj (hMask.symm.trans hd)
    decide
  exact ⟨by decide, (Array.getElem?_eq_some_iff.mp hFirst).1, hSpells, hAdmits⟩

end Initialed

namespace Engine

/-- The first letter that a mask leaves is matched again. -/
theorem expurgate_shadows_unless_initial :
    let c := Config.initialed
    let s := c.settings
    let long := TermOptions.ofText "hell"
    let short := TermOptions.ofText "h"
    (s.filterMethod = .censor ∨ s.filterMethod = .substitute) ∧ long ∈ c.terms ∧ short ∈ c.terms ∧
      short.methodIn s ≠ .regex ∧ short.text.toList <:+: long.text.toList ∧
      short.text ≠ long.text ∧
      ∃ u v e, Term.compile long s = .ok u.term ∧ Term.compile short s = .ok v.term ∧
        Precedes (c.turns (.fixed 0) .all "hell") u [] v ∧ e ∈ u.edits (c.context (.fixed 0)) ∧
        e.text = "h***".toList ∧ u.Leaves (c.context (.fixed 0)) [] e 0 0 4 ∧ v.Touches 0 4 := by
  intro c s long short
  let ctx := c.context (.fixed 0)
  have hMethod : short.methodIn s ≠ .regex := by decide
  have hPart : short.text.toList <:+: long.text.toList := ⟨[], "ell".toList, by decide⟩
  have hOther : short.text ≠ long.text := by decide
  obtain ⟨t, hLong⟩ := @Term.exists_compile long s (by decide) (by decide) (by decide)
  obtain ⟨t', hShort⟩ := @Term.exists_compile short s (by decide) hMethod (by decide)
  let u : Turn := ⟨t, "hell".toList.toArray, .empty, .fixed 0⟩
  let v : Turn := ⟨t', (u.result ctx).text, (t.pass ctx u.text .empty).2,
    (Selector.fixed 0).afterAll (u.result ctx).decided⟩
  have hFresh : (c.freshSet (c.resolve .all)).terms = [t, t'] := by
    rw [show c.resolve .all = .all from rfl, Config.terms_freshSet_all (by decide)]
    exact congrArg₂ (fun r r' => [r, r'].filterMap Except.toOption) hLong hShort
  have hTurns : c.turns (.fixed 0) .all "hell" = [u, v] := by
    rw [Config.turns, hFresh]
    rfl
  obtain ⟨rest, hEdits⟩ := edits_of_hell (Term.prepared_of_compile hLong)
  let e : Edit := ⟨⟨0, 4⟩, "h***".toList⟩
  have hEdit : e ∈ u.edits ctx := hEdits ▸ List.mem_cons_self
  have leaves : u.Leaves ctx [] e 0 0 4 := by
    intro x hx
    refine ⟨x, ?_, (Nat.zero_add x).symm⟩
    rw [hEdits, Nat.zero_add]
    exact source_first hx
  have hChain : turns ctx [t, t'] "hell".toList.toArray .empty = [] ++ u :: ([] ++ [v]) := rfl
  have hChar {x : Nat} (hx : x < 4) : v.text[x]? = "h***".toList[x]? := by
    have hSame := (leaves.getElem? hChain hx).1
    rwa [Nat.zero_add] at hSame
  have touches := (((expurgate_shadows_unless c (.fixed 0) [] "hell" .all true (.inl rfl)).2
    long short hMethod hPart hOther u v hLong hShort).2 [] ⟨[], [], hTurns⟩ e hEdit 0 0 4
    leaves).2.2 (.inr ⟨by decide, by decide⟩) 0 1 (Nat.le_refl 0) (by decide)
    (suits_initial (hChar (by decide)) (hChar (by decide)))
  exact ⟨.inl rfl, by decide, by decide, hMethod, hPart, hOther, u, v, e, hLong, hShort,
    ⟨[], [], hTurns⟩, hEdit, rfl, leaves, touches⟩

end Engine

end Expurgate
