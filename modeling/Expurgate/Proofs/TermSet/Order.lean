import Expurgate.Proofs.Term.Prepared
import Expurgate.TermSet

/-! The order in which terms are applied, and which terms there are. A list is put in order by length
if longer terms come first and, for each length, the terms of this length stay as they were. This
determines the order, so it does not matter where terms of other lengths stood, or whether terms
that cannot be prepared are left out before or after. -/
namespace Expurgate

/-- The terms of any one length are the same and in the same order. -/
def SameByLength (l l' : List TermOptions) : Prop :=
  ∀ n, l.filter (·.text.length = n) = l'.filter (·.text.length = n)

/-- Longer terms come first. -/
def Descending (l : List TermOptions) : Prop :=
  l.Pairwise fun a b => b.text.length ≤ a.text.length

/-- The second list has the terms of the first, longer ones first and those of one length in their
order. -/
structure LongestFirst (l l' : List TermOptions) : Prop where
  same : SameByLength l l'
  descending : Descending l'

namespace SameByLength

variable {l l' l'' : List TermOptions}

theorem symm (hSame : SameByLength l l') : SameByLength l' l := fun n => (hSame n).symm

theorem trans (hFirst : SameByLength l l') (hSecond : SameByLength l' l'') :
    SameByLength l l'' := fun n => (hFirst n).trans (hSecond n)

/-- Lists with the same terms of each length have the same terms. -/
theorem mem_iff (hSame : SameByLength l l') (o : TermOptions) : o ∈ l ↔ o ∈ l' := by
  have hFilter (l : List TermOptions) :
      o ∈ l.filter (·.text.length = o.text.length) ↔ o ∈ l := by simp [List.mem_filter]
  rw [← hFilter l, hSame o.text.length, hFilter l']

/-- Terms may be left out by a test of their own. -/
theorem filter (hSame : SameByLength l l') (p : TermOptions → Bool) :
    SameByLength (l.filter p) (l'.filter p) := by
  have hSwap (l : List TermOptions) (n : Nat) : (l.filter p).filter (·.text.length = n) =
      (l.filter (·.text.length = n)).filter p := by
    rw [List.filter_filter, List.filter_filter]
    simp only [Bool.and_comm]
  intro n
  rw [hSwap, hSwap, hSame n]

theorem cons_iff {o : TermOptions} : SameByLength (o :: l) (o :: l') ↔ SameByLength l l' := by
  refine forall_congr' fun n => ?_
  by_cases hn : o.text.length = n <;> simp [hn]

/-- No term is lost and none is added. -/
theorem perm (hSame : SameByLength l l') : l.Perm l' := by
  rw [List.perm_iff_count]
  intro o
  have hCount (l : List TermOptions) :
      (l.filter (·.text.length = o.text.length)).count o = l.count o := by
    rw [List.count_filter (by simp)]
  rw [← hCount l, hSame o.text.length, hCount l']

/-- There is only one way to put longer terms first. -/
theorem eq_of_descending (hSame : SameByLength l l') (hFirst : Descending l)
    (hSecond : Descending l') : l = l' := by
  induction l generalizing l' with
  | nil => exact (List.nil_perm.mp hSame.perm).symm
  | cons o rest ih =>
      cases l' with
      | nil => exact absurd hSame.perm.symm (by simp)
      | cons o' rest' =>
          obtain ⟨hLong, hRest⟩ := List.pairwise_cons.mp hFirst
          obtain ⟨hLong', hRest'⟩ := List.pairwise_cons.mp hSecond
          -- Both begin with a term of the greatest length, and with the first one of this length.
          have hLe : o.text.length ≤ o'.text.length := by
            rcases List.mem_cons.mp ((hSame.mem_iff o).mp List.mem_cons_self) with rfl | hMem
            · exact Nat.le_refl _
            · exact hLong' o hMem
          have hGe : o'.text.length ≤ o.text.length := by
            rcases List.mem_cons.mp ((hSame.mem_iff o').mpr List.mem_cons_self) with rfl | hMem
            · exact Nat.le_refl _
            · exact hLong o' hMem
          have hLength : o'.text.length = o.text.length := Nat.le_antisymm hGe hLe
          have hHead := hSame o.text.length
          rw [List.filter_cons_of_pos (by simp), List.filter_cons_of_pos (by simp [hLength])]
            at hHead
          obtain rfl : o = o' := List.head_eq_of_cons_eq hHead
          rw [ih (cons_iff.mp hSame) hRest hRest']

end SameByLength

namespace LongestFirst

variable {l l' : List TermOptions}

theorem filter (sorted : LongestFirst l l') (p : TermOptions → Bool) :
    LongestFirst (l.filter p) (l'.filter p) :=
  ⟨sorted.same.filter p, sorted.descending.filter p⟩

/-- There is one way to sort terms by length without changing the order of those of equal length. -/
theorem unique {l'' : List TermOptions} (sorted : LongestFirst l l')
    (sorted' : LongestFirst l l'') : l' = l'' :=
  (sorted.same.symm.trans sorted'.same).eq_of_descending sorted.descending sorted'.descending

/-- Sorting by length does what it should. -/
theorem mergeSort (l : List TermOptions) :
    LongestFirst l (l.mergeSort fun a b => b.text.length ≤ a.text.length) := by
  have hTrans : ∀ a b d : TermOptions, decide (b.text.length ≤ a.text.length) = true →
      decide (d.text.length ≤ b.text.length) = true →
      decide (d.text.length ≤ a.text.length) = true := by
    intro a b d hFirst hSecond
    exact decide_eq_true (Nat.le_trans (of_decide_eq_true hSecond) (of_decide_eq_true hFirst))
  have hTotal : ∀ a b : TermOptions, (decide (b.text.length ≤ a.text.length) ||
      decide (a.text.length ≤ b.text.length)) = true := by
    intro a b
    simpa using Nat.le_total b.text.length a.text.length
  refine ⟨fun n => ?_, (List.pairwise_mergeSort hTrans hTotal l).imp of_decide_eq_true⟩
  -- Terms of one length are in order already, so they are found in the sorted list as they stand.
  have hEqual : (l.filter (·.text.length = n)).Pairwise
      fun a b => decide (b.text.length ≤ a.text.length) = true := by
    refine List.Pairwise.imp_of_mem (R := fun _ _ => True) ?_
      (List.pairwise_of_forall fun _ _ => trivial)
    intro a b ha hb _
    have hA : a.text.length = n := by simpa using (List.mem_filter.mp ha).2
    have hB : b.text.length = n := by simpa using (List.mem_filter.mp hb).2
    exact decide_eq_true (by omega)
  have hFound := (List.sublist_mergeSort hTrans hTotal hEqual List.filter_sublist).filter
    (·.text.length = n)
  simp only [List.filter_filter, Bool.and_self] at hFound
  refine hFound.eq_of_length ?_
  exact ((List.mergeSort_perm l _).symm.filter _).length_eq

end LongestFirst

namespace TermSet

variable {c : Config} {profile : ProfileId}

/-- The candidates of a profile are its terms, the longest ones first, and terms of equal length in
the order of the configuration. -/
theorem longestFirst_candidates (c : Config) (profile : ProfileId) :
    LongestFirst (c.terms.filter (·.belongsTo profile)) (candidates c profile) :=
  LongestFirst.mergeSort _

/-- The terms that belong to a profile may be told before or after the terms are reordered. -/
theorem candidates_eq_of_same {d : Config} (hSame : SameByLength c.terms d.terms) :
    candidates c profile = candidates d profile := by
  have sorted := longestFirst_candidates d profile
  exact (longestFirst_candidates c profile).unique
    ⟨(hSame.filter _).trans sorted.same, sorted.descending⟩

def accepts (s : Settings) (o : TermOptions) : Bool := (Term.compile o s).toOption.isSome

/-- The terms that compile are candidates in the same order, with or without the others. -/
theorem candidates_accepted (c : Config) (profile : ProfileId) :
    candidates { c with terms := c.terms.filter (accepts c.settings) } profile =
      (candidates c profile).filter (accepts c.settings) := by
  have sorted := (longestFirst_candidates c profile).filter (accepts c.settings)
  refine (longestFirst_candidates _ profile).unique ⟨?_, sorted.descending⟩
  have hSwap : (c.terms.filter (accepts c.settings)).filter (·.belongsTo profile) =
      (c.terms.filter (·.belongsTo profile)).filter (accepts c.settings) := by
    rw [List.filter_filter, List.filter_filter]
    simp only [Bool.and_comm]
  rw [hSwap]
  exact sorted.same

def refusal? (s : Settings) (o : TermOptions) : Option FilterError :=
  match Term.compile o s with
  | .ok _ => none
  | .error e => some e

/-- What a partial function yields on a list, against the items on which it yields something. -/
theorem forall₂_filterMap {α β : Type} {f : α → Option β} {p : α → Bool}
    (hp : ∀ a, p a = (f a).isSome) (l : List α) :
    List.Forall₂ (fun a b => f a = some b) (l.filter p) (l.filterMap f) := by
  induction l with
  | nil => exact .nil
  | cons a rest ih =>
      cases hf : f a with
      | none =>
          rw [List.filter_cons_of_neg (by rw [hp, hf]; nofun), List.filterMap_cons_none hf]
          exact ih
      | some b =>
          rw [List.filter_cons_of_pos (by rw [hp, hf]; rfl), List.filterMap_cons_some hf]
          exact .cons hf ih

theorem compile_of_toOption {s : Settings} {o : TermOptions} {t : Term}
    (hSome : (Term.compile o s).toOption = some t) : Term.compile o s = .ok t := by
  cases hCompile : Term.compile o s with
  | error e =>
      rw [hCompile] at hSome
      cases hSome
  | ok t' =>
      rw [hCompile] at hSome
      rw [Option.some.inj hSome]

theorem compile_of_refusal {s : Settings} {o : TermOptions} {e : FilterError}
    (hSome : refusal? s o = some e) : Term.compile o s = .error e := by
  rw [refusal?] at hSome
  split at hSome
  · cases hSome
  · rename_i hCompile
    rw [hCompile, Option.some.inj hSome]

theorem accepts_eq_not (s : Settings) (o : TermOptions) :
    (!accepts s o) = (refusal? s o).isSome := by
  rw [accepts, refusal?]
  cases Term.compile o s <;> rfl

/-- The terms of a set are its candidates as far as they compile, in the order of the candidates. -/
theorem terms_eq (c : Config) (profile : ProfileId) : (build c profile).terms =
    (candidates c profile).filterMap fun o => (Term.compile o c.settings).toOption := by
  simp only [build, compiled, List.filterMap_map]
  rfl

/-- A set keeps the errors of the candidates that do not compile, in their order. -/
theorem rejected_eq (c : Config) (profile : ProfileId) :
    (build c profile).rejected = (candidates c profile).filterMap (refusal? c.settings) := by
  simp only [build, compiled, List.filterMap_map]
  rfl

/-- The prepared terms, each from the options it has its text from. -/
theorem terms_build (c : Config) (profile : ProfileId) :
    List.Forall₂ (fun o t => Term.compile o c.settings = .ok t)
      ((candidates c profile).filter (accepts c.settings)) (build c profile).terms := by
  have hEach := forall₂_filterMap (f := fun o => (Term.compile o c.settings).toOption)
    (p := accepts c.settings) (fun _ => rfl) (candidates c profile)
  rw [terms_eq]
  exact hEach.imp fun _ _ => compile_of_toOption

/-- Each error belongs to the candidate that it was raised for. -/
theorem rejected_build (c : Config) (profile : ProfileId) :
    List.Forall₂ (fun o e => Term.compile o c.settings = .error e)
      ((candidates c profile).filter (!accepts c.settings ·)) (build c profile).rejected := by
  rw [rejected_eq]
  exact (forall₂_filterMap (accepts_eq_not _) _).imp fun _ _ => compile_of_refusal

/-- Each term that is left out is told of with its error. -/
theorem buildWarnings_eq (c : Config) (profile : ProfileId) : buildWarnings c profile =
    List.zipWith (fun o e => .skippedTerm o.text profile e)
      ((candidates c profile).filter (!accepts c.settings ·)) (build c profile).rejected := by
  simp only [buildWarnings, build, compiled, List.filterMap_map]
  induction candidates c profile with
  | nil => rfl
  | cons o rest ih =>
      cases hCompile : Term.compile o c.settings with
      | ok t =>
          have hFine : accepts c.settings o = true := by simp [accepts, hCompile, Except.toOption]
          rw [List.filter_cons_of_neg (by simp [hFine])]
          simpa [hCompile] using ih
      | error e =>
          have hNot : accepts c.settings o = false := by simp [accepts, hCompile, Except.toOption]
          rw [List.filter_cons_of_pos (by simp [hNot])]
          simpa [hCompile] using ih

/-- The keys stand beside the terms and in the same order, one for each. -/
theorem keys_build (c : Config) (profile : ProfileId) : (build c profile).keys =
    ((candidates c profile).filter (accepts c.settings)).map (·.text) := by
  simp only [build, compiled, List.filterMap_map]
  induction candidates c profile with
  | nil => rfl
  | cons o rest ih =>
      cases hCompile : Term.compile o c.settings with
      | ok t =>
          have hFine : accepts c.settings o = true := by simp [accepts, hCompile, Except.toOption]
          rw [List.filter_cons_of_pos hFine]
          simpa [hCompile, Except.toOption] using ih
      | error e =>
          have hNot : accepts c.settings o = false := by simp [accepts, hCompile, Except.toOption]
          rw [List.filter_cons_of_neg (by simp [hNot])]
          simpa [hCompile, Except.toOption] using ih

/-- Keys and terms are parallel: a prepared term has the text of the options it is prepared from,
and that text is the key beside it. -/
theorem keys_eq (c : Config) (profile : ProfileId) :
    (build c profile).keys = (build c profile).terms.map (·.text) := by
  have hTexts {l : List TermOptions} {l' : List Term}
      (each : List.Forall₂ (fun o t => Term.compile o c.settings = .ok t) l l') :
      l'.map (·.text) = l.map (·.text) := by
    induction each with
    | nil => rfl
    | cons hFirst _ ih =>
        rw [List.map_cons, List.map_cons, ih, (Term.prepared_of_compile hFirst).text]
  rw [keys_build, hTexts (terms_build c profile)]

/-- Terms that cannot be prepared leave nothing behind but their errors. -/
theorem build_accepted (c : Config) (profile : ProfileId) :
    build { c with terms := c.terms.filter (accepts c.settings) } profile =
      { build c profile with rejected := [] } := by
  let d : Config := { c with terms := c.terms.filter (accepts c.settings) }
  have hTerms : (build d profile).terms = (build c profile).terms := by
    rw [terms_eq, terms_eq, candidates_accepted, List.filterMap_filter]
    refine List.filterMap_congr fun o _ => ?_
    by_cases hFine : accepts c.settings o = true
    · rw [if_pos hFine]
    · rw [if_neg hFine]
      exact (Option.not_isSome_iff_eq_none.mp hFine).symm
  have hRejected : (build d profile).rejected = [] := by
    rw [rejected_eq, candidates_accepted, List.filterMap_eq_nil_iff]
    intro o ho
    have hSome := accepts_eq_not c.settings o
    rw [(List.mem_filter.mp ho).2] at hSome
    exact Option.not_isSome_iff_eq_none.mp (by rw [← hSome]; nofun)
  have hKeys : (build d profile).keys = (build c profile).keys := by
    rw [keys_eq, keys_eq, hTerms]
  calc build d profile
      = ⟨profile, (build d profile).terms, (build d profile).keys, (build d profile).rejected⟩ := rfl
    _ = ⟨profile, (build c profile).terms, (build c profile).keys, []⟩ := by
        rw [hTerms, hKeys, hRejected]

section Lookup

variable {s : TermSet} {key : String}

/-- Iterating over a set whose keys and terms are parallel gives each term under its text. -/
theorem entries_eq (hKeys : s.keys = s.terms.map (·.text)) :
    s.entries = s.terms.map fun t => (t.text, t) := by
  rw [entries, hKeys]
  induction s.terms with
  | nil => rfl
  | cons t rest ih => rw [List.map_cons, List.map_cons, List.zip_cons_cons, ih]

/-- A key is looked up at the first place where it stands, should two terms be written alike. -/
theorem position_eq_some_iff {i : Nat} : s.position key = some i ↔
    s.keys[i]? = some key ∧ ∀ j < i, s.keys[j]? ≠ some key := by
  rw [position, List.findIdx?_eq_some_iff_getElem]
  constructor
  · rintro ⟨hi, hKey, hBefore⟩
    refine ⟨by simpa [List.getElem?_eq_getElem hi] using hKey, fun j hj => ?_⟩
    rw [List.getElem?_eq_getElem (by omega)]
    simpa using hBefore j hj
  · rintro ⟨hKey, hBefore⟩
    obtain ⟨hi, hGet⟩ := List.getElem?_eq_some_iff.mp hKey
    refine ⟨hi, by simpa using hGet, fun j hj => ?_⟩
    have hNot := hBefore j hj
    rw [List.getElem?_eq_getElem (by omega)] at hNot
    simpa using hNot

/-- The term at the first place of a key is the first one with that text. -/
theorem term?_eq (hKeys : s.keys = s.terms.map (·.text)) (key : String) :
    s.term? key = s.terms.find? (·.text = key) := by
  have hFind (l : List Term) : l.find? (·.text = key) =
      ((l.map (·.text)).findIdx? (· = key)).bind fun i => l[i]? := by
    induction l with
    | nil => rfl
    | cons t rest ih =>
        rw [List.map_cons, List.findIdx?_cons]
        by_cases hKey : t.text = key
        · simp [hKey]
        · rw [List.find?_cons_of_neg (by simpa using hKey), if_neg (by simpa using hKey), ih,
            Option.bind_map]
          rfl
  rw [term?, position, hKeys, hFind]
  rfl

end Lookup

/-- How the set of a profile is built. The terms of the profile are parted into those that can be
prepared, which make up the set, and the others, each of which is told of with its error. Both parts
are in order by length, every term is prepared from its own options alone, keys and terms are
parallel, and a key is found at its first place. So the set does not change if the terms that cannot
be prepared are left out of the configuration, apart from their errors, or if terms of different
lengths change places. -/
theorem build_parts (c : Config) (profile : ProfileId) :
    let set := build c profile
    let members := c.terms.filter (·.belongsTo profile)
    (∃ accepted refused : List TermOptions,
      (accepted ++ refused).Perm members ∧
      LongestFirst (members.filter (accepts c.settings)) accepted ∧
      LongestFirst (members.filter (!accepts c.settings ·)) refused ∧
      List.Forall₂ (fun o t => Term.compile o c.settings = .ok t) accepted set.terms ∧
      List.Forall₂ (fun o e => Term.compile o c.settings = .error e) refused set.rejected ∧
      set.keys = accepted.map (·.text) ∧
      buildWarnings c profile =
        List.zipWith (fun o e => .skippedTerm o.text profile e) refused set.rejected) ∧
    set.keys = set.terms.map (·.text) ∧
    set.entries.map (·.1) = set.keys ∧ set.entries.map (·.2) = set.terms ∧
    (∀ i, set.get? i = (set.entries[i]?).map (·.2)) ∧
    (∀ key, set.term? key = (set.position key).bind set.get? ∧
      set.term? key = set.terms.find? (·.text = key)) ∧
    (∀ key i, set.position key = some i ↔
      set.keys[i]? = some key ∧ ∀ j < i, set.keys[j]? ≠ some key) ∧
    build { c with terms := c.terms.filter (accepts c.settings) } profile =
      { set with rejected := [] } ∧
    ∀ terms, SameByLength c.terms terms → build { c with terms := terms } profile = set := by
  intro set members
  have sorted := longestFirst_candidates c profile
  have hKeys : set.keys = set.terms.map (·.text) := keys_eq c profile
  have hEntries := entries_eq hKeys
  refine ⟨⟨(candidates c profile).filter (accepts c.settings),
    (candidates c profile).filter (!accepts c.settings ·), ?_, sorted.filter _, sorted.filter _,
    terms_build c profile, rejected_build c profile, keys_build c profile,
    buildWarnings_eq c profile⟩, hKeys, ?_, ?_, ?_, fun key => ⟨rfl, term?_eq hKeys key⟩,
    fun _ _ => position_eq_some_iff, ?_, ?_⟩
  · exact (List.filter_append_perm _ _).trans sorted.same.perm.symm
  · rw [hEntries, List.map_map, hKeys]
    rfl
  · rw [hEntries, List.map_map]
    exact List.map_id _
  · intro i
    rw [hEntries, List.getElem?_map, Option.map_map]
    exact (Option.map_id' ..).symm
  · exact build_accepted c profile
  · intro terms hSame
    have hCandidates : candidates { c with terms := terms } profile = candidates c profile :=
      (candidates_eq_of_same (d := { c with terms := terms }) hSame).symm
    simp only [build, compiled, hCandidates]
    rfl

/-- A longer phrase may be configured before or after the two words of one length. -/
theorem build_parts_phrase :
    let c : Config := { Config.empty with
      terms := [.ofText "hell", .ofText "go to hell", .ofText "damn"] }
    let terms : List TermOptions := [.ofText "hell", .ofText "damn", .ofText "go to hell"]
    SameByLength c.terms terms ∧ build { c with terms := terms } .all = build c .all := by
  intro c terms
  have hSame : SameByLength c.terms terms := by
    intro n
    by_cases hShort : "hell".length = n
    · subst hShort
      decide
    · have hDamn : "damn".length ≠ n := hShort
      by_cases hLong : "go to hell".length = n <;>
        simp [c, terms, TermOptions.ofText, hShort, hDamn, hLong]
  obtain ⟨-, -, -, -, -, -, -, -, hReordered⟩ := build_parts c .all
  exact ⟨hSame, hReordered terms hSame⟩

end TermSet

end Expurgate
