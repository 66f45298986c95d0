import Expurgate.Command.Run
import Mathlib.Data.List.Nodup
import Mathlib.Tactic.Common

/-! Configurations put over one another. A merged list of terms is the old one with single terms put
into it, and putting a term into a list that is merged over another one comes to the same as putting
it in behind the merge. Associativity follows from this, and that merging the same configuration
again changes nothing. -/
namespace Expurgate

/-- Where a step goes the same way before and behind a merge by steps, merging is associative. -/
theorem foldl_foldl {α : Type} {step : List α → α → List α}
    (hStep : ∀ base l a, (step l a).foldl step base = step (l.foldl step base) a)
    (first second third : List α) :
    third.foldl step (second.foldl step first) = (third.foldl step second).foldl step first := by
  induction third generalizing second with
  | nil => rfl
  | cons a rest ih => rw [List.foldl_cons, List.foldl_cons, ← hStep, ih]

section AddMissing

def addValue (values : List String) (v : String) : List String :=
  if values.contains v then values else values ++ [v]

/-- A list followed by what a second one has besides, each value where it is first seen. -/
def united (l l' : List String) : List String := l ++ (l'.filter (· ∉ l)).eraseDups

variable {l l' : List String} {v w : String}

theorem mem_addValue : w ∈ addValue l v ↔ w ∈ l ∨ w = v := by
  rw [addValue]
  split
  · rename_i hMem
    have hThere : v ∈ l := by simpa using hMem
    exact ⟨.inl, fun h => h.elim id fun hSame => hSame ▸ hThere⟩
  · simp

theorem nodup_addValue (hNodup : l.Nodup) : (addValue l v).Nodup := by
  rw [addValue]
  split
  · exact hNodup
  · rename_i hNew
    exact List.nodup_append'.mpr ⟨hNodup, List.nodup_singleton v, by simpa using hNew⟩

/-- To add missing values is to add each in its turn, so that inductions may run over the second
list. -/
theorem addMissing_eq_foldl (l l' : List String) : addMissing l l' = l'.foldl addValue l := by
  induction l' generalizing l with
  | nil => rfl
  | cons v rest ih => rw [addMissing, ih, List.foldl_cons, addValue]

/-- The values that are added follow those that were there, in the order in which they are first
seen. -/
theorem addMissing_eq (l l' : List String) : addMissing l l' = united l l' := by
  induction l' generalizing l with
  | nil => simp [addMissing, united]
  | cons v rest ih =>
      rw [addMissing, ih, united, united]
      by_cases hMem : v ∈ l
      · simp [hMem]
      · have hRest : rest.filter (· ∉ l ++ [v]) = (rest.filter (· ∉ l)).filter fun w => !w == v := by
          rw [List.filter_filter]
          refine List.filter_congr fun w _ => ?_
          by_cases hw : w = v <;> simp [hw]
        rw [if_neg (by simpa using hMem), hRest, List.filter_cons_of_pos (by simpa using hMem),
          List.eraseDups_cons, List.append_assoc, List.singleton_append]

/-- Nothing is lost by uniting lists, and nothing comes from elsewhere. -/
theorem mem_united : w ∈ united l l' ↔ w ∈ l ∨ w ∈ l' := by
  by_cases hMem : w ∈ l <;> simp [united, List.mem_eraseDups, hMem]

/-- What is there already is not added again. -/
theorem united_of_subset (hSubset : l' ⊆ l) : united l l' = l := by
  have hNone : l'.filter (· ∉ l) = [] :=
    List.filter_eq_nil_iff.mpr fun v hv => by simpa using hSubset hv
  rw [united, hNone, List.eraseDups_nil, List.append_nil]

theorem eraseDups_of_nodup (hNodup : l.Nodup) : l.eraseDups = l := by
  induction l with
  | nil => rfl
  | cons v rest ih =>
      obtain ⟨hFirst, hRest⟩ := List.nodup_cons.mp hNodup
      have hSame : rest.filter (fun w => !w == v) = rest := by
        refine List.filter_eq_self.mpr fun w hw => ?_
        have hNe : w ≠ v := fun h => hFirst (h ▸ hw)
        simpa using hNe
      rw [List.eraseDups_cons, hSame, ih hRest]

/-- Without repetitions there is nothing to leave out. -/
theorem united_of_nodup (hNodup : l'.Nodup) : united l l' = l ++ l'.filter (· ∉ l) := by
  rw [united, eraseDups_of_nodup (hNodup.filter _)]

theorem nodup_united (hNodup : l.Nodup) : (united l l').Nodup := by
  rw [← addMissing_eq, addMissing_eq_foldl]
  induction l' generalizing l with
  | nil => exact hNodup
  | cons v rest ih => exact ih (nodup_addValue hNodup)

/-- To add a value to a list that is added, or to the outcome, comes to the same. This is
associativity for a single value. -/
theorem foldl_addValue (base l : List String) (v : String) :
    (addValue l v).foldl addValue base = addValue (l.foldl addValue base) v := by
  rw [addValue]
  split
  · rename_i hMem
    have hThere : v ∈ l.foldl addValue base := by
      rw [← addMissing_eq_foldl, addMissing_eq, mem_united]
      exact .inr (by simpa using hMem)
    rw [addValue, if_pos (by simpa using hThere)]
  · rw [List.foldl_append, List.foldl_cons, List.foldl_nil]

/-- Lists may be united in either grouping. Profiles and allowed words inherit this when
configurations are merged. -/
theorem addMissing_assoc (first second third : List String) :
    addMissing (addMissing first second) third = addMissing first (addMissing second third) := by
  simp only [addMissing_eq_foldl]
  exact foldl_foldl foldl_addValue first second third

theorem addMissing_self (l : List String) : addMissing l l = l := by
  rw [addMissing_eq, united_of_subset (List.Subset.refl l)]

end AddMissing

def keysOf (l : List TermOptions) : List String := l.map (·.text)

section PutTerm

variable {t u : TermOptions} {l : List TermOptions}

theorem keysOf_cons (t : TermOptions) (l : List TermOptions) :
    keysOf (t :: l) = t.text :: keysOf l := rfl

theorem nodup_keysOf_cons : (keysOf (t :: l)).Nodup ↔ t.text ∉ keysOf l ∧ (keysOf l).Nodup :=
  List.nodup_cons

/-- A term takes the first place where its text is met for the last time. Valid lists have each text
once, but the function does not rely on it. -/
theorem putTerm_cons (t u : TermOptions) (l : List TermOptions) :
    putTerm t (u :: l) =
      if u.text = t.text ∧ t.text ∉ keysOf l then t :: l else u :: putTerm t l := by
  have hAny : (!l.any (·.text = t.text)) = true ↔ t.text ∉ keysOf l := by
    simp [keysOf]
  simp only [putTerm, hAny]

/-- A term of a new text comes to the end, and any other leaves the texts as they are. -/
theorem keysOf_putTerm (t : TermOptions) (l : List TermOptions) :
    keysOf (putTerm t l) = addValue (keysOf l) t.text := by
  induction l with
  | nil => simp [putTerm, keysOf, addValue]
  | cons u rest ih =>
      rw [putTerm_cons]
      split
      · rename_i hHere
        simp [keysOf, addValue, hHere.1]
      · rename_i hLater
        rw [keysOf_cons, ih, keysOf_cons, addValue, addValue]
        by_cases hMem : t.text ∈ keysOf rest
        · simp [hMem]
        · have hNe : t.text ≠ u.text := fun hSame => hLater ⟨hSame.symm, hMem⟩
          simp [hMem, hNe]

/-- The texts of a merged list are united like any values: the terms themselves do not matter for
them. -/
theorem keysOf_foldl (base l : List TermOptions) :
    keysOf (l.foldl (fun terms t => putTerm t terms) base) =
      addMissing (keysOf base) (keysOf l) := by
  induction l generalizing base with
  | nil => rfl
  | cons t rest ih => rw [List.foldl_cons, ih, keysOf_putTerm]; rfl

/-- A term that takes the place of one with its text leaves the texts as they are. -/
theorem keysOf_putTerm_of_mem (hMem : t.text ∈ keysOf l) : keysOf (putTerm t l) = keysOf l := by
  rw [keysOf_putTerm, addValue, if_pos (by simpa using hMem)]

/-- The later of two terms with one text holds. -/
theorem putTerm_putTerm (hText : u.text = t.text) (l : List TermOptions) :
    putTerm t (putTerm u l) = putTerm t l := by
  induction l with
  | nil => simp [putTerm, hText]
  | cons v rest ih =>
      rw [putTerm_cons u, hText]
      split
      · rename_i hHere
        rw [putTerm_cons, putTerm_cons, if_pos ⟨hText, hHere.2⟩, if_pos hHere]
      · rename_i hLater
        have hMem : t.text ∈ keysOf (putTerm u rest) := by
          rw [keysOf_putTerm, mem_addValue]
          exact .inr hText.symm
        rw [putTerm_cons, if_neg fun hHere => hHere.2 hMem, putTerm_cons, if_neg hLater, ih]

/-- A term whose text is there already may be put in before one of another text. -/
theorem putTerm_comm (hText : t.text ≠ u.text) (hMem : t.text ∈ keysOf l) :
    putTerm t (putTerm u l) = putTerm u (putTerm t l) := by
  induction l with
  | nil => simp [keysOf] at hMem
  | cons v rest ih =>
      have hKeys {w : TermOptions} : w.text ∈ keysOf rest → keysOf (putTerm w rest) = keysOf rest :=
        keysOf_putTerm_of_mem
      have hStays {w w' : TermOptions} (hNe : w.text ≠ w'.text) :
          w.text ∈ keysOf (putTerm w' rest) ↔ w.text ∈ keysOf rest := by
        rw [keysOf_putTerm, mem_addValue]
        exact or_iff_left hNe
      by_cases hHere : v.text = t.text ∧ t.text ∉ keysOf rest
      · -- The term takes the first place, and the other one goes behind it.
        have hOther : ¬(v.text = u.text ∧ u.text ∉ keysOf rest) := fun h => hText (hHere.1 ▸ h.1)
        rw [putTerm_cons u v, if_neg hOther, putTerm_cons,
          if_pos ⟨hHere.1, mt (hStays hText).mp hHere.2⟩, putTerm_cons t v, if_pos hHere,
          putTerm_cons, if_neg fun h => hText h.1]
      · have hLater : t.text ∈ keysOf rest := by
          rcases List.mem_cons.mp hMem with hFirst | hRest
          · exact by_contra fun hNot => hHere ⟨hFirst.symm, hNot⟩
          · exact hRest
        rw [putTerm_cons t v, if_neg hHere]
        by_cases hOther : v.text = u.text ∧ u.text ∉ keysOf rest
        · rw [putTerm_cons u v, if_pos hOther, putTerm_cons, if_neg fun h => h.2 hLater,
            putTerm_cons, if_pos ⟨hOther.1, by rw [hKeys hLater]; exact hOther.2⟩]
        · rw [putTerm_cons u v, if_neg hOther, putTerm_cons,
            if_neg fun h => h.2 ((hStays hText).mpr hLater), putTerm_cons u,
            if_neg (by rw [hKeys hLater]; exact hOther), ih hLater]

/-- A term whose text none of the others has may be put in before them or after them, if its place
is settled already. -/
theorem putTerm_foldl (l base : List TermOptions) (hText : t.text ∉ keysOf l)
    (hMem : t.text ∈ keysOf base) :
    putTerm t (l.foldl (fun terms t => putTerm t terms) base) =
      l.foldl (fun terms t => putTerm t terms) (putTerm t base) := by
  induction l generalizing base with
  | nil => rfl
  | cons u rest ih =>
      have hNe : t.text ≠ u.text := fun hSame => hText (by simp [keysOf, hSame])
      have hRest : t.text ∉ keysOf rest := fun h => hText (List.mem_cons_of_mem _ h)
      have hStill : t.text ∈ keysOf (putTerm u base) := by
        rw [keysOf_putTerm, mem_addValue]
        exact .inl hMem
      rw [List.foldl_cons, List.foldl_cons, ih _ hRest hStill, putTerm_comm hNe hMem]

/-- A term may be put into a list before or after that list is merged over another one. -/
theorem foldl_putTerm (base l : List TermOptions) (t : TermOptions) :
    (putTerm t l).foldl (fun terms t => putTerm t terms) base =
      putTerm t (l.foldl (fun terms t => putTerm t terms) base) := by
  induction l generalizing base with
  | nil => rfl
  | cons u rest ih =>
      rw [putTerm_cons]
      split
      · rename_i hHere
        have hMem : t.text ∈ keysOf (putTerm u base) := by
          rw [keysOf_putTerm, mem_addValue]
          exact .inr hHere.1.symm
        rw [List.foldl_cons, List.foldl_cons, putTerm_foldl _ _ hHere.2 hMem,
          putTerm_putTerm hHere.1]
      · rw [List.foldl_cons, List.foldl_cons, ih]

section Distinct

variable (hNodup : (keysOf l).Nodup)
include hNodup

/-- Under its own text a term is found that was put in, and under any other what was found before.
-/
theorem find?_putTerm (t : TermOptions) (key : String) :
    (putTerm t l).find? (·.text = key) = if t.text = key then some t else l.find? (·.text = key) := by
  induction l with
  | nil => by_cases hKey : t.text = key <;> simp [putTerm, hKey]
  | cons u rest ih =>
      obtain ⟨hFirst, hRest⟩ := nodup_keysOf_cons.mp hNodup
      rw [putTerm_cons]
      by_cases hText : u.text = t.text
      · rw [if_pos ⟨hText, hText ▸ hFirst⟩]
        by_cases hKey : t.text = key <;> simp [hText, hKey]
      · rw [if_neg fun h => hText h.1]
        by_cases hKey : u.text = key
        · have hOther : t.text ≠ key := fun h => hText (hKey.trans h.symm)
          simp [hKey, hOther]
        · simp [hKey, ih hRest]

/-- A term that is there already may be put in without a change. -/
theorem putTerm_of_mem (hMem : t ∈ l) : putTerm t l = l := by
  induction l with
  | nil => cases hMem
  | cons u rest ih =>
      obtain ⟨hFirst, hRest⟩ := nodup_keysOf_cons.mp hNodup
      rw [putTerm_cons]
      rcases List.mem_cons.mp hMem with rfl | hLater
      · rw [if_pos ⟨rfl, hFirst⟩]
      · rw [if_neg fun h => h.2 (List.mem_map_of_mem hLater), ih hRest hLater]

/-- Terms that are there already change nothing. Together with validity this makes a merge with
oneself idle. -/
theorem foldl_putTerm_of_subset {l' : List TermOptions} (hSubset : l' ⊆ l) :
    l'.foldl (fun terms t => putTerm t terms) l = l := by
  induction l' with
  | nil => rfl
  | cons t rest ih =>
      obtain ⟨hFirst, hRest⟩ := List.cons_subset.mp hSubset
      rw [List.foldl_cons, putTerm_of_mem hNodup hFirst, ih hRest]

end Distinct

/-- Under a text the user's term is found, if there is one, and else that of the base. Neither list
may have a text twice. -/
theorem find?_foldl_putTerm {base l : List TermOptions} (hBase : (keysOf base).Nodup)
    (hNodup : (keysOf l).Nodup) (key : String) :
    (l.foldl (fun terms t => putTerm t terms) base).find? (·.text = key) =
      (l.find? (·.text = key)).or (base.find? (·.text = key)) := by
  induction l generalizing base with
  | nil => rfl
  | cons t rest ih =>
      obtain ⟨hFirst, hRest⟩ := nodup_keysOf_cons.mp hNodup
      have hNext : (keysOf (putTerm t base)).Nodup := by
        rw [keysOf_putTerm]
        exact nodup_addValue hBase
      rw [List.foldl_cons, ih hNext hRest, find?_putTerm hBase]
      by_cases hKey : t.text = key
      · have hNone : rest.find? (·.text = key) = none := by
          refine List.find?_eq_none.mpr fun u hu => ?_
          have hMem : u.text ∈ keysOf rest := List.mem_map_of_mem hu
          have hNe : u.text ≠ t.text := fun hSame => hFirst (hSame ▸ hMem)
          simpa [← hKey] using hNe
        simp [hKey, hNone]
      · simp [hKey]

end PutTerm

/-- There are no faults exactly if the texts are not empty, differ, and were not there before. -/
theorem termFaults_eq_nil_iff {seen : List String} {l : List TermOptions} :
    termFaults seen l = [] ↔
      "" ∉ keysOf l ∧ (keysOf l).Nodup ∧ ∀ key ∈ keysOf l, key ∉ seen := by
  induction l generalizing seen with
  | nil => simp [termFaults, keysOf]
  | cons t rest ih =>
      rw [termFaults, keysOf_cons]
      split
      · rename_i hEmpty
        simp [hEmpty]
      · rename_i hText
        split
        · rename_i hSeen
          refine iff_of_false (List.cons_ne_nil _ _) fun hFine => ?_
          exact hFine.2.2 t.text List.mem_cons_self (by simpa using hSeen)
        · rename_i hNew
          have hFresh : t.text ∉ seen := by simpa using hNew
          rw [ih, List.nodup_cons]
          simp only [List.mem_cons, not_or, forall_eq_or_imp]
          constructor
          · rintro ⟨hEach, hNodup, hApart⟩
            exact ⟨⟨Ne.symm hText, hEach⟩, ⟨fun h => (hApart _ h).1 rfl, hNodup⟩, hFresh,
              fun key hKey => (hApart key hKey).2⟩
          · rintro ⟨⟨-, hEach⟩, ⟨hFirst, hNodup⟩, -, hApart⟩
            exact ⟨hEach, hNodup, fun key hKey =>
              ⟨fun hSame => hFirst (hSame ▸ hKey), hApart key hKey⟩⟩

namespace Config

variable {c base user : Config}

def keys (c : Config) : List String := keysOf c.terms

/-- A configuration is valid exactly if no text is empty and no text is repeated. Undeclared
profiles are warned of only. -/
theorem validate_eq_ok_iff : c.validate = .ok () ↔ "" ∉ c.keys ∧ c.keys.Nodup := by
  have hFaults : c.faults = [] ↔ "" ∉ c.keys ∧ c.keys.Nodup := by
    rw [faults, termFaults_eq_nil_iff]
    simp [keys]
  rw [validate, ← hFaults]
  cases c.faults <;> simp

/-- The texts of a merged configuration are those of the base, with the new ones of the user behind
them. -/
theorem keys_merge (base user : Config) : (base.merge user).keys = united base.keys user.keys := by
  rw [keys, merge, keysOf_foldl, addMissing_eq]
  rfl

/-- A merge of valid configurations is valid, so the check that follows it never fails. -/
theorem validate_merge (hBase : base.validate = .ok ()) (hUser : user.validate = .ok ()) :
    (base.merge user).validate = .ok () := by
  obtain ⟨hBaseText, hBaseNodup⟩ := validate_eq_ok_iff.mp hBase
  obtain ⟨hUserText, -⟩ := validate_eq_ok_iff.mp hUser
  rw [validate_eq_ok_iff, keys_merge, mem_united]
  exact ⟨not_or.mpr ⟨hBaseText, hUserText⟩, nodup_united hBaseNodup⟩

/-- Configurations may be merged in either grouping. Field by field this is associativity of the
united lists, and of the terms that are put in. -/
theorem merge_assoc (first second third : Config) :
    (first.merge second).merge third = first.merge (second.merge third) := by
  have hTerms := @foldl_foldl _ (fun terms t => putTerm t terms) foldl_putTerm first.terms
    second.terms third.terms
  simp only [merge, addMissing_assoc, hTerms]

/-- A valid configuration merged with itself stays as it is. -/
theorem merge_self (hValid : c.validate = .ok ()) : c.merge c = c := by
  have hTerms := foldl_putTerm_of_subset (validate_eq_ok_iff.mp hValid).2
    (List.Subset.refl c.terms)
  simp only [merge, addMissing_self, hTerms]

/-- What is loaded from a file has passed the check. -/
theorem validate_of_load {t : FileTree} {folder : Location} {path : String}
    (hLoad : Config.load t folder path = .ok c) : c.validate = .ok () := by
  rw [load] at hLoad
  split at hLoad
  · cases hLoad
  · split at hLoad
    · cases hLoad
    · split at hLoad
      · rename_i hValid
        obtain rfl := Except.ok.inj hLoad
        exact hValid
      · cases hLoad

theorem validate_builtIn : builtIn.validate = .ok () := by decide

end Config

namespace World

variable {w : World} {named : Option String}

/-- So has the user's configuration, wherever it was found. -/
theorem validate_of_userConfig {c : Config} (hUser : w.userConfig named = .ok (some c)) :
    c.validate = .ok () := by
  rw [userConfig] at hUser
  split at hUser
  · cases hUser
  · split at hUser
    · rename_i hLoad
      obtain rfl := Option.some.inj (Except.ok.inj hUser)
      exact Config.validate_of_load hLoad
    · cases hUser

/-- The configuration that is put together has no faults of its own. -/
theorem config_ne_merged (w : World) (named : Option String) (faults : List TermFault) :
    w.config named ≠ .error (.merged faults) := by
  intro hConfig
  rw [config] at hConfig
  cases hUser : w.userConfig named with
  | error e =>
      -- The user's configuration fails for causes of its own.
      rw [hUser] at hConfig
      obtain rfl := Except.error.inj hConfig
      rw [userConfig] at hUser
      split at hUser
      · cases hUser
      · split at hUser <;> cases hUser
  | ok user =>
      have hValid : (Config.builtIn.mergeOption user).validate = .ok () := by
        cases user with
        | none => exact Config.validate_builtIn
        | some c => exact Config.validate_merge Config.validate_builtIn (validate_of_userConfig hUser)
      rw [hUser] at hConfig
      simp only [bind, Except.bind, hValid] at hConfig
      cases hConfig

end World

namespace Config

/-- What a configuration is after another one without faults is put over it. The terms of both are
there under their texts, those of the second one preferred, and the lists are united. Doing it again
changes nothing, several configurations may be put together in any grouping, and what the program
puts together for itself is never refused. -/
theorem merge_overlays {base user : Config} (hBase : base.validate = .ok ())
    (hUser : user.validate = .ok ()) :
    let merged := base.merge user
    merged.validate = .ok () ∧
    merged.keys = base.keys ++ user.keys.filter (· ∉ base.keys) ∧
    (∀ key, merged.term? key = (user.term? key).or (base.term? key)) ∧
    merged.settings = user.settings ∧
    merged.profiles = united base.profiles user.profiles ∧
    merged.allowList.caseSensitive =
      united base.allowList.caseSensitive user.allowList.caseSensitive ∧
    merged.allowList.caseInsensitive =
      united base.allowList.caseInsensitive user.allowList.caseInsensitive ∧
    merged.merge user = merged ∧
    (∀ other : Config, merged.merge other = base.merge (user.merge other)) ∧
    ∀ (w : World) (named : Option String) (faults : List TermFault),
      w.config named ≠ .error (.merged faults) := by
  intro merged
  obtain ⟨-, hBaseNodup⟩ := validate_eq_ok_iff.mp hBase
  obtain ⟨-, hUserNodup⟩ := validate_eq_ok_iff.mp hUser
  have hAgain : merged.merge user = merged := by rw [merge_assoc, merge_self hUser]
  exact ⟨validate_merge hBase hUser, by rw [keys_merge, united_of_nodup hUserNodup],
    find?_foldl_putTerm hBaseNodup hUserNodup, rfl, addMissing_eq _ _, addMissing_eq _ _,
    addMissing_eq _ _, hAgain, merge_assoc base user, World.config_ne_merged⟩

/-- A user's configuration with options of its own for a built-in term, and a new term. -/
theorem merge_overlays_builtIn :
    let whole := (TermOptions.ofText "hell").withMethod .whole
    let user : Config := { Config.empty with
      profiles := ["work", "kids", "work"]
      terms := [whole, .ofText "бля"] }
    let merged := builtIn.merge user
    builtIn.validate = .ok () ∧ user.validate = .ok () ∧ merged.validate = .ok () ∧
      merged.keys = builtIn.keys ++ ["бля"] ∧ merged.term? "hell" = some whole ∧
      merged.profiles = ["default", "kids", "work"] ∧ merged.merge user = merged := by
  intro whole user merged
  have hUser : user.validate = .ok () := by decide
  obtain ⟨hValid, hKeys, hTerm, -, hProfiles, -, -, hAgain, -⟩ :=
    merge_overlays validate_builtIn hUser
  exact ⟨validate_builtIn, hUser, hValid, hKeys.trans (by decide),
    (hTerm "hell").trans (by decide), hProfiles.trans (by decide +kernel), hAgain⟩

end Config

end Expurgate
