import Expurgate.Engine.Basic
import Mathlib.Tactic.Common

/-! What an engine has kept after any sequence of operations. The kept sets are always those of the
configuration in effect, so an engine with a history answers as a new one would, and the number of a
set tells whether two requests were answered with the same one. -/
namespace Expurgate

inductive Operation where
  | expurgate (text : String) (profile : ProfileId) (record : Bool)
  | termSet (profile : ProfileId)
  | rebuild (profile : ProfileId)
  | replaceConfig (c : Config)
  | resetCount
  | setObserver (id : Nat)

namespace Operation

/-- The configuration in effect after a request. -/
def configAfter (c : Config) : Operation → Config
  | replaceConfig d => d
  | _ => c

/-- After such a request the set of a resolved profile is another one. -/
def Renews (c : Config) (profile : ProfileId) : Operation → Prop
  | replaceConfig _ => True
  | rebuild p => c.resolve p = profile
  | _ => False

end Operation

/-- The configuration in effect after several requests. -/
def Config.after (c : Config) (ops : List Operation) : Config := ops.foldl Operation.configAfter c

namespace Engine

/-- Serves a request. The answer is the set that is handed out, if it is one that hands out a set. -/
def perform (e : Engine) : Operation → Option BuiltSet × Engine
  | .expurgate text profile record => (none, (e.expurgate text profile record).2)
  | .termSet profile => (some (e.termSet profile).1, (e.termSet profile).2.1)
  | .rebuild profile => (some (e.rebuild profile).1, (e.rebuild profile).2.1)
  | .replaceConfig c => (none, e.replaceConfig c)
  | .resetCount => (none, e.resetCount)
  | .setObserver id => (none, e.setObserver id)

def after (e : Engine) : List Operation → Engine
  | [] => e
  | op :: rest => (e.perform op).2.after rest

/-- The sets handed out by several requests. -/
def handedOut (e : Engine) : List Operation → List BuiltSet
  | [] => []
  | op :: rest => (e.perform op).1.toList ++ (e.perform op).2.handedOut rest

def kept (e : Engine) (profile : ProfileId) : Option BuiltSet :=
  (e.cache.find? (·.1 = profile)).map (·.2)

variable {e : Engine} {p q : ProfileId}

theorem kept_build_self (e : Engine) (p : ProfileId) :
    (e.build p).2.1.kept p = some (e.build p).1 := by
  simp [kept, build]

/-- A set is built for one resolved profile. The sets of the others are not touched. -/
theorem kept_build_ne (e : Engine) (hNe : q ≠ p) : (e.build p).2.1.kept q = e.kept q := by
  have hFilter : ((e.cache.filter (·.1 ≠ p)).find? (·.1 = q)) = e.cache.find? (·.1 = q) := by
    rw [List.find?_filter]
    congr 1
    funext entry
    by_cases hEntry : entry.1 = q <;> simp [hEntry, hNe]
  rw [kept, build, List.find?_cons_of_neg (by simp [Ne.symm hNe]), hFilter, kept]

/-- What is found for a profile stands in the cache. The converse needs the profiles of a cache to
be distinct, which `Coherent` states. -/
theorem mem_cache_of_kept {b : BuiltSet} (hKept : e.kept p = some b) : (p, b) ∈ e.cache := by
  obtain ⟨entry, hFind, rfl⟩ := Option.map_eq_some_iff.mp hKept
  obtain rfl : entry.1 = p := by simpa using List.find?_some hFind
  exact List.mem_of_find?_eq_some hFind

/-- A request for a set is answered with the kept one, or with one that is built and kept. -/
theorem termSet_cases (e : Engine) (profile : ProfileId) :
    (∃ b, e.kept (e.config.resolve profile) = some b ∧ e.termSet profile = (b, e, [])) ∨
    (e.kept (e.config.resolve profile) = none ∧
      e.termSet profile = e.build (e.config.resolve profile)) := by
  cases hFind : e.cache.find? (·.1 = e.config.resolve profile) with
  | none => exact .inr ⟨by simp [kept, hFind], by simp [termSet, hFind]⟩
  | some entry => exact .inl ⟨entry.2, by simp [kept, hFind], by simp [termSet, hFind]⟩

def counting (e : Engine) (n : UInt64) (s : Selector) : Engine :=
  { e with occurrences := n, selector := s }

/-- Apart from the count and the selector, an expurgation changes an engine as a request for the set
does, or not at all. -/
theorem expurgate_cases (e : Engine) (text : String) (profile : ProfileId) (record : Bool) :
    ∃ n s, (e.expurgate text profile record).2 = e.counting n s ∨
      (e.expurgate text profile record).2 = (e.termSet profile).2.1.counting n s := by
  refine ⟨(e.expurgate text profile record).2.occurrences,
    (e.expurgate text profile record).2.selector, ?_⟩
  by_cases hIdle : e.config.settings.filterMethod = .off ∨ text = ""
  · exact .inl (by simp [expurgate, hIdle, counting])
  · right
    cases record <;> simp only [expurgate, hIdle, if_false, if_true] <;> rfl

/-- What holds of every engine that requests lead to, and what the answers rest on. -/
structure Coherent (e : Engine) : Prop where
  allowList : e.allowList = .ofEntries e.config.allowList
  fresh : ∀ entry ∈ e.cache, entry.2.set = e.config.freshSet entry.1
  below : ∀ entry ∈ e.cache, entry.2.id < e.nextId

namespace Coherent

/-- A new engine has built nothing, so there is nothing that could be out of step with its
configuration. -/
theorem new (c : Config) (selector : Selector) : (Engine.new c selector).Coherent :=
  ⟨rfl, nofun, nofun⟩

/-- A set is built from the configuration of the moment and numbered with the next free number, so the
numbers in the cache stay below the next one. -/
theorem build (hCoherent : e.Coherent) (p : ProfileId) : (e.build p).2.1.Coherent := by
  refine ⟨hCoherent.allowList, ?_, ?_⟩
  · intro entry hMem
    rcases List.mem_cons.mp hMem with rfl | hOld
    · rfl
    · exact hCoherent.fresh entry (List.mem_filter.mp hOld).1
  · intro entry hMem
    rcases List.mem_cons.mp hMem with rfl | hOld
    · exact Nat.lt_succ_self _
    · exact Nat.lt_succ_of_lt (hCoherent.below entry (List.mem_filter.mp hOld).1)

/-- To ask for a set changes nothing if it is there, and builds it otherwise. -/
theorem termSet (hCoherent : e.Coherent) (profile : ProfileId) :
    (e.termSet profile).2.1.Coherent := by
  rcases e.termSet_cases profile with ⟨b, -, hSet⟩ | ⟨-, hSet⟩
  · rw [hSet]
    exact hCoherent
  · rw [hSet]
    exact hCoherent.build _

theorem counting (hCoherent : e.Coherent) (n : UInt64) (s : Selector) : (e.counting n s).Coherent :=
  ⟨hCoherent.allowList, hCoherent.fresh, hCoherent.below⟩

/-- No operation breaks the agreement of cache and configuration. Another configuration empties the
cache, and nothing else changes what a set is built from. -/
theorem perform (hCoherent : e.Coherent) (op : Operation) : (e.perform op).2.Coherent := by
  cases op with
  | expurgate text profile record =>
      obtain ⟨n, s, hState | hState⟩ := e.expurgate_cases text profile record
      · rw [Engine.perform, hState]
        exact hCoherent.counting n s
      · rw [Engine.perform, hState]
        exact (hCoherent.termSet profile).counting n s
  | termSet profile => exact hCoherent.termSet profile
  | rebuild profile => exact hCoherent.build _
  | replaceConfig c => exact ⟨rfl, nofun, nofun⟩
  | resetCount => exact hCoherent.counting 0 e.selector
  | setObserver id => exact ⟨hCoherent.allowList, hCoherent.fresh, hCoherent.below⟩

/-- The run lemma to `Coherent.perform`. An engine that was new once is coherent, whatever it was
asked to do. -/
theorem after (hCoherent : e.Coherent) (ops : List Operation) : (e.after ops).Coherent := by
  induction ops generalizing e with
  | nil => exact hCoherent
  | cons op rest ih => exact ih (hCoherent.perform op)

/-- The set that a request is answered with is that of the configuration in effect. -/
theorem termSet_set (hCoherent : e.Coherent) (profile : ProfileId) :
    (e.termSet profile).1.set = e.config.freshSet (e.config.resolve profile) := by
  rcases e.termSet_cases profile with ⟨b, hKept, hSet⟩ | ⟨-, hSet⟩
  · rw [hSet]
    exact hCoherent.fresh _ (mem_cache_of_kept hKept)
  · rw [hSet]
    rfl

end Coherent

theorem config_termSet (e : Engine) (profile : ProfileId) :
    (e.termSet profile).2.1.config = e.config := by
  rcases e.termSet_cases profile with ⟨b, -, hSet⟩ | ⟨-, hSet⟩ <;> rw [hSet]
  rfl

theorem context_termSet (e : Engine) (profile : ProfileId) :
    (e.termSet profile).2.1.context = e.context := by
  rcases e.termSet_cases profile with ⟨b, -, hSet⟩ | ⟨-, hSet⟩ <;> rw [hSet]
  rfl

/-- Nothing is drawn while a set is built. -/
theorem selector_termSet (e : Engine) (profile : ProfileId) :
    (e.termSet profile).2.1.selector = e.selector := by
  rcases e.termSet_cases profile with ⟨b, -, hSet⟩ | ⟨-, hSet⟩ <;> rw [hSet]
  rfl

/-- What an operation does to the configuration can be told from the operation and the configuration
alone. The cache has no part in it. -/
theorem config_perform (e : Engine) (op : Operation) :
    (e.perform op).2.config = op.configAfter e.config := by
  cases op with
  | expurgate text profile record =>
      obtain ⟨n, s, hState | hState⟩ := e.expurgate_cases text profile record
      · rw [perform, hState]
        rfl
      · rw [perform, hState]
        exact e.config_termSet profile
  | termSet profile => exact e.config_termSet profile
  | rebuild profile => rfl
  | replaceConfig c => rfl
  | resetCount => rfl
  | setObserver id => rfl

/-- The selector goes on with the choices of an expurgation. -/
theorem selector_expurgate (e : Engine) (text : String) (profile : ProfileId) (record : Bool) :
    (e.expurgate text profile record).2.selector =
      if e.config.settings.filterMethod = .off ∨ text = "" then e.selector
      else e.selector.afterAll ((e.termSet profile).1.set.expurgate e.context text).2 := by
  by_cases hIdle : e.config.settings.filterMethod = .off ∨ text = ""
  · simp [expurgate, hIdle]
  · rw [if_neg hIdle, ← e.context_termSet profile, ← e.selector_termSet profile]
    cases record <;> simp [expurgate, hIdle]

/-- A selector that always makes the same choice is never another one. -/
theorem selector_perform_fixed {index : Nat} (hFixed : e.selector = .fixed index)
    (op : Operation) : (e.perform op).2.selector = .fixed index := by
  cases op with
  | expurgate text profile record =>
      rw [perform, selector_expurgate, hFixed, Selector.afterAll_fixed, ite_self]
  | termSet profile => exact (e.selector_termSet profile).trans hFixed
  | rebuild profile => exact hFixed
  | replaceConfig c => exact hFixed
  | resetCount => exact hFixed
  | setObserver id => exact hFixed

theorem nextId_termSet (e : Engine) (profile : ProfileId) :
    e.nextId ≤ (e.termSet profile).2.1.nextId := by
  rcases e.termSet_cases profile with ⟨b, -, hSet⟩ | ⟨-, hSet⟩
  · exact Nat.le_of_eq (by rw [hSet])
  · rw [hSet]
    exact Nat.le_succ _

/-- Numbers are handed out in increasing order and never taken back, not even where a cache is
emptied. -/
theorem nextId_perform (e : Engine) (op : Operation) : e.nextId ≤ (e.perform op).2.nextId := by
  cases op with
  | expurgate text profile record =>
      obtain ⟨n, s, hState | hState⟩ := e.expurgate_cases text profile record
      · rw [perform, hState]
        exact Nat.le_refl _
      · rw [perform, hState]
        exact e.nextId_termSet profile
  | termSet profile => exact e.nextId_termSet profile
  | rebuild profile => exact Nat.le_succ _
  | replaceConfig c => exact Nat.le_refl _
  | resetCount => exact Nat.le_refl _
  | setObserver id => exact Nat.le_refl _

theorem nextId_after (e : Engine) (ops : List Operation) : e.nextId ≤ (e.after ops).nextId := by
  induction ops generalizing e with
  | nil => exact Nat.le_refl _
  | cons op rest ih => exact Nat.le_trans (e.nextId_perform op) (ih _)

/-- A set is handed out under a number that was given before the next one to give. -/
theorem Coherent.id_lt_termSet (hCoherent : e.Coherent) (profile : ProfileId) :
    (e.termSet profile).1.id < (e.termSet profile).2.1.nextId := by
  rcases e.termSet_cases profile with ⟨b, hKept, hSet⟩ | ⟨-, hSet⟩ <;> rw [hSet]
  · exact hCoherent.below _ (mem_cache_of_kept hKept)
  · exact Nat.lt_succ_self _

/-- A set that was handed out has a number below the next one, whether it is still kept or not. A
set that is built later is therefore a different one. -/
theorem Coherent.id_lt_of_handedOut (hCoherent : e.Coherent) (ops : List Operation) :
    ∀ b ∈ e.handedOut ops, b.id < (e.after ops).nextId := by
  induction ops generalizing e with
  | nil => simp [handedOut]
  | cons op rest ih =>
      intro b hMem
      rcases List.mem_append.mp hMem with hNow | hLater
      · refine Nat.lt_of_lt_of_le ?_ (nextId_after _ rest)
        cases op with
        | termSet profile =>
            obtain rfl : b = (e.termSet profile).1 := by
              simpa [Engine.perform, eq_comm] using hNow
            exact hCoherent.id_lt_termSet profile
        | rebuild profile =>
            obtain rfl : b = (e.rebuild profile).1 := by
              simpa [Engine.perform, eq_comm] using hNow
            exact Nat.lt_succ_self _
        | _ => simp [Engine.perform] at hNow
      · exact ih (hCoherent.perform op) b hLater

/-- The set kept for a profile, if there is one, was built after the number `n` was reached. -/
structure Past (n : Nat) (p : ProfileId) (e : Engine) : Prop where
  reached : n ≤ e.nextId
  later : ∀ b, e.kept p = some b → n ≤ b.id

/-- Whichever set is handed out is the one that is kept from then on, under the profile that the
request resolves to. -/
theorem kept_termSet (e : Engine) (profile : ProfileId) :
    (e.termSet profile).2.1.kept (e.config.resolve profile) = some (e.termSet profile).1 := by
  rcases e.termSet_cases profile with ⟨b, hKept, hSet⟩ | ⟨-, hSet⟩ <;> rw [hSet]
  · exact hKept
  · exact kept_build_self e _

/-- A set that is kept for one profile stays when another is asked for, even if that one has to be
built. -/
theorem kept_termSet_of_kept {b : BuiltSet} (hKept : e.kept p = some b) (profile : ProfileId) :
    (e.termSet profile).2.1.kept p = some b := by
  rcases e.termSet_cases profile with ⟨b', -, hSet⟩ | ⟨hNone, hSet⟩ <;> rw [hSet]
  · exact hKept
  · rw [kept_build_ne e, hKept]
    rintro rfl
    simp [hKept] at hNone

/-- A request that does not renew the set of a profile leaves it in its place. -/
theorem kept_perform {b : BuiltSet} (hKept : e.kept p = some b) {op : Operation}
    (hSame : ¬op.Renews e.config p) :
    (e.perform op).2.kept p = some b ∧ (e.perform op).2.config = e.config := by
  rw [config_perform]
  cases op with
  | expurgate text profile record =>
      refine ⟨?_, rfl⟩
      obtain ⟨n, s, hState | hState⟩ := e.expurgate_cases text profile record
      · rw [perform, hState]
        exact hKept
      · rw [perform, hState]
        exact kept_termSet_of_kept hKept profile
  | termSet profile => exact ⟨kept_termSet_of_kept hKept profile, rfl⟩
  | rebuild profile => exact ⟨(kept_build_ne e (Ne.symm hSame)).trans hKept, rfl⟩
  | replaceConfig c => exact absurd trivial hSame
  | resetCount => exact ⟨hKept, rfl⟩
  | setObserver id => exact ⟨hKept, rfl⟩

/-- A set stays as long as no operation renews its profile. The set itself is kept here and not an
equal one, as its number shows. -/
theorem kept_after {b : BuiltSet} (hKept : e.kept p = some b) (ops : List Operation)
    (hSame : ∀ op ∈ ops, ¬op.Renews e.config p) : (e.after ops).kept p = some b := by
  induction ops generalizing e with
  | nil => exact hKept
  | cons op rest ih =>
      obtain ⟨hStill, hConfig⟩ := kept_perform hKept (hSame op (by simp))
      refine ih hStill fun op' hMem => ?_
      rw [hConfig]
      exact hSame op' (by simp [hMem])

namespace Past

variable {n : Nat}

/-- Whatever is built next has a number of at least `n`, so the state of being past `n` is not lost
by it. -/
theorem build (hPast : e.Past n p) (q : ProfileId) : (e.build q).2.1.Past n p := by
  refine ⟨Nat.le_succ_of_le hPast.reached, fun b hKept => ?_⟩
  by_cases hSelf : p = q
  · subst hSelf
    rw [kept_build_self] at hKept
    obtain rfl := Option.some.inj hKept
    exact hPast.reached
  · rw [kept_build_ne e hSelf] at hKept
    exact hPast.later b hKept

/-- To ask for a set keeps what is there or builds something newer. -/
theorem termSet (hPast : e.Past n p) (profile : ProfileId) :
    (e.termSet profile).2.1.Past n p := by
  rcases e.termSet_cases profile with ⟨b, -, hSet⟩ | ⟨-, hSet⟩ <;> rw [hSet]
  · exact hPast
  · exact hPast.build _

/-- Once an engine is past a number for a profile, no operation brings back an older set. -/
theorem perform (hPast : e.Past n p) (op : Operation) : (e.perform op).2.Past n p := by
  cases op with
  | expurgate text profile record =>
      obtain ⟨k, s, hState | hState⟩ := e.expurgate_cases text profile record
      · rw [Engine.perform, hState]
        exact ⟨hPast.reached, hPast.later⟩
      · have hSet := hPast.termSet profile
        rw [Engine.perform, hState]
        exact ⟨hSet.reached, hSet.later⟩
  | termSet profile => exact hPast.termSet profile
  | rebuild profile => exact hPast.build _
  | replaceConfig c => exact ⟨hPast.reached, by simp [Engine.perform, replaceConfig, kept]⟩
  | resetCount => exact ⟨hPast.reached, hPast.later⟩
  | setObserver id => exact ⟨hPast.reached, hPast.later⟩

/-- The run lemma to `Past.perform`. -/
theorem after (hPast : e.Past n p) (ops : List Operation) : (e.after ops).Past n p := by
  induction ops generalizing e with
  | nil => exact hPast
  | cons op rest ih => exact ih (hPast.perform op)

end Past

/-- A request that renews the set of a profile leaves none from before in its place. -/
theorem past_of_renews {n : Nat} (hReached : n ≤ e.nextId) {op : Operation}
    (hRenews : op.Renews e.config p) : (e.perform op).2.Past n p := by
  cases op with
  | rebuild profile =>
      obtain rfl : e.config.resolve profile = p := hRenews
      refine ⟨Nat.le_succ_of_le hReached, fun b hKept => ?_⟩
      rw [perform, rebuild, kept_build_self] at hKept
      obtain rfl := Option.some.inj hKept
      exact hReached
  | replaceConfig c => exact ⟨hReached, by simp [perform, replaceConfig, kept]⟩
  | _ => exact hRenews.elim

/-- A renewal on the way puts an engine past every number that was handed out before it. This holds
from the operation that renews onwards, by `Past.after`. -/
theorem past_after {n : Nat} (hReached : n ≤ e.nextId) {ops : List Operation}
    (hRenews : ∃ op ∈ ops, op.Renews e.config p) : (e.after ops).Past n p := by
  induction ops generalizing e with
  | nil => simp at hRenews
  | cons op rest ih =>
      by_cases hNow : op.Renews e.config p
      · exact (past_of_renews hReached hNow).after rest
      · have hConfig : (e.perform op).2.config = e.config := by
          rw [config_perform]
          cases op with
          | replaceConfig c => exact absurd trivial hNow
          | _ => rfl
        refine ih (Nat.le_trans hReached (e.nextId_perform op)) ?_
        obtain ⟨op', hMem, hOp⟩ := hRenews
        rcases List.mem_cons.mp hMem with rfl | hLater
        · exact absurd hOp hNow
        · exact ⟨op', hLater, by rwa [hConfig]⟩

/-- What is handed out by an engine that is past a number is numbered from there on. -/
theorem Past.le_termSet_id {n : Nat} {profile : ProfileId}
    (hPast : e.Past n (e.config.resolve profile)) : n ≤ (e.termSet profile).1.id := by
  rcases e.termSet_cases profile with ⟨b, hKept, hSet⟩ | ⟨-, hSet⟩ <;> rw [hSet]
  · exact hPast.later b hKept
  · exact hPast.reached

/-- Two requests that resolve alike are answered with the same set, unless it was renewed between
them; then even its number is another one. -/
theorem Coherent.termSet_eq_iff (hCoherent : e.Coherent) {between : List Operation}
    {first second : ProfileId} (hResolve : ((e.termSet first).2.1.after between).config.resolve second
      = e.config.resolve first) :
    let later := (e.termSet first).2.1.after between
    let renewed := ∃ op ∈ between, op.Renews e.config (e.config.resolve first)
    ((later.termSet second).1 = (e.termSet first).1 ↔ ¬renewed) ∧
      ((later.termSet second).1.id = (e.termSet first).1.id ↔ ¬renewed) := by
  intro later renewed
  have hConfig := e.config_termSet first
  by_cases hRenewed : renewed
  · have hPast : later.Past (e.termSet first).2.1.nextId (e.config.resolve first) :=
      past_after (Nat.le_refl _) (by rwa [hConfig])
    rw [← hResolve] at hPast
    have hNew : _ ≤ (later.termSet second).1.id := hPast.le_termSet_id
    have hOld := hCoherent.id_lt_termSet first
    have hNe : (later.termSet second).1.id ≠ (e.termSet first).1.id := by omega
    exact ⟨iff_of_false (fun hSame => hNe (congrArg _ hSame)) (not_not_intro hRenewed),
      iff_of_false hNe (not_not_intro hRenewed)⟩
  · have hKept : later.kept (e.config.resolve first) = some (e.termSet first).1 := by
      refine kept_after (e.kept_termSet first) between ?_
      rw [hConfig]
      exact fun op hMem hOp => hRenewed ⟨op, hMem, hOp⟩
    have hSame : (later.termSet second).1 = (e.termSet first).1 := by
      rcases later.termSet_cases second with ⟨b, hStill, hSet⟩ | ⟨hNone, -⟩
      · rw [hResolve, hKept] at hStill
        rw [hSet, Option.some.inj hStill]
      · rw [hResolve, hKept] at hNone
        cases hNone
    exact ⟨iff_of_true hSame hRenewed, iff_of_true (congrArg _ hSame) hRenewed⟩

/-- The configuration after a run is told by the operations alone, so what an engine does can be
stated without its cache. -/
theorem config_after (e : Engine) (ops : List Operation) :
    (e.after ops).config = e.config.after ops := by
  induction ops generalizing e with
  | nil => rfl
  | cons op rest ih =>
      rw [after, ih, config_perform]
      rfl

/-- A selector that always chooses the same is never advanced, so it is the same after any run. -/
theorem selector_after_fixed {index : Nat} (hFixed : e.selector = .fixed index)
    (ops : List Operation) : (e.after ops).selector = .fixed index := by
  induction ops generalizing e with
  | nil => exact hFixed
  | cons op rest ih => exact ih (selector_perform_fixed hFixed op)

/-- Whatever was asked of an engine, a request is answered in the context of a new engine that has
the configuration in effect and the selector as it is by then. -/
theorem context_after (c : Config) (selector : Selector) (ops : List Operation) :
    ((new c selector).after ops).context =
      (new (c.after ops) ((new c selector).after ops).selector).context := by
  have hCoherent := (Coherent.new c selector).after ops
  rw [context, hCoherent.allowList, config_after]
  rfl

/-- What a text comes out as depends on the set, the context and the text. Whether the occurrences
are recorded has no part in it. -/
theorem outcome_expurgate (e : Engine) (text : String) (profile : ProfileId) (record : Bool) :
    (e.expurgate text profile record).1.outcome =
      if e.config.settings.filterMethod = .off ∨ text = "" then .unchanged text
      else ((e.termSet profile).1.set.expurgate e.context text).1 := by
  by_cases hIdle : e.config.settings.filterMethod = .off ∨ text = ""
  · simp [expurgate, hIdle]
  · rw [if_neg hIdle, ← e.context_termSet profile]
    cases record <;> simp [expurgate, hIdle]

/-- A call logs the decisions of its passes in order, and nothing where the filter is off or the
text empty. -/
theorem log_expurgate (e : Engine) (text : String) (profile : ProfileId) (record : Bool) :
    (e.expurgate text profile record).1.log =
      if e.config.settings.filterMethod = .off ∨ text = "" then []
      else ((e.termSet profile).1.set.expurgate e.context text).2.filterMap (·.record?) := by
  by_cases hIdle : e.config.settings.filterMethod = .off ∨ text = ""
  · simp [expurgate, hIdle]
  · rw [if_neg hIdle, ← e.context_termSet profile]
    cases record <;> simp [expurgate, hIdle]

end Engine

/-- The set is the one that a configuration gives for a requested profile: all terms without
profiles, the terms of a declared profile, and none for an undeclared one. -/
structure Config.Gives (c : Config) (profile : ProfileId) (set : TermSet) : Prop where
  disabled : c.settings.profilesEnabled = false → set = .build c .all
  all : profile = .all → set = .build c .all
  declared : ∀ name, profile = .named name → c.settings.profilesEnabled = true →
    name ∈ c.profiles → set = .build c (.named name)
  undeclared : ∀ name, profile = .named name → c.settings.profilesEnabled = true →
    name ∉ c.profiles → set = .empty (.named name)

/-- The set that an engine builds anew is one that the configuration gives, which is how the results
about kept sets say anything about it. -/
theorem Config.gives_freshSet (c : Config) (profile : ProfileId) :
    c.Gives profile (c.freshSet (c.resolve profile)) := by
  refine ⟨?_, ?_, ?_, ?_⟩
  · intro hDisabled
    simp [resolve, hDisabled, freshSet, checkProfile]
  · rintro rfl
    simp [resolve, freshSet, checkProfile]
  · rintro name rfl hEnabled hDeclared
    simp [resolve, hEnabled, freshSet, checkProfile, hDeclared]
  · rintro name rfl hEnabled hUndeclared
    simp [resolve, hEnabled, freshSet, checkProfile, hUndeclared]

namespace Engine

/-- Whatever was asked of an engine, it hands out the sets that the configuration in effect gives,
and the same set for a profile until the profile is rebuilt or the configuration replaced. A rebuilt
set is none that was handed out before, and the sets of other profiles stay. Expurgations come out
as they do with a new engine that has the selector as it is by then, and a fixed selector is the one
that the engine began with. -/
theorem answers_as_new (c : Config) (selector : Selector) (before : List Operation) :
    let e := (new c selector).after before
    let current := c.after before
    (∀ profile, current.Gives profile (e.termSet profile).1.set ∧
      current.Gives profile (e.rebuild profile).1.set) ∧
    (∀ first second between,
      (current.after between).resolve second = current.resolve first →
      let later := (e.termSet first).2.1.after between
      let renewed := ∃ op ∈ between, op.Renews current (current.resolve first)
      ((later.termSet second).1 = (e.termSet first).1 ↔ ¬renewed) ∧
        ((later.termSet second).1.id = (e.termSet first).1.id ↔ ¬renewed)) ∧
    (∀ profile,
      (∀ b ∈ (new c selector).handedOut before, b.id ≠ (e.rebuild profile).1.id) ∧
        ∀ other ≠ current.resolve profile, (e.rebuild profile).2.1.kept other = e.kept other) ∧
    (∀ text profile record, (e.expurgate text profile record).1.outcome =
      ((new current e.selector).expurgate text profile record).1.outcome) ∧
    ∀ index, ((new c (.fixed index)).after before).selector = .fixed index := by
  intro e current
  have hCoherent : e.Coherent := (Coherent.new c selector).after before
  have hConfig : e.config = current := config_after (new c selector) before
  refine ⟨?_, ?_, ?_, ?_, ?_⟩
  · intro profile
    rw [hCoherent.termSet_set, ← hConfig]
    exact ⟨Config.gives_freshSet _ _, Config.gives_freshSet _ _⟩
  · intro first second between hResolve
    rw [← hConfig]
    refine hCoherent.termSet_eq_iff ?_
    rw [config_after, config_termSet, hConfig]
    exact hResolve
  · intro profile
    refine ⟨?_, ?_⟩
    · intro b hMem
      exact Nat.ne_of_lt ((Coherent.new c selector).id_lt_of_handedOut before b hMem)
    · intro other hOther
      rw [← hConfig] at hOther
      exact kept_build_ne e hOther
  · intro text profile record
    have hContext : e.context = (new current e.selector).context := context_after c selector before
    rw [outcome_expurgate, outcome_expurgate, hCoherent.termSet_set,
      (Coherent.new current e.selector).termSet_set, hContext, hConfig]
    rfl
  · intro index
    exact selector_after_fixed rfl before

/-- A set that is rebuilt between two requests is not the same set for the second. -/
theorem answers_as_new_rebuilt : (Config.empty.after [.rebuild .all]).resolve .all =
      Config.empty.resolve .all ∧
    (((new Config.empty (.fixed 0)).termSet .all).2.1.after [.rebuild .all]).termSet .all ≠
      (new Config.empty (.fixed 0)).termSet .all := by
  have hResolve : (Config.empty.after [.rebuild .all]).resolve .all =
      Config.empty.resolve .all := rfl
  refine ⟨hResolve, fun hSame => ?_⟩
  have hIff := ((answers_as_new Config.empty (.fixed 0) []).2.1 .all .all [.rebuild .all] hResolve).1
  exact hIff.mp (congrArg Prod.fst hSame) ⟨_, List.mem_singleton.mpr rfl, rfl⟩

end Engine

end Expurgate
