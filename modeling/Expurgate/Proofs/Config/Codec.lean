import Expurgate.Config.Discovery
import Expurgate.Proofs.Yaml.Format

/-! Configurations written to documents and read again. What is read is exactly what could have been
written, so a configuration that was read once is never lost when it is written. -/
namespace Expurgate

variable {α : Type} {F : Format α} {write : Json → α}

/-- A configuration that documents can hold: a count of 64 bits, and no empty text among the
substitutions of a term. -/
structure Config.Storable (c : Config) : Prop where
  count : c.settings.censorFixedLength < Format.countLimit
  substitutions : ∀ t ∈ c.terms, "" ∉ t.substitutions

/-- Each method is found by its own name, so that a choice that is written is read back. -/
theorem FilterMethod.ofName?_name (m : FilterMethod) : ofName? m.name = some m := by
  cases m <;> decide

/-- The same of the ways to match. The two kinds of methods share no list of names. -/
theorem MatchMethod.ofName?_name (m : MatchMethod) : ofName? m.name = some m := by
  cases m <;> decide

namespace Format.Reads

/-- A record is read back field by field where it is written with all the fields that are asked for,
in their order and none of them twice. -/
theorem fields {v : Json} {names : List String} {fields : List (String × Json)}
    (reads : F.Reads write) (hFields : v = .object fields) (hNames : fields.map (·.1) = names)
    (hNodup : names.Nodup) :
    F.record names (write v) = some (fields.map fun f => (f.1, write f.2)) := by
  subst hFields hNames
  exact reads.record fields hNodup

/-- Settings come back from any format that reads what it writes. A count that does not fit into 64
bits is the only thing that could be lost. -/
theorem settings (reads : F.Reads write) {s : Settings}
    (hCount : s.censorFixedLength < countLimit) :
    Settings.decode F (write s.encode) = some s := by
  have hFields := reads.fields (rfl : s.encode = .object _) (rfl : _ = Settings.fieldNames)
    (by decide)
  rw [Settings.decode, hFields]
  simp [reads.choice (FilterMethod.ofName?_name _), reads.choice (MatchMethod.ofName?_name _),
    reads.character, reads.count _ hCount, reads.flag, reads.text]

/-- A term comes back with what it leaves open, since that is written as null and null is read as
missing. Empty substitutions are dropped by the reader, so there may be none. -/
theorem term (reads : F.Reads write) {t : TermOptions} (hFull : "" ∉ t.substitutions) :
    TermOptions.decode F (write t.encode) = some t := by
  have hFields := reads.fields (rfl : t.encode = .object _) (rfl : _ = TermOptions.fieldNames)
    (by decide)
  have hMethod := reads.optional (fun m : MatchMethod => reads.presentText m.name)
    (fun m => reads.choice m.ofName?_name) t.matchMethod
  rw [TermOptions.decode, hFields]
  simp [hMethod, reads.text, reads.optionalFlag, reads.choices hFull, reads.listOfTexts]

/-- Both lists of allowed words come back as they were, in order and with repetitions. -/
theorem allowEntries (reads : F.Reads write) (a : AllowEntries) :
    AllowEntries.decode F (write a.encode) = some a := by
  have hFields := reads.fields (rfl : a.encode = .object _) (rfl : _ = AllowEntries.fieldNames)
    (by decide)
  rw [AllowEntries.decode, hFields]
  simp [reads.listOfTexts]

/-- A configuration that documents can hold is read back. -/
theorem config (reads : F.Reads write) {c : Config} (storable : c.Storable) :
    Config.decode F (write c.encode) = some c := by
  have hFields := reads.fields (rfl : c.encode = .object _) (rfl : _ = Config.fieldNames)
    (by decide)
  have hTerms := reads.listOf fun t ht => reads.term (storable.substitutions t ht)
  rw [Config.decode, hFields]
  simp [reads.settings storable.count, reads.listOfTexts, hTerms, reads.allowEntries]

end Format.Reads

/-- What is missing is filled in with a count that can be written again. -/
theorem Settings.count_default : default.censorFixedLength < Format.countLimit := by decide

/-- No document gives a count that could not be written: the format bounds it, and so does the
default where the document says nothing. -/
theorem Settings.count_of_decode (bounded : F.Bounded) {doc : α} {s : Settings}
    (hRead : Settings.decode F doc = some s) : s.censorFixedLength < Format.countLimit := by
  unfold Settings.decode at hRead
  -- The fields are read one after another, and the count is the third of them.
  iterate 3 obtain ⟨_, -, hRead⟩ := Option.bind_eq_some_iff.mp hRead
  obtain ⟨n, hCount, hRead⟩ := Option.bind_eq_some_iff.mp hRead
  iterate 9 obtain ⟨_, -, hRead⟩ := Option.bind_eq_some_iff.mp hRead
  obtain rfl := Option.some.inj hRead
  rcases readField_cases hCount with rfl | ⟨doc, hCount⟩
  · exact count_default
  · exact bounded doc n hCount

/-- No document gives a term an empty substitution. A single one is dropped as well as one of many,
which is why a term may end up with none. -/
theorem TermOptions.full_of_decode {doc : α} {t : TermOptions}
    (hRead : TermOptions.decode F doc = some t) : "" ∉ t.substitutions := by
  unfold TermOptions.decode at hRead
  iterate 5 obtain ⟨_, -, hRead⟩ := Option.bind_eq_some_iff.mp hRead
  obtain ⟨substitutions, hChoices, hRead⟩ := Option.bind_eq_some_iff.mp hRead
  iterate 2 obtain ⟨_, -, hRead⟩ := Option.bind_eq_some_iff.mp hRead
  obtain rfl := Option.some.inj hRead
  rcases readField_cases hChoices with rfl | ⟨doc, hChoices⟩
  · exact List.not_mem_nil
  · exact Format.empty_not_mem_of_choices hChoices

namespace Config

/-- A configuration that was read can be written. -/
theorem storable_of_decode (bounded : F.Bounded) {doc : α} {c : Config}
    (hRead : decode F doc = some c) : c.Storable := by
  unfold decode at hRead
  obtain ⟨fields, -, hRead⟩ := Option.bind_eq_some_iff.mp hRead
  obtain ⟨settings, hSettings, hRead⟩ := Option.bind_eq_some_iff.mp hRead
  obtain ⟨_, -, hRead⟩ := Option.bind_eq_some_iff.mp hRead
  obtain ⟨terms, hTerms, hRead⟩ := Option.bind_eq_some_iff.mp hRead
  obtain ⟨_, -, hRead⟩ := Option.bind_eq_some_iff.mp hRead
  obtain rfl := Option.some.inj hRead
  constructor
  · rcases readField_cases hSettings with rfl | ⟨doc, hSettings⟩
    · exact Settings.count_default
    · exact Settings.count_of_decode bounded hSettings
  · rcases readField_cases hTerms with rfl | ⟨doc, hTerms⟩
    · exact nofun
    · obtain ⟨docs, -, hEach⟩ := Option.bind_eq_some_iff.mp hTerms
      intro t ht
      obtain ⟨doc, -, hTerm⟩ := exists_mem_of_mapM hEach t ht
      exact TermOptions.full_of_decode hTerm

/-- What is written is read back exactly where it can be stored, in JSON as in YAML, and what was
read from either, whatever is left out of it or stands in it besides, can be stored. -/
theorem decode_encode_iff (c : Config) :
    (decode Json.format c.encode = some c ↔ c.Storable) ∧
    (∀ d : Yaml.Document, decode d.format (.ofJson c.encode) = some c ↔ c.Storable) ∧
    (∀ doc, decode Json.format doc = some c →
      c.Storable ∧ decode Json.format c.encode = some c) ∧
    ∀ (d : Yaml.Document) (doc : Yaml.Node), decode d.format doc = some c →
      c.Storable ∧ decode d.format (.ofJson c.encode) = some c := by
  have hJson (doc : Json) (hRead : decode Json.format doc = some c) : c.Storable :=
    storable_of_decode Json.bounded_format hRead
  have hYaml (d : Yaml.Document) (doc : Yaml.Node) (hRead : decode d.format doc = some c) :
      c.Storable := storable_of_decode d.bounded_format hRead
  refine ⟨⟨hJson _, Json.reads_format.config⟩, fun d => ⟨hYaml d _, d.reads_format.config⟩, ?_, ?_⟩
  · intro doc hRead
    have storable := hJson doc hRead
    exact ⟨storable, Json.reads_format.config storable⟩
  · intro d doc hRead
    have storable := hYaml d doc hRead
    exact ⟨storable, d.reads_format.config storable⟩

/-- A document that gives substitutions in every way there is, one of them empty, and has a field of
its own. -/
theorem decode_encode_iff_mixed :
    let doc : Json := .object [("version", .integer 2), ("terms", .list
      [.object [("text", .text "damn"), ("sub", .text "dang"), ("repeat", .flag true)],
        .object [("text", .text "бля"), ("sub", .list [.text "", .text "heck"])],
        .object [("sub", .null), ("text", .text "hell"), ("match_method", .text "whole")]])]
    let c : Config := { empty with terms :=
      [((TermOptions.ofText "damn").withSubstitution "dang").withRepeat true,
        (TermOptions.ofText "бля").withSubstitution "heck",
        (TermOptions.ofText "hell").withMethod .whole] }
    decode Json.format doc = some c ∧ c.Storable ∧ decode Json.format c.encode = some c := by
  intro doc c
  have hRead : decode Json.format doc = some c := by decide
  exact ⟨hRead, (decode_encode_iff c).2.2.1 doc hRead⟩

end Config

end Expurgate
