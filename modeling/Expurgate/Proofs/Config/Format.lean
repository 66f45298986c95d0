import Expurgate.Json.Format
import Mathlib.Tactic.Common

/-! Formats that read back what is written in them. A document is written as a JSON value first and
put into the words of the format then, so what has to be known of a format is how it reads each kind
of value. -/
namespace Expurgate

variable {α β : Type}

section ReadField

variable {fields : List (String × α)} {name other : String} {doc : α} {read : α → Option β}
  {missing b : β}

/-- A field is read where its name comes first. -/
@[simp]
theorem readField_cons_self : readField ((name, doc) :: fields) name read missing = read doc := by
  simp [readField]

/-- Fields of other names are passed over. -/
@[simp]
theorem readField_cons_ne (hNe : name ≠ other) :
    readField ((other, doc) :: fields) name read missing = readField fields name read missing := by
  simp [readField, List.lookup_cons, beq_eq_false_iff_ne.mpr hNe]

/-- A field that is read comes from a document, unless it is missing. -/
theorem readField_cases (hRead : readField fields name read missing = some b) :
    b = missing ∨ ∃ doc, read doc = some b := by
  rw [readField] at hRead
  split at hRead
  · exact .inl (Option.some.inj hRead).symm
  · exact .inr ⟨_, hRead⟩

end ReadField

/-- Every item of a list that is read comes from an item of the list it is read from. -/
theorem exists_mem_of_mapM {read : α → Option β} {l : List α} {l' : List β}
    (hRead : l.mapM read = some l') : ∀ b ∈ l', ∃ a ∈ l, read a = some b := by
  induction l generalizing l' with
  | nil =>
      obtain rfl := Option.some.inj hRead
      exact nofun
  | cons a rest ih =>
      rw [List.mapM_cons] at hRead
      obtain ⟨b, hFirst, hRead⟩ := Option.bind_eq_some_iff.mp hRead
      obtain ⟨others, hOthers, hRead⟩ := Option.bind_eq_some_iff.mp hRead
      obtain rfl := Option.some.inj hRead
      refine List.forall_mem_cons.mpr ⟨⟨a, List.mem_cons_self, hFirst⟩, fun b hb => ?_⟩
      obtain ⟨a', ha', hLater⟩ := ih hOthers b hb
      exact ⟨a', List.mem_cons_of_mem _ ha', hLater⟩

/-- A list is read back if each of its items is. -/
theorem mapM_map {write : β → α} {read : α → Option β} {l : List β}
    (hRead : ∀ b ∈ l, read (write b) = some b) : (l.map write).mapM read = some l := by
  induction l with
  | nil => rfl
  | cons b rest ih =>
      obtain ⟨hFirst, hOthers⟩ := List.forall_mem_cons.mp hRead
      rw [List.map_cons, List.mapM_cons, hFirst, ih hOthers]
      rfl

namespace Format

variable {F : Format α} {write : Json → α}

/-- A format takes no count that does not fit into 64 bits. -/
def Bounded (F : Format α) : Prop := ∀ doc n, F.count doc = some n → n < countLimit

/-- A format reads back what is written in it, kind by kind. Records are written with all the fields
that are asked for and no others. -/
structure Reads (F : Format α) (write : Json → α) : Prop where
  null : F.present (write .null) = some none
  presentText : ∀ s, F.present (write (.text s)) = some (some (write (.text s)))
  presentFlag : ∀ b, F.present (write (.flag b)) = some (some (write (.flag b)))
  presentList : ∀ l, F.present (write (.list l)) = some (some (write (.list l)))
  text : ∀ s, F.text (write (.text s)) = some s
  flag : ∀ b, F.flag (write (.flag b)) = some b
  count : ∀ n, n < countLimit → F.count (write (.count n)) = some n
  name : ∀ s, F.name (write (.text s)) = some s
  list : ∀ l, F.list (write (.list l)) = some (l.map write)
  record : ∀ fields : List (String × Json), (fields.map (·.1)).Nodup →
    F.record (fields.map (·.1)) (write (.object fields)) =
      some (fields.map fun f => (f.1, write f.2))
  texts : ∀ l, F.texts (write (.texts l)) = some l

namespace Reads

/-- A character is written as a text of its own, and a text of one character is read as this
character. -/
theorem character (reads : F.Reads write) (c : Char) :
    F.character (write (.text (String.singleton c))) = some c := by
  simp [Format.character, reads.text]

/-- A choice is written by its name. That the name leads back to it is asked of the choice, not of
the format. -/
theorem choice {ofName? : String → Option β} {b : β} {name : String} (reads : F.Reads write)
    (hName : ofName? name = some b) : F.choice ofName? (write (.text name)) = some b := by
  rw [Format.choice, reads.name]
  exact hName

/-- Where a value is written as one that is present, it is read back with null in its place. -/
theorem optional {read : α → Option β} {encode : β → Json} (reads : F.Reads write)
    (hPresent : ∀ b, F.present (write (encode b)) = some (some (write (encode b))))
    (hRead : ∀ b, read (write (encode b)) = some b) (b : Option β) :
    F.optional read (write (.ofOption encode b)) = some b := by
  cases b with
  | none => simp [Format.optional, Json.ofOption, reads.null]
  | some b => simp [Format.optional, Json.ofOption, hPresent, hRead]

/-- What is missing is written as null, and null is read as missing and not as a refusal. -/
theorem optionalFlag (reads : F.Reads write) (b : Option Bool) :
    F.optional F.flag (write (.ofOption .flag b)) = some b :=
  reads.optional reads.presentFlag reads.flag b

/-- A list comes back if each of its items does. The items may be of any kind, which is what records
in lists need. -/
theorem listOf {read : α → Option β} {encode : β → Json} {l : List β} (reads : F.Reads write)
    (hRead : ∀ b ∈ l, read (write (encode b)) = some b) :
    F.listOf read (write (.list (l.map encode))) = some l := by
  rw [Format.listOf, reads.list, List.map_map]
  exact mapM_map hRead

theorem listOfTexts (reads : F.Reads write) (l : List String) :
    F.listOf F.text (write (.texts l)) = some l :=
  reads.listOf fun s _ => reads.text s

/-- Empty texts would be dropped. -/
theorem choices {l : List String} (reads : F.Reads write) (hFull : "" ∉ l) :
    F.choices (write (.texts l)) = some l := by
  have hKept : l.filter (· ≠ "") = l :=
    List.filter_eq_self.mpr fun s hs => decide_eq_true fun hEmpty => hFull (hEmpty ▸ hs)
  have hTexts : F.optional F.texts (write (.ofOption .texts (some l))) = some (some l) :=
    reads.optional (fun l => reads.presentList (l.map .text)) reads.texts (some l)
  rw [Json.ofOption] at hTexts
  rw [Format.choices, hTexts]
  exact congrArg some hKept

end Reads

/-- None of the texts that are read from a choice of texts is empty. -/
theorem empty_not_mem_of_choices {doc : α} {l : List String} (hRead : F.choices doc = some l) :
    "" ∉ l := by
  obtain ⟨texts, -, rfl⟩ := Option.map_eq_some_iff.mp hRead
  exact fun hMem => of_decide_eq_true (List.mem_filter.mp hMem).2 rfl

end Format

namespace Json

/-- A number that is too large is no count in a JSON document, just as a negative one is none. -/
theorem bounded_format : format.Bounded := by
  intro doc n hCount
  change count? doc = some n at hCount
  unfold count? at hCount
  split at hCount
  · split at hCount
    · rename_i hFits
      obtain rfl := Option.some.inj hCount
      exact hFits.2
    · cases hCount
  · cases hCount

/-- JSON reads back what it is given, as its documents are the values themselves. -/
theorem reads_format : format.Reads id where
  null := rfl
  presentText _ := rfl
  presentFlag _ := rfl
  presentList _ := rfl
  text _ := rfl
  flag _ := rfl
  count n hFits := if_pos ⟨Int.natCast_nonneg n, hFits⟩
  name _ := rfl
  list l := by simp [format, list?]
  record fields _ := by
    have hAll : fields.filter (fun f => (fields.map (·.1)).contains f.1) = fields :=
      List.filter_eq_self.mpr fun f hf => List.contains_iff_mem.mpr (List.mem_map_of_mem hf)
    exact (congrArg some hAll).trans (by simp)
  texts _ := mapM_map fun _ _ => rfl

end Json

end Expurgate
