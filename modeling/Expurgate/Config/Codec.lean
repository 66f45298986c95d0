import Expurgate.Config.Basic
import Expurgate.Config.Format
import Expurgate.Json.Basic

/-!
Configurations as documents. Every field may be missing and unknown ones are passed over; writing
gives every field, in the order of `fieldNames`.
-/

namespace Expurgate

namespace Settings

def fieldNames : List String :=
  ["filter_method", "censor_character", "censor_fixed_length", "preserve_first", "preserve_last",
    "preserve_case", "substitution_mark", "default_substitution", "default_match_method",
    "default_repeat", "default_separators", "profiles_enabled"]

def decode {α : Type} (F : Format α) (doc : α) : Option Settings := do
  let fields ← F.record fieldNames doc
  let flag (name : String) (missing : Bool) := readField fields name F.flag missing
  let filterMethod ←
    readField fields "filter_method" (F.choice FilterMethod.ofName?) default.filterMethod
  let censorCharacter ← readField fields "censor_character" F.character default.censorCharacter
  let censorFixedLength ← readField fields "censor_fixed_length" F.count default.censorFixedLength
  let preserveFirst ← flag "preserve_first" default.preserveFirst
  let preserveLast ← flag "preserve_last" default.preserveLast
  let preserveCase ← flag "preserve_case" default.preserveCase
  let substitutionMark ← flag "substitution_mark" default.substitutionMark
  let defaultSubstitution ←
    readField fields "default_substitution" F.text default.defaultSubstitution
  let defaultMatchMethod ←
    readField fields "default_match_method" (F.choice MatchMethod.ofName?)
      default.defaultMatchMethod
  let defaultRepeat ← flag "default_repeat" default.defaultRepeat
  let defaultSeparators ← flag "default_separators" default.defaultSeparators
  let profilesEnabled ← flag "profiles_enabled" default.profilesEnabled
  return { filterMethod, censorCharacter, censorFixedLength, preserveFirst, preserveLast,
           preserveCase, substitutionMark, defaultSubstitution, defaultMatchMethod, defaultRepeat,
           defaultSeparators, profilesEnabled }

def encode (s : Settings) : Json :=
  .object
    [("filter_method", .text s.filterMethod.name),
     ("censor_character", .text (String.singleton s.censorCharacter)),
     ("censor_fixed_length", .count s.censorFixedLength),
     ("preserve_first", .flag s.preserveFirst),
     ("preserve_last", .flag s.preserveLast),
     ("preserve_case", .flag s.preserveCase),
     ("substitution_mark", .flag s.substitutionMark),
     ("default_substitution", .text s.defaultSubstitution),
     ("default_match_method", .text s.defaultMatchMethod.name),
     ("default_repeat", .flag s.defaultRepeat),
     ("default_separators", .flag s.defaultSeparators),
     ("profiles_enabled", .flag s.profilesEnabled)]

end Settings

namespace TermOptions

def fieldNames : List String :=
  ["text", "match_method", "repeat", "separators", "sub", "preserve_case", "profiles"]

def decode {α : Type} (F : Format α) (doc : α) : Option TermOptions := do
  let fields ← F.record fieldNames doc
  let text ← readField fields "text" F.text ""
  let matchMethod ←
    readField fields "match_method" (F.optional (F.choice MatchMethod.ofName?)) none
  let repeated ← readField fields "repeat" (F.optional F.flag) none
  let separators ← readField fields "separators" (F.optional F.flag) none
  let substitutions ← readField fields "sub" F.choices []
  let preserveCase ← readField fields "preserve_case" (F.optional F.flag) none
  let profiles ← readField fields "profiles" (F.listOf F.text) []
  return { text, matchMethod, repeated, separators, substitutions, preserveCase, profiles }

def encode (t : TermOptions) : Json :=
  .object
    [("text", .text t.text),
     ("match_method", .ofOption (fun m => .text m.name) t.matchMethod),
     ("repeat", .ofOption .flag t.repeated),
     ("separators", .ofOption .flag t.separators),
     ("sub", .texts t.substitutions),
     ("preserve_case", .ofOption .flag t.preserveCase),
     ("profiles", .texts t.profiles)]

end TermOptions

namespace AllowEntries

def fieldNames : List String := ["case_sensitive", "case_insensitive"]

def decode {α : Type} (F : Format α) (doc : α) : Option AllowEntries := do
  let fields ← F.record fieldNames doc
  let caseSensitive ← readField fields "case_sensitive" (F.listOf F.text) []
  let caseInsensitive ← readField fields "case_insensitive" (F.listOf F.text) []
  return { caseSensitive, caseInsensitive }

def encode (a : AllowEntries) : Json :=
  .object [
    ("case_sensitive", .texts a.caseSensitive),
    ("case_insensitive", .texts a.caseInsensitive)]

end AllowEntries

namespace Config

def fieldNames : List String := ["settings", "profiles", "terms", "allow_list"]

def decode {α : Type} (F : Format α) (doc : α) : Option Config := do
  let fields ← F.record fieldNames doc
  let settings ← readField fields "settings" (Settings.decode F) .default
  let profiles ← readField fields "profiles" (F.listOf F.text) []
  let terms ← readField fields "terms" (F.listOf (TermOptions.decode F)) []
  let allowList ← readField fields "allow_list" (AllowEntries.decode F) ⟨[], []⟩
  return { settings, profiles, terms, allowList }

def encode (c : Config) : Json :=
  .object
    [("settings", c.settings.encode),
     ("profiles", .texts c.profiles),
     ("terms", .list (c.terms.map TermOptions.encode)),
     ("allow_list", c.allowList.encode)]

end Config

end Expurgate
