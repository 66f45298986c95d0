import Expurgate.Config.Basic
import Expurgate.Pattern.Basic

/-!
What can go wrong, by cause, with the wording users see.
-/

namespace Expurgate

/-- The longest pattern a user may give, in bytes. -/
def maxPatternLength : Nat := 500

inductive FileFault where
  | notFound
  | isDirectory
  | notDirectory
  | invalidText
  deriving Repr, DecidableEq

def FileFault.message : FileFault → String
  | notFound => "No such file or directory (os error 2)"
  | isDirectory => "Is a directory (os error 21)"
  | notDirectory => "Not a directory (os error 20)"
  | invalidText => "stream did not contain valid UTF-8"

/-- Causes of failure in the filter itself. Failures of the program around it are other errors,
which may have one of these as their cause. -/
inductive FilterError where
  /-- The text of a regex term is no pattern. -/
  | termCompilation (term : String) (cause : PatternError)
  /-- The text of a regex term has more than `maxPatternLength` bytes. -/
  | patternLengthExceeded (term : String) (bytes : Nat)
  | emptyTerm
  /-- A named profile is not declared. -/
  | unknownProfile (name : String)
  | unknownMethod (text : String)
  | emptyProfileName
  | file (fault : FileFault)
  deriving Repr, DecidableEq

/-- The wording of an error. A term that is no pattern is named without a diagnosis. -/
def FilterError.message : FilterError → String
  | termCompilation term _ => s!"Failed to compile term '{term}':"
  | patternLengthExceeded term bytes =>
    s!"Term '{term}': pattern length ({bytes}) exceeds maximum allowed ({maxPatternLength})"
  | emptyTerm => "A configured term has empty text"
  | unknownProfile name => s!"Profile '{name}' is not declared in the configuration"
  | unknownMethod text => s!"Invalid configuration: unknown filter method '{text}'"
  | emptyProfileName => "Invalid configuration: profile name cannot be empty"
  | file fault => s!"An unexpected I/O error occurred: {fault.message}"

/-- Oddities that are reported while work goes on. None of them keeps a configuration from being
used. -/
inductive Warning where
  /-- A term was left out of a profile. -/
  | skippedTerm (term : String) (profile : ProfileId) (error : FilterError)
  /-- A request for a profile that is not declared. -/
  | nothingFiltered (profile : String)
  /-- A term names a profile that is not declared. -/
  | undeclaredProfile (term profile : String)
  deriving Repr, DecidableEq

def Warning.message : Warning → String
  | skippedTerm term profile error =>
    s!"Skipping term '{term}' in profile '{profile.display}': {error.message}"
  | nothingFiltered profile =>
    (FilterError.unknownProfile profile).message ++ "; filtering nothing for it."
  | undeclaredProfile term profile =>
    s!"Term '{term}' references undeclared profile '{profile}'."

end Expurgate
