import Expurgate.Lines
import Expurgate.Report.Colour

/-!
Themes: the colours of the parts of the output.
-/

namespace Expurgate

/-- The parts of the output that have a colour. -/
inductive ThemeEntry where
  | header
  | success
  | info
  | warn
  | error
  | diffAdded
  | diffRemoved
  | diffHeader
  | summaryTermName
  | summaryOccurrences
  deriving Repr, DecidableEq

namespace ThemeEntry

def name : ThemeEntry → String
  | header => "header"
  | success => "success"
  | info => "info"
  | warn => "warn"
  | error => "error"
  | diffAdded => "diff_added"
  | diffRemoved => "diff_removed"
  | diffHeader => "diff_header"
  | summaryTermName => "summary_term_name"
  | summaryOccurrences => "summary_occurrences"

def all : List ThemeEntry :=
  [header, success, info, warn, error, diffAdded, diffRemoved, diffHeader, summaryTermName,
    summaryOccurrences]

def ofName? (s : String) : Option ThemeEntry := all.find? (·.name = s)

/-- The colour of a part where no theme gives another one. -/
def defaultColour : ThemeEntry → Colour
  | header | diffHeader => ⟨false, .yellow⟩
  | success | diffAdded => ⟨false, .green⟩
  | info => ⟨false, .cyan⟩
  | warn => ⟨true, .yellow⟩
  | error | diffRemoved => ⟨false, .red⟩
  | summaryTermName => ⟨false, .magenta⟩
  | summaryOccurrences => ⟨false, .white⟩

end ThemeEntry

/-- What a theme says of each part: a colour, or none. -/
structure Theme where
  colour? : ThemeEntry → Option Colour

namespace Theme

/-- The theme that holds unless another one is chosen. -/
def default : Theme := ⟨fun e => some e.defaultColour⟩

/-- A theme with the default colours except for the entries given, of which the last one holds. -/
def ofEntries (entries : List (ThemeEntry × Option Colour)) : Theme :=
  ⟨fun e => (entries.reverse.lookup e).getD (some e.defaultColour)⟩

/-- The colour of a part; one without a colour is white. -/
def colour (t : Theme) (e : ThemeEntry) : Colour := (t.colour? e).getD ⟨false, .white⟩

/-- A text as a part of the output, on a device that shows colours or on one that does not. -/
def paint (t : Theme) (colours : Bool) (e : ThemeEntry) (s : String) : String :=
  if colours then (t.colour e).paint s else s

end Theme

inductive MessageLevel where
  | info
  | warn
  | error
  deriving Repr, DecidableEq

namespace MessageLevel

def opening : MessageLevel → String
  | info => "[termfilter] "
  | warn => "[termfilter] WARNING: "
  | error => "[termfilter] ERROR: "

def entry : MessageLevel → ThemeEntry
  | info => .info
  | warn => .warn
  | error => .error

def message (l : MessageLevel) (t : Theme) (colours : Bool) (s : String) : String :=
  line (t.paint colours l.entry (l.opening ++ s))

end MessageLevel

end Expurgate
