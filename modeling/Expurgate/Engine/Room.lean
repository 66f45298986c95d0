import Expurgate.Stream

/-!
Masks that memory has no room for. A mask is given its room before anything is written to it, and a
program that gets none dies on the spot: the match is neither logged nor counted, and what comes
behind it is not looked at. Masks of the words' own lengths are no larger than the text they are put
into, so only a fixed length can ask for too much.
-/

namespace Expurgate

/-- No text has more bytes than this, whatever room there is. A vector of bytes cannot be larger, so
to ask for more is an error by itself and not only where memory is short. -/
def maxTextSize : Nat := 0x7FFFFFFFFFFFFFFF

/-- What is told where there is no room for so many bytes. -/
def roomMessage (bytes : Nat) : String :=
  if bytes ≤ maxTextSize then s!"memory allocation of {bytes} bytes failed" else "capacity overflow"

/-- The same, with masks that are as long as what they hide. No such mask needs more room than there
is, and so the turns before the first overlong mask are those of this context. -/
def PassContext.ownMasks (ctx : PassContext) : PassContext :=
  { ctx with
    replacer := { ctx.replacer with
      settings := { ctx.replacer.settings with censorFixedLength := 0 } } }

namespace Engine

/-- The engine puts in masks for which there is no room. The text for which it does so is not
expurgated at all, as the run ends there. -/
def Overfills (e : Engine) (room : Nat) : Prop :=
  e.config.settings.filterMethod = .censor ∧
    min room maxTextSize < e.config.settings.censorFixedLength

instance (e : Engine) (room : Nat) : Decidable (e.Overfills room) :=
  inferInstanceAs (Decidable (_ ∧ _))

/-- What is logged of a text in front of the first match that is replaced, if there is one. Whether
there is one does not depend on how long the masks are, so none is made that takes up much room. -/
def untilMask? (e : Engine) (text : String) (profile : ProfileId) : Option (List LogRecord) :=
  if text = "" then none
  else
    let (_, decided) := (e.termSet profile).1.set.expurgate e.context.ownMasks text
    if decided.any (·.match?.isSome) then
      some ((decided.takeWhile (·.match?.isNone)).filterMap (·.record?))
    else none

/-- The lines of a stream in front of the first one that has a match to be replaced, and what is
logged of this one, if there is one before the stream ends. -/
def untilMaskedLine? (e : Engine) (profile : ProfileId) :
    List (Option String) → Option (List (Option String) × List LogRecord)
  | [] | none :: _ => none
  | some text :: rest =>
    match e.untilMask? text profile with
    | some log => some ([], log)
    | none => (e.untilMaskedLine? profile rest).map fun (lines, log) => (some text :: lines, log)

end Engine

end Expurgate
