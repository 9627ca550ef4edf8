/-!
# Values that do not suit what is done with them

A value may have the form that is asked for and still be none that an operation takes: digits that make no number,
a time that no calendar has, bytes in place of a text.
-/

namespace Regen

inductive ValueFault where
  | noDigits
  | badNumber
  | badTime
  | badTruth
  /-- A code names a code point beyond the last one. -/
  | badCode
  /-- A part of a number is too large for one with a fraction, or a code for any character. -/
  | overflow
  /-- A mapping stands for a time by the value in it. -/
  | timeInMapping
  /-- Bytes that are no text stand where an operation takes texts only. -/
  | octets
  /-- Values stand in each other too often. -/
  | tooDeep
  deriving DecidableEq

namespace ValueFault

def message : ValueFault → String
  | noDigits => "a number without digits"
  | badNumber => "a malformed number"
  | badTime => "a malformed time"
  | badTruth => "a malformed truth value"
  | badCode => "an escape for no code point"
  | overflow => "a number that is too large"
  | timeInMapping => "a mapping in place of a time"
  | octets => "bytes in place of a text"
  | tooDeep => "a document that is too deep"

end ValueFault
end Regen
