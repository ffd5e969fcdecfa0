/-!
# Faults of evaluation

What can go wrong while values are computed, by cause. A fault has no wording of its own: only its
kind is ever reported.
-/

namespace Colloquy

/-- Cause of a failed computation on values. -/
inductive Fault where
  /-- An operation does not apply to a value of this kind, or a call does not fit a signature. -/
  | wrongType
  /-- A value of the right kind is not acceptable. -/
  | badValue
  /-- A mapping has no such key. -/
  | missingKey
  /-- A sequence has no such position. -/
  | badIndex
  /-- A value has no such member. -/
  | missingMember
  | divisionByZero
  /-- A number does not fit its format. -/
  | overflow
  /-- A text cannot be written in an encoding. -/
  | unencodable
  /-- Bytes are no text of an encoding. -/
  | undecodable
  /-- There is no encoding of that name. -/
  | unknownEncoding
  /-- Data refers to itself without end. -/
  | endlessData
  /-- A name of the program itself is not defined. -/
  | unboundName
  /-- A call names an argument twice. -/
  | malformedCall
  /-- A template cannot be parsed. -/
  | malformedTemplate
  /-- A template uses an unknown filter or test, or assigns a reserved name. -/
  | rejectedTemplate
  /-- A template does something that only shows when it runs. -/
  | templateFailure
  /-- A template filter does not accept its arguments. -/
  | badFilterArgument
  /-- An undefined template value was used as if it had a value. -/
  | undefinedOperand
  /-- Console markup closes a tag that is not open, or cannot be parsed. -/
  | malformedMarkup
  /-- A file is asked for where a directory is. -/
  | notFile
  /-- There is no module of that name. -/
  | missingModule
  /-- A step bound was reached before the computation ended. -/
  | outOfFuel
deriving Repr, DecidableEq, Inhabited

end Colloquy
