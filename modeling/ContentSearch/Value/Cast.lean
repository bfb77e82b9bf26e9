import ContentSearch.Number.Binary64.Reading
import ContentSearch.Value

/-!
# Casts

Conversion of a value to another type, as it is needed when a literal meets a column of another
type. Every cast says what can be converted; all else is refused.
-/

namespace ContentSearch

open Number Time

/-- A value that has no counterpart in the type it should be converted to. -/
structure CastError where
  value : Value
  target : PropertyType
  deriving DecidableEq

/-- The wording of a refused cast. -/
def CastError.message (e : CastError) : String :=
  s!"cannot convert {e.value.type.label} value '{e.value.display}' to {e.target.label}"

namespace Value

/-- Any value as plain text; bytes must be well-formed text. -/
def toPlainText? : Value → Option String
  | .binary bytes => Text.Utf8.decode? bytes
  | v => some v.display

/-- Doubles and decimals without a fractional part and in range, instants as milliseconds, and
text in decimal between blanks. -/
def toLong? : Value → Option Int64
  | .long n => some n
  | .double x => x.toInt?.bind int64?
  | .decimal d => d.toInt?.bind int64?
  | .date t => int64? t.millis
  | .text _ s => long? (Text.trim s)
  | .binary _ | .boolean _ => none

/-- The nearest double of a number, and text between blanks. -/
def toDouble? : Value → Option Binary64
  | .double x => some x
  | .long n => some (Binary64.ofInt n.toInt)
  | .decimal d => some d.toBinary64
  | .text _ s => Binary64.ofText? (Text.trim s)
  | .binary _ | .date _ | .boolean _ => none

/-- Integers, finite doubles that fit, and text between blanks with nothing lost. -/
def toDecimal? : Value → Option Decimal
  | .decimal d => some d
  | .long n => some (Decimal.ofLong n)
  | .double x => Decimal.ofBinary64? x
  | .text _ s => Decimal.ofText? (Text.trim s)
  | .binary _ | .date _ | .boolean _ => none

/-- Milliseconds since 1970 and RFC 3339 text between blanks. -/
def toDate? : Value → Option Instant
  | .date t => some t
  | .long n => Instant.ofMillis? n.toInt
  | .text _ s => Instant.ofText? (Text.trim s)
  | .binary _ | .double _ | .decimal _ | .boolean _ => none

/-- The words `true` and `false` in letters of any case, without blanks. -/
def toBoolean? : Value → Option Bool
  | .boolean b => some b
  | .text _ s =>
    if Text.sameAscii s "true" then some true
    else if Text.sameAscii s "false" then some false
    else none
  | .binary _ | .long _ | .double _ | .decimal _ | .date _ => none

/-- The counterpart of a value in a type. -/
def castTo? (v : Value) : PropertyType → Option Value
  | .text .string => v.toPlainText?.map .string
  | .text kind => v.asText?.map (.text kind)
  | .binary => none
  | .long => v.toLong?.map .long
  | .double => v.toDouble?.map .double
  | .decimal => v.toDecimal?.map .decimal
  | .date => v.toDate?.map .date
  | .boolean => v.toBoolean?.map .boolean

/-- A value converted to a type; one that has the type already stays as it is. -/
def cast (v : Value) (target : PropertyType) : Except CastError Value :=
  if v.type = target then .ok v
  else match v.castTo? target with
    | some w => .ok w
    | none => .error ⟨v, target⟩

theorem cast_self (v : Value) : v.cast v.type = .ok v := by
  simp [cast]

theorem type_castTo? {v w : Value} {target : PropertyType} (h : v.castTo? target = some w) :
    w.type = target := by
  unfold castTo? at h
  split at h <;> first
    | (obtain ⟨_, _, rfl⟩ := Option.map_eq_some_iff.mp h; rfl)
    | cases h

/-- A cast that succeeds gives a value of the target type. -/
theorem type_cast {v w : Value} {target : PropertyType} (h : v.cast target = .ok w) :
    w.type = target := by
  unfold cast at h
  split at h
  · rename_i ht
    cases h
    exact ht
  · split at h
    · rename_i hw
      cases h
      exact type_castTo? hw
    · cases h

end Value

end ContentSearch
