import Alert2IR.Calendar.Rfc3339
import Alert2IR.Core.Text
import Alert2IR.Core.Times
import Alert2IR.Numeric.Rounding

/-!
# Timestamp normalization

A decimal number is its value. What a digit string spells is read without rounding, and a product
is rounded to the 28 digits of the default context.
-/

namespace Alert2IR

namespace Splunk

/-- A value of `_time`. A float is known by the decimal number its `repr` writes, if it is
finite. -/
inductive TimestampInput
  | text (value : String)
  | int (value : Int)
  | float (repr : Option ℚ)
  | datetime (value : Datetime)

/-- `[0-9]+(?:\.[0-9]*)?|\.[0-9]+`, and the number it spells. -/
def readUnsigned (text : List Char) : Option ℚ :=
  let whole := text.takeWhile Char.isDigit
  match text.dropWhile Char.isDigit with
  | [] => if whole = [] then none else some (Nat.ofDigitChars 10 whole 0)
  | point :: fraction =>
    if point = '.' ∧ fraction.all Char.isDigit ∧ (whole ≠ [] ∨ fraction ≠ []) then
      some (Nat.ofDigitChars 10 whole 0 + Calendar.fractionValue fraction)
    else none

/-- What `_NUMERIC_TIMESTAMP_PATTERN` matches, and the number it spells. -/
def readNumeric : List Char → Option ℚ
  | '+' :: text => readUnsigned text
  | '-' :: text => (readUnsigned text).map fun value => -value
  | text => readUnsigned text

/-- A zone: `Z|[+-][0-9]{2}:[0-9]{2}`. -/
def zonePattern : List Char → Bool
  | ['Z'] => true
  | [sign, h, h', colon, m, m'] =>
    (sign = '+' || sign = '-') && h.isDigit && h'.isDigit && colon = ':' && m.isDigit && m'.isDigit
  | _ => false

/-- `_RFC3339_PATTERN`. -/
def rfc3339Pattern (text : List Char) : Bool :=
  let stem := text.take 19
  let (fraction, zone) := Calendar.splitFraction (text.drop 19)
  stem.length = 19 && (stem.zip "0000-00-00T00:00:00".toList).all (fun c =>
      if c.2 = '0' then c.1.isDigit else c.1 = c.2) &&
    ((text.drop 19).head? ≠ some '.' || fraction ≠ []) && zonePattern zone

/-- `_normalize_epoch`, of a number that `Decimal` has read. -/
def normalizeEpoch (value : Option ℚ) : Except PyError Datetime :=
  match value with
  | none => .error (.valueError "Unix epoch must be finite")
  | some value =>
    if ¬(-62135596800 ≤ value ∧ value < 253402300800) then
      .error (.valueError "Unix epoch is outside the supported datetime range")
    else
      let microseconds := ⌊Numeric.toPrecision 10 28 (value * 1000000)⌋
      if Calendar.InRange microseconds then .ok (.ofInstant microseconds)
      else .error (.other "OverflowError")

/-- `normalize_timestamp`. -/
def normalizeTimestamp (value : TimestampInput) : Except PyError Datetime :=
  match value with
  | .datetime value =>
    if !value.isAware then .error (.valueError "detected_at must be timezone-aware")
    else value.astimezone
  | .int value => normalizeEpoch (some value)
  | .float repr => normalizeEpoch repr
  | .text value =>
    if value = "" ∨ value ≠ strip value then
      .error (.valueError "timestamp must be RFC3339 or a Unix epoch")
    else match readNumeric value.toList with
      | some number => normalizeEpoch (some number)
      | none =>
        if !rfc3339Pattern value.toList then
          .error (.valueError "timestamp must be RFC3339 with an explicit timezone")
        else match Calendar.fromisoformat value.toList with
          | none => .error (.valueError "timestamp is malformed")
          | some (micros, utcoffset) => Datetime.astimezone ⟨micros, some utcoffset⟩

example : normalizeTimestamp (.text "1786566372.7059226") =
    normalizeTimestamp (.text "2026-08-12T20:26:12.7059226Z") := by
  decide +kernel

end Splunk

end Alert2IR
