import Mathlib.Data.BitVec
import Mathlib.Data.Option.Basic

/-!
# Values the source takes from Python

UUIDs, datetimes and the whitespace test behind every "must be non-empty" check.
-/

namespace Alert2IR

abbrev UUID := BitVec 128

instance UUID.instLawfulBEq : LawfulBEq UUID := inferInstance

/-- A `datetime`: the microseconds its own clock shows since 1970-01-01T00:00:00, and the offset of
that clock from UTC, which a naive datetime lacks. -/
structure Datetime where
  micros : Int
  utcoffset : Option Int
deriving DecidableEq

namespace Datetime

def isAware (d : Datetime) : Bool := d.utcoffset.isSome

/-- Microseconds since the epoch. Python compares aware datetimes by this number alone. -/
def instant (d : Datetime) : Int := d.micros - d.utcoffset.getD 0

def ofInstant (instant : Int) : Datetime := ⟨instant, some 0⟩

/-- `astimezone(timezone.utc)`. -/
def utc (d : Datetime) : Datetime := ofInstant d.instant

@[simp]
theorem instant_ofInstant (i : Int) : (ofInstant i).instant = i := by
  simp [ofInstant, instant]

@[simp]
theorem isAware_ofInstant (i : Int) : (ofInstant i).isAware = true := rfl

@[simp]
theorem instant_utc (d : Datetime) : d.utc.instant = d.instant := by
  simp [utc]

@[simp]
theorem isAware_utc (d : Datetime) : d.utc.isAware = true := rfl

@[simp]
theorem utc_utc (d : Datetime) : d.utc.utc = d.utc := by
  simp [utc]

@[simp]
theorem utc_ofInstant (i : Int) : (ofInstant i).utc = ofInstant i := by
  simp [utc]

end Datetime

/-- The characters `str.strip()` removes. -/
def isPyWhitespace (c : Char) : Bool :=
  let n := c.toNat
  (9 ≤ n && n ≤ 13) || (28 ≤ n && n ≤ 32) || n == 0x85 || n == 0xA0 || n == 0x1680 ||
    (0x2000 ≤ n && n ≤ 0x200A) || n == 0x2028 || n == 0x2029 || n == 0x202F || n == 0x205F ||
    n == 0x3000

/-- `not value.strip()`. -/
def isBlank (s : String) : Bool := s.toList.all isPyWhitespace

end Alert2IR
