import Alert2IR.Calendar.Iso
import Alert2IR.Core.Errors

/-!
# Conversion to UTC

A datetime is made of fields, so its year is one from 1 to 9999. A time near either end of that
range may have no datetime in UTC.
-/

namespace Alert2IR

namespace Datetime

/-- `astimezone(timezone.utc)` of an aware datetime. -/
def astimezone (d : Datetime) : Except PyError Datetime :=
  if Calendar.InRange d.instant then .ok d.utc else .error (.other "OverflowError")

theorem astimezone_eq_ok_iff {d u : Datetime} :
    d.astimezone = .ok u ↔ Calendar.InRange d.instant ∧ u = d.utc := by
  unfold astimezone
  split <;> simp_all [eq_comm]

/-- `isoformat(timespec="microseconds").replace("+00:00", "Z")` of a datetime in UTC. The text ends
with the offset and has no other plus sign. -/
def isoformat (d : Datetime) : String := String.ofList (Calendar.isoformat d.micros ++ ['Z'])

theorem isoformat_ofInstant_inj {i j : Int} (hi : Calendar.InRange i) (hj : Calendar.InRange j) :
    (ofInstant i).isoformat = (ofInstant j).isoformat ↔ i = j := by
  constructor
  · intro h
    have htext := List.append_cancel_right (String.ofList_injective h)
    exact Calendar.isoformat_injective hi hj htext
  · rintro rfl
    rfl

example : (ofInstant 1786970096000000).isoformat =
    "2026-08-17T12:34:56.000000Z" := by decide +kernel

end Datetime

end Alert2IR
