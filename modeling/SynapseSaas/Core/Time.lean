import SynapseSaas.Foundation.Calendar

/-! Instants and dates. An instant is a number of microseconds since
1970-01-01T00:00:00Z, the resolution of the timestamps in the database. -/

set_option autoImplicit false

namespace SynapseSaas

def second : Int := 1000000
def day : Int := 86400 * second

/-- `datetime.date()` of an instant in UTC. -/
def dateOf (instant : Int) : Int := instant / day

/-- `datetime.combine(date, datetime.min.time())`. -/
def midnight (date : Int) : Int := date * day

/-- `date.replace(day=1)`. -/
def firstOfMonth (date : Int) : Int := Calendar.firstDay (Calendar.monthOf date)

/-- The usage bucket of an instant: the first day of its month. -/
def monthBucket (now : Int) : Int := firstOfMonth (dateOf now)

@[simp] theorem dateOf_midnight (date : Int) : dateOf (midnight date) = date := by
  simp only [dateOf, midnight, day, second]
  omega

theorem midnight_le_iff (date instant : Int) : midnight date ≤ instant ↔ date ≤ dateOf instant := by
  simp only [dateOf, midnight, day, second]
  omega

end SynapseSaas
