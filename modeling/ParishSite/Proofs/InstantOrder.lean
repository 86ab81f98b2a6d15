import Mathlib.Tactic.Ring
import ParishSite.Time.Instant

/-! Outside leap seconds an instant is a count of nanoseconds: the time between two instants is the
difference of their counts, and the earlier one has the smaller count. -/

namespace ParishSite.Time.Instant

/-- The nanoseconds since the first of January 1970. -/
def ticks (t : Instant) : Int := t.seconds * 1000000000 + t.nanos

theorem since_ticks {later earlier : Instant} (ordinary : later.isLeap = false)
    (ordinary' : earlier.isLeap = false) : later.since earlier = later.ticks - earlier.ticks := by
  simp only [since, ticks, ordinary, ordinary', Bool.and_false, Bool.false_eq_true, if_false,
    Duration.ofSeconds]
  change @Eq Int _ _
  ring

theorem nanos_lt {t : Instant} (ordinary : t.isLeap = false) : t.nanos < 1000000000 := by
  simpa [isLeap] using ordinary

theorem isBefore_ticks {a b : Instant} (ordinary : a.isLeap = false) (ordinary' : b.isLeap = false) :
    a.isBefore b = true ↔ a.ticks < b.ticks := by
  have small := nanos_lt ordinary
  have small' := nanos_lt ordinary'
  simp only [isBefore, ticks, Bool.or_eq_true, Bool.and_eq_true, decide_eq_true_eq, beq_iff_eq]
  omega

end ParishSite.Time.Instant
