/-!
# Spans of time and moments on a clock

The failure detector compares how long a member has been silent with two time
limits. A `Span` is a length of time and an `Instant` a moment on a monotonic
clock, both counted in whole nanoseconds. The module also gives the text in
which a span is reported: the largest unit that holds at least one whole, and
the exact decimal fraction of it.

Spans have no bound, but nothing is waited for longer than thirty years: a
longer wait is over by then.
-/

namespace GossipGroup

/-- A length of time in whole nanoseconds. -/
structure Span where
  nanoseconds : Nat
  deriving DecidableEq, Inhabited

namespace Span

/-- The span of no length. -/
def zero : Span := ⟨0⟩

/-- A span of whole milliseconds. -/
def ofMilliseconds (count : Nat) : Span := ⟨count * 1000000⟩

/-- A span of whole seconds. -/
def ofSeconds (count : Nat) : Span := ⟨count * 1000000000⟩

/-- A span of whole seconds and a number of further nanoseconds. -/
def ofParts (seconds nanoseconds : Nat) : Span :=
  ⟨seconds * 1000000000 + nanoseconds⟩

/-- The whole seconds of a span. -/
def seconds (span : Span) : Nat := span.nanoseconds / 1000000000

/-- The nanoseconds of a span beyond its whole seconds. -/
def subsecond (span : Span) : Nat := span.nanoseconds % 1000000000

/-- The whole milliseconds of a span. -/
def milliseconds (span : Span) : Nat := span.nanoseconds / 1000000

/-- One span is shorter than another. -/
protected def lt (left right : Span) : Prop :=
  left.nanoseconds < right.nanoseconds

/-- One span is at most as long as another. -/
protected def le (left right : Span) : Prop :=
  left.nanoseconds ≤ right.nanoseconds

instance : LT Span := ⟨Span.lt⟩

instance : LE Span := ⟨Span.le⟩

theorem lt_iff (left right : Span) :
    left < right ↔ left.nanoseconds < right.nanoseconds := Iff.rfl

theorem le_iff (left right : Span) :
    left ≤ right ↔ left.nanoseconds ≤ right.nanoseconds := Iff.rfl

instance (left right : Span) : Decidable (left < right) :=
  inferInstanceAs (Decidable (left.nanoseconds < right.nanoseconds))

instance (left right : Span) : Decidable (left ≤ right) :=
  inferInstanceAs (Decidable (left.nanoseconds ≤ right.nanoseconds))

/-- The longest that anything is waited for: thirty years of 365 days. -/
def longestWait : Span := .ofSeconds (30 * 365 * 86400)

/-- How long a wait lasts that is meant to last for a span. -/
def waited (span : Span) : Span := if span ≤ longestWait then span else longestWait

/-- A unit in which spans are written: its name, its length in nanoseconds and
the number of decimal places that write any fraction of it exactly. -/
structure Scale where
  name : String
  nanoseconds : Nat
  places : Nat

/-- The largest scale of which the span holds at least one whole; nanoseconds
for a span below a microsecond. -/
def scale (span : Span) : Scale :=
  if 1000000000 ≤ span.nanoseconds then ⟨"s", 1000000000, 9⟩
  else if 1000000 ≤ span.nanoseconds then ⟨"ms", 1000000, 6⟩
  else if 1000 ≤ span.nanoseconds then ⟨"µs", 1000, 3⟩
  else ⟨"ns", 1, 0⟩

/-- The digits of a fraction with the given number of decimal places, trailing
zeros dropped. -/
def fractionDigits (places fraction : Nat) : List Char :=
  let digits := Nat.toDigits 10 fraction
  let padded := List.replicate (places - digits.length) '0' ++ digits
  if fraction = 0 then []
  else (padded.reverse.dropWhile (· = '0')).reverse

/-- The text of a span, such as `1.5s`, `150ms`, `1.001µs` or `0ns`. -/
def text (span : Span) : String :=
  let scale := span.scale
  let whole := Nat.toDigits 10 (span.nanoseconds / scale.nanoseconds)
  let fraction := fractionDigits scale.places (span.nanoseconds % scale.nanoseconds)
  let point := if fraction = [] then [] else '.' :: fraction
  String.ofList (whole ++ point) ++ scale.name

end Span

/-- A moment on a monotonic clock, in nanoseconds from the clock's origin. -/
structure Instant where
  nanoseconds : Int
  deriving DecidableEq, Inhabited

namespace Instant

/-- The moment a number of whole milliseconds after the origin. -/
def ofMilliseconds (count : Nat) : Instant := ⟨count * 1000000⟩

/-- The span from an earlier moment to a later one; no time at all when the
earlier moment is in fact the later. -/
def since (later earlier : Instant) : Span :=
  ⟨(later.nanoseconds - earlier.nanoseconds).toNat⟩

@[simp] theorem since_self (moment : Instant) : moment.since moment = .zero := by
  simp [since, Span.zero]

/-- The moment a span after another. -/
def after (moment : Instant) (span : Span) : Instant :=
  ⟨moment.nanoseconds + span.nanoseconds⟩

/-- One moment comes before another or is the same. -/
protected def le (left right : Instant) : Prop :=
  left.nanoseconds ≤ right.nanoseconds

instance : LE Instant := ⟨Instant.le⟩

theorem le_iff (left right : Instant) :
    left ≤ right ↔ left.nanoseconds ≤ right.nanoseconds := Iff.rfl

instance (left right : Instant) : Decidable (left ≤ right) :=
  inferInstanceAs (Decidable (left.nanoseconds ≤ right.nanoseconds))

end Instant
end GossipGroup
