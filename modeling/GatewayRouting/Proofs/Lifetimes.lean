import GatewayRouting.Cache.Timed
import GatewayRouting.Resolution.Options
import Mathlib.Order.Bounds.Basic

/-!
# Lifetimes in whole seconds

A lifetime is kept in whole seconds, as a machine word. A span that has a part of a second left is
rounded up to the next whole second (`Span.isLeast_roundedUp`), which is meant to keep a lifetime
from becoming zero, where entries are gone as soon as they are written.

It does for every span that has a whole number of seconds above it in a machine word, in every
build. For the spans beyond, less than a second above the last whole number, the second that is
added leaves the range of the words: a build that stops at that makes no options, and in one that
goes on the lifetime is zero (`lifetime_rounded_up`).
-/

namespace GatewayRouting

namespace Span

/-- The length of a span in nanoseconds. -/
def length (span : Span) : Nat :=
  span.seconds.toNat * nanosecondsPerSecond + span.nanoseconds.toNat

/-- Some whole number of seconds, as a machine word, is not below the span. -/
def Fits (span : Span) : Prop :=
  ∃ seconds : UInt64, span.length ≤ seconds.toNat * nanosecondsPerSecond

/-- The seconds of a span, rounded up. As a number, they have no bound. -/
def roundedUp (span : Span) : Nat :=
  span.seconds.toNat + if 0 < span.nanoseconds then 1 else 0

section

variable {span : Span}

theorem nanoseconds_lt (span : Span) : span.nanoseconds.toNat < nanosecondsPerSecond :=
  UInt32.lt_iff_toNat_lt.mp span.proper

theorem pos_nanoseconds_iff : 0 < span.nanoseconds ↔ 0 < span.nanoseconds.toNat :=
  UInt32.lt_iff_toNat_lt

/-- **No fewer whole seconds reach to the end of a span than its seconds rounded up.** -/
theorem le_mul_iff (span : Span) (seconds : Nat) :
    span.length ≤ seconds * nanosecondsPerSecond ↔ span.roundedUp ≤ seconds := by
  have proper := span.nanoseconds_lt
  rw [length, roundedUp]
  split
  · next rest =>
    have rest := pos_nanoseconds_iff.mp rest
    simp only [nanosecondsPerSecond] at proper ⊢
    omega
  · next rest =>
    have rest : span.nanoseconds.toNat = 0 := by simpa [pos_nanoseconds_iff] using rest
    simp only [nanosecondsPerSecond] at proper ⊢
    omega

theorem isLeast_roundedUp (span : Span) :
    IsLeast {seconds : Nat | span.length ≤ seconds * nanosecondsPerSecond} span.roundedUp :=
  ⟨(span.le_mul_iff _).mpr (Nat.le_refl _),
    fun seconds above => (span.le_mul_iff seconds).mp above⟩

/-- A span fits if its seconds, rounded up, are a machine word. -/
theorem fits_iff (span : Span) : span.Fits ↔ span.roundedUp < UInt64.size := by
  simp only [Fits, le_mul_iff]
  constructor
  · rintro ⟨seconds, above⟩
    exact Nat.lt_of_le_of_lt above seconds.toNat_lt_size
  · intro small
    exact ⟨.ofNat span.roundedUp, by rw [UInt64.toNat_ofNat_of_lt' small]⟩

theorem roundedUp_eq_zero_iff (span : Span) : span.roundedUp = 0 ↔ span.length = 0 := by
  have zero := span.le_mul_iff 0
  rw [Nat.zero_mul, Nat.le_zero, Nat.le_zero] at zero
  exact zero.symm

theorem roundedUp_le_of_length_le {later : Span} (le : span.length ≤ later.length) :
    span.roundedUp ≤ later.roundedUp :=
  (span.le_mul_iff _).mp (le.trans ((later.le_mul_iff _).mpr (Nat.le_refl _)))

theorem Fits.of_length_le {later : Span} (fits : later.Fits) (le : span.length ≤ later.length) :
    span.Fits :=
  span.fits_iff.mpr (Nat.lt_of_le_of_lt (roundedUp_le_of_length_le le) (later.fits_iff.mp fits))

/-- A span that does not fit is less than a second above the last whole number of seconds. -/
theorem of_not_fits (beyond : ¬ span.Fits) :
    span.seconds.toNat = UInt64.size - 1 ∧ 0 < span.nanoseconds := by
  have small := span.seconds.toNat_lt_size
  rw [fits_iff, roundedUp] at beyond
  split at beyond
  · next rest => exact ⟨by omega, rest⟩
  · omega

end

end Span

namespace Overflow

variable {a b : UInt64}

/-- In the range of the words there is one sum, in every build. -/
theorem add?_of_lt (overflow : Overflow) (within : a.toNat + b.toNat < UInt64.size) :
    overflow.add? a b = some (a + b) :=
  if_pos within

theorem stops_add?_of_le (beyond : UInt64.size ≤ a.toNat + b.toNat) :
    Overflow.stops.add? a b = none :=
  if_neg (Nat.not_lt.mpr beyond)

theorem wraps_add? (a b : UInt64) : Overflow.wraps.add? a b = some (a + b) :=
  ite_self _

end Overflow

namespace Options

/-- The second that a part of a second counts for, added to the seconds. -/
theorem seconds_add_eq_roundedUp (span : Span) :
    span.seconds.toNat + (if 0 < span.nanoseconds then 1 else 0 : UInt64).toNat =
      span.roundedUp := by
  rw [Span.roundedUp]
  split <;> rfl

/-- The lifetime of a span that fits is its seconds rounded up. -/
theorem withTtl_of_fits (options : Options) (overflow : Overflow) {span : Span}
    (fits : span.Fits) :
    options.withTtl overflow span =
      some { options with ttlSeconds := .ofNat span.roundedUp } := by
  have within := span.fits_iff.mp fits
  have sum := seconds_add_eq_roundedUp span
  rw [withTtl, overflow.add?_of_lt (by rwa [sum]), Option.map_some]
  congr 2
  rw [← UInt64.toNat_inj, UInt64.toNat_add, sum, UInt64.toNat_ofNat_of_lt' within]
  exact Nat.mod_eq_of_lt within

/-- A span that does not fit stops the program, or has no lifetime. -/
theorem withTtl_of_not_fits (options : Options) {span : Span} (beyond : ¬ span.Fits) :
    options.withTtl .stops span = none ∧
      options.withTtl .wraps span = some { options with ttlSeconds := 0 } := by
  obtain ⟨last, rest⟩ := Span.of_not_fits beyond
  constructor
  · rw [withTtl, if_pos rest, Overflow.stops_add?_of_le (by rw [last]; decide), Option.map_none]
  · have last : span.seconds = 18446744073709551615 := UInt64.toNat_inj.mp last
    rw [withTtl, if_pos rest, Overflow.wraps_add?, Option.map_some, last]
    rfl

theorem length_ttl (options : Options) :
    options.ttl.length = options.ttlSeconds.toNat * nanosecondsPerSecond :=
  Nat.add_zero _

/-- A whole number of seconds is kept as it is. -/
theorem withTtl_ttl (options : Options) (overflow : Overflow) :
    options.withTtl overflow options.ttl = some options := by
  have whole : ¬ (0 : UInt32) < 0 := by decide
  rw [withTtl, ttl, if_neg whole, overflow.add?_of_lt (by exact options.ttlSeconds.toNat_lt_size),
    UInt64.add_zero, Option.map_some]

end Options

/-- **Lifetimes are rounded up, short of the end of the machine words.** If a span fits, every build
makes the same options of it, with the least whole number of seconds that is not below the span.
That is zero for the empty span alone, a lifetime made of that lifetime is the same once more, and
nothing else in the options has changed.

If a span does not fit, it is less than a second above the last whole number of seconds there is. A
build that stops at sums beyond the machine words stops at it, and in one that goes on the lifetime
is zero.

As long as they fit, longer spans have no shorter lifetimes. -/
theorem lifetime_rounded_up (options : Options) (span : Span) :
    (span.Fits →
      ∃ rounded : Options,
        (∀ overflow, options.withTtl overflow span = some rounded) ∧
          rounded.ttl.nanoseconds = 0 ∧
          IsLeast {seconds : Nat | span.length ≤ seconds * nanosecondsPerSecond}
            rounded.ttl.seconds.toNat ∧
          (rounded.ttl.length = 0 ↔ span.length = 0) ∧
          (∀ overflow, rounded.withTtl overflow rounded.ttl = some rounded) ∧
          { rounded with ttlSeconds := options.ttlSeconds } = options) ∧
      (¬ span.Fits →
        span.seconds.toNat = UInt64.size - 1 ∧ 0 < span.nanoseconds ∧
          options.withTtl .stops span = none ∧
          options.withTtl .wraps span = some { options with ttlSeconds := 0 }) ∧
      ∀ (later : Span) (overflow : Overflow), later.Fits → span.length ≤ later.length →
        ∃ rounded rounded', options.withTtl overflow span = some rounded ∧
          options.withTtl overflow later = some rounded' ∧
          rounded.ttl.length ≤ rounded'.ttl.length := by
  have kept {span : Span} (fits : span.Fits) :
      (UInt64.ofNat span.roundedUp).toNat = span.roundedUp :=
    UInt64.toNat_ofNat_of_lt' (span.fits_iff.mp fits)
  refine ⟨fun fits => ?fits, fun beyond => ?beyond, fun later overflow fits' le => ?mono⟩
  case fits =>
    refine ⟨{ options with ttlSeconds := .ofNat span.roundedUp },
      fun overflow => options.withTtl_of_fits overflow fits, rfl, ?_, ?_,
      fun overflow => Options.withTtl_ttl _ overflow, rfl⟩
    · show IsLeast _ (UInt64.ofNat span.roundedUp).toNat
      rw [kept fits]
      exact span.isLeast_roundedUp
    · rw [Options.length_ttl, kept fits, Nat.mul_eq_zero, or_iff_left (by decide),
        span.roundedUp_eq_zero_iff]
  case beyond =>
    obtain ⟨last, rest⟩ := Span.of_not_fits beyond
    exact ⟨last, rest, options.withTtl_of_not_fits beyond⟩
  case mono =>
    have fits := fits'.of_length_le le
    refine ⟨_, _, options.withTtl_of_fits overflow fits, options.withTtl_of_fits overflow fits', ?_⟩
    rw [Options.length_ttl, Options.length_ttl, kept fits, kept fits']
    exact Nat.mul_le_mul_right _ (Span.roundedUp_le_of_length_le le)

/-- The longest span that is not whole and still fits, at the last whole number of seconds. -/
theorem longest_span_rounded_up :
    let span : Span := { seconds := 18446744073709551614, nanoseconds := 999999999 }
    span.Fits ∧
      ∃ rounded : Options,
        (∀ overflow, ({} : Options).withTtl overflow span = some rounded) ∧
          IsLeast {seconds : Nat | span.length ≤ seconds * nanosecondsPerSecond}
            rounded.ttl.seconds.toNat ∧
          rounded.ttl.seconds = 18446744073709551615 := by
  intro span
  have fits : span.Fits := ⟨18446744073709551615, by decide⟩
  obtain ⟨rounded, made, -, least, -⟩ := (lifetime_rounded_up {} span).1 fits
  refine ⟨fits, rounded, made, least, ?_⟩
  have last : rounded = { ttlSeconds := 18446744073709551615 } :=
    (Option.some.inj (made .stops)).symm
  rw [last]
  rfl

/-- One nanosecond more than the last whole number of seconds stops the program, or is a lifetime of
nothing: less than that of a shorter span, and not the last whole number of seconds, though no whole
number of seconds that a machine word holds is above it. -/
theorem longest_spans_lose_their_lifetime :
    let span : Span := { seconds := 18446744073709551615, nanoseconds := 1 }
    let shorter : Span := { seconds := 18446744073709551615, nanoseconds := 0 }
    0 < span.length ∧ shorter.length ≤ span.length ∧
      (¬ ∃ seconds : UInt64, span.length ≤ seconds.toNat * nanosecondsPerSecond) ∧
      ({} : Options).withTtl .stops span = none ∧
      ∃ lost kept : Options, ({} : Options).withTtl .wraps span = some lost ∧
        (∀ overflow, ({} : Options).withTtl overflow shorter = some kept) ∧
        lost.ttl = { seconds := 0, nanoseconds := 0 } ∧
        kept.ttl.seconds = 18446744073709551615 ∧
        lost.ttl.length < kept.ttl.length := by
  intro span shorter
  have beyond : ¬ span.Fits := by
    rw [span.fits_iff]
    decide
  obtain ⟨stopped, lost⟩ := ({} : Options).withTtl_of_not_fits beyond
  exact ⟨by decide, by decide, beyond, stopped, _, { ttlSeconds := 18446744073709551615 }, lost,
    fun overflow => ({} : Options).withTtl_of_fits overflow ⟨18446744073709551615, by decide⟩,
    rfl, rfl, by decide⟩

end GatewayRouting
