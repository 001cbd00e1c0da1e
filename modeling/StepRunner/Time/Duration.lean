import StepRunner.Number.Shortest

/-!
This file keeps spans of time as whole nanoseconds.
It reads seconds from decimal text and writes them back as the shortest decimal text.
-/

namespace StepRunner

/-- A span of time in nanoseconds. -/
structure Duration where
  nanoseconds : Nat
  deriving DecidableEq, Repr

namespace Duration

/-- No time at all. -/
def zero : Duration := ⟨0⟩

/-- A number of seconds. -/
def ofSeconds (seconds : Nat) : Duration := ⟨seconds * 1000000000⟩

/-- A number of milliseconds. -/
def ofMilliseconds (milliseconds : Nat) : Duration := ⟨milliseconds * 1000000⟩

/-- The whole seconds of a span. -/
def seconds (span : Duration) : Nat := span.nanoseconds / 1000000000

/-- The nanoseconds of a span beyond its whole seconds. -/
def subsecond (span : Duration) : Nat := span.nanoseconds % 1000000000

/-- The whole milliseconds of a span. -/
def milliseconds (span : Duration) : Nat := span.nanoseconds / 1000000

/-- The milliseconds of a timer that waits at least the span. -/
def timerTicks (span : Duration) : Nat := (span.nanoseconds + 999999) / 1000000

/-- The longest span counts its seconds in 64 bits. -/
def longest : Duration := ⟨Nat.pow 2 64 * 1000000000 - 1⟩

/-- The sum of two spans, or the longest span when the sum is longer. -/
def add (left right : Duration) : Duration :=
  ⟨min (left.nanoseconds + right.nanoseconds) longest.nanoseconds⟩

/-- The milliseconds of a span as a 64 bit word of a message. -/
def wireMilliseconds (span : Duration) : Nat := span.milliseconds % Nat.pow 2 64

/--
The span written as decimal seconds.
The text stands for the nearest binary64 value, which is then rounded to whole nanoseconds.
-/
def ofDecimalSeconds (whole fraction : List Char) : Duration :=
  let digits := Text.decimalValue (whole ++ fraction)
  let value := Number.Binary64.nearest digits (Nat.pow 10 fraction.length)
  ⟨value.timesRounded 1000000000⟩

/-- The seconds of a span as a binary64 value. -/
def inSeconds (span : Duration) : Number.Binary64 :=
  Number.Binary64.add (.ofNat span.seconds)
    (Number.Binary64.divide (.ofNat span.subsecond) (.ofNat 1000000000))

/-- The seconds of a span as the shortest decimal text. -/
def secondsText (span : Duration) : String :=
  String.ofList span.inSeconds.text

theorem milliseconds_ofMilliseconds (count : Nat) :
    (ofMilliseconds count).milliseconds = count := by
  simp [ofMilliseconds, milliseconds]

theorem nanoseconds_le_timerTicks (span : Duration) :
    span.nanoseconds ≤ span.timerTicks * 1000000 := by
  unfold timerTicks
  omega

end Duration

end StepRunner
