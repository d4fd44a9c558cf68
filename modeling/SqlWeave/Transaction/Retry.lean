/-!
# Retry policies

How often a conflicting transaction is tried and how long it waits in between.
A delay is drawn from the whole microseconds between two bounds, counted in
words of 64 bits.
-/

namespace SqlWeave.Transaction

/-- A span of time. -/
structure Duration where
  nanoseconds : Nat
  deriving DecidableEq, Repr

namespace Duration

def perSecond : Nat := 1000000000

def perMilli : Nat := 1000000

def perMicro : Nat := 1000

def ofParts (seconds nanoseconds : Nat) : Duration := ⟨seconds * perSecond + nanoseconds⟩

def ofMillis (milliseconds : Nat) : Duration := ⟨milliseconds * perMilli⟩

def seconds (duration : Duration) : Nat := duration.nanoseconds / perSecond

/-- The nanoseconds of a span beyond its whole seconds. -/
def subsecond (duration : Duration) : Nat := duration.nanoseconds % perSecond

def micros (duration : Duration) : Nat := duration.nanoseconds / perMicro

/-- The number of words of 64 bits. -/
def wordCount : Nat := 18446744073709551616

/-- The whole microseconds of a span in a word of 64 bits, which wraps around. -/
def microsWord (duration : Duration) : Nat := duration.micros % wordCount

def shorter (left right : Duration) : Duration :=
  ⟨min left.nanoseconds right.nanoseconds⟩

def longer (left right : Duration) : Duration :=
  ⟨max left.nanoseconds right.nanoseconds⟩

end Duration

/-- The delays that may be drawn, in microseconds, ends included. -/
structure DelayRange where
  least : Nat
  greatest : Nat
  least_le_greatest : least ≤ greatest

/-- A delay in microseconds from a range. -/
abbrev DelayRange.Delay (range : DelayRange) : Type :=
  { delay : Nat // range.least ≤ delay ∧ delay ≤ range.greatest }

/-- How often a transaction is tried, and the bounds of the delay before each retry. -/
structure RetryPolicy where
  /-- The number of attempts, the first one included; zero counts as one. -/
  maxAttempts : Nat := 5
  firstBound : Duration := .ofMillis 25
  secondBound : Duration := .ofMillis 250
  deriving DecidableEq, Repr

namespace RetryPolicy

/-- The number of attempts that are made at most. -/
def attemptLimit (policy : RetryPolicy) : Nat := max policy.maxAttempts 1

def withMaxAttempts (policy : RetryPolicy) (maxAttempts : Nat) : RetryPolicy :=
  { policy with maxAttempts }

/-- Set the bounds of the delay, in either order. -/
def withDelayBounds (policy : RetryPolicy) (firstBound secondBound : Duration) : RetryPolicy :=
  { policy with firstBound, secondBound }

def leastDelay (policy : RetryPolicy) : Duration := policy.firstBound.shorter policy.secondBound

def greatestDelay (policy : RetryPolicy) : Duration :=
  policy.firstBound.longer policy.secondBound

/-- The delays that may be drawn; there are none where the words of the bounds
are out of order. -/
def delayRange? (policy : RetryPolicy) : Option DelayRange :=
  if h : policy.leastDelay.microsWord ≤ policy.greatestDelay.microsWord then
    some ⟨_, _, h⟩
  else none

end RetryPolicy

/-- Whether every delay of a range lies within the bounds of a policy. -/
def DelayRange.isWithin (range : DelayRange) (policy : RetryPolicy) : Bool :=
  policy.leastDelay.micros ≤ range.least && range.greatest ≤ policy.greatestDelay.micros

end SqlWeave.Transaction
