/-!
Spans of time. A span is a count of nanoseconds no longer than the largest span a clock of
64-bit seconds and sub-second nanoseconds can hold, so every span splits into whole seconds
that fit 64 bits and a nanosecond remainder below one second. Sums saturate at the largest
span instead of wrapping.
-/

namespace CatalogQueue

def nanosPerSec : Nat := 1000000000

/-- The exclusive bound on whole seconds, `2 ^ 64`: seconds are 64-bit words. -/
def secsBound : Nat := 0x10000000000000000

/-- The longest span: the last second of a 64-bit clock, to its last nanosecond. -/
def maxSpanNanos : Nat := (secsBound - 1) * nanosPerSec + (nanosPerSec - 1)

/-- A span of time in nanoseconds, bounded by `maxSpanNanos`. -/
structure Span where
  /-- The whole span in nanoseconds. -/
  toNanos : Nat
  le_max : toNanos ≤ maxSpanNanos
  deriving DecidableEq

namespace Span

def zero : Span := ⟨0, Nat.zero_le _⟩

def max : Span := ⟨maxSpanNanos, Nat.le_refl _⟩

instance : Inhabited Span := ⟨zero⟩

def secs (d : Span) : Nat := d.toNanos / nanosPerSec

def subsecNanos (d : Span) : Nat := d.toNanos % nanosPerSec

def ofNanosClamped (n : Nat) : Span := ⟨min n maxSpanNanos, Nat.min_le_right _ _⟩

/-- A span from seconds and nanoseconds, carrying whole seconds out of the nanoseconds;
`none` when the seconds do not fit 64 bits. -/
def ofParts? (secs nanos : Nat) : Option Span :=
  let n := secs * nanosPerSec + nanos
  if h : n ≤ maxSpanNanos then some ⟨n, h⟩ else none

def ofSecs (s : Nat) : Span := ofNanosClamped (s * nanosPerSec)

/-- The sum of two spans, or the longest span when the sum is longer. -/
def satAdd (a b : Span) : Span := ofNanosClamped (a.toNanos + b.toNanos)

def isZero (d : Span) : Bool := d.toNanos == 0

def truncSecs (d : Span) : Span := ofNanosClamped (d.secs * nanosPerSec)

instance : LT Span := ⟨fun a b => a.toNanos < b.toNanos⟩

instance : LE Span := ⟨fun a b => a.toNanos ≤ b.toNanos⟩

instance (a b : Span) : Decidable (a < b) := Nat.decLt a.toNanos b.toNanos

instance (a b : Span) : Decidable (a ≤ b) := Nat.decLe a.toNanos b.toNanos

@[simp] theorem toNanos_zero : zero.toNanos = 0 := rfl

@[simp] theorem toNanos_satAdd (a b : Span) :
    (satAdd a b).toNanos = min (a.toNanos + b.toNanos) maxSpanNanos := rfl

@[simp] theorem isZero_iff (d : Span) : d.isZero = true ↔ d.toNanos = 0 := by
  simp [isZero]

theorem ext_toNanos {a b : Span} (h : a.toNanos = b.toNanos) : a = b := by
  cases a; cases b; simp_all

end Span

end CatalogQueue
