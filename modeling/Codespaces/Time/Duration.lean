/-!
# Durations

A duration is a number of nanoseconds. Seconds and the part below a second are read off it.
-/

namespace Codespaces

structure Duration where
  nanos : Nat
  deriving DecidableEq, Repr, Inhabited

namespace Duration

def nanosPerSecond : Nat := 1000000000

def zero : Duration := ⟨0⟩

def ofSecs (n : Nat) : Duration := ⟨n * nanosPerSecond⟩

def ofMillis (n : Nat) : Duration := ⟨n * 1000000⟩

def secs (d : Duration) : Nat := d.nanos / nanosPerSecond

/-- The nanoseconds beyond the whole seconds. -/
def subsecNanos (d : Duration) : Nat := d.nanos % nanosPerSecond

def millis (d : Duration) : Nat := d.nanos / 1000000

def minutes (d : Duration) : Nat := d.secs / 60

instance : Add Duration := ⟨fun a b => ⟨a.nanos + b.nanos⟩⟩

/-- Difference, zero when `b` is the longer one. -/
instance : Sub Duration := ⟨fun a b => ⟨a.nanos - b.nanos⟩⟩

instance : LE Duration := ⟨fun a b => a.nanos ≤ b.nanos⟩

instance : LT Duration := ⟨fun a b => a.nanos < b.nanos⟩

instance (a b : Duration) : Decidable (a ≤ b) := inferInstanceAs (Decidable (a.nanos ≤ b.nanos))

instance (a b : Duration) : Decidable (a < b) := inferInstanceAs (Decidable (a.nanos < b.nanos))

def min (a b : Duration) : Duration := if a ≤ b then a else b

@[simp] theorem nanos_add (a b : Duration) : (a + b).nanos = a.nanos + b.nanos := rfl

@[simp] theorem nanos_sub (a b : Duration) : (a - b).nanos = a.nanos - b.nanos := rfl

protected theorem add_assoc (a b c : Duration) : a + b + c = a + (b + c) :=
  congrArg mk (Nat.add_assoc ..)

theorem le_iff (a b : Duration) : a ≤ b ↔ a.nanos ≤ b.nanos := Iff.rfl

theorem lt_iff (a b : Duration) : a < b ↔ a.nanos < b.nanos := Iff.rfl

theorem zero_le (d : Duration) : zero ≤ d := Nat.zero_le d.nanos

theorem le_zero_iff {d : Duration} : d ≤ zero ↔ d = zero := by
  cases d
  simp [le_iff, zero]

theorem nanos_min (a b : Duration) : (a.min b).nanos = Nat.min a.nanos b.nanos := by
  simp only [min, le_iff, Nat.min_def]
  split <;> rfl

@[simp] theorem secs_ofSecs (n : Nat) : (ofSecs n).secs = n := by
  simp [ofSecs, secs, nanosPerSecond]

end Duration

end Codespaces
