import Mathlib.Tactic.Ring

/-!
# Durations

The `Duration` of the standard library: whole seconds of 64 bits and the
nanoseconds of the next one.
-/

structure Duration where
  secs : UInt64
  nanos : Nat
  nanos_lt : nanos < 1000000000
  deriving DecidableEq, Repr

namespace Duration

/-- `count` units of which `perSec` make a second. -/
def ofCount (perSec nanosPer : Nat) (h : perSec * nanosPer = 1000000000) (count : UInt64) :
    Duration where
  secs := UInt64.ofNat (count.toNat / perSec)
  nanos := count.toNat % perSec * nanosPer
  nanos_lt := by
    have hpos : 0 < perSec := Nat.pos_of_ne_zero (by rintro rfl; omega)
    have hnanos : 0 < nanosPer := Nat.pos_of_ne_zero (by rintro rfl; omega)
    rw [← h]
    exact Nat.mul_lt_mul_of_pos_right (Nat.mod_lt _ hpos) hnanos

def fromSecs : UInt64 → Duration := ofCount 1 1000000000 (by decide)
def fromMillis : UInt64 → Duration := ofCount 1000 1000000 (by decide)
def fromMicros : UInt64 → Duration := ofCount 1000000 1000 (by decide)
def fromNanos : UInt64 → Duration := ofCount 1000000000 1 (by decide)

def asNanos (d : Duration) : Nat := d.secs.toNat * 1000000000 + d.nanos
def asMicros (d : Duration) : Nat := d.secs.toNat * 1000000 + d.nanos / 1000
def asMillis (d : Duration) : Nat := d.secs.toNat * 1000 + d.nanos / 1000000

theorem asNanos_lt (d : Duration) : d.asNanos < 2 ^ 64 * 1000000000 := by
  have hsecs := d.secs.toNat_lt
  have hnanos := d.nanos_lt
  unfold asNanos
  omega

/-- A duration is its length. -/
theorem ext_asNanos {d e : Duration} (h : d.asNanos = e.asNanos) : d = e := by
  have hd := d.nanos_lt
  have he := e.nanos_lt
  unfold asNanos at h
  have hsecs : d.secs = e.secs := UInt64.toNat_inj.mp (by omega)
  have hnanos : d.nanos = e.nanos := by omega
  cases d
  cases e
  simp_all

theorem asNanos_ofCount {perSec nanosPer : Nat} (h : perSec * nanosPer = 1000000000)
    (count : UInt64) : (ofCount perSec nanosPer h count).asNanos = count.toNat * nanosPer := by
  have hlt : count.toNat / perSec < 2 ^ 64 :=
    Nat.lt_of_le_of_lt (Nat.div_le_self _ _) count.toNat_lt
  have hsecs : (UInt64.ofNat (count.toNat / perSec)).toNat = count.toNat / perSec :=
    UInt64.toNat_ofNat_of_lt' hlt
  calc (ofCount perSec nanosPer h count).asNanos
      = count.toNat / perSec * (perSec * nanosPer) + count.toNat % perSec * nanosPer := by
        rw [h, ← hsecs]
        rfl
    _ = (perSec * (count.toNat / perSec) + count.toNat % perSec) * nanosPer := by ring
    _ = count.toNat * nanosPer := by rw [Nat.div_add_mod]

@[simp] theorem asNanos_fromSecs (n : UInt64) : (fromSecs n).asNanos = n.toNat * 1000000000 :=
  asNanos_ofCount (by decide) n

@[simp] theorem asNanos_fromMillis (n : UInt64) : (fromMillis n).asNanos = n.toNat * 1000000 :=
  asNanos_ofCount (by decide) n

@[simp] theorem asNanos_fromMicros (n : UInt64) : (fromMicros n).asNanos = n.toNat * 1000 :=
  asNanos_ofCount (by decide) n

@[simp] theorem asNanos_fromNanos (n : UInt64) : (fromNanos n).asNanos = n.toNat * 1 :=
  asNanos_ofCount (by decide) n

theorem nanos_fromSecs (n : UInt64) : (fromSecs n).nanos = 0 := by
  show n.toNat % 1 * 1000000000 = 0
  omega

end Duration
