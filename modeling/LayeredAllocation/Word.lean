namespace LayeredAllocation.Word

def range : Nat := 0x1_0000_0000_0000_0000

-- The longest run of bytes, since a distance between two addresses is a signed word.
def longest : Nat := 0x7fff_ffff_ffff_ffff

def isPowerOfTwo (n : Nat) : Bool := n == 1 <<< n.log2

def roundUp (n step : Nat) : Nat := (n + (step - 1)) / step * step

-- `roundUp`, refused when `step` is zero or the multiple is no word.
def roundUp? (n step : Nat) : Option Nat :=
  if step = 0 then none
  else if roundUp n step < range then some (roundUp n step) else none

def low32 (n : Nat) : Nat := n % 0x1_0000_0000

def signed (n : Nat) : Int := if n ≤ longest then n else (n : Int) - range

def wrap (z : Int) : Nat := (z % (range : Int)).toNat

theorem isPowerOfTwo_iff {n : Nat} : isPowerOfTwo n = true ↔ n.isPowerOfTwo := by
  unfold isPowerOfTwo
  rw [beq_iff_eq, Nat.one_shiftLeft]
  constructor
  · intro power
    exact ⟨n.log2, power⟩
  · rintro ⟨k, rfl⟩
    rw [Nat.log2_two_pow]

theorem le_roundUp {n step : Nat} (positive : 0 < step) : n ≤ roundUp n step := by
  unfold roundUp
  have division := Nat.div_add_mod (n + (step - 1)) step
  have bound := Nat.mod_lt (n + (step - 1)) positive
  rw [Nat.mul_comm] at division
  omega

theorem dvd_roundUp (n step : Nat) : step ∣ roundUp n step := Nat.dvd_mul_left ..

theorem roundUp_lt {n step : Nat} (positive : 0 < step) : roundUp n step < n + step := by
  unfold roundUp
  have := Nat.div_mul_le_self (n + (step - 1)) step
  omega

theorem roundUp_of_dvd {n step : Nat} (positive : 0 < step) (divides : step ∣ n) :
    roundUp n step = n := by
  obtain ⟨q, rfl⟩ := divides
  unfold roundUp
  rw [Nat.add_comm, Nat.add_mul_div_left _ _ positive, Nat.div_eq_of_lt (by omega), Nat.zero_add,
    Nat.mul_comm]

theorem roundUp_le_of_dvd {n m step : Nat} (positive : 0 < step) (divides : step ∣ m) (le : n ≤ m) :
    roundUp n step ≤ m := by
  obtain ⟨q, rfl⟩ := divides
  unfold roundUp
  rw [Nat.mul_comm step q]
  apply Nat.mul_le_mul_right
  apply Nat.le_of_lt_succ
  rw [Nat.div_lt_iff_lt_mul positive, Nat.succ_mul, Nat.mul_comm]
  omega

theorem roundUp?_eq_some {n step r : Nat} :
    roundUp? n step = some r ↔ 0 < step ∧ roundUp n step = r ∧ r < range := by
  unfold roundUp?
  split
  · simp_all
  · split
    · simp only [Option.some.injEq]; omega
    · simp only [reduceCtorEq, false_iff]; omega

end LayeredAllocation.Word

namespace LayeredAllocation

structure Counter where
  amount : UInt64 := 0
deriving DecidableEq, Repr

namespace Counter

def ofNat (n : Nat) : Counter := ⟨UInt64.ofNat n⟩

def read (counter : Counter) : Nat := counter.amount.toNat

def add (counter : Counter) (n : Nat) : Counter := ⟨counter.amount + UInt64.ofNat n⟩

def sub (counter : Counter) (n : Nat) : Counter := ⟨counter.amount - UInt64.ofNat n⟩

def withdraw? (counter : Counter) (n : Nat) : Option Counter :=
  if n ≤ counter.read then some (counter.sub n) else none

def deposit (counter : Counter) (n : Nat) : Counter := counter.add n

theorem read_lt (counter : Counter) : counter.read < Word.range := counter.amount.toNat_lt

theorem read_add (counter : Counter) (n : Nat) :
    (counter.add n).read = (counter.read + n) % Word.range := by
  simp [read, add, Word.range]

theorem read_add_of_lt {counter : Counter} {n : Nat} (fits : counter.read + n < Word.range) :
    (counter.add n).read = counter.read + n := by
  rw [read_add, Nat.mod_eq_of_lt fits]

theorem read_sub_of_le {counter : Counter} {n : Nat} (holds : n ≤ counter.read) :
    (counter.sub n).read = counter.read - n := by
  have bound := counter.read_lt
  have small : n < Word.range := Nat.lt_of_le_of_lt holds bound
  have recover : (UInt64.ofNat n).toNat = n := UInt64.toNat_ofNat_of_lt' small
  unfold sub read at *
  rw [UInt64.toNat_sub_of_le _ _ (by rw [UInt64.le_iff_toNat_le, recover]; exact holds), recover]

theorem withdraw?_eq_some {counter rest : Counter} {n : Nat}
    (enough : counter.withdraw? n = some rest) : n ≤ counter.read ∧ rest = counter.sub n := by
  unfold withdraw? at enough
  split at enough
  · next holds => exact ⟨holds, (Option.some.inj enough).symm⟩
  · cases enough

theorem add_sub (counter : Counter) (n : Nat) : (counter.add n).sub n = counter := by
  unfold add sub
  rw [UInt64.add_sub_cancel]

theorem sub_add (counter : Counter) (n : Nat) : (counter.sub n).add n = counter := by
  unfold add sub
  rw [UInt64.sub_add_cancel]

end LayeredAllocation.Counter
