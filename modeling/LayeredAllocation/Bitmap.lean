namespace LayeredAllocation

structure Bitmap where
  words : Nat
  bits : Nat
deriving DecidableEq, Repr

namespace Bitmap

-- All bits clear, in as many words as the slots need.
def forSlots (slots : Nat) : Bitmap := ⟨(slots + 63) / 64, 0⟩

def has (bitmap : Bitmap) (slot : Nat) : Bool := bitmap.bits.testBit slot

def covers (bitmap : Bitmap) (slot : Nat) : Bool := slot < bitmap.words * 64

def mark (bitmap : Bitmap) (slot : Nat) : Bitmap :=
  { bitmap with bits := bitmap.bits ||| (1 <<< slot) }

def unmark (bitmap : Bitmap) (slot : Nat) : Bitmap :=
  { bitmap with bits := if bitmap.has slot then bitmap.bits ^^^ (1 <<< slot) else bitmap.bits }

theorem testBit_one_shiftLeft (slot other : Nat) :
    (1 <<< slot).testBit other = decide (other = slot) := by
  rw [Nat.one_shiftLeft, Nat.testBit_two_pow]
  simp only [eq_comm]

theorem has_mark (bitmap : Bitmap) (slot other : Nat) :
    (bitmap.mark slot).has other = (decide (other = slot) || bitmap.has other) := by
  unfold has mark
  rw [Nat.testBit_or, testBit_one_shiftLeft, Bool.or_comm]

theorem has_unmark (bitmap : Bitmap) (slot other : Nat) :
    (bitmap.unmark slot).has other = (!decide (other = slot) && bitmap.has other) := by
  unfold unmark
  split
  · next marked =>
    unfold has at *
    simp only
    rw [Nat.testBit_xor, testBit_one_shiftLeft]
    by_cases same : other = slot
    · subst same
      simp [marked]
    · simp [same]
  · next clear =>
    by_cases same : other = slot
    · subst same
      simpa [has] using clear
    · simp [same, has]

theorem covers_forSlots {slots slot : Nat} (small : slot < slots) :
    (forSlots slots).covers slot = true := by
  unfold covers forSlots
  simp only [decide_eq_true_eq]
  omega

theorem slots_pos_of_covers {slots slot : Nat} (covered : (forSlots slots).covers slot = true) :
    0 < slots := by
  unfold covers forSlots at covered
  have covered := of_decide_eq_true covered
  dsimp only at covered
  omega

theorem forSlots_has (slots slot : Nat) : (forSlots slots).has slot = false := by
  simp [forSlots, has]

end LayeredAllocation.Bitmap
