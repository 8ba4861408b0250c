import LayeredAllocation.Word

namespace LayeredAllocation

structure Extent where
  start : Nat
  length : Nat
deriving DecidableEq, Repr

namespace Extent

def stop (e : Extent) : Nat := e.start + e.length

def Contains (e : Extent) (address : Nat) : Prop := e.start ≤ address ∧ address < e.stop

def Disjoint (a b : Extent) : Prop := a.stop ≤ b.start ∨ b.stop ≤ a.start

def Within (inner outer : Extent) : Prop := outer.start ≤ inner.start ∧ inner.stop ≤ outer.stop

instance (e : Extent) (address : Nat) : Decidable (e.Contains address) :=
  inferInstanceAs (Decidable (_ ∧ _))

instance (a b : Extent) : Decidable (a.Disjoint b) := inferInstanceAs (Decidable (_ ∨ _))

instance (inner outer : Extent) : Decidable (inner.Within outer) :=
  inferInstanceAs (Decidable (_ ∧ _))

theorem Disjoint.symm {a b : Extent} (apart : a.Disjoint b) : b.Disjoint a := Or.symm apart

theorem Within.refl (e : Extent) : e.Within e := ⟨Nat.le_refl _, Nat.le_refl _⟩

theorem Within.trans {a b c : Extent} (inner : a.Within b) (outer : b.Within c) : a.Within c :=
  ⟨Nat.le_trans outer.1 inner.1, Nat.le_trans inner.2 outer.2⟩

theorem Disjoint.of_within {inner outer other : Extent} (within : inner.Within outer)
    (apart : outer.Disjoint other) : inner.Disjoint other := by
  rcases apart with before | behind
  · exact Or.inl (Nat.le_trans within.2 before)
  · exact Or.inr (Nat.le_trans behind within.1)

theorem Disjoint.not_contains {a b : Extent} {address : Nat} (apart : a.Disjoint b)
    (inside : a.Contains address) : ¬ b.Contains address := by
  rintro ⟨low, high⟩
  rcases apart with before | behind
  · exact Nat.lt_irrefl _ (Nat.lt_of_lt_of_le inside.2 (Nat.le_trans before low))
  · exact Nat.lt_irrefl _ (Nat.lt_of_lt_of_le high (Nat.le_trans behind inside.1))

theorem Contains.within {inner outer : Extent} {address : Nat} (inside : inner.Contains address)
    (within : inner.Within outer) : outer.Contains address :=
  ⟨Nat.le_trans within.1 inside.1, Nat.lt_of_lt_of_le inside.2 within.2⟩

end Extent

inductive Origin where
  | heap
  | pages
  | largePages
  | pinned
  | borrowed
deriving DecidableEq, Repr

structure Root where
  extent : Extent
  align : Nat
  origin : Origin
  live : Bool
deriving DecidableEq, Repr

structure Platform where
  place : (attempt : Nat) → (roots : List Root) → Origin → (size align : Nat) → Option Nat

namespace Platform

-- A placed piece is aligned as asked, fits the address space and touches no live one.
def Sound (platform : Platform) : Prop :=
  ∀ attempt roots origin size align base,
    platform.place attempt roots origin size align = some base →
      0 < base ∧ (Word.isPowerOfTwo align = true → align ∣ base) ∧ base + size ≤ Word.range ∧
      ∀ root ∈ roots, root.live = true → root.extent.Disjoint ⟨base, size⟩

-- No address is handed out twice, not even after it has been given back.
def Fresh (platform : Platform) : Prop :=
  ∀ attempt roots origin size align base,
    platform.place attempt roots origin size align = some base →
      ∀ root ∈ roots, root.extent.Disjoint ⟨base, size⟩ ∧ root.extent.start ≠ base

def floor : Nat := 0x4000_0000_0000

def pageSize : Nat := 4096

def roomLimit : Nat := 0x10_0000_0000_0000

-- The first address behind all pieces, with at least one address left free behind each.
def behind (roots : List Root) : Nat :=
  roots.foldr (fun root bound => max bound (root.extent.stop + 1)) floor

-- Places each piece behind all earlier ones and has no large pages.
def ascending : Platform where
  place _ roots origin size align :=
    -- Aligning may skip up to `align - 1` bytes, so they count as room too.
    let base := Word.roundUp (behind roots) (max pageSize align)
    if origin = .largePages then none
    else if roomLimit ≤ size + (align - 1) then none
    else if base + size ≤ Word.range then some base
    else none

theorem floor_le_behind (roots : List Root) : floor ≤ behind roots := by
  induction roots with
  | nil => exact Nat.le_refl _
  | cons root rest ih =>
    exact Nat.le_trans ih (Nat.le_max_left (behind rest) (root.extent.stop + 1))

theorem stop_lt_behind {roots : List Root} {root : Root} (member : root ∈ roots) :
    root.extent.stop < behind roots := by
  induction roots with
  | nil => cases member
  | cons first rest ih =>
    rcases List.mem_cons.1 member with rfl | inside
    · exact Nat.le_max_right (behind rest) (root.extent.stop + 1)
    · exact Nat.lt_of_lt_of_le (ih inside)
        (Nat.le_max_left (behind rest) (first.extent.stop + 1))

theorem ascending_place {attempt : Nat} {roots : List Root} {origin : Origin}
    {size align base : Nat}
    (placed : ascending.place attempt roots origin size align = some base) :
    base = Word.roundUp (behind roots) (max pageSize align) ∧ base + size ≤ Word.range := by
  simp only [ascending] at placed
  split at placed
  · cases placed
  · split at placed
    · cases placed
    · split at placed
      · next fits => cases placed; exact ⟨rfl, fits⟩
      · cases placed

theorem behind_le_ascending {attempt : Nat} {roots : List Root} {origin : Origin}
    {size align base : Nat}
    (placed : ascending.place attempt roots origin size align = some base) :
    behind roots ≤ base := by
  rw [(ascending_place placed).1]
  exact Word.le_roundUp (Nat.lt_of_lt_of_le (by decide) (Nat.le_max_left pageSize align))

theorem ascending_sound : ascending.Sound := by
  intro attempt roots origin size align base placed
  have above := behind_le_ascending placed
  refine ⟨?_, ?_, (ascending_place placed).2, ?_⟩
  · exact Nat.lt_of_lt_of_le (by decide) (Nat.le_trans (floor_le_behind roots) above)
  · intro power
    rw [(ascending_place placed).1]
    refine Nat.dvd_trans ?_ (Word.dvd_roundUp (behind roots) (max pageSize align))
    obtain ⟨k, rfl⟩ := Word.isPowerOfTwo_iff.1 power
    have page : pageSize = 2 ^ 12 := rfl
    rw [page]
    rcases Nat.le_total 12 k with large | small
    · exact ⟨1, by rw [Nat.max_eq_right (Nat.pow_le_pow_right (by decide) large), Nat.mul_one]⟩
    · rw [Nat.max_eq_left (Nat.pow_le_pow_right (by decide) small)]
      exact Nat.pow_dvd_pow 2 small
  · intro root member _
    exact Or.inl (Nat.le_of_lt (Nat.lt_of_lt_of_le (stop_lt_behind member) above))

theorem ascending_fresh : ascending.Fresh := by
  intro attempt roots origin size align base placed root member
  have below := Nat.lt_of_lt_of_le (stop_lt_behind member) (behind_le_ascending placed)
  refine ⟨Or.inl (Nat.le_of_lt below), ?_⟩
  have := Nat.le_add_right root.extent.start root.extent.length
  unfold Extent.stop at below
  omega

end LayeredAllocation.Platform
