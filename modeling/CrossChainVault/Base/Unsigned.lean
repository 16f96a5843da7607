import Mathlib.Algebra.BigOperators.Group.List.Basic
import Mathlib.Algebra.Ring.Nat

set_option autoImplicit false

/-- An unsigned machine integer of a fixed width. -/
structure Unsigned (bits : Nat) where
  raw : Nat
  bound : raw < 2 ^ bits
deriving DecidableEq, Repr

namespace Unsigned

variable {bits : Nat}

@[ext] theorem ext {a b : Unsigned bits} (same : a.raw = b.raw) : a = b := by
  cases a
  cases b
  cases same
  rfl

theorem raw_inj {a b : Unsigned bits} : a.raw = b.raw ↔ a = b :=
  ⟨ext, congrArg raw⟩

def zero : Unsigned bits := ⟨0, Nat.two_pow_pos bits⟩

instance : Inhabited (Unsigned bits) := ⟨zero⟩

/-- A number modulo the width. -/
def ofNat (n : Nat) : Unsigned bits := ⟨n % 2 ^ bits, Nat.mod_lt n (Nat.two_pow_pos bits)⟩

/-- A numeral, as far as the width holds it. -/
instance (n : Nat) : OfNat (Unsigned bits) n := ⟨ofNat n⟩

@[simp] theorem ofNat_raw (n : Nat) : (no_index (OfNat.ofNat n) : Unsigned bits).raw = n % 2 ^ bits :=
  rfl

@[simp] theorem zero_raw : (zero : Unsigned bits).raw = 0 := rfl

/-- The largest value of the width. -/
def max : Unsigned bits := ⟨2 ^ bits - 1, Nat.sub_lt (Nat.two_pow_pos bits) Nat.one_pos⟩

def isZero (a : Unsigned bits) : Bool := a.raw == 0

@[simp] theorem isZero_iff {a : Unsigned bits} : a.isZero = true ↔ a.raw = 0 := by
  simp [isZero]

@[simp] theorem isZero_eq_false {a : Unsigned bits} : a.isZero = false ↔ a.raw ≠ 0 := by
  simp [isZero]

instance : LE (Unsigned bits) := ⟨fun a b => a.raw ≤ b.raw⟩

instance : LT (Unsigned bits) := ⟨fun a b => a.raw < b.raw⟩

instance (a b : Unsigned bits) : Decidable (a ≤ b) := inferInstanceAs (Decidable (a.raw ≤ b.raw))

instance (a b : Unsigned bits) : Decidable (a < b) := inferInstanceAs (Decidable (a.raw < b.raw))

@[simp] theorem le_def {a b : Unsigned bits} : a ≤ b ↔ a.raw ≤ b.raw := Iff.rfl

@[simp] theorem lt_def {a b : Unsigned bits} : a < b ↔ a.raw < b.raw := Iff.rfl

instance : Ord (Unsigned bits) := ⟨fun a b => compare a.raw b.raw⟩

instance : Std.TransOrd (Unsigned bits) where
  eq_swap {a b} := @Std.OrientedCmp.eq_swap Nat compare _ a.raw b.raw
  isLE_trans {a b c} := @Std.TransCmp.isLE_trans Nat compare _ a.raw b.raw c.raw

/- The widths that maps are keyed by. -/

instance instTransOrd32 : Std.TransOrd (Unsigned 32) := instTransOrd

instance instTransOrd64 : Std.TransOrd (Unsigned 64) := instTransOrd

instance : Std.LawfulEqOrd (Unsigned bits) where
  eq_of_compare same := ext (@Std.LawfulEqCmp.eq_of_compare Nat compare _ _ _ same)

/-- The sum, or `failure` when it does not fit the width. -/
def checkedAdd {ε : Type} (a b : Unsigned bits) (failure : ε) : Except ε (Unsigned bits) :=
  if fits : a.raw + b.raw < 2 ^ bits then .ok ⟨a.raw + b.raw, fits⟩ else .error failure

/-- The difference, or `failure` when it would be negative. -/
def checkedSub {ε : Type} (a b : Unsigned bits) (failure : ε) : Except ε (Unsigned bits) :=
  if b.raw ≤ a.raw then .ok ⟨a.raw - b.raw, Nat.lt_of_le_of_lt (Nat.sub_le _ _) a.bound⟩
  else .error failure

def saturatingAdd (a b : Unsigned bits) : Unsigned bits :=
  if fits : a.raw + b.raw < 2 ^ bits then ⟨a.raw + b.raw, fits⟩ else max

def saturatingSub (a b : Unsigned bits) : Unsigned bits :=
  ⟨a.raw - b.raw, Nat.lt_of_le_of_lt (Nat.sub_le _ _) a.bound⟩

@[simp] theorem checkedAdd_eq_ok {ε : Type} {a b c : Unsigned bits} {failure : ε} :
    a.checkedAdd b failure = .ok c ↔ c.raw = a.raw + b.raw := by
  unfold checkedAdd
  split
  · rename_i fits
    rw [Except.ok.injEq, ← raw_inj, eq_comm]
  · rename_i overflow
    have := c.bound
    constructor
    · intro impossible
      cases impossible
    · intro same
      omega

@[simp] theorem checkedSub_eq_ok {ε : Type} {a b c : Unsigned bits} {failure : ε} :
    a.checkedSub b failure = .ok c ↔ c.raw + b.raw = a.raw := by
  unfold checkedSub
  split
  · rw [Except.ok.injEq, ← raw_inj]
    dsimp only
    omega
  · constructor
    · intro impossible
      cases impossible
    · intro same
      omega

theorem checkedAdd_eq_error {ε : Type} {a b : Unsigned bits} {failure other : ε} :
    a.checkedAdd b failure = .error other ↔ 2 ^ bits ≤ a.raw + b.raw ∧ failure = other := by
  unfold checkedAdd
  split
  · simp only [reduceCtorEq, false_iff, not_and]
    intro overflow
    omega
  · simp only [Except.error.injEq, iff_and_self]
    intro _
    omega

theorem checkedSub_eq_error {ε : Type} {a b : Unsigned bits} {failure other : ε} :
    a.checkedSub b failure = .error other ↔ a.raw < b.raw ∧ failure = other := by
  unfold checkedSub
  split
  · simp only [reduceCtorEq, false_iff, not_and]
    intro short
    omega
  · simp only [Except.error.injEq, iff_and_self]
    intro _
    omega

theorem saturatingAdd_raw_of_lt (a b : Unsigned bits) (fits : a.raw + b.raw < 2 ^ bits) :
    (a.saturatingAdd b).raw = a.raw + b.raw := by
  unfold saturatingAdd
  rw [dif_pos fits]

@[simp] theorem saturatingSub_raw (a b : Unsigned bits) :
    (a.saturatingSub b).raw = a.raw - b.raw := rfl

theorem saturatingAdd_raw (a b : Unsigned bits) :
    (a.saturatingAdd b).raw = min (a.raw + b.raw) (2 ^ bits - 1) := by
  unfold saturatingAdd
  split
  · dsimp only
    omega
  · dsimp only [max]
    omega

@[simp] theorem saturatingAdd_zero (a : Unsigned bits) : a.saturatingAdd zero = a := by
  have := a.bound
  ext
  rw [saturatingAdd_raw, zero_raw]
  omega

@[simp] theorem saturatingSub_zero (a : Unsigned bits) : a.saturatingSub zero = a := rfl

theorem saturatingAdd_right_comm (a b c : Unsigned bits) :
    (a.saturatingAdd b).saturatingAdd c = (a.saturatingAdd c).saturatingAdd b := by
  ext
  simp only [saturatingAdd_raw]
  omega

theorem saturatingSub_right_comm (a b c : Unsigned bits) :
    (a.saturatingSub b).saturatingSub c = (a.saturatingSub c).saturatingSub b := by
  ext
  exact Nat.sub_right_comm a.raw b.raw c.raw

theorem eq_saturatingAdd {a b sum : Unsigned bits} (exact : sum.raw = a.raw + b.raw) :
    sum = a.saturatingAdd b := by
  have := sum.bound
  ext
  rw [saturatingAdd_raw]
  omega

theorem eq_saturatingSub {a b rest : Unsigned bits} (exact : rest.raw + b.raw = a.raw) :
    rest = a.saturatingSub b := by
  ext
  rw [saturatingSub_raw]
  omega

end Unsigned
