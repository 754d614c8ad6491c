/-!
# Counters that stop at their largest value

A `Count` is a natural number below `2 ^ 64`. Adding two counts gives their sum, or the largest
count if the sum is larger (`toNat_add`), so addition stays commutative and associative.
-/

namespace ClusterAudit

/-- A counter of 64 bits. -/
structure Count where
  toNat : Nat
  /-- The value fits 64 bits. -/
  lt : toNat < UInt64.size
  deriving DecidableEq

namespace Count

/-- The largest count. -/
def largest : Nat := UInt64.size - 1

/-- The count nearest to a number: the number, or the largest count. -/
def ofNat (n : Nat) : Count :=
  ⟨min n largest, Nat.lt_of_le_of_lt (Nat.min_le_right n largest) (by decide)⟩

instance (n : Nat) : OfNat Count n := ⟨ofNat n⟩

instance : Inhabited Count := ⟨0⟩

/-- The sum, or the largest count if the sum is larger. -/
def add (a b : Count) : Count := ofNat (a.toNat + b.toNat)

instance : Add Count := ⟨add⟩

@[simp] theorem toNat_ofNat (n : Nat) : (ofNat n).toNat = min n largest := rfl

@[simp] theorem toNat_zero : (0 : Count).toNat = 0 := rfl

@[simp] theorem toNat_add (a b : Count) : (a + b).toNat = min (a.toNat + b.toNat) largest := rfl

/-- A count is at most the largest. -/
theorem toNat_le (c : Count) : c.toNat ≤ largest := Nat.le_sub_one_of_lt c.lt

theorem largest_pos : 0 < largest := by decide

@[ext] theorem ext {a b : Count} (h : a.toNat = b.toNat) : a = b := by
  cases a; cases b; simp_all

/-- The count of a number, if it fits. -/
def ofNat? (n : Nat) : Option Count := if h : n < UInt64.size then some ⟨n, h⟩ else none

instance : ToString Count := ⟨fun c => toString c.toNat⟩

end Count

end ClusterAudit
