import ClusterAudit.Proofs.Address.Reading
import Mathlib.Data.Set.Basic

/-!
# Blocks inside blocks

One block lies inside another as a set of addresses exactly if its length is not smaller and its
first address lies in the other (`Cidr.Canonical.containsCidr_iff`): a block with fewer fixed bits
holds two addresses that differ in a bit that the other one fixes. So blocks are ordered by
inclusion as the sets of their addresses are, and a block is told by its addresses
(`Cidr.containsCidr_iff_subset`).
-/

namespace ClusterAudit

/-! ## Another address -/

namespace Ip

variable {a : Ip} {n : Nat}

/-- The address with one bit changed. -/
def flip (n : Nat) : Ip → Ip
  | v4 a => v4 (a ^^^ BitVec.twoPow 32 (31 - n))
  | v6 a => v6 (a ^^^ BitVec.twoPow 128 (127 - n))

theorem width_flip (n : Nat) (a : Ip) : (a.flip n).width = a.width := by cases a <;> rfl

/-- That bit and no other is changed. -/
theorem bit_flip (h : n < a.width) (i : Nat) : (a.flip n).bit i = (a.bit i ^^ decide (i = n)) := by
  cases a with
  | v4 a =>
    have hn : n < 32 := h
    have hindex : 32 - (31 - n) - 1 = n := by omega
    have hlt : 31 - n < 32 := by omega
    rw [flip, bit, bit, BitVec.getMsbD_xor, BitVec.getMsbD_twoPow, hindex, decide_eq_true hlt,
      Bool.true_and]
  | v6 a =>
    have hn : n < 128 := h
    have hindex : 128 - (127 - n) - 1 = n := by omega
    have hlt : 127 - n < 128 := by omega
    rw [flip, bit, bit, BitVec.getMsbD_xor, BitVec.getMsbD_twoPow, hindex, decide_eq_true hlt,
      Bool.true_and]

/-- The changed address agrees with the other up to that bit. -/
theorem agrees_flip (h : n < a.width) : (a.flip n).Agrees n a := by
  refine ⟨width_flip n a, fun i hi => ?_⟩
  rw [bit_flip h, decide_eq_false (Nat.ne_of_lt hi), Bool.xor_false]

/-- It does not agree with it up to anything beyond. -/
theorem not_agrees_flip (h : n < a.width) {m : Nat} (hm : n < m) : ¬ (a.flip n).Agrees m a := by
  intro hagrees
  have hbit := hagrees.2 n hm
  rw [bit_flip h, decide_eq_true rfl] at hbit
  cases hn : a.bit n <;> simp [hn] at hbit

end Ip

/-! ## Inclusion -/

namespace Cidr

variable {a b c : Cidr}

/-- The addresses of a block. -/
def addresses (b : Cidr) : Set Ip := {x | b.contains x}

/-- The first address of a block lies in it. -/
theorem Canonical.contains_network (h : b.Canonical) : b.contains b.network :=
  contains_iff_keep.2 h.keep_network

/-- A block lies inside another exactly if its addresses do. -/
theorem Canonical.containsCidr_iff (ha : a.Canonical) (hb : b.Canonical) :
    a.containsCidr b ↔ b.addresses ⊆ a.addresses := by
  rw [containsCidr, Bool.and_eq_true, decide_eq_true_iff, ha.contains_iff]
  constructor
  · rintro ⟨hlength, hnetwork⟩ x hx
    exact ha.contains_iff.2 (((hb.contains_iff.1 hx).mono hlength).trans hnetwork)
  · intro hsub
    have hnetwork := ha.contains_iff.1 (hsub hb.contains_network)
    refine ⟨?_, hnetwork⟩
    -- otherwise the first address of `b` with the bit after its fixed ones changed is in `b` alone
    by_contra hlt
    rw [Nat.not_le] at hlt
    have hwidth : b.length < b.network.width := by
      rw [hnetwork.1]
      exact Nat.lt_of_lt_of_le hlt ha.length_le
    have hflip : b.contains (b.network.flip b.length) :=
      hb.contains_iff.2 (Ip.agrees_flip hwidth)
    exact Ip.not_agrees_flip hwidth hlt ((ha.contains_iff.1 (hsub hflip)).trans hnetwork.symm)

/-- Blocks inside each other are the same. -/
theorem Canonical.eq_of_containsCidr (ha : a.Canonical) (hb : b.Canonical) (hab : a.containsCidr b)
    (hba : b.containsCidr a) : a = b := by
  rw [containsCidr, Bool.and_eq_true, decide_eq_true_iff] at hab hba
  exact ha.eq_of_agrees hb (Nat.le_antisymm hab.1 hba.1)
    (hba.1.antisymm hab.1 ▸ hb.contains_iff.1 hba.2)

/-- A text spells the block. -/
def Parsed (b : Cidr) : Prop := ∃ raw, parse raw = .ok b

theorem Parsed.canonical (h : b.Parsed) : b.Canonical := by
  obtain ⟨raw, hraw⟩ := h
  exact canonical_of_parse hraw

/-- Of blocks that texts spell one lies inside another exactly if every address in it lies in the
other. So each lies inside itself, what lies inside a block inside another lies inside that, and
blocks lie inside each other only if they are the same. -/
theorem containsCidr_iff_subset (ha : a.Parsed) (hb : b.Parsed) :
    (a.containsCidr b ↔ ∀ x, b.contains x → a.contains x) ∧
    a.containsCidr a ∧
    (∀ c : Cidr, c.Parsed → a.containsCidr b → b.containsCidr c → a.containsCidr c) ∧
    (a.containsCidr b ∧ b.containsCidr a ↔ a = b) := by
  have hself : ∀ {d : Cidr}, d.Parsed → d.containsCidr d := fun hd =>
    (hd.canonical.containsCidr_iff hd.canonical).2 (Set.Subset.refl _)
  refine ⟨ha.canonical.containsCidr_iff hb.canonical, hself ha, fun c hc hab hbc => ?_, ?_⟩
  · have hba' := (ha.canonical.containsCidr_iff hb.canonical).1 hab
    have hcb' := (hb.canonical.containsCidr_iff hc.canonical).1 hbc
    exact (ha.canonical.containsCidr_iff hc.canonical).2 (hcb'.trans hba')
  · constructor
    · rintro ⟨hab, hba⟩
      exact ha.canonical.eq_of_containsCidr hb.canonical hab hba
    · rintro rfl
      exact ⟨hself ha, hself ha⟩

/-- The block of all dotted addresses does not lie inside the one of a single address, which lies
inside it. -/
theorem containsCidr_iff_subset_single :
    let a : Cidr := ⟨.v4 0#32, 0⟩
    let b : Cidr := ⟨.v4 0x0A000001#32, 32⟩
    a.Parsed ∧ b.Parsed ∧ (∀ x, b.contains x → a.contains x) ∧
    ¬ ∀ x, a.contains x → b.contains x := by
  intro a b
  have ha : a.Parsed := ⟨"10.1.2.3/0", by decide⟩
  have hb : b.Parsed := ⟨"10.0.0.1/32", by decide⟩
  exact ⟨ha, hb, (containsCidr_iff_subset ha hb).1.1 (by decide),
    mt (containsCidr_iff_subset hb ha).1.2 (by decide)⟩

end Cidr

end ClusterAudit
