import Mathlib.Data.List.Lex
import Mathlib.Tactic.SplitIfs

/-!
# The order of texts is that of their octets

Texts are compared character by character, and their encodings octet by octet to the same effect
(`Text.compare_eq_lt_iff`): where two characters differ their encodings differ in some octet, not
only in length, and the smaller character has the smaller octet there (`Octets.differ_of_lt`).
-/

namespace ClusterAudit

namespace Octets

/-- Two lists of octets differ at some place, and the first has the smaller octet at the first such
place. -/
inductive Differ : List UInt8 → List UInt8 → Prop
  | here {a b : UInt8} (h : a < b) (l m : List UInt8) : Differ (a :: l) (b :: m)
  | later (a : UInt8) {l m : List UInt8} (h : Differ l m) : Differ (a :: l) (a :: m)

theorem not_differ_nil (m : List UInt8) : ¬ Differ [] m := nofun

theorem differ_cons_iff {a b : UInt8} {l m : List UInt8} :
    Differ (a :: l) (b :: m) ↔ a < b ∨ a = b ∧ Differ l m := by
  constructor
  · intro h
    cases h with
    | here h => exact .inl h
    | later _ h => exact .inr ⟨rfl, h⟩
  · rintro (h | ⟨rfl, h⟩)
    · exact .here h l m
    · exact .later a h

/-- What follows does not matter where two lists differ. -/
theorem Differ.append_lt {l m : List UInt8} (h : Differ l m) (u v : List UInt8) :
    l ++ u < m ++ v := by
  induction h with
  | here h l m => exact List.cons_lt_cons_iff.2 (.inl h)
  | later a _ ih => exact List.cons_lt_cons_iff.2 (.inr ⟨rfl, ih⟩)

/-- The encodings of two characters differ, that of the smaller one downwards. -/
theorem differ_of_lt {c d : Char} (h : c < d) :
    Differ (String.utf8EncodeChar c) (String.utf8EncodeChar d) := by
  have hlt : c.val.toNat < d.val.toNat := h
  have hbound : d.val.toNat < 0x110000 := by
    have hd := d.valid
    simp only [UInt32.isValidChar, Nat.isValidChar] at hd
    omega
  simp only [String.utf8EncodeChar]
  generalize c.val.toNat = m at hlt ⊢
  generalize d.val.toNat = n at hlt hbound ⊢
  have hm : m / 4096 = m / 64 / 64 ∧ m / 262144 = m / 64 / 64 / 64 := by omega
  have hn : n / 4096 = n / 64 / 64 ∧ n / 262144 = n / 64 / 64 / 64 := by omega
  rw [hm.1, hm.2, hn.1, hn.2]
  -- a longer encoding has the greater first octet, and octets of one length are digits
  split_ifs <;> simp (disch := omega) only [differ_cons_iff, not_differ_nil, UInt8.lt_iff_toNat_lt,
    UInt8.toNat_ofNat', ← UInt8.toNat_inj, Nat.mod_eq_of_lt] <;> omega

end Octets

namespace Text

/-- The octets of a text. -/
def octets (s : String) : List UInt8 := s.toUTF8.data.toList

/-- The octets of a text are those of its characters. -/
theorem octets_eq (s : String) : octets s = s.toList.flatMap String.utf8EncodeChar := by
  rw [octets, String.toUTF8_eq_toByteArray, ← String.utf8Encode_toList, List.utf8Encode,
    List.data_toByteArray]

/-- Encoding characters one after the other keeps the order. -/
theorem flatMap_lt_of_lt {l m : List Char} (h : l < m) :
    l.flatMap String.utf8EncodeChar < m.flatMap String.utf8EncodeChar := by
  induction l generalizing m with
  | nil =>
    cases m with
    | nil => exact absurd h (List.lt_irrefl _)
    | cons d m =>
      rw [List.flatMap_nil, List.flatMap_cons]
      cases hd : String.utf8EncodeChar d with
      | nil => exact absurd hd String.utf8EncodeChar_ne_nil
      | cons b rest => exact List.nil_lt_cons b _
  | cons c l ih =>
    cases m with
    | nil => exact absurd h (List.not_lt_nil _)
    | cons d m =>
      rw [List.flatMap_cons, List.flatMap_cons]
      rcases List.cons_lt_cons_iff.1 h with hcd | ⟨rfl, hlm⟩
      · exact (Octets.differ_of_lt hcd).append_lt _ _
      · exact List.append_left_lt (ih hlm)

/-- One text is before another exactly if its octets are. -/
theorem compare_eq_lt_iff (s t : String) : compare s t = .lt ↔ octets s < octets t := by
  have hmono : ∀ {s t : String}, s < t → octets s < octets t := fun {s t} h => by
    rw [octets_eq, octets_eq]
    exact flatMap_lt_of_lt (String.lt_iff.1 h)
  rw [show compare s t = compareOfLessAndEq s t from rfl, compareOfLessAndEq_eq_lt]
  refine ⟨hmono, fun h => Decidable.byContradiction fun hst => ?_⟩
  rcases List.le_iff_lt_or_eq.1 (List.not_lt.1 (mt String.lt_iff.2 hst)) with hts | heq
  · exact List.lt_asymm (hmono (String.lt_iff.2 hts)) h
  · rw [String.toList_inj.1 heq] at h
    exact List.lt_irrefl _ h

/-- Of two different texts one is before the other. -/
theorem octets_lt_or_eq_or_lt (s t : String) :
    octets s < octets t ∨ s = t ∨ octets t < octets s := by
  rw [← compare_eq_lt_iff, ← compare_eq_lt_iff]
  cases h : compare s t with
  | lt => exact .inl rfl
  | eq => exact .inr (.inl (Std.LawfulEqOrd.eq_of_compare h))
  | gt => exact .inr (.inr (Std.OrientedCmp.lt_of_gt h))

end Text

end ClusterAudit
