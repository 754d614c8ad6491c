import ClusterAudit.Proofs.Address.Inclusion
import ClusterAudit.Proofs.Address.Matching

/-!
# Blocks with exceptions

A block with exceptions is well formed if its exceptions are blocks whose addresses are addresses of
the block (`IpBlock.Fits`). Checking it and matching an address against it read the same texts one
after the other, so what is well formed can always be matched, and matches the addresses of the
block that are in none of its exceptions: `IpBlock.validate_and_matches`.
-/

namespace ClusterAudit

namespace IpBlock

variable {b : IpBlock} {block : Cidr} {cidr text : String} {e : AddressError}

/-- An exception of a block is a block, and its addresses are addresses of the block. -/
def Fits (block : Cidr) (text : String) : Prop :=
  ∃ inner, Cidr.parse text = .ok inner ∧ inner.addresses ⊆ block.addresses

/-- What is due to an exception that is no block, or reaches outside. -/
def Offends (cidr : String) (block : Cidr) (text : String) (e : AddressError) : Prop :=
  Cidr.parse text = .error e ∨
    ∃ inner, Cidr.parse text = .ok inner ∧ ¬ inner.addresses ⊆ block.addresses ∧
      e = .exceptOutsideBlock text cidr

section checks
variable (hblock : block.Canonical)
include hblock

/-- Nothing is wrong with an exception that fits. -/
theorem exceptFault?_eq_none_iff_fits : exceptFault? cidr block text = none ↔ Fits block text := by
  rw [exceptFault?_eq_none_iff, Fits]
  refine exists_congr fun inner => and_congr_right fun hinner => ?_
  exact hblock.containsCidr_iff (Cidr.canonical_of_parse hinner)

/-- What is wrong with an exception is that it is no block, or which addresses it has. -/
theorem exceptFault?_eq_some_iff_offends :
    exceptFault? cidr block text = some e ↔ Offends cidr block text e := by
  rw [exceptFault?, Offends]
  cases hinner : Cidr.parse text with
  | error e' => simp
  | ok inner =>
    have hinside := hblock.containsCidr_iff (Cidr.canonical_of_parse hinner)
    by_cases hin : inner.addresses ⊆ block.addresses
    · simp [hinside.2 hin, hin]
    · simp [Bool.eq_false_iff.2 (mt hinside.1 hin), hin, eq_comm (a := e)]

end checks

/-- A block is well formed exactly if its exceptions fit. -/
theorem validate_eq_ok_iff : b.validate = .ok () ↔
    ∃ block, Cidr.parse b.cidr = .ok block ∧ ∀ text ∈ b.except, Fits block text := by
  rw [validate, bind_eq_ok_iff]
  refine exists_congr fun block => and_congr_right fun hblock => ?_
  have hscans := (scans_checkExcept b.cidr block b.except).exists_eq_ok_iff
  simp only [exceptFault?_eq_none_iff_fits (Cidr.canonical_of_parse hblock)] at hscans
  rw [← hscans]
  constructor
  · intro h
    exact ⟨(), h⟩
  · rintro ⟨⟨⟩, h⟩
    exact h

/-- It is refused because it is no block, or for the first exception that does not fit. -/
theorem validate_eq_error_iff_offends : b.validate = .error e ↔ Cidr.parse b.cidr = .error e ∨
    ∃ block before text after, Cidr.parse b.cidr = .ok block ∧ b.except = before ++ text :: after ∧
      (∀ t ∈ before, Fits block t) ∧ Offends b.cidr block text e := by
  rw [validate_eq_error_iff_first]
  refine or_congr_right (exists_congr fun block => exists_congr fun before => exists_congr
    fun text => exists_congr fun after => and_congr_right fun hblock => and_congr_right fun _ => ?_)
  have hcanonical := Cidr.canonical_of_parse hblock
  exact and_congr (forall₂_congr fun _ _ => exceptFault?_eq_none_iff_fits hcanonical)
    (exceptFault?_eq_some_iff_offends hcanonical)

/-- A well-formed block matches the addresses that it has and none of its exceptions has. -/
theorem exists_matchesCidrExcept (h : b.validate = .ok ()) {ip : String} {x : Ip}
    (hip : parseIp ip = .ok x) : ∃ inside, matchesCidrExcept ip b.cidr b.except = .ok inside ∧
      (inside ↔ (∃ block, Cidr.parse b.cidr = .ok block ∧ x ∈ block.addresses) ∧
        ∀ text ∈ b.except, ∀ inner, Cidr.parse text = .ok inner → x ∉ inner.addresses) := by
  obtain ⟨block, hblock, hfits⟩ := validate_eq_ok_iff.1 h
  obtain ⟨inside, hmatches⟩ := exists_matchesCidrExcept_eq_ok hip hblock
    fun text ht => (hfits text ht).imp fun _ hinner => hinner.1
  obtain ⟨x', block', hip', hblock', -, hinside⟩ := matchesCidrExcept_eq_ok_iff.1 hmatches
  obtain rfl : x' = x := Except.ok.inj (hip'.symm.trans hip)
  refine ⟨inside, hmatches, hinside.trans (and_congr_left' ?_)⟩
  simp [hblock', Cidr.addresses]

/-- A block with exceptions is well formed exactly if it is a block and every exception is one whose
addresses are addresses of the block. Otherwise the error is that of the block, or else that of the
first exception at fault: why it is no block, or that it reaches outside. A well-formed block can be
matched against every address, and matches those that it has and none of its exceptions has. -/
theorem validate_and_matches (b : IpBlock) :
    (b.validate = .ok () ↔
      ∃ block, Cidr.parse b.cidr = .ok block ∧ ∀ text ∈ b.except, Fits block text) ∧
    (∀ e, b.validate = .error e ↔ Cidr.parse b.cidr = .error e ∨
      ∃ block before text after, Cidr.parse b.cidr = .ok block ∧
        b.except = before ++ text :: after ∧ (∀ t ∈ before, Fits block t) ∧
        Offends b.cidr block text e) ∧
    (b.validate = .ok () → ∀ ip x, parseIp ip = .ok x →
      ∃ inside, matchesCidrExcept ip b.cidr b.except = .ok inside ∧
        (inside ↔ (∃ block, Cidr.parse b.cidr = .ok block ∧ x ∈ block.addresses) ∧
          ∀ text ∈ b.except, ∀ inner, Cidr.parse text = .ok inner → x ∉ inner.addresses)) :=
  ⟨validate_eq_ok_iff, fun _ => validate_eq_error_iff_offends,
    fun h _ _ hip => exists_matchesCidrExcept h hip⟩

/-- A block with an exception inside is well formed, and does not match an address of the
exception. -/
theorem validate_and_matches_excepted :
    let b : IpBlock := ⟨"10.0.0.0/8", ["10.1.0.0/16"]⟩
    let x : Ip := .v4 0x0A010203#32
    b.validate = .ok () ∧ parseIp " 10.1.2.3" = .ok x ∧
    matchesCidrExcept " 10.1.2.3" b.cidr b.except = .ok false ∧
    ¬ ∀ text ∈ b.except, ∀ inner, Cidr.parse text = .ok inner → x ∉ inner.addresses := by
  intro b x
  have h : b.validate = .ok () := by decide
  have hip : parseIp " 10.1.2.3" = .ok x := by decide
  obtain ⟨inside, hmatches, hinside⟩ := (validate_and_matches b).2.2 h _ _ hip
  obtain rfl : inside = false := Except.ok.inj (hmatches.symm.trans (by decide))
  refine ⟨h, hip, hmatches, fun hnone => Bool.false_ne_true (hinside.2 ⟨?_, hnone⟩)⟩
  exact ⟨⟨.v4 0x0A000000#32, 8⟩, by decide, (by decide : Cidr.contains _ x = true)⟩

end IpBlock

end ClusterAudit
