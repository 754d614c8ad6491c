import ClusterAudit.Address.Cidr
import ClusterAudit.Proofs.Result

/-!
# Faults of address blocks

A block with exceptions is refused for its first fault (`IpBlock.Fault`): it is no block, or one of
its exceptions is none or lies outside. Exceptions are checked one after the other, up to the first
that is at fault (`IpBlock.scans_checkExcept`).
-/

namespace ClusterAudit

namespace IpBlock

/-- The exceptions of a block that come before another one parse, and lie inside. -/
def Inside (block : Cidr) (texts : List String) : Prop :=
  ∀ text ∈ texts, ∃ inner, Cidr.parse text = .ok inner ∧ block.containsCidr inner

/-- The first fault of a block with exceptions: it is no block; or one of its exceptions is none or
lies outside, and those before it do not. -/
inductive Fault (b : IpBlock) : AddressError → Prop
  | cidr {reason : String} (h : Cidr.parse b.cidr = .error (.invalidCidr b.cidr reason)) :
    Fault b (.invalidCidr b.cidr reason)
  | malformed {block : Cidr} {before after : List String} {text reason : String}
    (hblock : Cidr.parse b.cidr = .ok block) (hexcept : b.except = before ++ text :: after)
    (hbefore : Inside block before) (h : Cidr.parse text = .error (.invalidCidr text reason)) :
    Fault b (.invalidCidr text reason)
  | outside {block inner : Cidr} {before after : List String} {text : String}
    (hblock : Cidr.parse b.cidr = .ok block) (hexcept : b.except = before ++ text :: after)
    (hbefore : Inside block before) (hinner : Cidr.parse text = .ok inner)
    (h : block.containsCidr inner = false) : Fault b (.exceptOutsideBlock text b.cidr)

end IpBlock

/-- The error of a text that is no block names the text. -/
theorem Cidr.eq_invalidCidr_of_parse {raw : String} {e : AddressError} (h : parse raw = .error e) :
    ∃ reason, e = .invalidCidr raw reason := by
  rw [parse] at h
  simp only at h
  split at h
  · cases h
    exact ⟨_, rfl⟩
  · split at h
    · cases h
      exact ⟨_, rfl⟩
    · split at h
      · cases h
        exact ⟨_, rfl⟩
      · split at h <;> split at h <;> cases h <;> exact ⟨_, rfl⟩

namespace IpBlock

variable {b : IpBlock} {block : Cidr} {cidr text : String} {e : AddressError}

/-- What is wrong with an exception of a block, if anything is. -/
def exceptFault? (cidr : String) (block : Cidr) (text : String) : Option AddressError :=
  match Cidr.parse text with
  | .error e => some e
  | .ok inner => if block.containsCidr inner then none else some (.exceptOutsideBlock text cidr)

/-- Exceptions are checked up to the first fault. -/
theorem scans_checkExcept (cidr : String) (block : Cidr) (texts : List String) :
    Scans (exceptFault? cidr block) texts (checkExcept cidr block texts) := by
  induction texts with
  | nil => exact .ok _ _
  | cons text rest ih =>
    rw [Scans, List.findSome?_cons, checkExcept, ← ih, exceptFault?]
    cases Cidr.parse text with
    | error e => rfl
    | ok inner =>
      cases hinside : block.containsCidr inner with
      | true => simp [bind, Except.bind, hinside]
      | false => simp [bind, Except.bind, hinside, error?]

/-- Nothing is wrong with an exception that parses and lies inside. -/
theorem exceptFault?_eq_none_iff : exceptFault? cidr block text = none ↔
    ∃ inner, Cidr.parse text = .ok inner ∧ block.containsCidr inner := by
  rw [exceptFault?]
  cases Cidr.parse text <;> simp

/-- An exception is at fault if it does not parse or lies outside. -/
theorem exceptFault?_eq_some_iff : exceptFault? cidr block text = some e ↔
    (∃ reason, Cidr.parse text = .error (.invalidCidr text reason) ∧ e = .invalidCidr text reason) ∨
    ∃ inner, Cidr.parse text = .ok inner ∧ block.containsCidr inner = false ∧
      e = .exceptOutsideBlock text cidr := by
  rw [exceptFault?]
  cases hinner : Cidr.parse text with
  | error e' =>
    obtain ⟨reason, rfl⟩ := Cidr.eq_invalidCidr_of_parse hinner
    simp [eq_comm (a := e)]
  | ok inner => cases hinside : block.containsCidr inner <;> simp [hinside, eq_comm (a := e)]

/-- A block is refused because it is none, or for the first exception with which something is
wrong. -/
theorem validate_eq_error_iff_first : b.validate = .error e ↔ Cidr.parse b.cidr = .error e ∨
    ∃ block before text after, Cidr.parse b.cidr = .ok block ∧ b.except = before ++ text :: after ∧
      (∀ t ∈ before, exceptFault? b.cidr block t = none) ∧
      exceptFault? b.cidr block text = some e := by
  rw [validate]
  cases hblock : Cidr.parse b.cidr with
  | error e' => simp [bind, Except.bind]
  | ok block =>
    show checkExcept b.cidr block b.except = .error e ↔ _
    rw [(scans_checkExcept b.cidr block b.except).eq_error_iff]
    constructor
    · rintro ⟨before, text, after, hexcept, hfault, hbefore⟩
      exact .inr ⟨block, before, text, after, rfl, hexcept, hbefore, hfault⟩
    · rintro (h | ⟨_, before, text, after, ⟨⟩, hexcept, hbefore, hfault⟩)
      · cases h
      · exact ⟨before, text, after, hexcept, hfault, hbefore⟩

/-- A block is refused for its first fault. -/
theorem validate_eq_error_iff : b.validate = .error e ↔ b.Fault e := by
  rw [validate_eq_error_iff_first]
  simp only [exceptFault?_eq_none_iff, exceptFault?_eq_some_iff]
  constructor
  · rintro (h | ⟨block, before, text, after, hblock, hexcept, hbefore, hfault⟩)
    · obtain ⟨reason, rfl⟩ := Cidr.eq_invalidCidr_of_parse h
      exact .cidr h
    · rcases hfault with ⟨reason, h, rfl⟩ | ⟨inner, hinner, h, rfl⟩
      · exact .malformed hblock hexcept hbefore h
      · exact .outside hblock hexcept hbefore hinner h
  · intro h
    cases h with
    | cidr h => exact .inl h
    | malformed hblock hexcept hbefore h =>
      exact .inr ⟨_, _, _, _, hblock, hexcept, hbefore, .inl ⟨_, h, rfl⟩⟩
    | outside hblock hexcept hbefore hinner h =>
      exact .inr ⟨_, _, _, _, hblock, hexcept, hbefore, .inr ⟨_, hinner, h, rfl⟩⟩

end IpBlock

end ClusterAudit
