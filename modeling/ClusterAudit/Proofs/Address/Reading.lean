import ClusterAudit.Address.Cidr
import ClusterAudit.Proofs.Result

/-!
# Reading address blocks

A mask keeps the first bits of an address and clears the others (`Ip.bit_keep`). `Cidr.parse` reads
an address and a length (`Cidr.read`) and keeps that many bits, and a lookup keeps as many of the
address that is asked for. So a block holds exactly the addresses that agree with the one it was
written with on its first bits (`Cidr.HoldsPrefix`), blocks are equal if these bits are, and no mask
is ever made by a shift as long as the word (`Cidr.parseChecked?`, `Cidr.containsChecked?`):
`Cidr.holdsPrefix_parse`.
-/

namespace ClusterAudit

/-! ## Bits of addresses -/

/-- The mask where a shift must be shorter than the word: nothing if the length goes beyond the
width, or the shift reaches it. -/
def mask? (w length : Nat) : Option (BitVec w) :=
  if length = 0 then some 0#w
  else if w < length then none
  else if w ≤ w - length then none
  else some (BitVec.allOnes w <<< (w - length))

namespace Ip

/-- The number of bits of an address, which tells its family. -/
def width : Ip → Nat
  | v4 _ => 32
  | v6 _ => 128

/-- A bit of an address, counted from the first. -/
def bit : Ip → Nat → Bool
  | v4 a, i => a.getMsbD i
  | v6 a, i => a.getMsbD i

/-- The addresses are of one family and have the same first bits. -/
def Agrees (n : Nat) (a b : Ip) : Prop := a.width = b.width ∧ ∀ i < n, a.bit i = b.bit i

/-- The address with all but its first bits cleared by a mask. -/
def keep (n : Nat) : Ip → Ip
  | v4 a => v4 (a &&& mask 32 n)
  | v6 a => v6 (a &&& mask 128 n)

/-- The same with a mask whose shift is checked. -/
def keep? (n : Nat) : Ip → Option Ip
  | v4 a => (mask? 32 n).map fun m => v4 (a &&& m)
  | v6 a => (mask? 128 n).map fun m => v6 (a &&& m)

end Ip

/-- The first bits of a mask are set, and no others. -/
theorem getMsbD_mask {w n : Nat} (h : n ≤ w) (i : Nat) : (mask w n).getMsbD i = decide (i < n) := by
  rw [mask]
  split
  · rename_i hzero
    simp [hzero]
  · rw [BitVec.getMsbD_shiftLeft, BitVec.getMsbD_allOnes, decide_eq_decide]
    omega

/-- Up to the width of the word no shift reaches it. -/
theorem mask?_eq {w n : Nat} (h : n ≤ w) : mask? w n = some (mask w n) := by
  rw [mask?, mask]
  split
  · rfl
  · rw [if_neg (by omega), if_neg (by omega)]

namespace Ip

variable {a b : Ip} {n : Nat}

@[simp] theorem width_keep (n : Nat) (a : Ip) : (a.keep n).width = a.width := by cases a <;> rfl

/-- The first bits are kept and the others cleared. -/
theorem bit_keep (h : n ≤ a.width) (i : Nat) : (a.keep n).bit i = (decide (i < n) && a.bit i) := by
  cases a with
  | v4 a =>
    have hmask : (mask 32 n).getMsbD i = decide (i < n) := getMsbD_mask h i
    rw [keep, bit, bit, BitVec.getMsbD_and, hmask, Bool.and_comm]
  | v6 a =>
    have hmask : (mask 128 n).getMsbD i = decide (i < n) := getMsbD_mask h i
    rw [keep, bit, bit, BitVec.getMsbD_and, hmask, Bool.and_comm]

theorem keep?_eq (h : n ≤ a.width) : a.keep? n = some (a.keep n) := by
  cases a with
  | v4 a => exact congrArg (Option.map fun m => v4 (a &&& m)) (mask?_eq h)
  | v6 a => exact congrArg (Option.map fun m => v6 (a &&& m)) (mask?_eq h)

/-- Addresses of one family with the same bits are the same. -/
theorem eq_of_bits (hwidth : a.width = b.width) (hbits : ∀ i < a.width, a.bit i = b.bit i) :
    a = b := by
  cases a with
  | v4 a =>
    cases b with
    | v4 b => exact congrArg v4 (BitVec.eq_of_getMsbD_eq hbits)
    | v6 b => cases hwidth
  | v6 a =>
    cases b with
    | v4 b => cases hwidth
    | v6 b => exact congrArg v6 (BitVec.eq_of_getMsbD_eq hbits)

/-- The same is kept of two addresses exactly if they agree on what is kept. -/
theorem keep_eq_keep_iff (h : n ≤ b.width) : a.keep n = b.keep n ↔ a.Agrees n b := by
  constructor
  · intro heq
    have hwidth : a.width = b.width := by simpa using congrArg width heq
    refine ⟨hwidth, fun i hi => ?_⟩
    have hbit := congrArg (fun x => x.bit i) heq
    simpa [bit_keep (hwidth ▸ h), bit_keep h, hi] using hbit
  · rintro ⟨hwidth, hbits⟩
    refine eq_of_bits (by simpa using hwidth) fun i _ => ?_
    rw [bit_keep (hwidth ▸ h), bit_keep h]
    by_cases hi : i < n
    · rw [hbits i hi]
    · simp [hi]

/-- What is kept of an address agrees with it. -/
theorem agrees_keep (h : n ≤ a.width) : (a.keep n).Agrees n a :=
  ⟨width_keep n a, fun i hi => by simp [bit_keep h, hi]⟩

theorem Agrees.symm (h : a.Agrees n b) : b.Agrees n a :=
  ⟨h.1.symm, fun i hi => (h.2 i hi).symm⟩

theorem Agrees.trans {c : Ip} (hab : a.Agrees n b) (hbc : b.Agrees n c) : a.Agrees n c :=
  ⟨hab.1.trans hbc.1, fun i hi => (hab.2 i hi).trans (hbc.2 i hi)⟩

theorem Agrees.mono {m : Nat} (h : a.Agrees n b) (hmn : m ≤ n) : a.Agrees m b :=
  ⟨h.1, fun i hi => h.2 i (by omega)⟩

end Ip

/-! ## Blocks with cleared host bits -/

namespace Cidr

variable {b c : Cidr} {x : Ip} {raw : String} {a : Ip} {n : Nat}

/-- The length is at most that of an address, and no bit beyond it is set. -/
structure Canonical (b : Cidr) : Prop where
  length_le : b.length ≤ b.network.width
  keep_network : b.network.keep b.length = b.network

/-- A block holds an address if its first address is what is kept of that. -/
theorem contains_iff_keep : b.contains x ↔ x.keep b.length = b.network := by
  obtain ⟨net, length⟩ := b
  cases net <;> cases x <;> simp [contains, Ip.keep]

/-- A block holds the addresses that agree with its first one. -/
theorem Canonical.contains_iff (h : b.Canonical) : b.contains x ↔ x.Agrees b.length b.network := by
  rw [contains_iff_keep, ← Ip.keep_eq_keep_iff h.length_le, h.keep_network]

/-- Blocks of one length are the same if their first addresses agree. -/
theorem Canonical.eq_of_agrees (hb : b.Canonical) (hc : c.Canonical) (hlength : b.length = c.length)
    (h : b.network.Agrees b.length c.network) : b = c := by
  have hnetwork : b.network = c.network := by
    rw [← hb.keep_network, ← hc.keep_network, hlength, Ip.keep_eq_keep_iff hc.length_le, ← hlength]
    exact h
  cases b
  cases c
  cases hlength
  cases hnetwork
  rfl

/-- An address with its host bits cleared makes such a block. -/
theorem canonical_keep (h : n ≤ a.width) : Canonical ⟨a.keep n, n⟩ where
  length_le := by simpa using h
  keep_network := (Ip.keep_eq_keep_iff h).2 (Ip.agrees_keep h)

/-! ## What a text spells -/

/-- The trimmed text is an address, a slash, and a length of at most as many bits as that has. -/
def Spells (raw : String) (a : Ip) (n : Nat) : Prop :=
  ∃ address bits, Text.trimList raw.toList = address ++ '/' :: bits ∧ '/' ∉ address ∧
    Ip.parseList? address = some a ∧ Text.natural? 256 bits = some n ∧ n ≤ a.width

/-- A length that is spelled is at most that of the address. -/
theorem Spells.length_le (h : Spells raw a n) : n ≤ a.width := by
  obtain ⟨_, _, -, -, -, -, hlength⟩ := h
  exact hlength

/-- The address and the length that a raw text spells, before any mask is made. -/
def read (raw : String) : Except AddressError (Ip × Nat) :=
  let invalid (reason : String) : Except AddressError (Ip × Nat) :=
    .error (.invalidCidr raw reason)
  match Text.cut '/' (Text.trimList raw.toList) with
  | none => invalid "missing prefix length"
  | some (address, bits) =>
    match Ip.parseList? address with
    | none => invalid "bad address"
    | some ip =>
      match Text.natural? 256 bits with
      | none => invalid "bad prefix length"
      | some length =>
        if ip.width < length then invalid ("prefix length exceeds " ++ toString ip.width)
        else .ok (ip, length)

/-- A block is read by clearing the host bits of the address. -/
theorem parse_eq (raw : String) : parse raw = (read raw).map fun q => ⟨q.1.keep q.2, q.2⟩ := by
  rw [parse, read]
  cases Text.cut '/' (Text.trimList raw.toList) with
  | none => rfl
  | some parts =>
    obtain ⟨address, bits⟩ := parts
    dsimp only
    cases Ip.parseList? address with
    | none => rfl
    | some ip =>
      cases Text.natural? 256 bits with
      | none => rfl
      | some length =>
        cases ip with
        | v4 a => by_cases h : 32 < length <;> simp only [Ip.width, h, if_true, if_false] <;> rfl
        | v6 a => by_cases h : 128 < length <;> simp only [Ip.width, h, if_true, if_false] <;> rfl

/-- What is read is what the text spells. -/
theorem read_eq_ok_iff : read raw = .ok (a, n) ↔ Spells raw a n := by
  rw [read]
  constructor
  · intro h
    dsimp only at h
    split at h
    · cases h
    · rename_i address bits hcut
      split at h
      · cases h
      · rename_i ip haddress
        split at h
        · cases h
        · rename_i length hbits
          split at h
          · cases h
          · rename_i hlength
            cases h
            exact ⟨address, bits, Text.append_of_cut hcut, Text.not_mem_of_cut hcut, haddress,
              hbits, Nat.le_of_not_lt hlength⟩
  · rintro ⟨address, bits, htext, hslash, haddress, hbits, hlength⟩
    simp only [htext, Text.cut_append bits hslash, haddress, hbits, Nat.not_lt.2 hlength, if_false]

/-- A text is a block exactly if it spells an address and a length, of which the block is made. -/
theorem parse_eq_ok_iff : parse raw = .ok b ↔ ∃ a n, Spells raw a n ∧ ⟨a.keep n, n⟩ = b := by
  rw [parse_eq, map_eq_ok_iff, Prod.exists]
  simp only [read_eq_ok_iff]

/-- Blocks that were read have their host bits cleared. -/
theorem canonical_of_parse (h : parse raw = .ok b) : b.Canonical := by
  obtain ⟨a, n, hspells, rfl⟩ := parse_eq_ok_iff.1 h
  exact canonical_keep hspells.length_le

/-! ## Shifts that are checked -/

/-- The block that a raw text spells, or the error, where shifts are checked. -/
def parseChecked? (raw : String) : Option (Except AddressError Cidr) :=
  match read raw with
  | .error e => some (.error e)
  | .ok (a, n) => (a.keep? n).map fun network => .ok ⟨network, n⟩

/-- Whether an address lies in the block, where shifts are checked; no mask is made for one of the
other family. -/
def containsChecked? (b : Cidr) (x : Ip) : Option Bool :=
  if x.width = b.network.width then (x.keep? b.length).map fun kept => kept = b.network
  else some false

/-- No shift reaches the width of its word while a text is read. -/
theorem parseChecked?_eq (raw : String) : parseChecked? raw = some (parse raw) := by
  rw [parseChecked?, parse_eq]
  cases hread : read raw with
  | error e => rfl
  | ok q =>
    exact congrArg (Option.map _) (Ip.keep?_eq (read_eq_ok_iff.1 hread).length_le)

/-- Nor does one while an address is looked up. -/
theorem Canonical.containsChecked?_eq (h : b.Canonical) (x : Ip) :
    b.containsChecked? x = some (b.contains x) := by
  rw [containsChecked?]
  split
  · rename_i hwidth
    rw [Ip.keep?_eq (hwidth ▸ h.length_le), Option.map_some, Option.some_inj, Bool.eq_iff_iff,
      contains_iff_keep, decide_eq_true_iff]
  · rename_i hwidth
    have hnot : ¬ b.contains x := fun hx => hwidth (h.contains_iff.1 hx).1
    rw [Bool.eq_false_iff.2 hnot]

/-! ## What a block that was read holds -/

/-- A block of the addresses whose first bits are those of an address: its first address has these
bits and no others. -/
structure HoldsPrefix (b : Cidr) (a : Ip) (n : Nat) : Prop where
  length_eq : b.length = n
  width_network : b.network.width = a.width
  bit_network : ∀ i, b.network.bit i = (decide (i < n) && a.bit i)
  contains_iff : ∀ x, b.contains x ↔ x.Agrees n a

theorem holdsPrefix_keep (h : n ≤ a.width) : HoldsPrefix ⟨a.keep n, n⟩ a n where
  length_eq := rfl
  width_network := Ip.width_keep n a
  bit_network := Ip.bit_keep h
  contains_iff _ := contains_iff_keep.trans (Ip.keep_eq_keep_iff h)

/-- A text is a block exactly if it spells an address and a length. The block then holds the
addresses of that family with the same first bits, and is the one of every text that spells as many
and the same first bits of an address of that family. Neither in reading the text nor in looking an
address up does a shift reach the width of its word. -/
theorem holdsPrefix_parse (raw : String) :
    ((∃ b, parse raw = .ok b) ↔ ∃ a n, Spells raw a n) ∧
    parseChecked? raw = some (parse raw) ∧
    ∀ a n, Spells raw a n → ∃ b, parse raw = .ok b ∧ b.HoldsPrefix a n ∧
      (∀ x, b.containsChecked? x = some (b.contains x)) ∧
      ∀ raw' a' n', Spells raw' a' n' → (parse raw' = .ok b ↔ n' = n ∧ a'.Agrees n a) := by
  refine ⟨?_, parseChecked?_eq raw,
    fun a n h => ⟨⟨a.keep n, n⟩, parse_eq_ok_iff.2 ⟨a, n, h, rfl⟩, ?_⟩⟩
  · constructor
    · rintro ⟨b, h⟩
      obtain ⟨a, n, hspells, -⟩ := parse_eq_ok_iff.1 h
      exact ⟨a, n, hspells⟩
    · rintro ⟨a, n, hspells⟩
      exact ⟨_, parse_eq_ok_iff.2 ⟨a, n, hspells, rfl⟩⟩
  · have hlength : n ≤ a.width := h.length_le
    refine ⟨holdsPrefix_keep hlength, (canonical_keep hlength).containsChecked?_eq, ?_⟩
    intro raw' a' n' h'
    have hparse : parse raw' = .ok ⟨a'.keep n', n'⟩ := parse_eq_ok_iff.2 ⟨a', n', h', rfl⟩
    rw [hparse, Except.ok.injEq, mk.injEq, and_comm]
    refine and_congr_right fun hn => ?_
    rw [hn, Ip.keep_eq_keep_iff hlength]

/-- A text of the block of all dotted addresses, and another one of that block. -/
theorem holdsPrefix_parse_all :
    Spells " 10.1.2.3/0" (.v4 0x0A010203#32) 0 ∧ Spells "255.0.0.0/+00" (.v4 0xFF000000#32) 0 ∧
    ∃ b, parse " 10.1.2.3/0" = .ok b ∧ b.HoldsPrefix (.v4 0x0A010203#32) 0 ∧
      parse "255.0.0.0/+00" = .ok b := by
  have h : Spells " 10.1.2.3/0" (.v4 0x0A010203#32) 0 :=
    ⟨"10.1.2.3".toList, "0".toList, by decide, by decide, by decide, by decide, by decide⟩
  have h' : Spells "255.0.0.0/+00" (.v4 0xFF000000#32) 0 :=
    ⟨"255.0.0.0".toList, "+00".toList, by decide, by decide, by decide, by decide, by decide⟩
  obtain ⟨b, hparse, hholds, -, heq⟩ := (holdsPrefix_parse " 10.1.2.3/0").2.2 _ _ h
  exact ⟨h, h', b, hparse, hholds, (heq _ _ _ h').2 ⟨rfl, rfl, nofun⟩⟩

end Cidr

end ClusterAudit
