import ClusterAudit.Address.Ip

/-!
# Address blocks

A block `address/length` holds the addresses of its family that agree with the address on the first
`length` bits. The host bits are cleared when a block is read, so blocks that hold the same
addresses are equal.
-/

namespace ClusterAudit

/-- What is wrong with an address, a block, or a block with exceptions. -/
inductive AddressError where
  /-- The raw text is no block, for a reason. -/
  | invalidCidr (raw reason : String)
  /-- The raw text is no address. -/
  | invalidIp (raw : String)
  /-- An exception reaches outside its block; both as written. -/
  | exceptOutsideBlock (except cidr : String)
  deriving DecidableEq

namespace AddressError

/-- The wording of the error. -/
def message : AddressError → String
  | invalidCidr raw reason => "Invalid CIDR '" ++ raw ++ "': " ++ reason
  | invalidIp raw => "Invalid IP address '" ++ raw ++ "'"
  | exceptOutsideBlock except cidr =>
    "Except block " ++ except ++ " is not contained in " ++ cidr

end AddressError

/-- The word whose first `length` bits are set. -/
def mask (w length : Nat) : BitVec w :=
  if length = 0 then 0#w else BitVec.allOnes w <<< (w - length)

/-- An address block: its first address and the number of bits that are fixed. -/
structure Cidr where
  network : Ip
  length : Nat
  deriving DecidableEq

namespace Cidr

/-- Whether an address lies in the block. -/
def contains (b : Cidr) (ip : Ip) : Bool :=
  match b.network, ip with
  | .v4 net, .v4 a => a &&& mask 32 b.length == net
  | .v6 net, .v6 a => a &&& mask 128 b.length == net
  | _, _ => false

/-- Whether `other` lies entirely inside the block. -/
def containsCidr (b other : Cidr) : Bool := b.length ≤ other.length && b.contains other.network

/-- The block that a raw text spells, or the error that names the text. Blanks around the whole text
are allowed. -/
def parse (raw : String) : Except AddressError Cidr :=
  let invalid (reason : String) : Except AddressError Cidr := .error (.invalidCidr raw reason)
  match Text.cut '/' (Text.trimList raw.toList) with
  | none => invalid "missing prefix length"
  | some (address, bits) =>
    match Ip.parseList? address with
    | none => invalid "bad address"
    | some ip =>
      match Text.natural? 256 bits with
      | none => invalid "bad prefix length"
      | some length =>
        match ip with
        | .v4 a =>
          if 32 < length then invalid "prefix length exceeds 32"
          else .ok ⟨.v4 (a &&& mask 32 length), length⟩
        | .v6 a =>
          if 128 < length then invalid "prefix length exceeds 128"
          else .ok ⟨.v6 (a &&& mask 128 length), length⟩

end Cidr

/-- The address that a raw text spells, blanks around it allowed. -/
def parseIp (raw : String) : Except AddressError Ip :=
  match Ip.parseList? (Text.trimList raw.toList) with
  | some ip => .ok ip
  | none => .error (.invalidIp raw)

/-- The blocks that raw texts spell, or the error of the first text that spells none. -/
def parseCidrs : List String → Except AddressError (List Cidr)
  | [] => .ok []
  | raw :: rest => do
    let b ← Cidr.parse raw
    let bs ← parseCidrs rest
    .ok (b :: bs)

/-- Whether an address falls inside a block. -/
def matchesCidr (ip block : String) : Except AddressError Bool := do
  let ip ← parseIp ip
  let block ← Cidr.parse block
  .ok (block.contains ip)

/-- Whether an address falls inside a block and outside every exception. Every text must be well
formed, also one that cannot change the answer. -/
def matchesCidrExcept (ip block : String) (except : List String) : Except AddressError Bool := do
  let ip ← parseIp ip
  let block ← Cidr.parse block
  let except ← parseCidrs except
  .ok (block.contains ip && !except.any (·.contains ip))

/-- An address block with exceptions, as written in a policy. -/
structure IpBlock where
  cidr : String
  except : List String
  deriving DecidableEq

namespace IpBlock

/-- The first fault among the exceptions of a block: one that does not parse or reaches outside. -/
def checkExcept (raw : String) (block : Cidr) : List String → Except AddressError Unit
  | [] => .ok ()
  | text :: rest => do
    let b ← Cidr.parse text
    if block.containsCidr b then checkExcept raw block rest
    else .error (.exceptOutsideBlock text raw)

/-- The block and every exception must be well formed, and each exception must lie inside the block.
-/
def validate (b : IpBlock) : Except AddressError Unit := do
  let block ← Cidr.parse b.cidr
  checkExcept b.cidr block b.except

end IpBlock

end ClusterAudit
