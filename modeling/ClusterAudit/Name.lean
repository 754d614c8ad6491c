import ClusterAudit.Text.Split

/-!
# Names of things: kinds, objects, codes

A `Kind` names a table of objects. An `Fqn` names one object: `namespace/name`, or the bare name of
an object that belongs to no namespace. A `Code` numbers a sort of finding. All three are ordered
by what they wrap, so tables, outcomes and tallies list them in text and number order.
-/

namespace ClusterAudit

/-- The name of a sort of object, such as `pods`; each kind has one table. -/
structure Kind where
  text : String
  deriving DecidableEq

namespace Kind

instance : Inhabited Kind := ⟨⟨""⟩⟩

instance : Ord Kind := ⟨compareOn Kind.text⟩

instance : Std.TransOrd Kind := inferInstanceAs (Std.TransCmp (compareOn Kind.text))

instance : Std.LawfulEqOrd Kind where
  eq_of_compare {a b} h := by
    cases a; cases b
    exact congrArg Kind.mk (Std.LawfulEqOrd.eq_of_compare h)

instance : ToString Kind := ⟨Kind.text⟩

end Kind

/-- A fully qualified name: `namespace/name`, or a bare name. -/
structure Fqn where
  text : String
  deriving DecidableEq

namespace Fqn

instance : Inhabited Fqn := ⟨⟨""⟩⟩

instance : Ord Fqn := ⟨compareOn Fqn.text⟩

instance : Std.TransOrd Fqn := inferInstanceAs (Std.TransCmp (compareOn Fqn.text))

instance : Std.LawfulEqOrd Fqn where
  eq_of_compare {a b} h := by
    cases a; cases b
    exact congrArg Fqn.mk (Std.LawfulEqOrd.eq_of_compare h)

instance : ToString Fqn := ⟨Fqn.text⟩

/-- The name of an object in a namespace; an empty namespace yields the bare name. -/
def join (space name : String) : Fqn :=
  if space.isEmpty then ⟨name⟩ else ⟨space ++ "/" ++ name⟩

/-- A raw text cut at its first slash; without a slash the namespace is empty. -/
def splitText (raw : String) : String × String :=
  match Text.split? '/' raw with
  | some parts => parts
  | none => ("", raw)

/-- The namespace that a raw text names. -/
def spaceOfText (raw : String) : String := (splitText raw).1

/-- The namespace and the name. -/
def parts (fqn : Fqn) : String × String :=
  match Text.cut '/' fqn.text.toList with
  | some (space, name) => (String.ofList space, String.ofList name)
  | none => ("", fqn.text)

/-- The namespace; empty for an object outside all namespaces. -/
def space (fqn : Fqn) : String := fqn.parts.1

/-- The name within the namespace. -/
def name (fqn : Fqn) : String := fqn.parts.2

/-- Whether the name has no namespace part. -/
def isClusterScoped (fqn : Fqn) : Bool := !fqn.text.toList.contains '/'

/-- Whether the name is the empty text. -/
def isEmpty (fqn : Fqn) : Bool := fqn.text.isEmpty

end Fqn

/-- The namespaces that the control plane owns. -/
def systemNamespaces : List String := ["kube-system", "kube-public", "kube-node-lease"]

/-- Whether the control plane owns a namespace. -/
def isSystemNamespace (space : String) : Bool := systemNamespaces.contains space

/-- The number of a sort of finding, below `2 ^ 32`. -/
structure Code where
  number : UInt32
  deriving DecidableEq

namespace Code

instance : Inhabited Code := ⟨⟨0⟩⟩

instance : Ord Code := ⟨compareOn Code.number⟩

instance : Std.TransOrd Code := inferInstanceAs (Std.TransCmp (compareOn Code.number))

instance : Std.LawfulEqOrd Code where
  eq_of_compare {a b} h := by
    cases a; cases b
    exact congrArg Code.mk (Std.LawfulEqOrd.eq_of_compare h)

instance (n : Nat) : OfNat Code n := ⟨⟨OfNat.ofNat n⟩⟩

/-- The decimal digits of the number. -/
def text (code : Code) : String := toString code.number.toNat

instance : ToString Code := ⟨Code.text⟩

/-- The code of a number, if it is below `2 ^ 32`. -/
def ofNat? (n : Nat) : Option Code :=
  if n < UInt32.size then some ⟨UInt32.ofNat n⟩ else none

end Code

end ClusterAudit
