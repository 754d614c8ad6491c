import ClusterAudit.Dict

/-!
# JSON values

`Json` is a document as it is written: records keep their fields in order, repeated names included,
so a reader can tell a repeated field from a single one. `Json.canonical` forgets what writing adds:
names ascend, and of a repeated name the last field holds. What a readable document denotes is
canonical (`isCanonical_canonical`).
-/

namespace ClusterAudit

/-- A JSON document. -/
inductive Json where
  | null
  | bool (b : Bool)
  /-- An integer of 64 bits, signed or unsigned, written without fraction or exponent. -/
  | int (n : Int)
  /-- Any other number: `mantissa · 10 ^ exponent`. -/
  | decimal (mantissa exponent : Int)
  | text (s : String)
  | list (items : List Json)
  | record (fields : List (String × Json))
  /-- A literal that is well formed but denotes nothing: an unpaired surrogate, or a number beyond
  the range of doubles. It may stand only where nothing reads it. -/
  | unreadable

namespace Json

instance : Inhabited Json := ⟨null⟩

/-! ## Equality -/

mutual

/-- Whether two documents are written alike. -/
def beq : Json → Json → Bool
  | null, null => true
  | bool a, bool b => a == b
  | int a, int b => a == b
  | decimal a b, decimal c d => a == c && b == d
  | text a, text b => a == b
  | list a, list b => beqItems a b
  | record a, record b => beqFields a b
  | unreadable, unreadable => true
  | _, _ => false

/-- Whether two lists of documents are written alike. -/
def beqItems : List Json → List Json → Bool
  | [], [] => true
  | a :: as, b :: bs => beq a b && beqItems as bs
  | _, _ => false

/-- Whether two lists of fields are written alike. -/
def beqFields : List (String × Json) → List (String × Json) → Bool
  | [], [] => true
  | (k, a) :: as, (l, b) :: bs => k == l && beq a b && beqFields as bs
  | _, _ => false

end

mutual

/-- Documents that compare equal are equal. -/
theorem eq_of_beq : ∀ {a b : Json}, beq a b = true → a = b
  | null, b, h => by cases b <;> simp_all [beq]
  | bool _, b, h => by cases b <;> simp_all [beq]
  | int _, b, h => by cases b <;> simp_all [beq]
  | decimal _ _, b, h => by cases b <;> simp_all [beq]
  | text _, b, h => by cases b <;> simp_all [beq]
  | list as, b, h => by
    cases b <;> simp only [beq, Bool.false_eq_true] at h
    rw [eqItems_of_beqItems h]
  | record as, b, h => by
    cases b <;> simp only [beq, Bool.false_eq_true] at h
    rw [eqFields_of_beqFields h]
  | unreadable, b, h => by cases b <;> simp_all [beq]

/-- Lists of documents that compare equal are equal. -/
theorem eqItems_of_beqItems : ∀ {as bs : List Json}, beqItems as bs = true → as = bs
  | [], bs, h => by cases bs <;> simp_all [beqItems]
  | a :: as, bs, h => by
    cases bs with
    | nil => simp [beqItems] at h
    | cons b bs =>
      simp only [beqItems, Bool.and_eq_true] at h
      rw [eq_of_beq h.1, eqItems_of_beqItems h.2]

/-- Lists of fields that compare equal are equal. -/
theorem eqFields_of_beqFields :
    ∀ {as bs : List (String × Json)}, beqFields as bs = true → as = bs
  | [], bs, h => by cases bs <;> simp_all [beqFields]
  | (k, a) :: as, bs, h => by
    cases bs with
    | nil => simp [beqFields] at h
    | cons f bs =>
      obtain ⟨l, b⟩ := f
      simp only [beqFields, Bool.and_eq_true, beq_iff_eq] at h
      rw [h.1.1, eq_of_beq h.1.2, eqFields_of_beqFields h.2]

end

mutual

/-- A document compares equal to itself. -/
theorem beq_self : ∀ a : Json, beq a a = true
  | null | bool _ | int _ | decimal _ _ | text _ | unreadable => by simp [beq]
  | list as => by rw [beq]; exact beqItems_self as
  | record as => by rw [beq]; exact beqFields_self as

/-- A list of documents compares equal to itself. -/
theorem beqItems_self : ∀ as : List Json, beqItems as as = true
  | [] => rfl
  | a :: as => by simp [beqItems, beq_self a, beqItems_self as]

/-- A list of fields compares equal to itself. -/
theorem beqFields_self : ∀ as : List (String × Json), beqFields as as = true
  | [] => rfl
  | (k, a) :: as => by simp [beqFields, beq_self a, beqFields_self as]

end

instance : DecidableEq Json := fun a b =>
  decidable_of_iff (beq a b = true) ⟨eq_of_beq, fun h => h ▸ beq_self a⟩

/-! ## The value a document denotes -/

mutual

/-- Whether every literal of the document denotes something. -/
def readable : Json → Bool
  | list items => readableItems items
  | record fields => readableFields fields
  | unreadable => false
  | _ => true

/-- Whether every literal in the items denotes something. -/
def readableItems : List Json → Bool
  | [] => true
  | item :: rest => readable item && readableItems rest

/-- Whether every literal in the fields denotes something. -/
def readableFields : List (String × Json) → Bool
  | [] => true
  | (_, value) :: rest => readable value && readableFields rest

end

mutual

/-- How deep lists and records nest; a literal has depth zero. -/
def depth : Json → Nat
  | list items => depthItems items + 1
  | record fields => depthFields fields + 1
  | _ => 0

/-- The depth of the deepest item. -/
def depthItems : List Json → Nat
  | [] => 0
  | item :: rest => max (depth item) (depthItems rest)

/-- The depth of the deepest field. -/
def depthFields : List (String × Json) → Nat
  | [] => 0
  | (_, value) :: rest => max (depth value) (depthFields rest)

end

mutual

/-- The document with names ascending; of a repeated name the last field holds. -/
def canonical : Json → Json
  | list items => list (canonicalItems items)
  | record fields => record (Dict.ofList (canonicalFields fields)).entries
  | other => other

/-- The items, each with names ascending. -/
def canonicalItems : List Json → List Json
  | [] => []
  | item :: rest => canonical item :: canonicalItems rest

/-- The fields as written, each value with names ascending. -/
def canonicalFields : List (String × Json) → List (String × Json)
  | [] => []
  | (name, value) :: rest => (name, canonical value) :: canonicalFields rest

end

mutual

/-- Whether names ascend strictly in every record of the document and every literal denotes
something. -/
def isCanonical : Json → Bool
  | list items => isCanonicalItems items
  | record fields =>
    decide (fields.Pairwise fun a b => compare a.1 b.1 = .lt) && isCanonicalFields fields
  | unreadable => false
  | _ => true

/-- Whether each of the items is canonical. -/
def isCanonicalItems : List Json → Bool
  | [] => true
  | item :: rest => isCanonical item && isCanonicalItems rest

/-- Whether each of the values is canonical. -/
def isCanonicalFields : List (String × Json) → Bool
  | [] => true
  | (_, value) :: rest => isCanonical value && isCanonicalFields rest

end

/-- Fields are canonical exactly when each of their values is. -/
theorem isCanonicalFields_iff {fields : List (String × Json)} :
    isCanonicalFields fields = true ↔ ∀ f ∈ fields, isCanonical f.2 = true := by
  induction fields with
  | nil => simp [isCanonicalFields]
  | cons f rest ih => simp [isCanonicalFields, ih]

mutual

/-- The canonical form of a readable document is canonical. -/
theorem isCanonical_canonical :
    ∀ {j : Json}, readable j = true → isCanonical (canonical j) = true
  | list items, h => by
    rw [canonical, isCanonical]
    exact isCanonicalItems_canonicalItems (by rwa [readable] at h)
  | record fields, h => by
    rw [canonical, isCanonical, Bool.and_eq_true]
    refine ⟨decide_eq_true (Dict.ofList _).ascending, isCanonicalFields_iff.2 fun f hf => ?_⟩
    rw [readable] at h
    exact isCanonicalFields_iff.1 (isCanonicalFields_canonicalFields h) f (Dict.mem_of_mem_ofList hf)
  | unreadable, h => by simp [readable] at h
  | null, _ | bool _, _ | int _, _ | decimal _ _, _ | text _, _ => by simp [canonical, isCanonical]

/-- The canonical forms of readable items are canonical. -/
theorem isCanonicalItems_canonicalItems :
    ∀ {items : List Json}, readableItems items = true → isCanonicalItems (canonicalItems items) = true
  | [], _ => rfl
  | item :: rest, h => by
    rw [readableItems, Bool.and_eq_true] at h
    rw [canonicalItems, isCanonicalItems, Bool.and_eq_true]
    exact ⟨isCanonical_canonical h.1, isCanonicalItems_canonicalItems h.2⟩

/-- The canonical forms of readable field values are canonical. -/
theorem isCanonicalFields_canonicalFields :
    ∀ {fields : List (String × Json)}, readableFields fields = true →
      isCanonicalFields (canonicalFields fields) = true
  | [], _ => rfl
  | (name, value) :: rest, h => by
    rw [readableFields, Bool.and_eq_true] at h
    rw [canonicalFields, isCanonicalFields, Bool.and_eq_true]
    exact ⟨isCanonical_canonical h.1, isCanonicalFields_canonicalFields h.2⟩

end

/-! ## Views -/

/-- The items of a list. -/
def items? : Json → Option (List Json)
  | list items => some items
  | _ => none

/-- The text of a string. -/
def text? : Json → Option String
  | text s => some s
  | _ => none

/-- The value of a boolean. -/
def bool? : Json → Option Bool
  | bool b => some b
  | _ => none

/-- The value of an integer from zero up to, not including, `bound`. -/
def nat? (bound : Nat) : Json → Option Nat
  | int n => if 0 ≤ n ∧ n < bound then some n.toNat else none
  | _ => none

end Json

end ClusterAudit
