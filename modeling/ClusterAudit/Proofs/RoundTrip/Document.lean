import ClusterAudit.Document.Json.Decode
import ClusterAudit.Proofs.Dict
import Mathlib.Data.List.Perm.Basic
import Mathlib.Logic.Relation

/-!
# Reading back what was written

A text lists the fields of a record as they were written, a value lists them by name. `Rearranges`
covers both: a document may list fields in another order, as long as no name stands twice, and is
the same otherwise. `Undoes` says of a reader that it gives back whatever was written and then
rearranged. What the readers of texts, lists and dictionaries undo is said here; a record is read
through the names of its fields, which lead to the same values in any order
(`Rearranges.fields?_record`).
-/

namespace ClusterAudit.Json

/-! ## Canonical documents -/

/-- The canonical forms of items. -/
theorem canonicalItems_eq (items : List Json) : canonicalItems items = items.map canonical := by
  induction items with
  | nil => rfl
  | cons item rest ih => rw [canonicalItems, ih, List.map_cons]

/-- The canonical forms of field values. -/
theorem canonicalFields_eq (fields : List (String × Json)) :
    canonicalFields fields = fields.map fun f => (f.1, canonical f.2) := by
  induction fields with
  | nil => rfl
  | cons f rest ih => rw [canonicalFields, ih, List.map_cons]

mutual

/-- A canonical document denotes itself. -/
theorem eq_canonical : ∀ {j : Json}, isCanonical j → readable j ∧ canonical j = j
  | list items, h => by
    obtain ⟨hreadable, heq⟩ := eq_canonicalItems (by rwa [isCanonical] at h)
    rw [readable, canonical, heq]
    exact ⟨hreadable, rfl⟩
  | record fields, h => by
    rw [isCanonical, Bool.and_eq_true, decide_eq_true_iff] at h
    obtain ⟨hreadable, heq⟩ := eq_canonicalFields h.2
    -- the fields ascend, so they are the entries of the dictionary that they make
    have hentries : Dict.ofList fields = ⟨fields, h.1⟩ := Dict.ofList_eq_of_perm (.refl _)
    rw [readable, canonical, heq, hentries]
    exact ⟨hreadable, rfl⟩
  | unreadable, h => by simp [isCanonical] at h
  | null, _ | bool _, _ | int _, _ | decimal _ _, _ | text _, _ => by simp [readable, canonical]

/-- Canonical items denote themselves. -/
theorem eq_canonicalItems : ∀ {items : List Json}, isCanonicalItems items →
    readableItems items ∧ canonicalItems items = items
  | [], _ => ⟨rfl, rfl⟩
  | item :: rest, h => by
    rw [isCanonicalItems, Bool.and_eq_true] at h
    obtain ⟨hitem, hitemeq⟩ := eq_canonical h.1
    obtain ⟨hrest, hresteq⟩ := eq_canonicalItems h.2
    rw [readableItems, canonicalItems, hitem, hrest, hitemeq, hresteq]
    exact ⟨rfl, rfl⟩

/-- Canonical field values denote themselves. -/
theorem eq_canonicalFields : ∀ {fields : List (String × Json)}, isCanonicalFields fields →
    readableFields fields ∧ canonicalFields fields = fields
  | [], _ => ⟨rfl, rfl⟩
  | (name, value) :: rest, h => by
    rw [isCanonicalFields, Bool.and_eq_true] at h
    obtain ⟨hvalue, hvalueeq⟩ := eq_canonical h.1
    obtain ⟨hrest, hresteq⟩ := eq_canonicalFields h.2
    rw [readableFields, canonicalFields, hvalue, hrest, hvalueeq, hresteq]
    exact ⟨rfl, rfl⟩

end

/-! ## Rearranged documents -/

/-- Documents are rearranged: the fields of records may change places where no name stands twice,
and nothing else is changed. -/
structure Rearranges (c : Json → Json) : Prop where
  null : c .null = .null
  bool (b : Bool) : c (.bool b) = .bool b
  int (n : Int) : c (.int n) = .int n
  text (s : String) : c (.text s) = .text s
  list (items : List Json) : c (.list items) = .list (items.map c)
  record (fields : List (String × Json)) (hnames : (fields.map (·.1)).Nodup) :
    ∃ fields' : List (String × Json), fields'.Perm fields ∧
      c (.record fields) = .record (fields'.map fun f => (f.1, c f.2))
  /-- A canonical document still denotes itself. -/
  canonical {j : Json} (h : j.isCanonical) : (c j).readable ∧ (c j).canonical = j

/-- A document may be left as it is. -/
theorem rearranges_id : Rearranges id where
  null := rfl
  bool _ := rfl
  int _ := rfl
  text _ := rfl
  list items := by rw [List.map_id, id]
  record fields _ := ⟨fields, .refl _, by simp⟩
  canonical h := eq_canonical h

/-- A document may be put in canonical form. -/
theorem rearranges_canonical : Rearranges canonical where
  null := by simp [canonical]
  bool _ := by simp [canonical]
  int _ := by simp [canonical]
  text _ := by simp [canonical]
  list items := by rw [canonical, canonicalItems_eq]
  record fields hnames := by
    refine ⟨(Dict.ofList fields).entries, Dict.perm_entries_ofList hnames, ?_⟩
    rw [canonical, canonicalFields_eq, Dict.ofList_map canonical hnames]
    rfl
  canonical h := by
    rw [(eq_canonical h).2]
    exact eq_canonical h

/-! ## Fields by name -/

/-- Where no name stands twice, a field is found by its name. -/
theorem lookup_eq_some_iff {fields : List (String × Json)} (hnames : (fields.map (·.1)).Nodup)
    {name : String} {value : Json} : lookup name fields = some value ↔ (name, value) ∈ fields := by
  induction fields with
  | nil => simp [lookup]
  | cons f rest ih =>
    obtain ⟨n, v⟩ := f
    obtain ⟨hhead, htail⟩ := List.nodup_cons.1 hnames
    rw [lookup, List.mem_cons]
    by_cases hn : n = name
    · subst hn
      have hrest : (n, value) ∉ rest := fun hmem => hhead (List.mem_map.2 ⟨_, hmem, rfl⟩)
      simp [hrest, eq_comm]
    · simp [hn, ih htail, Ne.symm hn]

/-- Changed values are found under the old names. -/
theorem lookup_map (c : Json → Json) (name : String) (fields : List (String × Json)) :
    lookup name (fields.map fun f => (f.1, c f.2)) = (lookup name fields).map c := by
  induction fields with
  | nil => rfl
  | cons f rest ih =>
    rw [List.map_cons, lookup, lookup, ih]
    split <;> rfl

/-- Where no name stands twice, each stands at most once. -/
theorem occurrences_le_one {fields : List (String × Json)} (hnames : (fields.map (·.1)).Nodup)
    (name : String) : occurrences name fields ≤ 1 := by
  have hcount := List.nodup_iff_count_le_one.1 hnames name
  rwa [List.count, List.countP_map, List.countP_eq_length_filter] at hcount

/-- What a name leads to in a record whose values are rearranged. -/
def found (c : Json → Json) (fields : List (String × Json)) (name : String) : Option Json :=
  (lookup name fields).map c

variable {c : Json → Json}

/-- An empty record leads nowhere. -/
@[simp] theorem found_nil (c : Json → Json) (name : String) : found c [] name = none := rfl

/-- The name of the first field leads to its value. -/
@[simp] theorem found_self (c : Json → Json) (name : String) (value : Json)
    (rest : List (String × Json)) : found c ((name, value) :: rest) name = some (c value) := by
  rw [found, lookup, if_pos rfl, Option.map_some]

/-- Any other name leads past the first field. -/
@[simp] theorem found_of_ne (c : Json → Json) {n name : String} (h : n ≠ name) (value : Json)
    (rest : List (String × Json)) : found c ((n, value) :: rest) name = found c rest name := by
  rw [found, lookup, if_neg h, found]

namespace Rearranges

variable (h : Rearranges c)
include h

/-- A rearranged record has under every name what was written there. -/
theorem fields?_of_nodup {fields : List (String × Json)} (hnames : (fields.map (·.1)).Nodup)
    (names : List String) : fields? names (c (.record fields)) = some (found c fields) := by
  obtain ⟨fields', hperm, heq⟩ := h.record fields hnames
  have hnames' : (fields'.map (·.1)).Nodup := (hperm.map _).nodup_iff.2 hnames
  have hmap : ((fields'.map fun f => (f.1, c f.2)).map (·.1)).Nodup := by
    rw [List.map_map]
    exact hnames'
  have hlookup : ∀ name, lookup name fields' = lookup name fields := fun name =>
    Option.ext fun value => by
      rw [lookup_eq_some_iff hnames', lookup_eq_some_iff hnames, hperm.mem_iff]
  rw [heq, fields?, if_pos (List.all_eq_true.2 fun name _ =>
    decide_eq_true (occurrences_le_one hmap name))]
  exact congrArg some (funext fun name => by rw [found, lookup_map, hlookup])

/-- A record that is written with the names that are asked for has them. -/
theorem fields?_record {fields : List (String × Json)} {names : List String}
    (hfields : fields.map (·.1) = names) (hnames : names.Nodup) :
    fields? names (c (.record fields)) = some (found c fields) :=
  h.fields?_of_nodup (hfields ▸ hnames) names

/-- A record with one field keeps it. -/
theorem record_singleton (name : String) (value : Json) :
    c (.record [(name, value)]) = .record [(name, c value)] := by
  obtain ⟨fields', hperm, heq⟩ := h.record [(name, value)] (List.nodup_singleton name)
  rw [heq, List.perm_singleton.1 hperm]
  rfl

/-- A natural number is read below its bound. -/
theorem nat?_ofNat {n bound : Nat} (hn : n < bound) : (c (ofNat n)).nat? bound = some n := by
  rw [ofNat, h.int, nat?, if_pos (by omega), Int.toNat_natCast]

end Rearranges

/-! ## Readers -/

/-- A reader gives back what was written and then rearranged. -/
def Undoes {α : Type} (c : Json → Json) (decode : Json → Option α) (encode : α → Json) : Prop :=
  ∀ a, decode (c (encode a)) = some a

/-- A text is read back. -/
theorem Rearranges.undoes_text (h : Rearranges c) : Undoes c text? .text := fun s => by
  rw [h.text, text?]

/-- A name that stands for a value is read back. -/
theorem Rearranges.undoes_variant (h : Rearranges c) : Undoes c variant? .text := fun s => by
  rw [h.text, variant?]

/-- A truth value is read back. -/
theorem Rearranges.undoes_bool (h : Rearranges c) : Undoes c bool? .bool := fun b => by
  rw [h.bool, bool?]

/-- A number of 32 bits is read back. -/
theorem Rearranges.undoes_uint32 (h : Rearranges c) : Undoes c uint32? fun n => ofNat n.toNat :=
  fun n => by
    rw [uint32?, h.nat?_ofNat n.toNat_lt]
    exact congrArg some n.ofNat_toNat

namespace Undoes

variable {α : Type} {decode : Json → Option α} {encode : α → Json}

/-- A list is read back item by item. -/
theorem listOf (hu : Undoes c decode encode) (h : Rearranges c) :
    Undoes c (listOf decode) (ofList encode) := by
  have aux : ∀ l : List α, decodeItems decode ((l.map encode).map c) = some l := by
    intro l
    induction l with
    | nil => rfl
    | cons a rest ih =>
      rw [List.map_cons, List.map_cons, decodeItems, hu a, ih]
      rfl
  intro l
  rw [ofList, h.list]
  exact aux l

/-- The bindings of a dictionary are read back in some order, each under the name of its key. -/
theorem exists_fields (hu : Undoes c decode encode) (h : Rearranges c) {κ : Type} [Ord κ]
    [Std.LawfulEqOrd κ] {name : κ → String} (hname : name.Injective) (d : Dict κ α) :
    ∃ (l : List (κ × α)) (fields : List (String × Json)), l.Perm d.entries ∧
      c (.record (d.entries.map fun e => (name e.1, encode e.2))) = .record fields ∧
      decodeFields decode fields = some (l.map fun e => (name e.1, e.2)) := by
  have hnames : ((d.entries.map fun e => (name e.1, encode e.2)).map (·.1)).Nodup := by
    have hkeys := d.nodup_keys.map hname
    rw [List.map_map] at hkeys ⊢
    exact hkeys
  obtain ⟨fields', hperm, heq⟩ := h.record _ hnames
  -- the order of the written fields is one of the bindings
  obtain ⟨l, rfl, hl⟩ :=
    (congrFun₂ (List.eq_map_comp_perm fun e : κ × α => (name e.1, encode e.2)) _ _).mpr hperm
  refine ⟨l, _, hl, heq, ?_⟩
  clear hl heq hperm
  induction l with
  | nil => rfl
  | cons e rest ih =>
    simp only [List.map_cons, decodeFields, hu e.2, ih]
    rfl

/-- Where names lead back to their keys, the bindings that are read make the dictionary again. -/
theorem exists_ofList (hu : Undoes c decode encode) (h : Rearranges c) {κ : Type} [Ord κ]
    [Std.TransOrd κ] [Std.LawfulEqOrd κ] {name : κ → String} {key : String → κ}
    (hkey : Function.LeftInverse key name) (d : Dict κ α) :
    ∃ (fields : List (String × Json)) (bindings : List (String × α)),
      c (.record (d.entries.map fun e => (name e.1, encode e.2))) = .record fields ∧
      decodeFields decode fields = some bindings ∧
      Dict.ofList (bindings.map fun e => (key e.1, e.2)) = d := by
  obtain ⟨l, fields, hperm, heq, hfields⟩ := hu.exists_fields h hkey.injective d
  have hkeys : (l.map fun e => (name e.1, e.2)).map (fun e => (key e.1, e.2)) = l := by
    simp [Function.comp_def, hkey.eq]
  refine ⟨fields, _, heq, hfields, ?_⟩
  rw [hkeys]
  exact Dict.ofList_eq_of_perm hperm

/-- A dictionary is read back. -/
theorem dictOf (hu : Undoes c decode encode) (h : Rearranges c) :
    Undoes c (dictOf decode) (ofDict encode) := by
  intro d
  have hkey : Function.LeftInverse (id : String → String) id := fun _ => rfl
  obtain ⟨fields, bindings, heq, hfields, hd⟩ := hu.exists_ofList h hkey d
  simp only [id, List.map_id'] at heq hd
  rw [ofDict, heq, Json.dictOf, hfields, Option.map_some, hd]

/-- What may be null is read back, if null itself is not read. -/
theorem optional (hu : Undoes c decode encode) (h : Rearranges c) (hnull : decode .null = none)
    (o : Option α) : optional decode (some (c (ofOption encode o))) = some o := by
  cases o with
  | none => rw [ofOption, h.null, Json.optional]
  | some a =>
    have hne : c (encode a) ≠ .null := fun heq => by
      have ha := hu a
      rw [heq, hnull] at ha
      cases ha
    rw [ofOption, Json.optional.eq_3 _ _ hne, hu a]
    rfl

end Undoes

/-- Labels are read back. -/
theorem Rearranges.undoes_labels (h : Rearranges c) : Undoes c labels? ofLabels :=
  h.undoes_text.dictOf h

end ClusterAudit.Json
