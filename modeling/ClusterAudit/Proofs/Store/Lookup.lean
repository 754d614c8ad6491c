import ClusterAudit.Proofs.Selection
import ClusterAudit.Proofs.Store.Index
import ClusterAudit.Proofs.Store.Listing
import ClusterAudit.Store.Reference

/-!
# Lookups by namespace and selector

Looking records up by a namespace and a selector goes through the index, and agrees with a listing
filtered by both (`Snapshot.FindsIn`) exactly if no record leaves the namespace when others are
stored over it. From the listed records alone that can be told for namespaces with a name
(`Snapshot.LooksUp`): an object outside all namespaces may have been called `a/x`, and be replaced
by `x` of namespace `a`.

The two lookups differ on the selector that asks for nothing, which covers everything and selects
nothing.
-/

namespace ClusterAudit

namespace Snapshot

/-- Looking up in a namespace agrees with listing: a selector covers the listed records of the
namespace whose labels it covers, and it selects the same if it asks for something, and otherwise
none. -/
structure FindsIn (s : Snapshot) (kind : Kind) (records : List Resource) (space : String) : Prop
    where
  covered : ∀ selector, s.findCovered kind space selector =
    .ok (records.filter fun x => x.space = space && selector.covers x.labels)
  selected : ∀ selector, s.findSelected kind space selector = .ok (if selector.isEmpty then []
    else records.filter fun x => x.space = space && selector.covers x.labels)

/-- A kind lists its records by the octets of their names, and looking up in a namespace agrees with
listing exactly if none of the records that were stored leaves the namespace when others are stored
over it: so it does where the names of all stored records tell their parts, and where those of the
listed ones do if the namespace has a name without slash. -/
structure LooksUp (s : Snapshot) (kind : Kind) (records stored : List Resource) : Prop where
  scan : s.scan kind = .ok records
  ascending : records.Pairwise fun a b => Text.octets a.fqn.text < Text.octets b.fqn.text
  findsIn_iff : ∀ space, s.FindsIn kind records space ↔ StaysIn space stored
  findsIn_of_stored : (∀ x ∈ stored, Fqn.Plain x.space x.name) →
    ∀ space, s.FindsIn kind records space
  findsIn_of_listed : (∀ x ∈ records, Fqn.Plain x.space x.name) →
    ∀ space, '/' ∉ space.toList → space ≠ "" → s.FindsIn kind records space

variable {s : Snapshot} {kind : Kind} {records : List Resource} {space : String}

/-- A selector that asks for something selects what it covers. -/
theorem findSelected_eq {selector : Selector} (h : selector.isEmpty = false) :
    s.findSelected kind space selector = s.findCovered kind space selector := by
  simp [findSelected, findCovered, Selector.selects_eq, h]

/-- Looking up agrees with listing if the index lists the records of the namespace. -/
theorem findsIn_iff_scanNamespace : s.FindsIn kind records space ↔
    s.scanNamespace kind space = .ok (records.filter (·.space = space)) := by
  constructor
  · intro h
    have hall := h.covered .empty
    rw [findCovered] at hall
    obtain ⟨listed, hlisted, heq⟩ := map_eq_ok_iff.1 hall
    simp only [Selector.covers_empty, Bool.and_true, List.filter_true] at heq
    rw [hlisted, heq]
  · intro h
    have hcovered : ∀ selector : Selector, s.findCovered kind space selector =
        .ok (records.filter fun x => x.space = space && selector.covers x.labels) := by
      intro selector
      rw [findCovered, h, Except.map, List.filter_filter]
      simp only [Bool.and_comm]
    refine ⟨hcovered, fun selector => ?_⟩
    cases hempty : selector.isEmpty with
    | true => simp [findSelected, h, Except.map, Selector.selects_eq, hempty]
    | false => simp [findSelected_eq hempty, hcovered]

section replay
variable {r : Registry} {log : List (List Change)} (hs : s = .replay r log)
  (hscan : s.scan kind = .ok records)
include hs hscan

/-- What a replay lists it lists from the table of the records that were stored. -/
theorem records_eq_of_scan :
    r.contains kind ∧ records = (Table.ofRecords (recordsOf kind log)).scan := by
  rw [hs, scan_replay] at hscan
  split at hscan
  · rename_i hkind
    exact ⟨hkind, (Except.ok.inj hscan).symm⟩
  · cases hscan

/-- What is listed the index lists for its namespace. -/
theorem mem_scanNamespace {x : Resource} (hx : x ∈ records) :
    ∃ listed, s.scanNamespace kind x.space = .ok listed ∧ x ∈ listed := by
  obtain ⟨hkind, rfl⟩ := records_eq_of_scan hs hscan
  refine ⟨_, by rw [hs, scanNamespace_replay, if_pos hkind], ?_⟩
  have hlatest := Table.mem_scan_ofRecords.1 hx
  exact Table.mem_scanNamespace_ofRecords.2 ⟨hlatest, x, mem_of_latest? hlatest, rfl, rfl⟩

/-- Looking up in a namespace agrees with listing exactly if no record leaves the namespace. -/
theorem findsIn_iff : s.FindsIn kind records space ↔ StaysIn space (recordsOf kind log) := by
  obtain ⟨hkind, rfl⟩ := records_eq_of_scan hs hscan
  rw [findsIn_iff_scanNamespace, hs, scanNamespace_replay, if_pos hkind, Except.ok.injEq,
    Table.scanNamespace_ofRecords_iff]

end replay

/-- After a replay a registered kind lists the table of the records that were stored, and looking up
agrees with listing as far as these stay where they are. -/
theorem looksUp_replay {r : Registry} {log : List (List Change)} (hs : s = .replay r log)
    (hkind : r.contains kind) :
    s.LooksUp kind (Table.ofRecords (recordsOf kind log)).scan (recordsOf kind log) := by
  have hscan : s.scan kind = .ok (Table.ofRecords (recordsOf kind log)).scan := by
    rw [hs, scan_replay, if_pos hkind]
  refine ⟨hscan, Table.octets_scan_ofRecords, fun _ => findsIn_iff hs hscan, fun hplain space => ?_,
    fun hplain space hspace hne => (findsIn_iff hs hscan).2 (.of_plain (fun b hb => ?_) hspace hne)⟩
  · have hfixes : FixesSpace (recordsOf kind log) :=
      .of_slashFree (fun x hx => (hplain x hx).1) fun x hx => (hplain x hx).2
    exact (findsIn_iff hs hscan).2 (fixesSpace_iff.1 hfixes space)
  · exact hplain b (Table.mem_scan_ofRecords.2 hb)

end Snapshot

end ClusterAudit
