import ClusterAudit.Proofs.Address.Block
import Mathlib.Data.List.Basic

/-!
# Matching an address against a block with exceptions

Matching reads the address, the block and all exceptions before it compares any of them. So it fails
exactly if one of these texts is malformed, for the first one in this order (`Malformed`), wherever
the address lies. What it answers otherwise depends on which exceptions there are and not on how they
are listed (`IsAnswer`): an exception that is added can only take addresses out of the block.
-/

namespace ClusterAudit

variable {ip block : String} {except others : List String} {e : AddressError} {inside : Bool}

/-- The first malformed text of a match: the address; or the block, after an address; or an
exception, after an address, a block and well-formed exceptions. -/
inductive Malformed (ip block : String) (except : List String) : AddressError → Prop
  | ip (h : parseIp ip = .error (.invalidIp ip)) : Malformed ip block except (.invalidIp ip)
  | block {x : Ip} {reason : String} (hip : parseIp ip = .ok x)
    (h : Cidr.parse block = .error (.invalidCidr block reason)) :
    Malformed ip block except (.invalidCidr block reason)
  | except {x : Ip} {b : Cidr} {before after : List String} {text reason : String}
    (hip : parseIp ip = .ok x) (hblock : Cidr.parse block = .ok b)
    (hexcept : except = before ++ text :: after)
    (hbefore : ∀ t ∈ before, ∃ c, Cidr.parse t = .ok c)
    (h : Cidr.parse text = .error (.invalidCidr text reason)) :
    Malformed ip block except (.invalidCidr text reason)

/-- The answer to a match of which no text is malformed: whether the address lies in the block and
in none of the exceptions. -/
def IsAnswer (ip block : String) (except : List String) (inside : Bool) : Prop :=
  ∃ x b, parseIp ip = .ok x ∧ Cidr.parse block = .ok b ∧
    (∀ text ∈ except, ∃ c, Cidr.parse text = .ok c) ∧
    (inside ↔ b.contains x ∧ ∀ text ∈ except, ∀ c, Cidr.parse text = .ok c → ¬ c.contains x)

/-! ## Reading the exceptions -/

/-- The error of a text that is no address names the text. -/
theorem eq_invalidIp_of_parseIp (h : parseIp ip = .error e) : e = .invalidIp ip := by
  unfold parseIp at h
  split at h
  · cases h
  · cases h
    rfl

/-- Exceptions are read up to the first that is malformed. -/
theorem scans_parseCidrs (texts : List String) :
    Scans (fun text => error? (Cidr.parse text)) texts (parseCidrs texts) := by
  induction texts with
  | nil => exact .ok _ _
  | cons text rest ih =>
    have hhead : Scans (fun text => error? (Cidr.parse text)) [text] (Cidr.parse text) := by
      rw [Scans, List.findSome?_singleton]
    exact hhead.bind fun b => ih.bind_ok (b :: ·)

/-- Of the blocks that are read one is of a sort if an exception spells one of the sort. -/
theorem any_of_parseCidrs {texts : List String} {blocks : List Cidr}
    (h : parseCidrs texts = .ok blocks) (p : Cidr → Bool) :
    blocks.any p ↔ ∃ text ∈ texts, ∃ c, Cidr.parse text = .ok c ∧ p c := by
  induction texts generalizing blocks with
  | nil =>
    cases h
    simp
  | cons text rest ih =>
    obtain ⟨c, hc, h⟩ := bind_eq_ok_iff.1 h
    obtain ⟨cs, hcs, h⟩ := bind_eq_ok_iff.1 h
    cases h
    rw [List.any_cons, Bool.or_eq_true, ih hcs, List.exists_mem_cons_iff]
    exact or_congr_left (by simp [hc])

/-- Exceptions can be read if none is malformed. -/
theorem exists_parseCidrs_iff {texts : List String} :
    (∃ blocks, parseCidrs texts = .ok blocks) ↔ ∀ text ∈ texts, ∃ c, Cidr.parse text = .ok c := by
  rw [(scans_parseCidrs texts).exists_eq_ok_iff]
  exact forall₂_congr fun text _ => error?_eq_none_iff

/-- What is compared with the blocks that are read is what the exceptions spell. -/
theorem outside_iff {b : Cidr} {x : Ip} {blocks : List Cidr}
    (h : parseCidrs except = .ok blocks) :
    (b.contains x && !blocks.any (·.contains x)) ↔
      b.contains x ∧ ∀ text ∈ except, ∀ c, Cidr.parse text = .ok c → ¬ c.contains x := by
  rw [Bool.and_eq_true, Bool.not_eq_true', Bool.eq_false_iff, ne_eq, any_of_parseCidrs h]
  simp only [not_exists, not_and]

/-! ## Matching -/

/-- Matching fails for the first malformed text. -/
theorem matchesCidrExcept_eq_error_iff :
    matchesCidrExcept ip block except = .error e ↔ Malformed ip block except e := by
  simp only [matchesCidrExcept, bind_eq_error_iff, (scans_parseCidrs except).eq_error_iff,
    error?_eq_some_iff, error?_eq_none_iff, reduceCtorEq, and_false, exists_false, or_false]
  constructor
  · rintro (h | ⟨x, hip, h | ⟨b, hblock, before, text, after, hexcept, h, hbefore⟩⟩)
    · obtain rfl := eq_invalidIp_of_parseIp h
      exact .ip h
    · obtain ⟨reason, rfl⟩ := Cidr.eq_invalidCidr_of_parse h
      exact .block hip h
    · obtain ⟨reason, rfl⟩ := Cidr.eq_invalidCidr_of_parse h
      exact .except hip hblock hexcept hbefore h
  · rintro (h | ⟨hip, h⟩ | ⟨hip, hblock, hexcept, hbefore, h⟩)
    · exact .inl h
    · exact .inr ⟨_, hip, .inl h⟩
    · exact .inr ⟨_, hip, .inr ⟨_, hblock, _, _, _, hexcept, h, hbefore⟩⟩

/-- Matching succeeds if nothing is malformed, with the answer that is due. -/
theorem matchesCidrExcept_eq_ok_iff :
    matchesCidrExcept ip block except = .ok inside ↔ IsAnswer ip block except inside := by
  simp only [matchesCidrExcept, bind_eq_ok_iff, Except.ok.injEq, IsAnswer]
  refine exists_congr fun x => ?_
  constructor
  · rintro ⟨hip, b, hblock, blocks, hblocks, rfl⟩
    exact ⟨b, hip, hblock, exists_parseCidrs_iff.1 ⟨blocks, hblocks⟩, outside_iff hblocks⟩
  · rintro ⟨b, hip, hblock, hall, hinside⟩
    obtain ⟨blocks, hblocks⟩ := exists_parseCidrs_iff.2 hall
    exact ⟨hip, b, hblock, blocks, hblocks,
      Bool.eq_iff_iff.2 ((outside_iff hblocks).trans hinside.symm)⟩

/-- Some text is the first malformed one if any is. -/
theorem exists_malformed_iff : (∃ e, Malformed ip block except e) ↔
    (∃ e, parseIp ip = .error e) ∨ ∃ text ∈ block :: except, ∃ e, Cidr.parse text = .error e := by
  simp only [← matchesCidrExcept_eq_error_iff, matchesCidrExcept, List.exists_mem_cons_iff]
  cases parseIp ip with
  | error e => simp [bind, Except.bind]
  | ok x =>
    cases Cidr.parse block with
    | error e => simp [bind, Except.bind]
    | ok b =>
      have hexcept := (scans_parseCidrs except).exists_eq_error_iff
      simp only [error?_eq_some_iff] at hexcept
      simpa [bind_eq_error_iff] using hexcept

/-- There is an answer if nothing is malformed. -/
theorem exists_matchesCidrExcept_eq_ok {x : Ip} {b : Cidr} (hip : parseIp ip = .ok x)
    (hblock : Cidr.parse block = .ok b) (hall : ∀ text ∈ except, ∃ c, Cidr.parse text = .ok c) :
    ∃ inside, matchesCidrExcept ip block except = .ok inside := by
  obtain ⟨blocks, hblocks⟩ := exists_parseCidrs_iff.2 hall
  rw [matchesCidrExcept, hip, hblock, hblocks]
  exact ⟨_, rfl⟩

/-- The answer does not depend on how the exceptions are listed. -/
theorem IsAnswer.of_mem_iff (h : IsAnswer ip block except inside)
    (hothers : ∀ text, text ∈ others ↔ text ∈ except) : IsAnswer ip block others inside := by
  simpa only [IsAnswer, hothers] using h

/-- Exceptions that are left out put no address outside. -/
theorem IsAnswer.of_subset (h : IsAnswer ip block others true) (hothers : except ⊆ others) :
    IsAnswer ip block except true := by
  obtain ⟨x, b, hip, hblock, hall, hinside⟩ := h
  obtain ⟨hcontains, hnone⟩ := hinside.1 rfl
  exact ⟨x, b, hip, hblock, fun text ht => hall text (hothers ht),
    iff_of_true rfl ⟨hcontains, fun text ht => hnone text (hothers ht)⟩⟩

/-- Without exceptions it is the block alone that is matched. -/
theorem matchesCidrExcept_nil (ip block : String) :
    matchesCidrExcept ip block [] = matchesCidr ip block := by
  rw [matchesCidrExcept, matchesCidr]
  simp [parseCidrs, bind, Except.bind]

/-- Matching an address against a block with exceptions fails exactly if the address, the block or
any exception is malformed, for the first that is. Otherwise it answers whether the address lies in
the block and in no exception. The answer is the same for all lists of the same exceptions, in any
order and however often each of them occurs; it does not turn true by exceptions that are added; and
without exceptions it is that of the block. -/
theorem matchesCidrExcept_reads_all (ip block : String) (except : List String) :
    (∀ e, matchesCidrExcept ip block except = .error e ↔ Malformed ip block except e) ∧
    ((∃ e, matchesCidrExcept ip block except = .error e) ↔ (∃ e, parseIp ip = .error e) ∨
      ∃ text ∈ block :: except, ∃ e, Cidr.parse text = .error e) ∧
    (∀ inside, matchesCidrExcept ip block except = .ok inside ↔
      IsAnswer ip block except inside) ∧
    (∀ others inside, (∀ text, text ∈ others ↔ text ∈ except) →
      matchesCidrExcept ip block except = .ok inside →
      matchesCidrExcept ip block others = .ok inside) ∧
    (∀ others, except ⊆ others → matchesCidrExcept ip block others = .ok true →
      matchesCidrExcept ip block except = .ok true) ∧
    matchesCidrExcept ip block [] = matchesCidr ip block := by
  refine ⟨fun e => matchesCidrExcept_eq_error_iff, ?_, fun inside => matchesCidrExcept_eq_ok_iff,
    fun others inside hothers h => ?_, fun others hothers h => ?_, matchesCidrExcept_nil ip block⟩
  · rw [← exists_malformed_iff]
    exact exists_congr fun e => matchesCidrExcept_eq_error_iff
  · exact matchesCidrExcept_eq_ok_iff.2 ((matchesCidrExcept_eq_ok_iff.1 h).of_mem_iff hothers)
  · exact matchesCidrExcept_eq_ok_iff.2 ((matchesCidrExcept_eq_ok_iff.1 h).of_subset hothers)

/-- An address outside two exceptions is matched, also if one of them is listed twice or not at
all. -/
theorem matchesCidrExcept_reads_all_relisted :
    let ip := " 10.1.2.3"
    let block := "10.0.0.0/8"
    let except := ["10.2.0.0/16", "192.168.0.0/16"]
    let others := ["192.168.0.0/16", "10.2.0.0/16", "192.168.0.0/16"]
    let fewer := ["10.2.0.0/16"]
    (∀ text, text ∈ others ↔ text ∈ except) ∧ fewer ⊆ except ∧
    matchesCidrExcept ip block except = .ok true ∧ matchesCidrExcept ip block others = .ok true ∧
    matchesCidrExcept ip block fewer = .ok true := by
  intro ip block except others fewer
  have hothers : ∀ text, text ∈ others ↔ text ∈ except := by
    intro text
    simp only [others, except, List.mem_cons, List.not_mem_nil, or_false]
    tauto
  have hfewer : fewer ⊆ except := by decide
  have hmatches : matchesCidrExcept ip block except = .ok true := by decide
  exact ⟨hothers, hfewer, hmatches,
    (matchesCidrExcept_reads_all ip block except).2.2.2.1 others true hothers hmatches,
    (matchesCidrExcept_reads_all ip block fewer).2.2.2.2.1 except hfewer hmatches⟩

end ClusterAudit
