/-!
# Blank characters

The characters of the Unicode property `White_Space`, which are more than those of
`Char.isWhitespace`, and trimming by them: nothing else is lost at the ends
(`exists_eq_append_trimList`), and what stands between blanks is what is left (`trimList_append`).
-/

namespace ClusterAudit.Text

/-- Whether a character has the property `White_Space`. -/
def isBlank (c : Char) : Bool :=
  let n := c.toNat
  (9 ≤ n && n ≤ 13) || n == 0x20 || n == 0x85 || n == 0xA0 || n == 0x1680
    || (0x2000 ≤ n && n ≤ 0x200A) || n == 0x2028 || n == 0x2029 || n == 0x202F || n == 0x205F
    || n == 0x3000

/-- A digit is no blank. -/
theorem not_isBlank_of_isDigit {d : Char} (h : d.isDigit) : ¬ isBlank d := by
  rw [Char.isDigit, Bool.and_eq_true, decide_eq_true_iff, decide_eq_true_iff] at h
  have hzero : 48 ≤ d.toNat := h.1
  have hnine : d.toNat ≤ 57 := h.2
  simp [isBlank]
  omega

/-- The list without the blanks at both ends. -/
def trimList (s : List Char) : List Char :=
  ((s.dropWhile isBlank).reverse.dropWhile isBlank).reverse

/-- Nothing but blanks at both ends is missing from the trimmed list. -/
theorem exists_eq_append_trimList (s : List Char) : ∃ before after,
    s = before ++ trimList s ++ after ∧ (∀ c ∈ before, isBlank c) ∧ ∀ c ∈ after, isBlank c := by
  let rest := s.dropWhile isBlank
  refine ⟨s.takeWhile isBlank, (rest.reverse.takeWhile isBlank).reverse, ?_,
    List.all_eq_true.1 List.all_takeWhile, fun c hc => ?_⟩
  · have hrest : trimList s ++ (rest.reverse.takeWhile isBlank).reverse = rest := by
      rw [trimList, ← List.reverse_append, List.takeWhile_append_dropWhile, List.reverse_reverse]
    rw [List.append_assoc, hrest, List.takeWhile_append_dropWhile]
  · exact List.all_eq_true.1 List.all_takeWhile c (List.mem_reverse.1 hc)

/-- What stands between blanks and holds none is what is left when they are trimmed. -/
theorem trimList_append {before core after : List Char} (hbefore : ∀ c ∈ before, isBlank c)
    (hcore : ∀ c ∈ core, ¬ isBlank c) (hafter : ∀ c ∈ after, isBlank c) :
    trimList (before ++ core ++ after) = core := by
  have hkeep : ∀ {l : List Char}, (∀ c ∈ l, ¬ isBlank c) → l.dropWhile isBlank = l := by
    intro l hl
    cases l with
    | nil => rfl
    | cons c rest => exact List.dropWhile_cons_of_neg (hl c List.mem_cons_self)
  rw [trimList, List.append_assoc, List.dropWhile_append_of_pos hbefore]
  cases core with
  | nil =>
    rw [List.nil_append, ← List.append_nil after, List.dropWhile_append_of_pos hafter]
    rfl
  | cons c rest =>
    rw [List.cons_append, List.dropWhile_cons_of_neg (hcore c List.mem_cons_self),
      ← List.cons_append, List.reverse_append,
      List.dropWhile_append_of_pos fun d hd => hafter d (List.mem_reverse.1 hd),
      hkeep fun d hd => hcore d (List.mem_reverse.1 hd), List.reverse_reverse]

/-- The text without the blanks at both ends. -/
def trim (s : String) : String := String.ofList (trimList s.toList)

end ClusterAudit.Text
