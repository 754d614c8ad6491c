/-!
# Cutting text at a mark

Text is cut at single characters: at the first mark, at the last one, or at all of them. The cuts
are defined on character lists, where joining the parts with the mark gives the text back
(`append_of_cut`, `cut_eq_none_iff`). Parts that are joined so are found again if the mark is not in
the part that it ends or starts (`split?_eq_some`, `before_eq`, `afterLast_eq`). A known start or end is dropped
as a whole (`dropStart?_append`, `dropEnd?_append`).
-/

namespace ClusterAudit.Text

/-- The characters before the first `mark` and those after it. -/
def cut (mark : Char) : List Char → Option (List Char × List Char)
  | [] => none
  | c :: rest =>
    if c = mark then some ([], rest)
    else (cut mark rest).map fun (before, after) => (c :: before, after)

/-- A list is uncut exactly when it lacks the mark. -/
theorem cut_eq_none_iff {mark : Char} {s : List Char} : cut mark s = none ↔ mark ∉ s := by
  induction s with
  | nil => simp [cut]
  | cons c rest ih =>
    by_cases h : c = mark
    · simp [cut, h]
    · simp [cut, h, ih, Ne.symm h]

/-- The parts of a cut give the list back around the mark. -/
theorem append_of_cut {mark : Char} {s before after : List Char}
    (h : cut mark s = some (before, after)) : s = before ++ mark :: after := by
  induction s generalizing before with
  | nil => simp [cut] at h
  | cons c rest ih =>
    rw [cut] at h
    split at h
    · simp_all
    · obtain ⟨⟨b, a⟩, hr, he⟩ := Option.map_eq_some_iff.1 h
      cases he
      simpa using ih hr

/-- The first part of a cut lacks the mark. -/
theorem not_mem_of_cut {mark : Char} {s before after : List Char}
    (h : cut mark s = some (before, after)) : mark ∉ before := by
  induction s generalizing before with
  | nil => simp [cut] at h
  | cons c rest ih =>
    rw [cut] at h
    split at h
    · simp_all
    · obtain ⟨⟨b, a⟩, hr, he⟩ := Option.map_eq_some_iff.1 h
      cases he
      rename_i hc
      simp [ih hr, Ne.symm hc]

/-- A first part without the mark is what a cut finds. -/
theorem cut_append {mark : Char} {before : List Char} (after : List Char) (h : mark ∉ before) :
    cut mark (before ++ mark :: after) = some (before, after) := by
  induction before with
  | nil => simp [cut]
  | cons c rest ih =>
    obtain ⟨hc, hr⟩ := not_or.1 (fun hm => h (List.mem_cons.2 hm))
    simp [cut, Ne.symm hc, ih hr]

/-- The pieces between all the marks; a list with `n` marks has `n + 1` pieces. -/
def pieces (mark : Char) : List Char → List (List Char)
  | [] => [[]]
  | c :: rest =>
    if c = mark then [] :: pieces mark rest
    else match pieces mark rest with
      | [] => [[c]]
      | p :: ps => (c :: p) :: ps

/-- What stands before the first `mark` of a text, and what stands after it. -/
def split? (mark : Char) (s : String) : Option (String × String) :=
  (cut mark s.toList).map fun (before, after) => (String.ofList before, String.ofList after)

/-- A text is unsplit exactly when it lacks the mark. -/
theorem split?_eq_none_iff {mark : Char} {s : String} : split? mark s = none ↔ mark ∉ s.toList := by
  rw [split?, Option.map_eq_none_iff, cut_eq_none_iff]

/-- A first part without the mark is what splitting finds. -/
theorem split?_eq_some {mark : Char} {s first rest : String}
    (hs : s.toList = first.toList ++ mark :: rest.toList) (h : mark ∉ first.toList) :
    split? mark s = some (first, rest) := by
  simp [split?, hs, cut_append rest.toList h]

/-- What stands before the first `mark`, or all of the text. -/
def before (mark : Char) (s : String) : String :=
  ((split? mark s).map (·.1)).getD s

/-- All of a text stands before the mark that it lacks. -/
theorem before_of_not_mem {mark : Char} {s : String} (h : mark ∉ s.toList) : before mark s = s := by
  rw [before, split?_eq_none_iff.2 h]
  rfl

/-- A first part without the mark stands before it. -/
theorem before_eq {mark : Char} {s first rest : String}
    (hs : s.toList = first.toList ++ mark :: rest.toList) (h : mark ∉ first.toList) :
    before mark s = first := by
  rw [before, split?_eq_some hs h]
  rfl

/-- What stands after the last `mark`, or all of the text. -/
def afterLast (mark : Char) (s : String) : String :=
  String.ofList (s.toList.reverse.takeWhile (· ≠ mark)).reverse

/-- A last part without the mark stands after the last one, or is all of the text. -/
theorem afterLast_eq {mark : Char} {s last : String} {front : List Char}
    (hs : s.toList = front ++ last.toList) (hfront : front = [] ∨ ∃ f, front = f ++ [mark])
    (h : mark ∉ last.toList) : afterLast mark s = last := by
  have hlast : ∀ c ∈ last.toList.reverse, decide (c ≠ mark) = true := fun c hc =>
    decide_eq_true fun heq => h (List.mem_reverse.1 (heq ▸ hc))
  have htake : s.toList.reverse.takeWhile (· ≠ mark) = last.toList.reverse := by
    rw [hs, List.reverse_append, List.takeWhile_append_of_pos hlast]
    rcases hfront with rfl | ⟨f, rfl⟩
    · exact List.append_nil _
    · rw [List.reverse_append, List.reverse_singleton, List.singleton_append,
        List.takeWhile_cons_of_neg (by simp), List.append_nil]
  rw [afterLast, htake, List.reverse_reverse, String.ofList_toList]

/-- The list after a leading `start`, if it starts so. -/
def dropStart? (start : List Char) (s : List Char) : Option (List Char) :=
  if start.isPrefixOf s then some (s.drop start.length) else none

/-- What starts a list is dropped from it. -/
theorem dropStart?_append (start rest : List Char) :
    dropStart? start (start ++ rest) = some rest := by
  rw [dropStart?, if_pos (List.isPrefixOf_iff_prefix.2 (List.prefix_append start rest)),
    List.drop_left]

/-- What starts a list stands before what is left of it. -/
theorem append_of_dropStart? {start s rest : List Char} (h : dropStart? start s = some rest) :
    start ++ rest = s := by
  rw [dropStart?] at h
  split at h
  · rename_i hprefix
    obtain ⟨tail, rfl⟩ := List.isPrefixOf_iff_prefix.1 hprefix
    cases h
    rw [List.drop_left]
  · cases h

/-- The list before a closing `stop`, if it ends so. -/
def dropEnd? (stop : List Char) (s : List Char) : Option (List Char) :=
  if stop.isSuffixOf s then some (s.take (s.length - stop.length)) else none

/-- What ends a list is dropped from it. -/
theorem dropEnd?_append (s stop : List Char) : dropEnd? stop (s ++ stop) = some s := by
  rw [dropEnd?, if_pos (List.isSuffixOf_iff_suffix.2 (List.suffix_append s stop)),
    List.length_append, Nat.add_sub_cancel, List.take_left]

/-- A list does not end in a character that it lacks. -/
theorem dropEnd?_eq_none {c : Char} {s : List Char} (h : c ∉ s) : dropEnd? [c] s = none :=
  if_neg fun hsuffix => h <|
    (List.isSuffixOf_iff_suffix.1 hsuffix).subset List.mem_cons_self

end ClusterAudit.Text
