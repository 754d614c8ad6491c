import ClusterAudit.Glossary
import Mathlib.Data.List.Basic

/-!
# Messages from templates

A template is cut at its leftmost placeholder, and the rest again (`Template.Cuts`); this can be
done in one way only, and the pieces are what it leaves (`Template.cuts_iff`). A message has the
pieces in their places and fills the gaps from the left, with the arguments first and with
placeholders where these run out (`Template.join_eq_weave`). Only the template is searched for
placeholders, so nothing inside an argument is replaced: `Glossary.render_weaves_arguments`.
-/

namespace ClusterAudit

namespace Template

variable {c : Char} {t p : List Char} {ps : List (List Char)}

/-! ## Cutting at placeholders -/

/-- A template cut at its placeholders: where none starts, it is a piece; otherwise the text before
the leftmost one is a piece, and the text behind it is cut further. -/
inductive Cuts : List Char → List (List Char) → Prop
  | last {t : List Char} (h : ∀ k, ¬ hole <+: t.drop k) : Cuts t [t]
  | leftmost {p t : List Char} {ps : List (List Char)}
    (h : ∀ k < p.length, ¬ hole <+: (p ++ hole ++ t).drop k) (rest : Cuts t ps) :
    Cuts (p ++ hole ++ t) (p :: ps)

/-- A character that starts no placeholder belongs to the first piece. -/
theorem Cuts.cons (hc : ¬ hole <+: c :: t) (h : Cuts t (p :: ps)) :
    Cuts (c :: t) ((c :: p) :: ps) := by
  cases h with
  | last h =>
    refine .last fun k => ?_
    cases k with
    | zero => exact hc
    | succ k => exact h k
  | @leftmost _ t _ h rest =>
    refine .leftmost (p := c :: p) (fun k hk => ?_) rest
    cases k with
    | zero => exact hc
    | succ k => exact h k (Nat.lt_of_succ_lt_succ hk)

/-- Pieces behind a character that starts no placeholder. -/
theorem pieces_cons (hc : ¬ hole <+: c :: t) (h : pieces t = p :: ps) :
    pieces (c :: t) = (c :: p) :: ps := by
  unfold pieces
  split
  · rename_i heq
    cases heq
  · rename_i rest heq
    exact absurd (heq ▸ List.prefix_append hole rest) hc
  · rename_i heq
    cases heq
    rw [h]

/-- Cutting leaves a piece at least. -/
theorem Cuts.ne_nil (h : Cuts t ps) : ps ≠ [] := by
  cases h <;> exact List.cons_ne_nil _ _

/-- The pieces of a template are left when it is cut. -/
theorem cuts_pieces (t : List Char) : Cuts t (pieces t) := by
  fun_induction pieces t with
  | case1 => exact .last fun k => by simp [hole]
  | case2 rest ih => exact .leftmost (p := []) (fun k hk => absurd hk (Nat.not_lt_zero k)) ih
  | case3 c rest _ hnil ih => exact absurd hnil ih.ne_nil
  | case4 c rest hc p ps hpieces ih =>
    rw [hpieces] at ih
    refine ih.cons fun hprefix => ?_
    obtain ⟨rest', heq⟩ := hprefix
    cases heq
    exact hc rest' rfl rfl

/-- Nothing else is left when it is cut. -/
theorem Cuts.eq_pieces (h : Cuts t ps) : ps = pieces t := by
  induction h with
  | @last t h =>
    induction t with
    | nil => rfl
    | cons c t ih => exact (pieces_cons (h 0) (ih fun k => h (k + 1)).symm).symm
  | @leftmost p t ps h _ ih =>
    subst ih
    induction p with
    | nil => rfl
    | cons c p ih =>
      have hrest := ih fun k hk => h (k + 1) (Nat.succ_lt_succ hk)
      exact (pieces_cons (h 0 (Nat.zero_lt_succ _)) hrest.symm).symm

/-- A template can be cut in one way. -/
theorem cuts_iff : Cuts t ps ↔ ps = pieces t :=
  ⟨Cuts.eq_pieces, fun h => h ▸ cuts_pieces t⟩

/-! ## Filling the gaps -/

/-- The first piece, and behind it each other piece after what fills the gap before it. -/
def weave (p : List Char) (fillers ps : List (List Char)) : List Char :=
  p ++ (List.zipWith (· ++ ·) fillers ps).flatten

/-- What fills a number of gaps: the arguments in order, as many as there are gaps, and placeholders
in the gaps that are left. -/
def fillers (gaps : Nat) (args : List String) : List (List Char) :=
  (args.take gaps).map String.toList ++ List.replicate (gaps - args.length) hole

/-- One piece more comes behind what fills the gap before it. -/
theorem weave_cons (p f q : List Char) (fs ps : List (List Char)) :
    weave p (f :: fs) (q :: ps) = p ++ f ++ weave q fs ps := by
  simp [weave]

/-- Without arguments all gaps are filled with placeholders. -/
theorem fillers_nil (gaps : Nat) : fillers gaps [] = List.replicate gaps hole := by
  simp [fillers]

/-- The first argument fills the first gap. -/
theorem fillers_cons (gaps : Nat) (a : String) (args : List String) :
    fillers (gaps + 1) (a :: args) = a.toList :: fillers gaps args := by
  simp [fillers]

/-- The text of a template is its pieces with placeholders between them. -/
theorem Cuts.weave_holes (h : Cuts t (p :: ps)) :
    weave p (List.replicate ps.length hole) ps = t := by
  generalize hall : p :: ps = all at h
  induction h generalizing p ps with
  | last _ =>
    cases hall
    exact List.append_nil _
  | leftmost _ rest ih =>
    cases hall
    obtain ⟨q, qs, rfl⟩ := List.exists_cons_of_ne_nil rest.ne_nil
    rw [List.length_cons, List.replicate_succ, weave_cons, ih rfl]

/-- The pieces are joined with what fills the gaps. -/
theorem join_eq_weave (p : List Char) (ps : List (List Char)) (args : List String) :
    join (p :: ps) args = weave p (fillers ps.length args) ps := by
  induction ps generalizing p args with
  | nil => simp [join, weave]
  | cons q ps ih =>
    cases args with
    | nil =>
      show p ++ hole ++ join (q :: ps) [] = _
      rw [ih, List.length_cons, fillers_nil, fillers_nil, List.replicate_succ, weave_cons]
    | cons a args =>
      show p ++ a.toList ++ join (q :: ps) args = _
      rw [ih, List.length_cons, fillers_cons, weave_cons]

/-- A template is filled by weaving. -/
theorem fill_eq_weave {template : String} (h : Cuts template.toList (p :: ps))
    (args : List String) :
    fill template args = String.ofList (weave p (fillers ps.length args) ps) := by
  rw [fill, ← h.eq_pieces, join_eq_weave]

/-- Without arguments a template stays as it is. -/
theorem fill_nil (template : String) : fill template [] = template := by
  obtain ⟨p, ps, hpieces⟩ := List.exists_cons_of_ne_nil (cuts_pieces template.toList).ne_nil
  have hcuts := hpieces ▸ cuts_pieces template.toList
  rw [fill_eq_weave hcuts, fillers_nil, hcuts.weave_holes, String.ofList_toList]

end Template

namespace Glossary

variable {g : Glossary} {code : Code} {spec : CodeSpec}

/-- The message of a known code is the heading and the filled template. -/
theorem render_of_get? (h : g.get? code = some spec) (args : List String) : g.render code args =
    some ("[" ++ g.label ++ "-" ++ code.text ++ "] " ++ Template.fill spec.template args) := by
  rw [render, h]
  rfl

/-- The message of a known code is the label and the code in brackets, a blank, and the template
with its placeholders filled. The template is cut at its placeholders from the left, in the one way
in which this can be done, and all its other characters keep their places. The gaps are filled from
the left with the arguments as they are; gaps without an argument keep their placeholders, arguments
without a gap are left out, and without arguments nothing is changed. -/
theorem render_weaves_arguments (h : g.get? code = some spec) :
    let heading := "[" ++ g.label ++ "-" ++ code.text ++ "] "
    (∃ p ps, (∀ pieces, Template.Cuts spec.template.toList pieces ↔ pieces = p :: ps) ∧
      spec.template.toList = Template.weave p (List.replicate ps.length Template.hole) ps ∧
      ∀ args : List String, g.render code args =
        some (heading ++ String.ofList (Template.weave p
          ((args.take ps.length).map String.toList ++
            List.replicate (ps.length - args.length) Template.hole) ps))) ∧
    g.render code [] = some (heading ++ spec.template) := by
  intro heading
  have hcuts := Template.cuts_pieces spec.template.toList
  obtain ⟨p, ps, hpieces⟩ := List.exists_cons_of_ne_nil hcuts.ne_nil
  rw [hpieces] at hcuts
  refine ⟨⟨p, ps, fun pieces => ?_, hcuts.weave_holes.symm, fun args => ?_⟩, ?_⟩
  · rw [Template.cuts_iff, hpieces]
  · rw [render_of_get? h, Template.fill_eq_weave hcuts]
    rfl
  · rw [render_of_get? h, Template.fill_nil]

/-- A glossary of one code, whose template has braces around a placeholder. -/
def braced : Glossary :=
  ⟨"CHK", .ofList [(1, ⟨"\x7b\x7b\x7d\x7d and \x7b\x7d", .info⟩)]⟩

/-- The placeholder is the inner pair of braces; the pair that an argument brings is none, and the
second gap keeps its placeholder. -/
theorem render_weaves_arguments_braced :
    braced.get? 1 = some ⟨"\x7b\x7b\x7d\x7d and \x7b\x7d", .info⟩ ∧
    Template.Cuts "\x7b\x7b\x7d\x7d and \x7b\x7d".toList ["\x7b".toList, "\x7d and ".toList, []] ∧
    braced.render 1 ["<\x7b\x7d>"] = some "[CHK-1] \x7b<\x7b\x7d>\x7d and \x7b\x7d" ∧
    braced.render 1 ["a", "b", "c"] = some "[CHK-1] \x7ba\x7d and b" ∧
    braced.render 1 [] = some "[CHK-1] \x7b\x7b\x7d\x7d and \x7b\x7d" := by
  have hget : braced.get? 1 = some ⟨"\x7b\x7b\x7d\x7d and \x7b\x7d", .info⟩ := by decide
  obtain ⟨⟨p, ps, hcut, -, hrender⟩, hnone⟩ := render_weaves_arguments hget
  have hcuts := Template.cuts_iff.2 (show ["\x7b".toList, "\x7d and ".toList, []] =
    Template.pieces "\x7b\x7b\x7d\x7d and \x7b\x7d".toList by decide)
  obtain ⟨rfl, rfl⟩ := List.cons.inj ((hcut _).1 hcuts)
  exact ⟨hget, hcuts, (hrender _).trans (by decide), (hrender _).trans (by decide), hnone⟩

end Glossary

end ClusterAudit
