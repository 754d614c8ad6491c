import ClusterAudit.Image

/-!
# Image references by their parts

An image reference is put together from a host with a port, the segments of a path, a tag and a
digest, of which only the last segment must be there (`Image.Reference`). Each part lacks the marks
that could be taken for the end of it. So what stands before the first at sign is the reference
without its digest, what follows the last slash of that is the last segment with the tag, and what
follows the colon of that is the tag: `Image.tag?_and_isPinned_text`.
-/

namespace ClusterAudit.Image

/-- Whether a text has none of some marks in it. -/
def Lacks (marks : List Char) (s : String) : Prop := ∀ c ∈ marks, c ∉ s.toList

/-- Each of the marks is looked for; an instance for all characters would go through them all. -/
instance (marks : List Char) (s : String) : Decidable (Lacks marks s) :=
  List.decidableBAll _ marks

namespace Lacks

variable {marks marks' : List Char} {s t : String}

/-- Fewer marks are lacked too. -/
theorem mono (h : Lacks marks s) (hmarks : marks' ⊆ marks) : Lacks marks' s :=
  fun c hc => h c (hmarks hc)

/-- Two texts without the marks have none of them together. -/
theorem append (hs : Lacks marks s) (ht : Lacks marks t) : Lacks marks (s ++ t) := by
  intro c hc
  rw [String.toList_append, List.mem_append, not_or]
  exact ⟨hs c hc, ht c hc⟩

/-- So have any number of texts. -/
theorem join {l : List String} (h : ∀ s ∈ l, Lacks marks s) : Lacks marks (String.join l) := by
  intro c hc hmem
  rw [String.toList_join, List.mem_flatMap] at hmem
  obtain ⟨s, hs, hmem⟩ := hmem
  exact h s hs c hc hmem

/-- So has a part that may be left out, if it has none of them with what stands before it. -/
theorem elim {α : Type} {o : Option α} {f : α → String} (h : ∀ a ∈ o, Lacks marks (f a)) :
    Lacks marks (o.elim "" f) := by
  cases o with
  | none => exact fun c _ => List.not_mem_nil
  | some a => exact h a rfl

end Lacks

/-! ## Putting a reference together -/

/-- Where an image is kept: a host, with a port or without. -/
structure Host where
  name : String
  port : Option String
  name_lacks : Lacks ['/', '@'] name := by decide
  port_lacks : ∀ p ∈ port, Lacks ['@'] p := by decide

/-- The parts of an image reference. The path has one segment or more: the base, and others before
it. The digest is any text at all. -/
structure Reference where
  host : Option Host
  parents : List String
  base : String
  tag : Option String
  digest : Option String
  parents_lack : ∀ s ∈ parents, Lacks ['/', '@', ':'] s := by decide
  base_lacks : Lacks ['/', '@', ':'] base := by decide
  tag_lacks : ∀ t ∈ tag, Lacks ['/', '@', ':'] t := by decide

/-- The host, and the port behind a colon. -/
def Host.text (h : Host) : String := h.name ++ h.port.elim "" (":" ++ ·)

namespace Reference

/-- What stands before the last segment: the host and the other segments, a slash behind each. -/
def front (r : Reference) : String :=
  r.host.elim "" (·.text ++ "/") ++ String.join (r.parents.map (· ++ "/"))

/-- The last segment, and the tag behind a colon. -/
def rest (r : Reference) : String := r.base ++ r.tag.elim "" (":" ++ ·)

/-- The written reference; the digest stands behind an at sign. -/
def text (r : Reference) : String := r.front ++ r.rest ++ r.digest.elim "" ("@" ++ ·)

/-! ## Taking it apart -/

variable (r : Reference)

/-- What stands before the last segment is nothing, or it ends in a slash. -/
theorem front_eq : r.front.toList = [] ∨ ∃ f, r.front.toList = f ++ ['/'] := by
  rw [front, String.toList_append, String.toList_join]
  obtain hnil | ⟨init, last, hparents⟩ := List.eq_nil_or_concat r.parents
  · rw [hnil]
    cases r.host with
    | none => exact .inl rfl
    | some h => exact .inr ⟨h.text.toList, by simp⟩
  · exact .inr ⟨(r.host.elim "" (·.text ++ "/")).toList ++
      (init.map (· ++ "/")).flatMap String.toList ++ last.toList, by simp [hparents]⟩

/-- There is no at sign in it. -/
theorem front_lacks : Lacks ['@'] r.front := by
  have hslash : Lacks ['@'] "/" := by decide
  have hhost : ∀ h : Host, Lacks ['@'] h.text := fun h =>
    (h.name_lacks.mono (by simp)).append
      (.elim fun p hp => .append (by decide) (h.port_lacks p hp))
  refine .append (.elim fun h _ => (hhost h).append hslash) (.join fun s hs => ?_)
  obtain ⟨parent, hparent, rfl⟩ := List.mem_map.1 hs
  exact ((r.parents_lack parent hparent).mono (by simp)).append hslash

/-- Neither a slash nor an at sign is in the last segment or the tag. -/
theorem rest_lacks : Lacks ['/', '@'] r.rest :=
  (r.base_lacks.mono (by simp)).append
    (.elim fun t ht => .append (by decide) ((r.tag_lacks t ht).mono (by simp)))

/-- There is no at sign before the digest. -/
theorem not_mem_front_rest : '@' ∉ (r.front ++ r.rest).toList :=
  r.front_lacks.append (r.rest_lacks.mono (by simp)) '@' List.mem_cons_self

/-- The reference without its digest stands before the first at sign. -/
theorem before_text : Text.before '@' r.text = r.front ++ r.rest := by
  rw [text]
  cases r.digest with
  | none =>
    rw [Option.elim_none, String.append_empty]
    exact Text.before_of_not_mem r.not_mem_front_rest
  | some digest =>
    have htext : (r.front ++ r.rest ++ ("@" ++ digest)).toList =
        (r.front ++ r.rest).toList ++ '@' :: digest.toList := by simp
    exact Text.before_eq htext r.not_mem_front_rest

/-- Of that the last segment and the tag stand behind the last slash. -/
theorem afterLast_front_rest : Text.afterLast '/' (r.front ++ r.rest) = r.rest :=
  Text.afterLast_eq String.toList_append r.front_eq (r.rest_lacks '/' (by simp))

/-- Of that the tag stands behind the colon. -/
theorem split?_rest : (Text.split? ':' r.rest).map (·.2) = r.tag := by
  have hbase : ':' ∉ r.base.toList := r.base_lacks ':' (by simp)
  rw [rest]
  cases r.tag with
  | none =>
    rw [Option.elim_none, String.append_empty, Text.split?_eq_none_iff.2 hbase]
    rfl
  | some tag =>
    have htext : (r.base ++ (":" ++ tag)).toList = r.base.toList ++ ':' :: tag.toList := by simp
    exact congrArg (Option.map _) (Text.split?_eq_some htext hbase)

end Reference

/-- The tag of an image is the one that its reference is put together with, if any: no port is taken
for it and nothing of the digest. The image is pinned if a digest is put in. -/
theorem tag?_and_isPinned_text (r : Reference) :
    tag? r.text = r.tag ∧ (tag? r.text = none ↔ r.tag = none) ∧
      (isPinned r.text ↔ r.digest.isSome) := by
  have htag : tag? r.text = r.tag := by
    rw [tag?, r.before_text, r.afterLast_front_rest, r.split?_rest]
  refine ⟨htag, by rw [htag], ?_⟩
  rw [isPinned, List.contains_iff_mem, Reference.text, String.toList_append, List.mem_append,
    or_iff_right r.not_mem_front_rest]
  cases r.digest <;> simp

/-- A reference with a port, a tag, and a digest with all the marks in it. -/
def pinnedApp : Reference where
  host := some { name := "registry", port := some "5000" }
  parents := ["team"]
  base := "app"
  tag := some "v2"
  digest := some "sha256:a/b@c"

/-- The tag is taken neither from the port nor from the digest. -/
theorem tag?_and_isPinned_text_pinnedApp :
    pinnedApp.text = "registry:5000/team/app:v2@sha256:a/b@c" ∧
      tag? "registry:5000/team/app:v2@sha256:a/b@c" = some "v2" ∧
      isPinned "registry:5000/team/app:v2@sha256:a/b@c" := by
  obtain ⟨htag, -, hpinned⟩ := tag?_and_isPinned_text pinnedApp
  have htext : pinnedApp.text = "registry:5000/team/app:v2@sha256:a/b@c" := by decide
  rw [htext] at htag hpinned
  exact ⟨htext, htag, hpinned.2 rfl⟩

end ClusterAudit.Image
