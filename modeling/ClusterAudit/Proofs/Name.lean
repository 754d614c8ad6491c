import ClusterAudit.Name

/-!
# Names that tell their parts

Joining a namespace and a name by a slash can be undone where the first slash of the joined text is
that slash (`Fqn.parts_join`), so such names are told apart by their parts (`Fqn.Plain.eq_of_join`).
Nothing else can be undone so: a name has the parts that are before and after its first slash or, if
it has none, no namespace (`Fqn.parts_cases`). Joining these parts gives every name back but those
that start with a slash, where the namespace is empty and the slash is lost: `Fqn.join_parts_laws`.
-/

namespace ClusterAudit.Fqn

/-- A namespace without slash and a name are the parts of the name they are joined to; outside all
namespaces the name must be free of slashes too. -/
theorem parts_join {space name : String} (hspace : '/' ∉ space.toList)
    (hname : space = "" → '/' ∉ name.toList) : (join space name).parts = (space, name) := by
  rw [join]
  split
  · rename_i h
    obtain rfl := String.isEmpty_iff.1 h
    rw [parts, Text.cut_eq_none_iff.2 (hname rfl)]
  · have htext : (space ++ "/" ++ name).toList = space.toList ++ '/' :: name.toList := by
      simp
    rw [parts, htext, Text.cut_append _ hspace]
    simp

/-- A namespace without slash and a name; outside all namespaces the name is free of slashes too. -/
def Plain (space name : String) : Prop :=
  '/' ∉ space.toList ∧ (space = "" → '/' ∉ name.toList)

instance (space name : String) : Decidable (Plain space name) :=
  inferInstanceAs (Decidable (_ ∧ _))

/-- Joined names are equal only if their parts are. -/
theorem Plain.eq_of_join {space name space' name' : String} (h : Plain space name)
    (h' : Plain space' name') (heq : join space name = join space' name') :
    (space, name) = (space', name') := by
  rw [← parts_join h.1 h.2, ← parts_join h'.1 h'.2, heq]

/-! ## Names and their parts -/

variable {space name : String} {x : Fqn}

/-- Outside all namespaces a name stands alone. -/
theorem join_empty (name : String) : join "" name = ⟨name⟩ := rfl

/-- In a namespace it stands behind the namespace and a slash. -/
theorem toList_join (h : space ≠ "") (name : String) :
    (join space name).text.toList = space.toList ++ '/' :: name.toList := by
  rw [join, if_neg (mt String.isEmpty_iff.1 h)]
  simp

/-- A name is cut at its first slash, or it has no slash and no namespace. -/
theorem parts_cases (x : Fqn) :
    (∃ space name, x.parts = (space, name) ∧ '/' ∉ space.toList ∧
      x.text.toList = space.toList ++ '/' :: name.toList) ∨
    (x.parts = ("", x.text) ∧ '/' ∉ x.text.toList) := by
  rw [parts]
  split
  · rename_i before after hcut
    refine .inl ⟨_, _, rfl, ?_⟩
    rw [String.toList_ofList, String.toList_ofList]
    exact ⟨Text.not_mem_of_cut hcut, Text.append_of_cut hcut⟩
  · rename_i hcut
    exact .inr ⟨rfl, Text.cut_eq_none_iff.1 hcut⟩

/-- What a name is joined from are its parts exactly if its first slash is where they are joined. -/
theorem parts_join_iff : (join space name).parts = (space, name) ↔ Plain space name := by
  refine ⟨fun h => ?_, fun h => parts_join h.1 h.2⟩
  rcases (join space name).parts_cases with ⟨s, n, hparts, hslash, htext⟩ | ⟨hparts, hslash⟩
  · obtain ⟨rfl, rfl⟩ := Prod.mk.inj (h.symm.trans hparts)
    refine ⟨hslash, ?_⟩
    rintro rfl
    -- the name would be itself with a slash in front
    rw [join_empty] at htext
    exact absurd (congrArg List.length htext) (by simp)
  · obtain ⟨rfl, hname⟩ := Prod.mk.inj (h.symm.trans hparts)
    rw [← hname] at hslash
    exact ⟨List.not_mem_nil, fun _ => hslash⟩

/-- The parts of a name join to it again, unless it starts with a slash. -/
theorem join_parts_iff : join x.parts.1 x.parts.2 = x ↔ x.text.toList.head? ≠ some '/' := by
  rcases x.parts_cases with ⟨space, name, hparts, hslash, htext⟩ | ⟨hparts, hslash⟩
  · rw [hparts, htext]
    by_cases hspace : space = ""
    · subst hspace
      refine iff_of_false (fun heq => ?_) fun hhead => hhead rfl
      rw [← heq, join_empty] at htext
      exact absurd (congrArg List.length htext) (by simp)
    · have hjoin : join space name = x := by
        rw [← toList_join hspace, String.toList_inj] at htext
        exact congrArg mk htext.symm
      refine iff_of_true hjoin fun hhead => hslash ?_
      obtain ⟨c, rest, hcons⟩ := List.exists_cons_of_ne_nil (mt String.toList_eq_nil_iff.1 hspace)
      rw [hcons, List.cons_append, List.head?_cons, Option.some.injEq] at hhead
      rw [hcons, hhead]
      exact List.mem_cons_self
  · rw [hparts]
    exact iff_of_true rfl fun hhead => hslash (List.mem_of_mem_head? hhead)

/-- A raw text is cut as the name that it is. -/
theorem splitText_eq (raw : String) : splitText raw = (mk raw).parts := by
  rw [splitText, Text.split?, parts]
  cases Text.cut '/' raw.toList <;> rfl

/-- A name without slash has no namespace. -/
theorem space_of_isClusterScoped (h : x.isClusterScoped) : x.space = "" := by
  have hslash : '/' ∉ x.text.toList := by simpa [isClusterScoped] using h
  rcases x.parts_cases with ⟨space, name, -, -, htext⟩ | ⟨hparts, -⟩
  · exact absurd (htext ▸ List.mem_append_right _ List.mem_cons_self) hslash
  · rw [space, hparts]

/-- A namespace and a name are the parts of what they are joined to exactly if the namespace has no
slash, and the name has none if the namespace is empty; of such no two are joined to one name. The
parts of a name join to it exactly if it does not start with a slash. A raw text is cut into these
parts too, and its namespace is theirs. A name without slash has an empty namespace. -/
theorem join_parts_laws :
    (∀ space name, (join space name).parts = (space, name) ↔
      '/' ∉ space.toList ∧ (space ≠ "" ∨ '/' ∉ name.toList)) ∧
    (∀ space name space' name', Plain space name → Plain space' name' →
      join space name = join space' name' → space = space' ∧ name = name') ∧
    (∀ x : Fqn, join x.parts.1 x.parts.2 = x ↔ x.text.toList.head? ≠ some '/') ∧
    (∀ raw, splitText raw = (mk raw).parts ∧ spaceOfText raw = (mk raw).space) ∧
    ∀ x : Fqn, x.isClusterScoped → x.space = "" := by
  refine ⟨fun space name => ?_, fun space name space' name' h h' heq =>
    Prod.mk.inj (h.eq_of_join h' heq), fun x => join_parts_iff,
    fun raw => ⟨splitText_eq raw, congrArg Prod.fst (splitText_eq raw)⟩,
    fun x => space_of_isClusterScoped⟩
  rw [parts_join_iff, Plain, Decidable.imp_iff_not_or]

/-- A name with two slashes is joined from its parts and from no other plain ones, and a node has an
empty namespace. -/
theorem join_parts_laws_node :
    let pod : Fqn := ⟨"a/b/c"⟩
    let node : Fqn := ⟨"node-1"⟩
    (Plain "a" "b/c" ∧ Plain pod.space pod.name ∧ join "a" "b/c" = join pod.space pod.name ∧
      "a" = pod.space ∧ "b/c" = pod.name) ∧
    (node.isClusterScoped ∧ node.space = "") := by
  intro pod node
  obtain ⟨-, hinj, -, -, hscope⟩ := join_parts_laws
  have hab : Plain "a" "b/c" := by decide
  have hpod : Plain pod.space pod.name := by decide
  have hjoin : join "a" "b/c" = join pod.space pod.name := by decide
  have hnode : node.isClusterScoped := by decide
  exact ⟨⟨hab, hpod, hjoin, hinj _ _ _ _ hab hpod hjoin⟩, hnode, hscope node hnode⟩

/-- With a slash in the namespace, or in a name without one, another pair has the same name; and a
slash in front is lost. -/
example : join "a/b" "c" = join "a" "b/c" ∧ join "" "b/c" = join "b" "c" ∧
    join (mk "/c").space (mk "/c").name = ⟨"c"⟩ := by decide

end ClusterAudit.Fqn
