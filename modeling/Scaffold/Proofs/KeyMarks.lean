import Scaffold.Proofs.KeyTypes

/-!
# The mark of a primary key

In the file of an entity the field of a primary key has a line with the annotation `@Id`. All other
lines start in another way, apart from those of names with line breaks, which are one line of the
code here. So there are as many marks in the file as the class has members that are primary keys.

Main statement: `Entity.count_id_file`.
-/

namespace Scaffold

open Naming Java Text

/-- The scalar members that are primary keys. -/
def Members.keys (m : Members) : List ScalarMember := m.scalars.filter (·.isPrimaryKey)

/-! ## Lines -/

/-- A text is no other if it starts with what the other does not start with. -/
theorem append_ne_of_start {start s : String} (hstart : ¬start.toList <+: s.toList)
    (rest : String) : start ++ rest ≠ s := by
  rintro rfl
  exact hstart (by simp)

theorem ne_append_of_start {start s : String} (hstart : ¬start.toList <+: s.toList)
    (rest : String) : s ≠ start ++ rest :=
  (append_ne_of_start hstart rest).symm

namespace Java

theorem indent_injective (level : Nat) : Function.Injective (indent (level + 1)) := by
  have hblank : ∀ line, pad (level + 1) ++ line ≠ "" := by
    intro line hline
    simpa [pad, Nat.mul_add] using congrArg String.toList hline
  intro a b hab
  by_cases ha : a = "" <;> by_cases hb : b = "" <;>
    simp only [indent, ha, hb, if_true, if_false] at hab
  · rw [ha, hb]
  · exact absurd hab.symm (hblank b)
  · exact absurd hab (hblank a)
  · exact String.append_right_inj _ |>.1 hab

/-- A mark in braces is one in front of which there are blanks. -/
theorem count_braced {head : String} (body : Lines) (hhead : head ++ " \x7b" ≠ indent 1 "@Id") :
    (braced head body).count (indent 1 "@Id") = body.count "@Id" := by
  have hclose : "\x7d" ≠ indent 1 "@Id" := by decide
  rw [braced, List.count_cons_of_ne hhead, List.count_append, indented,
    List.count_map_of_injective _ _ (indent_injective 0), List.count_singleton]
  simp [hclose]

theorem id_ne_indent (line : String) : "@Id" ≠ indent 1 line := by
  unfold indent
  split
  · decide
  · exact ne_append_of_start (by decide) _

/-- Code in braces has no mark without blanks in front of it. -/
theorem id_notMem_braced {head : String} (body : Lines) (hhead : head ++ " \x7b" ≠ "@Id") :
    "@Id" ∉ braced head body := by
  rw [braced, List.mem_cons, List.mem_append, List.mem_singleton, not_or, not_or]
  refine ⟨hhead.symm, fun hmem => ?_, by decide⟩
  obtain ⟨line, -, hline⟩ := List.mem_map.1 hmem
  exact id_ne_indent line hline.symm

theorem indented_zero (code : Lines) : indented 0 code = code := by
  have hindent : indent 0 = id := by
    funext line
    by_cases hempty : line = "" <;> simp [indent, pad, hempty]
  rw [indented, hindent, List.map_id]

theorem id_ne_jsonIgnore (extra : List String) : "@Id" ≠ jsonIgnore extra 0 := by
  have hpad : pad 0 = "" := rfl
  simp (disch := decide) only [jsonIgnore, hpad, String.empty_append, String.append_assoc,
    ne_append_of_start, ne_eq, not_false_eq_true]

end Java

/-! ## Fields of columns -/

namespace Constraint

variable {t : Option JavaType} {sqlType : Option String} {label : String}

/-- The annotations of texts do not mark a primary key. -/
theorem id_notMem_textAnnotations {tags : List String}
    (htags : annotations (some .string) sqlType label = .ok tags) : "@Id" ∉ tags := by
  have hrequired : "@NotBlank(message = \"" ++ (label ++ " is required\")") ≠ "@Id" :=
    append_ne_of_start (by decide) _
  have hsize : ∀ n, sizeLimit label n ≠ "@Id" := by
    intro n
    unfold sizeLimit
    simp only [toString, String.append_assoc]
    exact append_ne_of_start (by decide) _
  unfold annotations at htags
  cases hlength : sqlLength sqlType with
  | error e =>
    rw [hlength] at htags
    cases htags
  | ok length =>
    rw [hlength] at htags
    rcases length with _ | _ | n
    · cases htags
      simpa [toString, String.append_assoc] using hrequired.symm
    · cases htags
      simpa [toString, String.append_assoc] using hrequired.symm
    · cases htags
      split <;> simpa [toString, String.append_assoc, (hsize _).symm] using hrequired.symm

/-- No constraint marks a primary key. -/
theorem id_notMem_annotations {tags : List String}
    (htags : annotations t sqlType label = .ok tags) : "@Id" ∉ tags := by
  have hnull : notNull label = "@NotNull(message = \"" ++ (label ++ " is required\")") := by
    unfold notNull
    simp only [toString, String.append_assoc]
  have hother : ∀ start rest : String, ¬start.toList <+: "@Id".toList →
      "@Id" ∉ [notNull label, start ++ rest] := by
    intro start rest hstart
    rw [hnull, List.mem_pair, not_or]
    exact ⟨(append_ne_of_start (by decide) _).symm, (append_ne_of_start hstart rest).symm⟩
  by_cases htext : t = some .string
  · subst htext
    exact id_notMem_textAnnotations htags
  unfold annotations at htags
  split at htags
  · exact absurd rfl htext
  case h_8 =>
    cases htags
    rw [hnull, List.mem_singleton]
    exact (append_ne_of_start (by decide) _).symm
  all_goals
    cases htags
    simp only [toString, String.append_assoc]
    exact hother _ _ (by decide)

end Constraint

namespace Entity

variable {c : ClassNode}

/-- The annotations of a field mark it as a primary key once if it is one, and never else. -/
theorem count_id_fieldAnnotations {s : ScalarMember} {tags : List String}
    (htags : fieldAnnotations s = .ok tags) :
    tags.count "@Id" = if s.isPrimaryKey then 1 else 0 := by
  unfold fieldAnnotations at htags
  split at htags
  · next hkey =>
    obtain rfl := Except.ok.inj htags
    rw [if_pos hkey, List.count_cons_self]
    split <;> decide
  · next hkey =>
    rw [if_neg hkey]
    exact List.count_eq_zero.2 (Constraint.id_notMem_annotations htags)

/-- The declaration of a field marks it as a primary key once if it is one, and never else. -/
theorem count_id_scalarField {s : ScalarMember} {lines : Lines}
    (hlines : (scalarField c s).run.value = .ok lines) :
    lines.count "@Id" = if s.isPrimaryKey then 1 else 0 := by
  obtain ⟨tags, length, htags, rfl⟩ := exists_of_scalarField hlines
  have hcolumn : columnTag s length ≠ "@Id" := by
    unfold columnTag
    simp only [toString, String.append_assoc]
    exact append_ne_of_start (by decide) _
  have hfield : s!"private {s.javaType.name} {s.fieldName}{(initializer c s).value};" ≠ "@Id" := by
    simp only [toString, String.append_assoc]
    exact append_ne_of_start (by decide) _
  have hrest : [columnTag s length,
      s!"private {s.javaType.name} {s.fieldName}{(initializer c s).value};", ""].count "@Id" = 0 := by
    rw [List.count_eq_zero, List.mem_cons, List.mem_pair, not_or, not_or]
    exact ⟨hcolumn.symm, hfield.symm, by decide⟩
  rw [List.count_append, hrest, count_id_fieldAnnotations htags, Nat.add_zero]

/-- The declarations of some fields mark as many of them as are primary keys. -/
theorem count_id_scalarFields {l : List ScalarMember} {fields : List Lines}
    (hfields : (l.mapM (scalarField c)).run.value = .ok fields) :
    fields.flatten.count "@Id" = (l.filter (·.isPrimaryKey)).length := by
  rw [Generation.value_mapM, mapM_eq_ok_iff] at hfields
  induction hfields with
  | nil => rfl
  | @cons s lines l fields hfirst _ ih =>
    rw [List.flatten_cons, List.count_append, count_id_scalarField hfirst, ih]
    cases hkey : s.isPrimaryKey with
    | true =>
      rw [List.filter_cons_of_pos hkey, List.length_cons]
      exact Nat.add_comm _ _
    | false => simp [hkey]

/-! ## The rest of an entity -/

theorem id_notMem_annotations (ctx : Context) (c : ClassNode) :
    indent 1 "@Id" ∉ annotations ctx c := by
  unfold annotations
  dsimp only
  split <;> split <;>
    simp (disch := decide) [toString, String.append_assoc, ne_append_of_start] <;> decide

theorem head_ne_id (ctx : Context) (c : ClassNode) : head ctx c ++ " \x7b" ≠ indent 1 "@Id" := by
  unfold head
  split
  all_goals
    simp only [toString, String.append_assoc]
    exact append_ne_of_start (by decide) _

theorem id_notMem_referenceField (r : ReferenceMember) : "@Id" ∉ referenceField r := by
  simp (disch := decide) [referenceField, id_ne_jsonIgnore, toString, String.append_assoc,
    ne_append_of_start]

theorem id_notMem_listField (related field : String) : "@Id" ∉ listField related field := by
  simp (disch := decide) [listField, toString, String.append_assoc, ne_append_of_start]

theorem id_notMem_oneToManyField (l : OneToMany) : "@Id" ∉ oneToManyField l := by
  simp (disch := decide) [oneToManyField, id_ne_jsonIgnore, id_notMem_listField, toString,
    String.append_assoc, ne_append_of_start]

theorem id_notMem_manyToManyField (l : ManyToMany) : "@Id" ∉ manyToManyField l := by
  have hpair : "@Id" ∉ pairAnnotations l.pairEnd := by
    cases l.pairEnd with
    | owner table =>
      simp [pairAnnotations, indented, id_ne_indent]
    | inverse mappedBy =>
      simp (disch := decide) [pairAnnotations, toString, String.append_assoc, ne_append_of_start]
  simp [manyToManyField, hpair, id_ne_jsonIgnore, id_notMem_listField]

/-- Accessors have no mark. -/
theorem id_notMem_accessors (p : Property) : "@Id" ∉ p.code := by
  have hget : s!"public {p.type} {p.accessors.getter}()" ++ " \x7b" ≠ "@Id" := by
    simp only [toString, String.append_assoc]
    exact append_ne_of_start (by decide) _
  have hset : s!"public void {p.accessors.setter}({p.type} {p.field})" ++ " \x7b" ≠ "@Id" := by
    simp only [toString, String.append_assoc]
    exact append_ne_of_start (by decide) _
  rw [Property.code, Java.accessors, indented_zero]
  simp [id_notMem_braced _ hget, id_notMem_braced _ hset]

theorem id_notMem_keySetter (r : ReferenceMember) : "@Id" ∉ (keySetter r).written := by
  unfold keySetter
  split
  · simp
  · have hhead : s!"public void {keySetterName r}(Object idOrEntity)" ++ " \x7b" ≠ "@Id" := by
      simp only [toString, String.append_assoc]
      exact append_ne_of_start (by decide) _
    have htag : "@Id" ≠ s!"@JsonSetter(\"{r.fieldName}FromId\")" := by
      simp only [toString, String.append_assoc]
      exact ne_append_of_start (by decide) _
    simp [Statements.written_braced, id_notMem_braced _ hhead, htag]

theorem id_notMem_equalsAndHash (name : String) (fields : List String) :
    "@Id" ∉ equalsAndHash name fields 0 := by
  have hequals : "public boolean equals(Object o)" ++ " \x7b" ≠ "@Id" := by decide
  have hhash : "public int hashCode()" ++ " \x7b" ≠ "@Id" := by decide
  rw [equalsAndHash, indented_zero]
  simp [id_notMem_braced _ hequals, id_notMem_braced _ hhash]

/-- In the file of an entity as many lines are marks as the class has primary keys. -/
theorem count_id_file {ctx : Context} {c : ClassNode} {f : SourceFile}
    (hf : (file ctx c).run.value = .ok f) :
    f.body.count (indent 1 "@Id") = (ctx.membersOf c).keys.length := by
  obtain ⟨scalarFields, hfields, hf, -⟩ := Generation.bind_ok hf
  obtain ⟨keySetters, -, hf, -⟩ := Generation.bind_ok hf
  cases hf
  have hnone : ∀ {α : Type} (l : List α) {code : α → Lines}, (∀ a, "@Id" ∉ code a) →
      (l.flatMap code).count "@Id" = 0 := by
    intro α l code hcode
    rw [List.count_eq_zero, List.mem_flatMap]
    rintro ⟨a, -, ha⟩
    exact hcode a ha
  have hconstructor : s!"public {c.name}()" ++ " \x7b" ≠ "@Id" := by
    simp only [toString, String.append_assoc]
    exact append_ne_of_start (by decide) _
  have hsetters : (keySetterCode keySetters).written =
      keySetters.flatMap fun r => (keySetter r).written := List.map_flatMap
  have hblank : [""].count "@Id" = 0 := by decide
  simp only [List.count_append, count_braced _ (head_ne_id ctx c), hsetters, hblank,
    List.count_eq_zero.2 (id_notMem_annotations ctx c), count_id_scalarFields hfields,
    hnone _ id_notMem_referenceField, hnone _ id_notMem_oneToManyField,
    hnone _ id_notMem_manyToManyField, hnone _ id_notMem_accessors, hnone _ id_notMem_keySetter,
    List.count_eq_zero.2 (id_notMem_braced _ hconstructor),
    List.count_eq_zero.2 (id_notMem_equalsAndHash _ _), Nat.zero_add, Nat.add_zero]
  rfl

end Entity

end Scaffold
