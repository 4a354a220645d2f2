import Scaffold.Diagram.Export
import Scaffold.Proofs.Shown

/-!
# Records that are written and read

Reading rewrites what a record says in more than one way: a blank type becomes none, an empty name
the default. What comes out is `Normal`, which is all that reading again depends on. So a normal
record that is written is read as it was. Both hold for attributes and for edges.

Main statements: `Attribute.normal_of_read` and `Relationship.normal_of_read` (what is read is
normal), `Attribute.read_written` and `Relationship.read_written` (what is written is read).
-/

namespace Scaffold

open Json Record

/-! ## Parts that are read -/

namespace Checked

variable {α β : Type}

theorem map_eq_valid {f : α → β} {x : Checked α} {b : β} :
    f <$> x = .valid b ↔ ∃ a, x = .valid a ∧ f a = b := by
  change x.map f = .valid b ↔ _
  cases x <;> simp [map]

theorem seq_eq_valid {f : Checked (α → β)} {x : Checked α} {b : β} :
    f <*> x = .valid b ↔ ∃ g a, f = .valid g ∧ x = .valid a ∧ g a = b := by
  change f.both x = .valid b ↔ _
  cases f <;> cases x <;> simp [both]

theorem under_eq_valid {step : PathStep} {x : Checked α} {a : α} :
    x.under step = .valid a ↔ x = .valid a := by
  cases x <;> simp [under]

theorem orError_eq_ok {x : Checked α} {error : List Issue → DocumentError} {a : α} :
    x.orError error = .ok a ↔ x = .valid a := by
  cases x <;> simp [orError]

end Checked

namespace Record

@[simp] theorem FieldName.camel_word (s : String) : (FieldName.word s).camel = s := rfl

variable {α : Type} {f : Fields} {name : FieldName} {a : α}

/-- A field that was read is the default or was read from a value. -/
theorem fieldOr_eq_valid {default : α} {read : Value → Checked α}
    (hread : fieldOr f name default read = .valid a) : a = default ∨ ∃ v, read v = .valid a := by
  unfold fieldOr at hread
  split at hread
  · next v _ => exact .inr ⟨v, Checked.under_eq_valid.1 hread⟩
  · exact .inl (by cases hread; rfl)

/-- A text that is there is not blank. -/
def Inked (o : Option String) : Prop := ∀ s ∈ o, Text.isBlankText s = false

theorem inked_of_read {o : Option String}
    (hread : fieldOr f name none textOrBlank = .valid o) : Inked o := by
  rcases fieldOr_eq_valid hread with rfl | ⟨v, hv⟩
  · simp [Inked]
  · cases v with
    | null => cases hv; simp [Inked]
    | str s =>
      cases hv
      intro t ht
      split at ht
      · cases ht
      · next hs =>
        cases ht
        exact eq_false_of_ne_true hs
    | _ => cases hv

theorem ne_empty_of_read {default s : String} (hdefault : default ≠ "")
    (hread : fieldOr f name default (textOr default) = .valid s) : s ≠ "" := by
  rcases fieldOr_eq_valid hread with rfl | ⟨v, hv⟩
  · exact hdefault
  · unfold textOr at hv
    split at hv
    · next hgiven =>
      cases v with
      | str t =>
        cases hv
        exact of_decide_eq_true hgiven
      | _ => cases hv
    · cases hv
      exact hdefault

theorem ne_null_of_read {o : Option Value}
    (hread : fieldOr f name none anyValue = .valid o) : o ≠ some .null := by
  rcases fieldOr_eq_valid hread with rfl | ⟨v, hv⟩
  · simp
  · cases v <;> cases hv <;> simp

theorem get?_word (f : Fields) (word : String) :
    Record.get? f (.word word) = (f.get? word).map (word, ·) := by
  simp [Record.get?, FieldName.word]

theorem text_eq_valid {v : Value} {s : String} : text v = .valid s ↔ v = .str s := by
  cases v <;> simp [text, Checked.issue]

/-- A required text under a name that is one word is the value of the field. -/
theorem get?_of_requiredText {word s : String}
    (hread : requiredField f (.word word) text = .valid s) : f.get? word = some (.str s) := by
  rw [requiredField, get?_word] at hread
  cases hv : f.get? word with
  | none =>
    rw [hv] at hread
    cases hread
  | some v =>
    rw [hv] at hread
    rw [text_eq_valid.1 (Checked.under_eq_valid.1 hread)]

/-- A text under a name that is one word is not empty if its value is given. -/
theorem ne_empty_of_given {word default s : String}
    (hgiven : (Document.valueOf f word).isGiven = true)
    (hread : fieldOr f (.word word) default text = .valid s) : s ≠ "" := by
  rw [fieldOr, get?_word] at hread
  rw [Document.valueOf] at hgiven
  cases hv : f.get? word with
  | none =>
    rw [hv] at hgiven
    cases hgiven
  | some v =>
    rw [hv] at hread hgiven
    obtain rfl := text_eq_valid.1 (Checked.under_eq_valid.1 hread)
    exact of_decide_eq_true hgiven

/-! ## Fields that are written -/

theorem requiredField_written {read : Value → Checked α} {v : Value}
    (hget : f.get? name.camel = some v) (hread : read v = .valid a) :
    requiredField f name read = .valid a := by
  simp [requiredField, Record.get?, hget, hread, Checked.under]

theorem fieldOr_written {default : α} {read : Value → Checked α} {v : Value}
    (hget : f.get? name.camel = some v) (hread : read v = .valid a) :
    fieldOr f name default read = .valid a := by
  simp [fieldOr, Record.get?, hget, hread, Checked.under]

/-- A field that is left out without a value is read as it was written, unless it stands under its
other name. -/
theorem fieldOr_optional {o : Option α} {w : α → Value} {read : Value → Checked (Option α)}
    (hcamel : f.get? name.camel = o.map w) (hsnake : f.get? name.snake = none)
    (hread : ∀ a ∈ o, read (w a) = .valid (some a)) : fieldOr f name none read = .valid o := by
  cases o with
  | none => simp [fieldOr, Record.get?, hcamel, hsnake]
  | some a => exact fieldOr_written hcamel (hread a rfl)

theorem textOrBlank_written {o : Option String} (hcamel : f.get? name.camel = o.map .str)
    (hsnake : f.get? name.snake = none) (ho : Inked o) :
    fieldOr f name none textOrBlank = .valid o := by
  refine fieldOr_optional hcamel hsnake fun s hs => ?_
  simp [textOrBlank, ho s hs]

theorem textOrNull_written {o : Option String} (hcamel : f.get? name.camel = o.map .str)
    (hsnake : f.get? name.snake = none) : fieldOr f name none textOrNull = .valid o :=
  fieldOr_optional hcamel hsnake fun _ _ => rfl

theorem textOr_given {default s : String} (hs : s ≠ "") : textOr default (.str s) = .valid s := by
  simp [textOr, text, Value.isGiven, hs]

end Record

namespace Export

variable {key name : String} {v : Value}

@[simp] theorem get?_append (f g : Fields) (key : String) :
    Fields.get? (f ++ g) key = (f.get? key).or (g.get? key) :=
  List.lookup_append

@[simp] theorem get?_field : (field name v).get? key = if key = name then some v else none := by
  by_cases hkey : key = name
  · simp [field, Fields.get?, hkey]
  · have hne : (key == name) = false := by simpa using hkey
    simp [field, Fields.get?, List.lookup_cons, hne, hkey]

@[simp] theorem get?_optional {o : Option Value} :
    (optional name o).get? key = if key = name then o else none := by
  cases o with
  | none => simp [optional, Fields.get?]
  | some v => exact get?_field

@[simp] theorem get?_optionalText {o : Option String} :
    (optionalText name o).get? key = if key = name then o.map .str else none :=
  get?_optional

end Export

/-! ## Attributes -/

namespace Attribute

/-- An attribute as reading leaves it: nothing is blank that reading would replace. -/
structure Normal (a : Attribute) : Prop where
  /-- It has a name. -/
  name : a.name ≠ ""
  /-- It has a type. -/
  type : a.type ≠ ""
  /-- The type of the column is not blank. -/
  sqlType : Inked a.sqlType
  /-- It has a visibility. -/
  visibility : a.visibility ≠ ""
  /-- The referenced class is not blank. -/
  referencedEntity : Inked a.referencedEntity
  /-- The referenced attribute is not blank. -/
  referencedField : Inked a.referencedField
  /-- The referenced type is not blank. -/
  referencedType : Inked a.referencedType
  /-- The default value is not `null`. -/
  defaultValue : a.defaultValue ≠ some .null

/-- Each part of an attribute is read from the fields of an object. -/
structure ReadFrom (f : Fields) (a : Attribute) : Prop where
  /-- The name. -/
  name : requiredField f (.word "name") text = .valid a.name
  /-- The type. -/
  type : fieldOr f (.word "type") "String" (textOr "String") = .valid a.type
  /-- The type of the column. -/
  sqlType : fieldOr f ⟨"sqlType", "sql_type"⟩ none textOrBlank = .valid a.sqlType
  /-- The visibility. -/
  visibility : fieldOr f (.word "visibility") "private" (textOr "private") = .valid a.visibility
  /-- The referenced class. -/
  referencedEntity :
    fieldOr f ⟨"referencedEntity", "referenced_entity"⟩ none textOrBlank = .valid a.referencedEntity
  /-- The referenced attribute. -/
  referencedField :
    fieldOr f ⟨"referencedField", "referenced_field"⟩ none textOrBlank = .valid a.referencedField
  /-- The referenced type. -/
  referencedType :
    fieldOr f ⟨"referencedType", "referenced_type"⟩ none textOrBlank = .valid a.referencedType
  /-- The default value. -/
  defaultValue :
    fieldOr f ⟨"defaultValue", "default_value"⟩ none anyValue = .valid a.defaultValue

theorem readFrom_of_ofFields {f : Fields} {a : Attribute} (hread : ofFields f = .valid a) :
    ReadFrom f a := by
  obtain ⟨_, _, hread₁₁, hdefault, rfl⟩ := Checked.seq_eq_valid.1 hread
  obtain ⟨_, _, hread₁₀, -, rfl⟩ := Checked.seq_eq_valid.1 hread₁₁
  obtain ⟨_, _, hread₉, hreferencedType, rfl⟩ := Checked.seq_eq_valid.1 hread₁₀
  obtain ⟨_, _, hread₈, hreferencedField, rfl⟩ := Checked.seq_eq_valid.1 hread₉
  obtain ⟨_, _, hread₇, hreferencedEntity, rfl⟩ := Checked.seq_eq_valid.1 hread₈
  obtain ⟨_, _, hread₆, -, rfl⟩ := Checked.seq_eq_valid.1 hread₇
  obtain ⟨_, _, hread₅, -, rfl⟩ := Checked.seq_eq_valid.1 hread₆
  obtain ⟨_, _, hread₄, -, rfl⟩ := Checked.seq_eq_valid.1 hread₅
  obtain ⟨_, _, hread₃, hvisibility, rfl⟩ := Checked.seq_eq_valid.1 hread₄
  obtain ⟨_, _, hread₂, hsqlType, rfl⟩ := Checked.seq_eq_valid.1 hread₃
  obtain ⟨_, _, hread₁, htype, rfl⟩ := Checked.seq_eq_valid.1 hread₂
  obtain ⟨_, hname, rfl⟩ := Checked.map_eq_valid.1 hread₁
  exact
    { name := hname
      type := htype
      sqlType := hsqlType
      visibility := hvisibility
      referencedEntity := hreferencedEntity
      referencedField := hreferencedField
      referencedType := hreferencedType
      defaultValue := hdefault }

/-- An attribute that is read from an object with a name is normal. -/
theorem normal_of_read {f : Fields} {a : Attribute}
    (hname : (Document.valueOf f "name").isGiven = true) (hread : ofFields f = .valid a) :
    a.Normal := by
  have hfrom := readFrom_of_ofFields hread
  refine
    { name := ?_
      type := ne_empty_of_read (by decide) hfrom.type
      sqlType := inked_of_read hfrom.sqlType
      visibility := ne_empty_of_read (by decide) hfrom.visibility
      referencedEntity := inked_of_read hfrom.referencedEntity
      referencedField := inked_of_read hfrom.referencedField
      referencedType := inked_of_read hfrom.referencedType
      defaultValue := ne_null_of_read hfrom.defaultValue }
  rw [Document.valueOf, get?_of_requiredText hfrom.name] at hname
  exact of_decide_eq_true hname

/-- A normal attribute that is written is read as it was. -/
theorem read_written {a : Attribute} (ha : a.Normal) :
    ofFields (Export.attributeFields a) = .valid a := by
  generalize hf : Export.attributeFields a = f
  have hname : requiredField f (.word "name") text = .valid a.name :=
    requiredField_written (v := .str a.name) (by simp [← hf, Export.attributeFields]) rfl
  have htype : fieldOr f (.word "type") "String" (textOr "String") = .valid a.type :=
    fieldOr_written (by simp [← hf, Export.attributeFields]) (textOr_given ha.type)
  have hsqlType : fieldOr f ⟨"sqlType", "sql_type"⟩ none textOrBlank = .valid a.sqlType :=
    textOrBlank_written (by simp [← hf, Export.attributeFields])
      (by simp [← hf, Export.attributeFields]) ha.sqlType
  have hvisibility : fieldOr f (.word "visibility") "private" (textOr "private") =
      .valid a.visibility :=
    fieldOr_written (by simp [← hf, Export.attributeFields]) (textOr_given ha.visibility)
  have hstatic : fieldOr f ⟨"isStatic", "is_static"⟩ false flag = .valid a.isStatic :=
    fieldOr_written (v := .bool a.isStatic) (by simp [← hf, Export.attributeFields]) rfl
  have hprimary : fieldOr f ⟨"isPrimaryKey", "is_primary_key"⟩ false flag =
      .valid a.isPrimaryKey :=
    fieldOr_written (v := .bool a.isPrimaryKey) (by simp [← hf, Export.attributeFields]) rfl
  have hforeign : fieldOr f ⟨"isForeignKey", "is_foreign_key"⟩ false flag =
      .valid a.isForeignKey :=
    fieldOr_written (v := .bool a.isForeignKey) (by simp [← hf, Export.attributeFields]) rfl
  have hentity : fieldOr f ⟨"referencedEntity", "referenced_entity"⟩ none textOrBlank =
      .valid a.referencedEntity :=
    textOrBlank_written (by simp [← hf, Export.attributeFields])
      (by simp [← hf, Export.attributeFields]) ha.referencedEntity
  have hfield : fieldOr f ⟨"referencedField", "referenced_field"⟩ none textOrBlank =
      .valid a.referencedField :=
    textOrBlank_written (by simp [← hf, Export.attributeFields])
      (by simp [← hf, Export.attributeFields]) ha.referencedField
  have htarget : fieldOr f ⟨"referencedType", "referenced_type"⟩ none textOrBlank =
      .valid a.referencedType :=
    textOrBlank_written (by simp [← hf, Export.attributeFields])
      (by simp [← hf, Export.attributeFields]) ha.referencedType
  have hrelationship : fieldOr f ⟨"isRelationshipAttribute", "is_relationship_attribute"⟩ false
      flag = .valid a.isRelationshipAttribute :=
    fieldOr_written (v := .bool a.isRelationshipAttribute)
      (by simp [← hf, Export.attributeFields]) rfl
  have hdefault : fieldOr f ⟨"defaultValue", "default_value"⟩ none anyValue =
      .valid a.defaultValue := by
    refine fieldOr_optional (w := id) (by simp [← hf, Export.attributeFields])
      (by simp [← hf, Export.attributeFields]) fun v hv => ?_
    cases v with
    | null => exact absurd hv ha.defaultValue
    | _ => rfl
  rw [ofFields, hname, htype, hsqlType, hvisibility, hstatic, hprimary, hforeign, hentity, hfield,
    htarget, hrelationship, hdefault]
  rfl

end Attribute

/-! ## Edges -/

namespace Relationship

/-- An edge as reading leaves it: nothing is blank that reading would replace. -/
structure Normal (r : Relationship) : Prop where
  /-- Its id is not blank. -/
  id : Text.isBlankText r.id = false
  /-- The id at its source is not blank. -/
  source : Text.isBlankText r.source = false
  /-- The id at its target is not blank. -/
  target : Text.isBlankText r.target = false
  /-- It has a type. -/
  type : r.type ≠ ""

/-- The id and the ends of an edge that is read are the texts of its fields. -/
theorem texts_of_read {f : Fields} {r : Relationship} (hread : ofFields f = .valid r) :
    f.get? "id" = some (.str r.id) ∧ f.get? "source" = some (.str r.source) ∧
      f.get? "target" = some (.str r.target) ∧
      fieldOr f (.word "type") "association" text = .valid r.type := by
  obtain ⟨_, _, hread₈, -, rfl⟩ := Checked.seq_eq_valid.1 hread
  obtain ⟨_, _, hread₇, -, rfl⟩ := Checked.seq_eq_valid.1 hread₈
  obtain ⟨_, _, hread₆, -, rfl⟩ := Checked.seq_eq_valid.1 hread₇
  obtain ⟨_, _, hread₅, -, rfl⟩ := Checked.seq_eq_valid.1 hread₆
  obtain ⟨_, _, hread₄, -, rfl⟩ := Checked.seq_eq_valid.1 hread₅
  obtain ⟨_, _, hread₃, htext, rfl⟩ := Checked.seq_eq_valid.1 hread₄
  obtain ⟨_, _, hread₂, htarget, rfl⟩ := Checked.seq_eq_valid.1 hread₃
  obtain ⟨_, _, hread₁, hsource, rfl⟩ := Checked.seq_eq_valid.1 hread₂
  obtain ⟨_, hid, rfl⟩ := Checked.map_eq_valid.1 hread₁
  exact ⟨get?_of_requiredText hid, get?_of_requiredText hsource, get?_of_requiredText htarget,
    htext⟩

/-- An edge is normal if it is read from fields with ids that are not blank, and with a type. -/
theorem normal_of_read {f : Fields} {r : Relationship}
    (hid : ∀ s, f.get? "id" = some (.str s) → Text.isBlankText s = false)
    (hsource : ∀ s, f.get? "source" = some (.str s) → Text.isBlankText s = false)
    (htarget : ∀ s, f.get? "target" = some (.str s) → Text.isBlankText s = false)
    (htype : (Document.valueOf f "type").isGiven = true) (hread : ofFields f = .valid r) :
    r.Normal := by
  obtain ⟨hid', hsource', htarget', htext⟩ := texts_of_read hread
  exact
    { id := hid _ hid'
      source := hsource _ hsource'
      target := htarget _ htarget'
      type := ne_empty_of_given htype htext }

/-- An edge that is written is read as it was. -/
theorem read_written (r : Relationship) :
    ofFields (Export.relationshipFields r) = .valid r := by
  generalize hf : Export.relationshipFields r = f
  have hid : requiredField f (.word "id") text = .valid r.id :=
    requiredField_written (v := .str r.id) (by simp [← hf, Export.relationshipFields]) rfl
  have hsource : requiredField f (.word "source") text = .valid r.source :=
    requiredField_written (v := .str r.source) (by simp [← hf, Export.relationshipFields]) rfl
  have htarget : requiredField f (.word "target") text = .valid r.target :=
    requiredField_written (v := .str r.target) (by simp [← hf, Export.relationshipFields]) rfl
  have htype : fieldOr f (.word "type") "association" text = .valid r.type :=
    fieldOr_written (v := .str r.type) (by simp [← hf, Export.relationshipFields]) rfl
  have hmanySource : fieldOr f ⟨"sourceMultiplicity", "source_multiplicity"⟩ "" shownText =
      .valid r.sourceMultiplicity :=
    fieldOr_written (v := .str r.sourceMultiplicity)
      (by simp [← hf, Export.relationshipFields]) rfl
  have hmanyTarget : fieldOr f ⟨"targetMultiplicity", "target_multiplicity"⟩ "" shownText =
      .valid r.targetMultiplicity :=
    fieldOr_written (v := .str r.targetMultiplicity)
      (by simp [← hf, Export.relationshipFields]) rfl
  have hlabel : fieldOr f (.word "label") "" shownText = .valid r.label :=
    fieldOr_written (v := .str r.label) (by simp [← hf, Export.relationshipFields]) rfl
  have htable : fieldOr f ⟨"associationTable", "association_table"⟩ none textOrNull =
      .valid r.associationTable :=
    textOrNull_written (by simp [← hf, Export.relationshipFields])
      (by simp [← hf, Export.relationshipFields])
  have hgroup : fieldOr f ⟨"manyToManyGroup", "many_to_many_group"⟩ none textOrNull =
      .valid r.manyToManyGroup :=
    textOrNull_written (by simp [← hf, Export.relationshipFields])
      (by simp [← hf, Export.relationshipFields])
  rw [ofFields, hid, hsource, htarget, htype, hmanySource, hmanyTarget, hlabel, htable, hgroup]
  rfl

end Relationship

end Scaffold
