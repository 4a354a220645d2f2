import Mathlib.Data.List.Infix
import Mathlib.Data.List.TakeWhile
import Scaffold.Proofs.Known
import Scaffold.Proofs.Ownership

/-!
# Columns that can be declared

A generation can fail on two things only, the length of a column and the default value of a field. A
length can be read if no opening parenthesis in the declared type is followed by more digits than
are read (`Constraint.Readable`), and a default value can be shown if it holds no integer with more
digits than that. An attribute for which both hold is `Declarable`. An entity is generated exactly
if the columns of all its members are (`entity_succeeds_iff`), and the artifacts of a diagram
exactly if all its entities are (`Diagram.generate_succeeds_iff`).

Main statement: `Diagram.generate_succeeds`.
-/

namespace Scaffold

open Java Text

/-! ## Numbers -/

theorem digitValue?_underscore : digitValue? '_' = none := by decide +kernel

/-- A text of digits is a numeral. -/
theorem exists_numeralDigits {s : List Char} (hs : s ≠ []) (hdigits : ∀ c ∈ s, isDigit c = true) :
    ∃ digits, numeralDigits? s = some digits ∧ digits.length = s.length := by
  fun_induction numeralDigits? s with
  | case1 => exact absurd rfl hs
  | case2 c =>
    obtain ⟨n, hn⟩ := Option.isSome_iff_exists.1 (hdigits c List.mem_cons_self)
    exact ⟨[n], by rw [hn]; rfl, rfl⟩
  | case3 c rest ih =>
    have hunderscore := hdigits '_' (List.mem_cons_of_mem c List.mem_cons_self)
    rw [isDigit, digitValue?_underscore] at hunderscore
    cases hunderscore
  | case4 c rest hrest _ ih =>
    obtain ⟨hc, hdigits⟩ := List.forall_mem_cons.1 hdigits
    obtain ⟨n, hn⟩ := Option.isSome_iff_exists.1 hc
    obtain ⟨digits, hread, hlength⟩ := ih hrest hdigits
    refine ⟨n :: digits, ?_, congrArg (· + 1) hlength⟩
    rw [hn, hread]
    rfl

/-- A text of digits that is not too long is a number. -/
theorem isSome_natural {s : List Char} (hs : s ≠ []) (hdigits : ∀ c ∈ s, isDigit c = true)
    (hshort : s.length ≤ maxDigits) : (natural? s).isSome := by
  obtain ⟨digits, hread, hlength⟩ := exists_numeralDigits hs hdigits
  rw [← hlength] at hshort
  simp [natural?, hread, hshort]

/-- A text of digits that is too long is no number. -/
theorem natural_of_long {s : List Char} (hs : s ≠ []) (hdigits : ∀ c ∈ s, isDigit c = true)
    (hlong : maxDigits < s.length) : natural? s = none := by
  obtain ⟨digits, hread, hlength⟩ := exists_numeralDigits hs hdigits
  rw [← hlength] at hlong
  simp [natural?, hread, Nat.not_le.2 hlong]

namespace Constraint

/-! ## Lengths -/

/-- No opening parenthesis in a declared type is followed by more digits than are read. -/
def Readable (sqlType : Option String) : Prop :=
  ∀ rest, '(' :: rest <:+ (sqlType.getD "").toList → (rest.takeWhile isDigit).length ≤ maxDigits

instance (sqlType : Option String) : Decidable (Readable sqlType) :=
  decidable_of_iff
    (∀ s ∈ (sqlType.getD "").toList.tails, s.head? = some '(' →
      (s.tail.takeWhile isDigit).length ≤ maxDigits) <| by
    constructor
    · exact fun h rest hrest => h ('(' :: rest) ((List.mem_tails _ _).2 hrest) rfl
    · rintro h (_ | ⟨c, rest⟩) hs hfirst
      · cases hfirst
      · obtain rfl := Option.some.inj hfirst
        exact h rest ((List.mem_tails _ _).1 hs)

theorem readable_none : Readable none := by
  intro rest hrest
  cases List.suffix_nil.1 hrest

/-- The digits of a length stand behind an opening parenthesis. -/
theorem lengthDigits_sound (s : List Char) :
    lengthDigits s = [] ∨
      ∃ rest, '(' :: rest <:+ s ∧ lengthDigits s = rest.takeWhile isDigit := by
  induction s with
  | nil => exact .inl rfl
  | cons c rest ih =>
    rw [lengthDigits]
    split
    · next hfirst => exact .inr ⟨rest, hfirst.1 ▸ List.suffix_refl _, rfl⟩
    · rcases ih with hnone | ⟨rest', hsuffix, hdigits⟩
      · exact .inl hnone
      · exact .inr ⟨rest', hsuffix.trans (List.suffix_cons c rest), hdigits⟩

theorem isDigit_of_mem_lengthDigits {s : List Char} : ∀ c ∈ lengthDigits s, isDigit c = true := by
  intro c hc
  rcases lengthDigits_sound s with hnone | ⟨rest, -, hdigits⟩
  · rw [hnone] at hc
    cases hc
  · rw [hdigits] at hc
    exact List.mem_takeWhile_imp hc

theorem sqlLength_ok {sqlType : Option String} (hread : Readable sqlType) :
    ∃ length, sqlLength sqlType = .ok length := by
  have hdigits := isDigit_of_mem_lengthDigits (s := (sqlType.getD "").toList)
  have hshort : (lengthDigits (sqlType.getD "").toList).length ≤ maxDigits := by
    rcases lengthDigits_sound (sqlType.getD "").toList with hnone | ⟨rest, hsuffix, hdigits⟩
    · simp [hnone]
    · rw [hdigits]
      exact hread rest hsuffix
  unfold sqlLength
  split
  · exact ⟨none, rfl⟩
  · next hne =>
    obtain ⟨n, hn⟩ := Option.isSome_iff_exists.1 (isSome_natural hne hdigits hshort)
    exact ⟨some n, by rw [hn]⟩

/-- A length with too many digits cannot be read. -/
theorem sqlLength_of_long {sqlType : Option String}
    (hlong : maxDigits < (lengthDigits (sqlType.getD "").toList).length) :
    ∃ e, sqlLength sqlType = .error e := by
  have hdigits := isDigit_of_mem_lengthDigits (s := (sqlType.getD "").toList)
  unfold sqlLength
  split
  · next hnone =>
    rw [hnone] at hlong
    cases hlong
  · next hne => exact ⟨_, by rw [natural_of_long hne hdigits hlong]⟩

theorem columnLength_ok (t : Option JavaType) {sqlType : Option String}
    (hread : Readable sqlType) : ∃ length, columnLength t sqlType = .ok length := by
  obtain ⟨length, hlength⟩ := sqlLength_ok hread
  unfold columnLength
  split
  · exact ⟨none, rfl⟩
  · exact ⟨_, by rw [hlength]; rfl⟩

theorem annotations_ok (t : Option JavaType) {sqlType : Option String} (hread : Readable sqlType)
    (label : String) : ∃ tags, annotations t sqlType label = .ok tags := by
  obtain ⟨length, hlength⟩ := sqlLength_ok hread
  unfold annotations
  split
  · rw [hlength]
    rcases length with _ | _ | n
    · exact ⟨_, rfl⟩
    · exact ⟨_, rfl⟩
    · exact ⟨_, rfl⟩
  all_goals exact ⟨_, rfl⟩

end Constraint

/-- A column can be declared for an attribute: its length can be read, and its default value can be
shown. -/
structure Attribute.Declarable (a : Attribute) : Prop where
  /-- The length can be read. -/
  length : Constraint.Readable a.sqlType
  /-- The default value can be shown. -/
  default : ∀ v ∈ a.defaultValue, v.isShowable = true

instance (a : Attribute) : Decidable a.Declarable :=
  decidable_of_iff (Constraint.Readable a.sqlType ∧ a.defaultValue.all Json.Value.isShowable)
    ⟨fun h => ⟨h.1, (Option.all_eq_true _ _).1 h.2⟩,
      fun h => ⟨h.length, (Option.all_eq_true _ _).2 h.default⟩⟩

/-! ## Generation that succeeds -/

namespace Generation

variable {α β : Type}

/-- A generation does not fail. -/
def Succeeds (x : Generation α) : Prop := ∃ a, x.run.value = .ok a

theorem not_succeeds_iff {x : Generation α} : ¬x.Succeeds ↔ ∃ e, x.run.value = .error e := by
  rw [Succeeds]
  cases x.run.value <;> simp

theorem succeeds_pure (a : α) : (pure a : Generation α).Succeeds := ⟨a, rfl⟩

theorem succeeds_bind {x : Generation α} {f : α → Generation β} :
    (x >>= f).Succeeds ↔ ∃ a, x.run.value = .ok a ∧ (f a).Succeeds := by
  constructor
  · rintro ⟨b, hb⟩
    obtain ⟨a, ha, hb, -⟩ := bind_ok hb
    exact ⟨a, ha, b, hb⟩
  · rintro ⟨a, ha, b, hb⟩
    refine ⟨b, ?_⟩
    rw [value_bind, ha]
    exact hb

theorem succeeds_map {x : Generation α} (f : α → β) : (f <$> x).Succeeds ↔ x.Succeeds := by
  rw [Succeeds, value_map, Succeeds]
  cases x.run.value with
  | error e => simp [Functor.map, Except.map]
  | ok a => simp [Functor.map, Except.map]

/-- A loop succeeds exactly if each of its steps does. -/
theorem succeeds_mapM {f : α → Generation β} {l : List α} :
    (l.mapM f).Succeeds ↔ ∀ a ∈ l, (f a).Succeeds := by
  rw [Succeeds, value_mapM]
  exact exists_mapM_eq_ok

end Generation

/-! ## Entities -/

namespace Entity

theorem hasShowableDefault_of_declarable {m : ScalarMember} (hm : m.attr.Declarable) :
    hasShowableDefault m = true := by
  unfold hasShowableDefault defaultValue?
  split
  · rfl
  · rw [Option.all_eq_true]
    exact hm.default

theorem scalarField_succeeds (c : ClassNode) {m : ScalarMember} (hm : m.attr.Declarable) :
    (scalarField c m).Succeeds := by
  have htags : ∃ tags, fieldAnnotations m = .ok tags := by
    unfold fieldAnnotations
    split
    · exact ⟨_, rfl⟩
    · exact Constraint.annotations_ok _ hm.length _
  obtain ⟨tags, htags⟩ := htags
  obtain ⟨length, hlength⟩ := Constraint.columnLength_ok (some m.javaType) hm.length
  have hdefault : checkDefault m = .ok () := if_pos (hasShowableDefault_of_declarable hm)
  unfold scalarField
  rw [Generation.succeeds_bind]
  refine ⟨tags, by rw [htags]; rfl, ?_⟩
  rw [Generation.succeeds_bind]
  refine ⟨length, by rw [hlength]; rfl, ?_⟩
  rw [Generation.succeeds_bind]
  refine ⟨(), by rw [hdefault]; rfl, ?_⟩
  rw [Generation.succeeds_bind]
  exact ⟨_, rfl, Generation.succeeds_pure _⟩

/-- No field is declared for a column of texts whose length cannot be read. -/
theorem scalarField_of_long (c : ClassNode) {m : ScalarMember} (htext : m.javaType = .string)
    (hlong : maxDigits < (Constraint.lengthDigits (m.attr.sqlType.getD "").toList).length) :
    ¬(scalarField c m).Succeeds := by
  obtain ⟨e, he⟩ := Constraint.sqlLength_of_long hlong
  have hcolumn : Constraint.columnLength (some m.javaType) m.attr.sqlType = .error e := by
    rw [htext, Constraint.columnLength, he]
    rfl
  unfold scalarField
  rw [hcolumn, Generation.succeeds_bind]
  rintro ⟨tags, -, hrest⟩
  obtain ⟨length, hlength, -⟩ := Generation.succeeds_bind.1 hrest
  cases hlength

/-- No field is declared for a column with a default value that cannot be shown. -/
theorem scalarField_of_unshowable (c : ClassNode) {m : ScalarMember}
    (hdefault : hasShowableDefault m = false) : ¬(scalarField c m).Succeeds := by
  have hcheck : checkDefault m = .error .default := by simp [checkDefault, hdefault]
  unfold scalarField
  rw [hcheck, Generation.succeeds_bind]
  rintro ⟨tags, -, hrest⟩
  obtain ⟨length, -, hrest⟩ := Generation.succeeds_bind.1 hrest
  obtain ⟨_, hfailed, -⟩ := Generation.succeeds_bind.1 hrest
  cases hfailed

end Entity

/-- An entity is generated exactly if the columns of all its members are. -/
theorem entity_succeeds_iff (ctx : Context) (c : ClassNode) :
    (entity ctx c).Succeeds ↔
      ∀ m ∈ (ctx.membersOf c).scalars, (Entity.scalarField c m).Succeeds := by
  rw [entity, Generation.succeeds_map, ← Generation.succeeds_mapM]
  unfold Entity.file
  rw [Generation.succeeds_bind]
  refine exists_congr fun fields => and_iff_left ?_
  rw [Generation.succeeds_bind]
  exact ⟨_, rfl, Generation.succeeds_pure _⟩

namespace Context

theorem exists_ownedEntity {ctx : Context} {c : ClassNode} :
    (∃ a, ctx.ownedEntity c = .ok a) ↔ (entity ctx c).Succeeds := by
  simp only [ownedEntity_eq_ok]
  constructor
  · rintro ⟨_, text, htext, -⟩
    exact ⟨text, htext⟩
  · rintro ⟨text, htext⟩
    exact ⟨_, text, htext, rfl⟩

/-- The artifacts of a context are generated exactly if all entities are. -/
theorem artifacts_succeeds_iff (ctx : Context) :
    ctx.artifacts.Succeeds ↔ ∀ c ∈ ctx.diagram.classes, (entity ctx c).Succeeds := by
  rw [Generation.Succeeds, ← map_artifact_owned, owned]
  simp only [← exists_ownedEntity, ← exists_mapM_eq_ok]
  cases ctx.diagram.classes.mapM ctx.ownedEntity with
  | error e => simp [Functor.map, Except.map]
  | ok entities => simp [Functor.map, Except.map]

end Context

/-- The artifacts of a diagram are generated exactly if all entities are. -/
theorem Diagram.generate_succeeds_iff (d : Diagram) (basePackage : String) (queryLimit : Int) :
    (d.generate basePackage queryLimit).Succeeds ↔
      ∀ c ∈ d.classes, (entity (Context.build d basePackage queryLimit).value c).Succeeds := by
  rw [Generation.Succeeds, fst_run_generate]
  exact Context.artifacts_succeeds_iff _

/-- An entity is generated if columns can be declared for the attributes of all classes with its
id. -/
theorem entity_build_succeeds {d : Diagram} (basePackage : String) (queryLimit : Int)
    {c : ClassNode} (hdeclarable : ∀ other ∈ d.classes, other.id = c.id →
      ∀ a ∈ other.attributes, a.Declarable) :
    (entity (Context.build d basePackage queryLimit).value c).Succeeds := by
  refine (entity_succeeds_iff _ c).2 fun m hm => Entity.scalarField_succeeds c ?_
  by_cases hplain : m.attr.sqlType.isSome ∨ m.attr.defaultValue.isSome
  · obtain ⟨other, hother, hid, hmem⟩ :=
      ((Context.known_build d basePackage queryLimit).2 c).columns m hm hplain
    exact hdeclarable other hother hid m.attr hmem
  · -- a column without either may be made up, and can be declared
    obtain ⟨htype, hdefault⟩ := not_or.1 hplain
    rw [Option.not_isSome_iff_eq_none] at htype hdefault
    exact ⟨htype ▸ Constraint.readable_none, by simp [hdefault]⟩

/-- The artifacts of a diagram are generated if columns can be declared for all attributes. -/
theorem Diagram.generate_succeeds {d : Diagram} (basePackage : String) (queryLimit : Int)
    (hdeclarable : ∀ c ∈ d.classes, ∀ a ∈ c.attributes, a.Declarable) :
    (d.generate basePackage queryLimit).Succeeds := by
  rw [generate_succeeds_iff]
  exact fun _ _ => entity_build_succeeds _ _ fun other hother _ => hdeclarable other hother

end Scaffold
