import Scaffold.Proofs.Pairs
import Scaffold.Proofs.RoundTrip

/-!
# Ids of edges

An edge has the id that its connection gives, or one that is made from its ends, its type and its
label: a base of fixed length, and the number of the connections in front of it with the same base.
So ids that are made do not repeat (`numberedId_inj`), and all of them start in the same way. What
reading does with one connection is said in `readConnection_eq_ok`.

Making an id does not look at the ids that are given. If these do not repeat, and none of them
starts like an id that is made, no two edges have one id.

Main statements: `nodup_ids`, `distinctEdges_of_parse`.
-/

namespace Scaffold.Document

open Json

/-! ## Ids that are made -/

/-- What ids that are made start with. -/
def madeMark : String := "rel_"

/-- The text is made from the ends, the type and the label of a connection. -/
def IsBase (base : String) : Prop :=
  ∃ source target type label, base = baseId source target type label

/-- All bases start with the mark, and are equally long. -/
theorem IsBase.shape {base : String} (hbase : IsBase base) :
    madeMark.toList <+: base.toList ∧ base.toList.length = 20 := by
  obtain ⟨source, target, type, label, rfl⟩ := hbase
  simp [baseId, Digest.stableId, takeSigned, Digest.length_hexDigest, madeMark]

theorem toList_numberedId (base : String) (count : Nat) :
    (numberedId base count).toList =
      base.toList ++ if count = 0 then [] else '_' :: (toString count).toList := by
  unfold numberedId
  split
  · simp
  · simp [toString]

theorem IsBase.mark_numberedId {base : String} (hbase : IsBase base) (count : Nat) :
    madeMark.toList <+: (numberedId base count).toList := by
  rw [toList_numberedId]
  exact hbase.shape.1.trans (List.prefix_append _ _)

/-- From an id that is made, its base and its number can be told. -/
theorem numberedId_inj {base base' : String} (hbase : IsBase base) (hbase' : IsBase base')
    {count count' : Nat} (heq : numberedId base count = numberedId base' count') :
    base = base' ∧ count = count' := by
  have hlength : base.toList.length = base'.toList.length :=
    hbase.shape.2.trans hbase'.shape.2.symm
  have hlist := congrArg String.toList heq
  rw [toList_numberedId, toList_numberedId] at hlist
  obtain ⟨hfront, hback⟩ := List.append_inj hlist hlength
  refine ⟨String.toList_inj.1 hfront, ?_⟩
  by_cases hzero : count = 0 <;> by_cases hzero' : count' = 0
  · rw [hzero, hzero']
  · simp [hzero, hzero'] at hback
  · simp [hzero, hzero'] at hback
  · simp only [hzero, hzero', if_false, List.cons.injEq, true_and] at hback
    have hread := congrArg (Nat.ofDigitChars 10 · 0) hback
    simpa [Nat.toString_eq_ofList_toDigits] using hread

/-! ## Connections and their ids -/

/-- Whether both ends of a connection are there. -/
def hasEnds : Value → Bool
  | .obj fields => !(isMissing (valueOf fields "source") || isMissing (valueOf fields "target"))
  | _ => false

/-- The end of a connection that is there, its source if both are. -/
def presentEnd? : Value → Option String
  | .obj fields =>
    let source := valueOf fields "source"
    let target := valueOf fields "target"
    if !isMissing source then some source.shown
    else if !isMissing target then some target.shown
    else none
  | _ => none

/-- The type of a connection in the id that is made for it. -/
def typeText (fields : Fields) : String :=
  if (valueOf fields "type").isGiven then (valueOf fields "type").shown else "association"

/-- The base of the id that is made for a connection. None is made if an end is missing or an id is
given. -/
def madeBase? : Value → Option String
  | .obj fields =>
    let source := valueOf fields "source"
    let target := valueOf fields "target"
    if isMissing source || isMissing target then none
    else if isMissing (valueOf fields "id") then
      some (baseId source.shown target.shown (typeText fields) (labelText (valueOf fields "label")))
    else none
  | _ => none

/-- The id that a connection gives to the edge that it becomes. -/
def givenId? : Value → Option String
  | .obj fields =>
    if isMissing (valueOf fields "source") || isMissing (valueOf fields "target") then none
    else if isMissing (valueOf fields "id") then none
    else some (valueOf fields "id").shown
  | _ => none

/-- The id that the edge of a connection gets after connections with the given bases. -/
def idAfter (bases : List String) (v : Value) : String :=
  match madeBase? v with
  | some base => numberedId base (bases.count base)
  | none => (givenId? v).getD ""

/-- The edge that a connection becomes under an id. -/
def edgeUnder? (id : String) : Value → Option Relationship
  | .obj fields =>
    let settled :=
      settleFields fields (valueOf fields "source").shown (valueOf fields "target").shown
    match Relationship.ofFields (Fields.put "id" (.str id) settled) with
    | .valid r => some r
    | _ => none
  | _ => none

theorem id_of_edgeUnder? {id : String} {v : Value} {r : Relationship}
    (hedge : edgeUnder? id v = some r) : r.id = id := by
  cases v with
  | obj fields =>
    unfold edgeUnder? at hedge
    dsimp only at hedge
    split at hedge
    · next hread =>
      cases hedge
      obtain ⟨hid, -⟩ := Relationship.texts_of_read hread
      rw [Fields.get?_put_self] at hid
      exact (Value.str.inj (Option.some.inj hid)).symm
    · cases hedge
  | _ => cases hedge

/-- An id is made for connections with both ends only. -/
theorem ends_of_madeBase? {v : Value} {base : String} (hbase : madeBase? v = some base) :
    IsBase base ∧ hasEnds v = true := by
  cases v with
  | obj fields =>
    unfold madeBase? at hbase
    dsimp only at hbase
    split at hbase
    · cases hbase
    · next hends =>
      split at hbase
      · cases hbase
        exact ⟨⟨_, _, _, _, rfl⟩, by simp [hasEnds, hends]⟩
      · cases hbase
  | _ => cases hbase

/-- An id is given if both ends are there and none is made. -/
theorem givenId?_of_madeBase? {v : Value} (hends : hasEnds v = true) (hmade : madeBase? v = none) :
    givenId? v = some ((givenId? v).getD "") := by
  cases v with
  | obj fields =>
    have hends : ¬(isMissing (valueOf fields "source") || isMissing (valueOf fields "target")) =
        true := by simpa [hasEnds] using hends
    have hgiven : ¬isMissing (valueOf fields "id") = true := by
      intro hmissing
      rw [madeBase?, if_neg hends, if_pos hmissing] at hmade
      cases hmade
    rw [givenId?, if_neg hends, if_neg hgiven, Option.getD_some]
  | _ => cases hends

/-! ## One connection -/

/-- Settling the ends of a connection gives it a type if it has none, and keeps the rest. -/
theorem get?_settleFields {key : String} (hsource : "source" ≠ key) (htarget : "target" ≠ key)
    (fields : Fields) (source target : String) :
    (settleFields fields source target).get? key =
      if key = "type" ∧ (valueOf fields "type").isGiven = false then some (.str "association")
      else fields.get? key := by
  have hends : ∀ other, "source" ≠ other → "target" ≠ other → (Fields.put "target" (.str target)
      (Fields.put "source" (.str source) fields)).get? other = fields.get? other := by
    intro other hsource htarget
    rw [Fields.get?_put_of_ne htarget, Fields.get?_put_of_ne hsource]
  have htype : valueOf (Fields.put "target" (.str target) (Fields.put "source" (.str source)
      fields)) "type" = valueOf fields "type" := by
    rw [valueOf, hends _ (by decide) (by decide), valueOf]
  unfold settleFields
  dsimp only
  rw [htype]
  by_cases hgiven : (valueOf fields "type").isGiven = true
  · simp [hgiven, hends key hsource htarget]
  · by_cases hkey : key = "type"
    · simp [hgiven, hkey, Fields.get?_put_self]
    · simp [hgiven, hkey, Fields.get?_put_of_ne (Ne.symm hkey), hends key hsource htarget]

theorem valueOf_settleFields (fields : Fields) (source target : String) :
    valueOf (settleFields fields source target) "id" = valueOf fields "id" := by
  rw [valueOf, get?_settleFields (by decide) (by decide), if_neg (by simp), valueOf]

theorem shown_type_settleFields (fields : Fields) (source target : String) :
    (valueOf (settleFields fields source target) "type").shown = typeText fields := by
  rw [valueOf, get?_settleFields (by decide) (by decide), typeText]
  by_cases hgiven : (valueOf fields "type").isGiven = true
  · rw [if_neg (by simp [hgiven]), if_pos hgiven, valueOf]
  · rw [if_pos ⟨rfl, eq_false_of_ne_true hgiven⟩, if_neg hgiven]
    rfl

theorem label_settleFields (fields : Fields) (source target : String) :
    valueOf (settleFields fields source target) "label" = valueOf fields "label" := by
  rw [valueOf, get?_settleFields (by decide) (by decide), if_neg (by simp), valueOf]

/-- A connection becomes an edge if both of its ends are there, and is dropped if not. It counts for
the connections behind it if an id is made. -/
theorem readConnection_eq_ok {index : Nat} {bases : List String} {v : Value}
    {connection : Connection} {base : Option String}
    (hread : readConnection index bases v = .ok (connection, base)) :
    base = madeBase? v ∧
      ((hasEnds v = true ∧ ∃ r, connection = .edge r ∧
          edgeUnder? (idAfter bases v) v = some r) ∨
        (hasEnds v = false ∧ connection = .dropped (presentEnd? v))) := by
  cases v with
  | obj fields =>
    obtain ⟨-, -, hread⟩ := Except.bind_eq_ok.1 hread
    unfold connect at hread
    dsimp only at hread
    by_cases hends : (isMissing (valueOf fields "source") || isMissing (valueOf fields "target")) =
        true
    · rw [if_pos hends] at hread
      cases hread
      refine ⟨by simp [madeBase?, hends], .inr ⟨by simp [hasEnds, hends], ?_⟩⟩
      unfold presentEnd?
      cases hsource : isMissing (valueOf fields "source") <;>
        cases htarget : isMissing (valueOf fields "target") <;> simp [hsource, htarget] at hends ⊢
    · rw [if_neg hends] at hread
      obtain ⟨edge, hedge, hread⟩ := Except.bind_eq_ok.1 hread
      cases hread
      rw [valueOf_settleFields, shown_type_settleFields, label_settleFields] at hedge ⊢
      have hmade : madeBase? (.obj fields) = if isMissing (valueOf fields "id") = true then
          some (baseId (valueOf fields "source").shown (valueOf fields "target").shown
            (typeText fields) (labelText (valueOf fields "label")))
          else none := if_neg hends
      refine ⟨?_, .inl ⟨by simp [hasEnds, hends], edge, rfl, ?_⟩⟩
      · rw [hmade]
        split <;> rfl
      · dsimp only [idAfter, edgeUnder?]
        rw [hmade]
        by_cases hmissing : isMissing (valueOf fields "id") = true
        · rw [if_pos hmissing] at hedge ⊢
          rw [Checked.orError_eq_ok.1 hedge]
        · rw [if_neg hmissing] at hedge ⊢
          rw [givenId?, if_neg hends, if_neg hmissing, Option.getD_some,
            Checked.orError_eq_ok.1 hedge]
  | _ => cases hread

/-- A connection for which an id is made becomes an edge under this id. -/
theorem edge_of_madeBase? {index : Nat} {bases : List String} {v : Value} {connection : Connection}
    {base : Option String} (hread : readConnection index bases v = .ok (connection, base))
    {made : String} (hmade : madeBase? v = some made) :
    ∃ r, connection = .edge r ∧
      edgeUnder? (numberedId made (bases.count made)) v = some r := by
  rcases (readConnection_eq_ok hread).2 with ⟨-, r, rfl, hedge⟩ | ⟨hends, -⟩
  · refine ⟨r, rfl, ?_⟩
    rwa [idAfter, hmade] at hedge
  · rw [(ends_of_madeBase? hmade).2] at hends
    cases hends

/-- An edge has the id that is given, or one that is made and counts the bases in front of it. -/
theorem id_of_readConnection {index : Nat} {bases : List String} {v : Value} {r : Relationship}
    {base : Option String} (hread : readConnection index bases v = .ok (.edge r, base)) :
    (base = none ∧ givenId? v = some r.id) ∨
      ∃ made, base = some made ∧ IsBase made ∧ r.id = numberedId made (bases.count made) := by
  obtain ⟨rfl, ⟨hends, r', hr, hedge⟩ | ⟨-, hdropped⟩⟩ := readConnection_eq_ok hread
  · cases hr
    have hid := id_of_edgeUnder? hedge
    unfold idAfter at hid
    cases hmade : madeBase? v with
    | none =>
      rw [hmade] at hid
      exact .inl ⟨rfl, hid ▸ givenId?_of_madeBase? hends hmade⟩
    | some made =>
      rw [hmade] at hid
      exact .inr ⟨made, rfl, (ends_of_madeBase? hmade).1, hid⟩
  · cases hdropped

/-! ## All connections -/

/-- The id of an edge is one of those that are given, or it is made with a number that is not below
the number of the bases in front of all connections. -/
theorem id_of_readConnections {index : Nat} {bases : List String} {l : List Value}
    {connections : List Connection} (hread : readConnections index bases l = .ok connections) :
    ∀ r ∈ edges connections, r.id ∈ l.filterMap givenId? ∨
      ∃ made count, IsBase made ∧ bases.count made ≤ count ∧ r.id = numberedId made count := by
  induction l generalizing index bases connections with
  | nil =>
    cases hread
    simp [edges]
  | cons v rest ih =>
    obtain ⟨connection, base, others, hfirst, hrest, rfl⟩ := readConnections_cons hread
    have hothers : ∀ r ∈ edges others, r.id ∈ (v :: rest).filterMap givenId? ∨
        ∃ made count, IsBase made ∧ bases.count made ≤ count ∧ r.id = numberedId made count := by
      intro r hr
      rcases ih hrest r hr with hgiven | ⟨made, count, hbase, hcount, hid⟩
      · refine .inl ?_
        obtain ⟨w, hw, hid⟩ := List.mem_filterMap.1 hgiven
        exact List.mem_filterMap.2 ⟨w, List.mem_cons_of_mem v hw, hid⟩
      · rw [List.count_append] at hcount
        exact .inr ⟨made, count, hbase, Nat.le_of_add_right_le hcount, hid⟩
    intro r hr
    cases connection with
    | dropped present => exact hothers r hr
    | edge r' =>
      rcases List.mem_cons.1 hr with rfl | hr
      · rcases id_of_readConnection hfirst with ⟨-, hgiven⟩ | ⟨made, -, hbase, hid⟩
        · exact .inl (List.mem_filterMap.2 ⟨v, List.mem_cons_self, hgiven⟩)
        · exact .inr ⟨made, _, hbase, Nat.le_refl _, hid⟩
      · exact hothers r hr

/-- If the ids that are given do not repeat, and none of them starts like an id that is made, no two
edges have one id. -/
theorem nodup_ids {index : Nat} {bases : List String} {l : List Value}
    {connections : List Connection} (hread : readConnections index bases l = .ok connections)
    (hnodup : (l.filterMap givenId?).Nodup)
    (hgiven : ∀ id ∈ l.filterMap givenId?, ¬madeMark.toList <+: id.toList) :
    ((edges connections).map (·.id)).Nodup := by
  induction l generalizing index bases connections with
  | nil =>
    cases hread
    simp [edges]
  | cons v rest ih =>
    obtain ⟨connection, base, others, hfirst, hrest, rfl⟩ := readConnections_cons hread
    have hsub : (rest.filterMap givenId?).Sublist ((v :: rest).filterMap givenId?) :=
      (List.sublist_cons_self v rest).filterMap givenId?
    have hothers : ((edges others).map (·.id)).Nodup :=
      ih hrest (hnodup.sublist hsub) fun id hid => hgiven id (hsub.subset hid)
    cases connection with
    | dropped present => exact hothers
    | edge r =>
      refine List.nodup_cons.2 ⟨fun hmem => ?_, hothers⟩
      have hother : r.id ∈ rest.filterMap givenId? ∨ ∃ made count, IsBase made ∧
          (bases ++ base.toList).count made ≤ count ∧ r.id = numberedId made count := by
        obtain ⟨r', hr', hid⟩ : ∃ r' ∈ edges others, r'.id = r.id := List.mem_map.1 hmem
        exact hid ▸ id_of_readConnections hrest r' hr'
      rcases id_of_readConnection hfirst with ⟨-, hown⟩ | ⟨made, rfl, hbase, hown⟩
      · rw [List.filterMap_cons_some hown] at hnodup hgiven
        rcases hother with hagain | ⟨made, count, hbase, -, hmade⟩
        · exact (List.nodup_cons.1 hnodup).1 hagain
        · refine hgiven r.id List.mem_cons_self ?_
          rw [hmade]
          exact hbase.mark_numberedId count
      · rcases hother with hagain | ⟨made', count, hbase', hcount, hmade⟩
        · refine hgiven r.id (hsub.subset hagain) ?_
          rw [hown]
          exact hbase.mark_numberedId _
        · -- The number of a later id counts this base too.
          obtain ⟨rfl, rfl⟩ := numberedId_inj hbase hbase' (hown.symm.trans hmade)
          rw [Option.toList_some, List.count_append, List.count_singleton_self] at hcount
          omega

/-- The ids that the connections of a document give to their edges. -/
def Source.givenIds (source : Source) : List String :=
  match source.fields >>= (container · "connections") with
  | .ok connections => connections.filterMap givenId?
  | .error _ => []

/-- In the diagram of a document in which the ids that are given do not repeat, and none of them
starts like an id that is made, no two edges have one id. -/
theorem distinctEdges_of_parse {source : Source} {d : Noted Diagram}
    (hparse : Diagram.parse source = .ok d) (hnodup : source.givenIds.Nodup)
    (hgiven : ∀ id ∈ source.givenIds, ¬madeMark.toList <+: id.toList) : d.value.DistinctEdges := by
  obtain ⟨fields, hfields, hread⟩ := Except.bind_eq_ok.1 hparse
  unfold readDiagram at hread
  obtain ⟨elements, -, hread⟩ := Except.bind_eq_ok.1 hread
  obtain ⟨values, hvalues, hread⟩ := Except.bind_eq_ok.1 hread
  obtain ⟨read, -, hread⟩ := Except.bind_eq_ok.1 hread
  obtain ⟨connections, hconnections, hread⟩ := Except.bind_eq_ok.1 hread
  cases hread
  have hids : source.givenIds = values.filterMap givenId? := by
    simp only [Source.givenIds, hfields, bind, Except.bind, hvalues]
  rw [hids] at hnodup hgiven
  exact nodup_ids hconnections hnodup hgiven

end Scaffold.Document
