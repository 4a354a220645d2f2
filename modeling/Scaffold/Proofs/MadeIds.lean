import Scaffold.Proofs.EdgeIds

/-!
# Ids that are made for edges

An id is made for a connection that has both ends and gives none. What it is made from is the base
of the connection (`madeBase?`): its ends, whichever is the source, its type and its label. The id
itself is the base with the number of the connections in front of it that have the same one
(`readConnections_made`).

So no id is made twice, also if two different connections have one base. An id stays as it is if
edges are turned round, and if connections with other bases, or without any, are added, removed or
moved.

Main statement: `made_ids`.
-/

namespace Scaffold

open Json Record

/-! ## Edges with other ends -/

theorem Record.requiredField_congr {α : Type} {f g : Fields} {name : FieldName}
    {read : Value → Checked α} (hcamel : g.get? name.camel = f.get? name.camel)
    (hsnake : g.get? name.snake = f.get? name.snake) :
    requiredField g name read = requiredField f name read := by
  simp only [requiredField, Record.get?, hcamel, hsnake]

theorem Record.fieldOr_congr {α : Type} {f g : Fields} {name : FieldName} {default : α}
    {read : Value → Checked α} (hcamel : g.get? name.camel = f.get? name.camel)
    (hsnake : g.get? name.snake = f.get? name.snake) :
    fieldOr g name default read = fieldOr f name default read := by
  simp only [fieldOr, Record.get?, hcamel, hsnake]

/-- Fields that differ in the ends only give edges that differ in the ends only. -/
theorem Relationship.read_of_ends {f g : Fields} {r : Relationship} {source target : String}
    (hread : Relationship.ofFields f = .valid r) (hsource : g.get? "source" = some (.str source))
    (htarget : g.get? "target" = some (.str target))
    (hrest : ∀ key, "source" ≠ key → "target" ≠ key → g.get? key = f.get? key) :
    Relationship.ofFields g = .valid { r with source := source, target := target } := by
  have hid : requiredField g (.word "id") text = requiredField f (.word "id") text :=
    requiredField_congr (hrest _ (by decide) (by decide)) (hrest _ (by decide) (by decide))
  have hfield : ∀ {α : Type} (name : FieldName) (default : α) (read : Value → Checked α),
      "source" ≠ name.camel → "target" ≠ name.camel → "source" ≠ name.snake →
      "target" ≠ name.snake → fieldOr g name default read = fieldOr f name default read :=
    fun name default read h₁ h₂ h₃ h₄ => fieldOr_congr (hrest _ h₁ h₂) (hrest _ h₃ h₄)
  obtain ⟨_, _, hread₈, hgroup, rfl⟩ := Checked.seq_eq_valid.1 hread
  obtain ⟨_, _, hread₇, htable, rfl⟩ := Checked.seq_eq_valid.1 hread₈
  obtain ⟨_, _, hread₆, hlabel, rfl⟩ := Checked.seq_eq_valid.1 hread₇
  obtain ⟨_, _, hread₅, hmanyTarget, rfl⟩ := Checked.seq_eq_valid.1 hread₆
  obtain ⟨_, _, hread₄, hmanySource, rfl⟩ := Checked.seq_eq_valid.1 hread₅
  obtain ⟨_, _, hread₃, htype, rfl⟩ := Checked.seq_eq_valid.1 hread₄
  obtain ⟨_, _, hread₂, -, rfl⟩ := Checked.seq_eq_valid.1 hread₃
  obtain ⟨_, _, hread₁, -, rfl⟩ := Checked.seq_eq_valid.1 hread₂
  obtain ⟨_, hidText, rfl⟩ := Checked.map_eq_valid.1 hread₁
  have hsourceText : requiredField g (.word "source") text = .valid source :=
    requiredField_written hsource rfl
  have htargetText : requiredField g (.word "target") text = .valid target :=
    requiredField_written htarget rfl
  simp (disch := decide) only [ofFields, hid, hidText, hsourceText, htargetText, hfield, htype,
    hmanySource, hmanyTarget, hlabel, htable, hgroup]
  rfl

namespace Document

/-! ## All connections -/

/-- Whether the id of a connection is made from a base. -/
def HasBase (base : String) (v : Value) : Prop := madeBase? v = some base

instance (base : String) : DecidablePred (HasBase base) := fun v =>
  inferInstanceAs (Decidable (madeBase? v = some base))

/-- A base is counted from the connections in front. -/
theorem count_bases (bases : List String) (base : String) (v : Value) :
    (bases ++ (madeBase? v).toList).count base =
      bases.count base + if HasBase base v then 1 else 0 := by
  rw [List.count_append]
  by_cases hbase : HasBase base v
  · rw [if_pos hbase, show madeBase? v = some base from hbase, Option.toList_some,
      List.count_singleton_self]
  · have hnone : (madeBase? v).toList.count base = 0 :=
      List.count_eq_zero.2 fun hmem => hbase (Option.mem_toList.1 hmem)
    rw [if_neg hbase, hnone]

/-- A connection for which an id is made becomes an edge. Its number is that of the connections in
front of it with its base. -/
theorem readConnections_made {index : Nat} {bases : List String} {l : List Value}
    {connections : List Connection} (hread : readConnections index bases l = .ok connections)
    {i : Nat} {v : Value} {base : String} (hv : l[i]? = some v) (hbase : HasBase base v) :
    ∃ r, connections[i]? = some (.edge r) ∧ edgeUnder?
      (numberedId base (bases.count base + (l.take i).countP (HasBase base))) v = some r := by
  induction l generalizing index bases connections i with
  | nil => cases hv
  | cons w rest ih =>
    obtain ⟨connection, base, others, hfirst, hrest, rfl⟩ := readConnections_cons hread
    obtain ⟨rfl, -⟩ := readConnection_eq_ok hfirst
    cases i with
    | zero =>
      cases hv
      obtain ⟨r, rfl, hedge⟩ := edge_of_madeBase? hfirst hbase
      exact ⟨r, rfl, hedge⟩
    | succ i =>
      obtain ⟨r, hr, hedge⟩ := ih hrest (hv : rest[i]? = some v)
      rw [count_bases] at hedge
      refine ⟨r, hr, ?_⟩
      rw [List.take_succ_cons, List.countP_cons, ← hedge]
      simp only [decide_eq_true_eq, Nat.add_assoc, Nat.add_comm]

/-- The edges that the connections with a base become. -/
def madeEdges (base : String) (l : List Value) (connections : List Connection) :
    List Relationship :=
  edges (((l.zip connections).filter fun p => HasBase base p.1).map (·.2))

/-- The edges whose ids are made from a base depend on nothing but the connections with this base:
their ids count them. -/
theorem madeEdges_eq {index : Nat} {bases : List String} {l : List Value}
    {connections : List Connection} (hread : readConnections index bases l = .ok connections)
    (base : String) : madeEdges base l connections =
      ((l.filter (HasBase base ·)).zipIdx (bases.count base)).filterMap fun p =>
        edgeUnder? (numberedId base p.2) p.1 := by
  induction l generalizing index bases connections with
  | nil => rfl
  | cons v rest ih =>
    obtain ⟨connection, base, others, hfirst, hrest, rfl⟩ := readConnections_cons hread
    obtain ⟨rfl, -⟩ := readConnection_eq_ok hfirst
    have hothers := ih hrest
    rw [count_bases] at hothers
    unfold madeEdges at hothers ⊢
    by_cases hbase : HasBase base v
    · obtain ⟨r, rfl, hedge⟩ := edge_of_madeBase? hfirst hbase
      rw [if_pos hbase] at hothers
      rw [List.zip_cons_cons, List.filter_cons_of_pos (by simpa using hbase),
        List.filter_cons_of_pos (by simpa using hbase), List.zipIdx_cons, List.filterMap_cons,
        ← hothers]
      dsimp only
      rw [hedge]
      rfl
    · rw [if_neg hbase, Nat.add_zero] at hothers
      rw [List.zip_cons_cons, List.filter_cons_of_neg (by simpa using hbase),
        List.filter_cons_of_neg (by simpa using hbase), hothers]

/-! ## Edges that are turned round -/

/-- A connection with its ends exchanged. -/
def exchangeEnds : Value → Value
  | .obj fields => .obj (Fields.put "target" (valueOf fields "source")
      (Fields.put "source" (valueOf fields "target") fields))
  | v => v

/-- An edge with the ids at its ends exchanged. -/
def Connection.exchangeEnds : Connection → Connection
  | .edge r => .edge { r with source := r.target, target := r.source }
  | .dropped present => .dropped present

/-- Which of the ends is the source does not matter to a base. -/
theorem baseId_comm (source target type label : String) :
    baseId source target type label = baseId target source type label := by
  unfold baseId
  by_cases hback : target < source
  · simp only [if_pos hback, if_neg (String.lt_asymm hback)]
  · by_cases hforth : source < target
    · simp only [if_neg hback, if_pos hforth]
    · rw [String.le_antisymm (String.not_lt.1 hback) (String.not_lt.1 hforth)]

theorem get?_exchangeEnds (fields : Fields) :
    ∃ exchanged, exchangeEnds (.obj fields) = .obj exchanged ∧
      valueOf exchanged "source" = valueOf fields "target" ∧
      valueOf exchanged "target" = valueOf fields "source" ∧
      ∀ key, "source" ≠ key → "target" ≠ key →
        Fields.get? exchanged key = Fields.get? fields key := by
  refine ⟨_, rfl, ?_, ?_, fun key hsource htarget => ?_⟩
  · rw [valueOf, Fields.get?_put_of_ne (by decide), Fields.get?_put_self, Option.getD_some]
  · rw [valueOf, Fields.get?_put_self, Option.getD_some]
  · rw [Fields.get?_put_of_ne htarget, Fields.get?_put_of_ne hsource]

/-- Settling connections that differ in the ends only gives fields that differ in the ends only. -/
theorem settleFields_congr {f g : Fields}
    (hrest : ∀ key, "source" ≠ key → "target" ≠ key → g.get? key = f.get? key)
    (s t s' t' : String) {key : String} (hsource : "source" ≠ key) (htarget : "target" ≠ key) :
    (settleFields g s' t').get? key = (settleFields f s t).get? key := by
  rw [get?_settleFields hsource htarget, get?_settleFields hsource htarget, valueOf, valueOf,
    hrest "type" (by decide) (by decide), hrest key hsource htarget]

/-- If the fields of an edge differ in the ends only, and the ends are settled the other way round,
the edge has its ends exchanged. -/
theorem read_settled_exchanged {f g : Fields}
    (hrest : ∀ key, "source" ≠ key → "target" ≠ key → g.get? key = f.get? key)
    {id source target : String} {r : Relationship}
    (hread : Relationship.ofFields (Fields.put "id" (.str id) (settleFields f source target)) =
      .valid r) :
    Relationship.ofFields (Fields.put "id" (.str id) (settleFields g target source)) =
      .valid { r with source := r.target, target := r.source } := by
  obtain ⟨-, hsource, htarget, -⟩ := Relationship.texts_of_read hread
  rw [Fields.get?_put_of_ne (by decide), (settleFields_sound f source target).1] at hsource
  rw [Fields.get?_put_of_ne (by decide), (settleFields_sound f source target).2.1] at htarget
  refine Relationship.read_of_ends hread ?_ ?_ fun key hne hne' => ?_
  · rw [Fields.get?_put_of_ne (by decide), (settleFields_sound g target source).1, htarget]
  · rw [Fields.get?_put_of_ne (by decide), (settleFields_sound g target source).2.1, hsource]
  · by_cases hid : "id" = key
    · rw [← hid, Fields.get?_put_self, Fields.get?_put_self]
    · rw [Fields.get?_put_of_ne hid, Fields.get?_put_of_ne hid,
        settleFields_congr hrest source target target source hne hne']

/-- The same values are shown when the ends are exchanged. -/
theorem mem_shownValues_exchanged {fields exchanged : Fields}
    (hsource : valueOf exchanged "source" = valueOf fields "target")
    (htarget : valueOf exchanged "target" = valueOf fields "source")
    (hrest : ∀ key, "source" ≠ key → "target" ≠ key → valueOf exchanged key = valueOf fields key)
    {v : Value} : v ∈ shownValues exchanged ↔ v ∈ shownValues fields := by
  unfold shownValues
  dsimp only
  rw [hsource, htarget, hrest "id" (by decide) (by decide), hrest "type" (by decide) (by decide),
    hrest "label" (by decide) (by decide), Bool.or_comm]
  split
  · simp [or_comm]
  · split
    · simp [or_left_comm]
    · simp [or_left_comm]

/-- A connection whose ends are exchanged is read with the same id. -/
theorem readConnection_exchangeEnds {index : Nat} {bases : List String} {v : Value}
    {connection : Connection} {base : Option String}
    (hread : readConnection index bases v = .ok (connection, base)) :
    readConnection index bases (exchangeEnds v) = .ok (connection.exchangeEnds, base) := by
  cases v with
  | obj fields =>
    obtain ⟨exchanged, hexchanged, hsource, htarget, hrest⟩ := get?_exchangeEnds fields
    have hvalue : ∀ key, "source" ≠ key → "target" ≠ key →
        valueOf exchanged key = valueOf fields key := by
      intro key hne hne'
      rw [valueOf, hrest key hne hne', valueOf]
    have htype : typeText exchanged = typeText fields := by
      rw [typeText, hvalue "type" (by decide) (by decide), typeText]
    rw [hexchanged]
    obtain ⟨_, hshown, hread⟩ := Except.bind_eq_ok.1 hread
    have hshown' : ensureShowable (shownValues exchanged) = .ok () :=
      ensureShowable_eq_ok.2 fun v hv => ensureShowable_eq_ok.1 hshown v
        ((mem_shownValues_exchanged hsource htarget hvalue).1 hv)
    refine Except.bind_eq_ok.2 ⟨_, hshown', ?_⟩
    unfold connect at hread ⊢
    dsimp only at hread ⊢
    simp only [valueOf_settleFields, shown_type_settleFields, label_settleFields] at hread ⊢
    rw [hsource, htarget, hvalue "id" (by decide) (by decide),
      hvalue "label" (by decide) (by decide), htype, baseId_comm (valueOf fields "target").shown]
    generalize valueOf fields "source" = source at hread ⊢
    generalize valueOf fields "target" = target at hread ⊢
    by_cases hends : (isMissing source || isMissing target) = true
    · rw [if_pos hends] at hread
      rw [Bool.or_comm, if_pos hends]
      cases hread
      cases hleft : isMissing source <;> cases hright : isMissing target <;>
        simp [hleft, hright, Connection.exchangeEnds] at hends ⊢
    · rw [if_neg hends] at hread
      rw [Bool.or_comm, if_neg hends]
      generalize (if isMissing (valueOf fields "id") = true then _ else _ : String × Option String)
        = named at hread ⊢
      obtain ⟨edge, hedge, hread⟩ := Except.bind_eq_ok.1 hread
      cases hread
      rw [read_settled_exchanged hrest (Checked.orError_eq_ok.1 hedge)]
      rfl
  | _ => cases hread

/-- Turning some of the edges round turns what is read, and keeps all ids. -/
theorem readConnections_exchangeEnds {index : Nat} {bases : List String} {l : List Value}
    {connections : List Connection} (hread : readConnections index bases l = .ok connections)
    (turn : Nat → Bool) :
    readConnections index bases (l.mapIdx fun i v => if turn i then exchangeEnds v else v) =
      .ok (connections.mapIdx fun i c => if turn i then c.exchangeEnds else c) := by
  induction l generalizing index bases connections turn with
  | nil =>
    cases hread
    rfl
  | cons v rest ih =>
    obtain ⟨connection, base, others, hfirst, hrest, rfl⟩ := readConnections_cons hread
    have hturned : readConnection index bases (if turn 0 then exchangeEnds v else v) =
        .ok (if turn 0 then connection.exchangeEnds else connection, base) := by
      cases turn 0
      · exact hfirst
      · exact readConnection_exchangeEnds hfirst
    rw [List.mapIdx_cons, List.mapIdx_cons, readConnections, hturned]
    change (readConnections _ _ _ >>= _) = _
    rw [ih hrest fun i => turn (i + 1)]
    rfl

/-! ## Ids that are made -/

/-- Members in front are fewer in front of an earlier member. -/
theorem countP_take_lt {α : Type} {P : α → Prop} [DecidablePred P] {l : List α} {i j : Nat} {a : α}
    (ha : l[i]? = some a) (hP : P a) (hlt : i < j) :
    (l.take i).countP (P ·) < (l.take j).countP (P ·) := by
  have hone : (l.take (i + 1)).countP (P ·) = (l.take i).countP (P ·) + 1 := by
    rw [List.take_add_one, ha, Option.toList_some, List.countP_append, List.countP_singleton,
      if_pos (decide_eq_true hP)]
  have hle : (l.take (i + 1)).countP (P ·) ≤ (l.take j).countP (P ·) :=
    (List.take_prefix_take_left hlt).sublist.countP_le
  omega

/-- The ids that are made for the edges of a list of connections that is read.

An id is made from the base of its connection and from the number of the connections in front that
have the same one. No two connections get the same made id. If any of the edges are turned round,
what is read is the same but for their ends. And if two lists have the same connections with some
base, in the same order, these become the same edges, whatever the other connections are. -/
theorem made_ids {l : List Value} {connections : List Connection}
    (hread : readConnections 0 [] l = .ok connections) :
    (∀ (i : Nat) v base, l[i]? = some v → HasBase base v → ∃ r,
      connections[i]? = some (.edge r) ∧
        r.id = numberedId base ((l.take i).countP (HasBase base ·))) ∧
    (∀ (i j : Nat) v w (r s : Relationship), l[i]? = some v → l[j]? = some w →
      (madeBase? v).isSome → (madeBase? w).isSome →
      connections[i]? = some (.edge r) → connections[j]? = some (.edge s) →
      r.id = s.id → i = j) ∧
    (∀ turn : Nat → Bool,
      readConnections 0 [] (l.mapIdx fun i v => if turn i then exchangeEnds v else v) =
        .ok (connections.mapIdx fun i c => if turn i then c.exchangeEnds else c)) ∧
    ∀ base l' connections', readConnections 0 [] l' = .ok connections' →
      l.filter (HasBase base ·) = l'.filter (HasBase base ·) →
      madeEdges base l connections = madeEdges base l' connections' := by
  have hplace : ∀ (i : Nat) v base, l[i]? = some v → HasBase base v → ∃ r,
      connections[i]? = some (.edge r) ∧
        r.id = numberedId base ((l.take i).countP (HasBase base ·)) := by
    intro i v base hv hbase
    obtain ⟨r, hr, hedge⟩ := readConnections_made hread hv hbase
    rw [List.count_nil, Nat.zero_add] at hedge
    exact ⟨r, hr, id_of_edgeUnder? hedge⟩
  refine ⟨hplace, ?_, readConnections_exchangeEnds hread, ?_⟩
  · intro i j v w r s hv hw hmade hmade' hr hs hid
    obtain ⟨base, (hbase : HasBase base v)⟩ := Option.isSome_iff_exists.1 hmade
    obtain ⟨base', (hbase' : HasBase base' w)⟩ := Option.isSome_iff_exists.1 hmade'
    obtain ⟨r', hr', hidr⟩ := hplace i v base hv hbase
    obtain ⟨s', hs', hids⟩ := hplace j w base' hw hbase'
    obtain rfl : r = r' := by simpa using hr.symm.trans hr'
    obtain rfl : s = s' := by simpa using hs.symm.trans hs'
    obtain ⟨rfl, hcount⟩ := numberedId_inj (ends_of_madeBase? hbase).1 (ends_of_madeBase? hbase').1
      (hidr.symm.trans (hid.trans hids))
    rcases Nat.lt_trichotomy i j with hlt | heq | hlt
    · exact absurd hcount (Nat.ne_of_lt (countP_take_lt hv hbase hlt))
    · exact heq
    · exact absurd hcount.symm (Nat.ne_of_lt (countP_take_lt hw hbase' hlt))
  · intro base l' connections' hread' hsame
    rw [madeEdges_eq hread, madeEdges_eq hread', hsame]

/-- Two connections of one base, one in each direction, with one that gives an id and one without a
target between them, and a connection of another base. -/
def links : List Value :=
  [.obj [("source", .str "a"), ("target", .str "b")],
    .obj [("id", .int 5), ("source", .str "a"), ("target", .str "b")],
    .obj [("source", .str "b")],
    .obj [("source", .str "b"), ("target", .str "a"), ("label", .str "")],
    .obj [("source", .str "a"), ("target", .str "c")]]

/-- Turning the first link round keeps the ids. So does leaving out those without a base and moving
the last one to the front. -/
theorem made_ids_links :
    let base := baseId "a" "b" "association" ""
    let moved := [4, 0, 3].filterMap (links[·]?)
    ∃ connections connections', readConnections 0 [] links = .ok connections ∧
      readConnections 0 [] moved = .ok connections' ∧
      ((edges connections).map (·.id) = ["rel_702876e3cb15cc7d", "5", "rel_702876e3cb15cc7d_1",
        "rel_5f7d7b430214a96d"] ∧
      ∃ r, connections[3]? = some (.edge r) ∧ r.id = numberedId base 1) ∧
      (∀ r s, connections[0]? = some (.edge r) → connections[4]? = some (.edge s) → r.id ≠ s.id) ∧
      readConnections 0 [] (links.mapIdx fun i v => if i = 0 then exchangeEnds v else v) =
        .ok (connections.mapIdx fun i c => if i = 0 then c.exchangeEnds else c) ∧
      madeEdges base links connections = madeEdges base moved connections' := by
  intro base moved
  obtain ⟨connections, hread, hids⟩ : ∃ connections, readConnections 0 [] links = .ok connections ∧
      (edges connections).map (·.id) = ["rel_702876e3cb15cc7d", "5", "rel_702876e3cb15cc7d_1",
        "rel_5f7d7b430214a96d"] := Except.exists_of_any (by decide +kernel)
  obtain ⟨connections', hread', -⟩ : ∃ connections', readConnections 0 [] moved = .ok connections' ∧
      (edges connections').length = 3 := Except.exists_of_any (by decide +kernel)
  obtain ⟨hplace, hdistinct, hturn, hmoved⟩ := made_ids hread
  refine ⟨connections, connections', hread, hread', ⟨hids, ?_⟩, fun r s hr hs hid => ?_, ?_, ?_⟩
  · obtain ⟨r, hr, hid⟩ := hplace 3 _ base rfl (by decide +kernel)
    have hcount : (links.take 3).countP (HasBase base ·) = 1 := by decide +kernel
    exact ⟨r, hr, hcount ▸ hid⟩
  · exact absurd (hdistinct 0 4 _ _ r s rfl rfl (by decide +kernel) (by decide +kernel) hr hs hid)
      (by decide)
  · simpa using hturn fun i => decide (i = 0)
  · exact hmoved base moved connections' hread' (by decide +kernel)

end Document

end Scaffold
