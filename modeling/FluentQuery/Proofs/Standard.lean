import FluentQuery.Operation.Standard
import FluentQuery.Proofs.Pattern
import FluentQuery.Proofs.Verdict

/-!
# What the built-in operations read and build

The rows of the standard table, as far as other statements depend on them: which nodes denote a
collection, what kind of arguments each extractor gives, and that these are the arguments that the
builder of the same row takes.

Shape tests and extractors look at a node by separate code. For collections, `Denotes` is what both
agree on: a shape test matches exactly on the nodes that denote a collection in its way, and there
the extractor gives that collection.
-/

namespace FluentQuery

variable {node : Json} {roots : Roots} {arguments : Arguments}

/-! ## Rows -/

theorem Attachment.kind_injective {a b : Attachment} (h : a.kind = b.kind) : a = b := by
  cases a <;> cases b <;> first | rfl | exact absurd h (by decide)

/-- An operation applies to the nodes of its kind that call it by its name, if it has one. -/
theorem Operation.applies_iff {op : Operation} :
    op.applies node = true ↔ node.kind? = some op.attachment.kind ∧
      ∀ name, op.name = some name → op.attachment.nameOf? node = some name := by
  rw [applies, Bool.and_eq_true, Attachment.accepts, Json.isKind_iff]
  cases op.name <;> simp

/-- Operations that apply to one node stand on the same kind of node. -/
theorem Operation.attachment_eq_of_applies {op op' : Operation} (h : op.applies node = true)
    (h' : op'.applies node = true) : op.attachment = op'.attachment := by
  obtain ⟨hkind, -⟩ := applies_iff.mp h
  obtain ⟨hkind', -⟩ := applies_iff.mp h'
  exact Attachment.kind_injective (Option.some.inj (hkind.symm.trans hkind'))

/-! ## Collections -/

/-- A node denotes a collection: as a member of an identifier bound to a database, or as an
identifier bound to the collection. -/
inductive Denotes (roots : Roots) (node : Json) : CollectionRef → Prop
  | member {name db property : String} (hkind : node.unparen.isKind Kind.member = true)
      (hobject : (node.field? "object").bind Json.identName? = some name)
      (hroot : roots.get? name = some ⟨db, none⟩)
      (hproperty : node.staticProperty? = some property) : Denotes roots node ⟨db, property⟩
  | identifier {name db collection : String} (hname : node.identName? = some name)
      (hroot : roots.get? name = some ⟨db, some collection⟩) : Denotes roots node ⟨db, collection⟩

theorem databaseMember_eq_matched_iff :
    databaseMember node roots = .matched () ↔ ∃ name db property,
      (node.field? "object").bind Json.identName? = some name ∧
        roots.get? name = some ⟨db, none⟩ ∧ node.staticProperty? = some property := by
  rw [databaseMember]
  cases hobject : (node.field? "object").bind Json.identName? with
  | none => simp [Outcome.refuse]
  | some name =>
    cases hroot : roots.get? name with
    | none => simp [Outcome.refuse, hroot]
    | some binding =>
      obtain ⟨db, collection⟩ := binding
      cases collection <;> cases hproperty : node.staticProperty? <;>
        simp [Outcome.refuse, hroot]

theorem databaseMemberArguments_of_root {name db property : String}
    (hobject : (node.field? "object").bind Json.identName? = some name)
    (hroot : roots.get? name = some ⟨db, none⟩) (hproperty : node.staticProperty? = some property) :
    databaseMemberArguments node roots = .matched (.collection ⟨db, property⟩) := by
  simp [databaseMemberArguments, hobject, hroot, hproperty]

theorem exists_of_databaseMemberArguments
    (h : databaseMemberArguments node roots = .matched arguments) :
    ∃ ref, arguments = .collection ref := by
  rw [databaseMemberArguments] at h
  split at h
  · exact ⟨_, (Outcome.matched.inj h).symm⟩
  · cases h

theorem collectionIdentifier_eq_matched_iff :
    collectionIdentifier node roots = .matched () ↔ ∃ name db collection,
      node.identName? = some name ∧ roots.get? name = some ⟨db, some collection⟩ := by
  rw [collectionIdentifier]
  cases hname : node.identName? with
  | none => simp [Outcome.refuse]
  | some name =>
    cases hroot : roots.get? name with
    | none => simp [Outcome.refuse, hroot]
    | some binding =>
      obtain ⟨db, collection⟩ := binding
      cases collection <;> simp [Outcome.refuse, hroot]

theorem collectionIdentifierArguments_of_root {name db collection : String}
    (hname : node.identName? = some name)
    (hroot : roots.get? name = some ⟨db, some collection⟩) :
    collectionIdentifierArguments node roots = .matched (.collection ⟨db, collection⟩) := by
  simp [collectionIdentifierArguments, hname, hroot]

theorem exists_of_collectionIdentifierArguments
    (h : collectionIdentifierArguments node roots = .matched arguments) :
    ∃ ref, arguments = .collection ref := by
  rw [collectionIdentifierArguments] at h
  split at h
  · cases h
  · split at h
    · cases h
    · exact ⟨_, (Outcome.matched.inj h).symm⟩

/-! ## Reads -/

theorem exists_of_filterArguments (h : filterArguments node roots = .matched arguments) :
    ∃ predicate, arguments = .query (.filter predicate) := by
  obtain ⟨m, -, h⟩ := Outcome.bind_eq_matched_iff.mp h
  obtain ⟨predicate, -, h⟩ := Outcome.bind_eq_matched_iff.mp h
  exact ⟨predicate, (Outcome.matched.inj h).symm⟩

theorem exists_of_sortArguments (h : sortArguments node roots = .matched arguments) :
    ∃ keys, arguments = .query (.sort keys) := by
  obtain ⟨m, -, h⟩ := Outcome.bind_eq_matched_iff.mp h
  obtain ⟨comparator, -, h⟩ := Outcome.bind_eq_matched_iff.mp h
  obtain ⟨key, -, h⟩ := Outcome.bind_eq_matched_iff.mp h
  exact ⟨[key], (Outcome.matched.inj h).symm⟩

theorem exists_of_sliceArguments (h : sliceArguments node roots = .matched arguments) :
    ∃ start stop, arguments = .query (.slice start stop) := by
  obtain ⟨m, -, h⟩ := Outcome.bind_eq_matched_iff.mp h
  obtain ⟨start, -, h⟩ := Outcome.bind_eq_matched_iff.mp h
  split at h
  · exact ⟨start, none, (Outcome.matched.inj h).symm⟩
  · obtain ⟨stop, -, h⟩ := Outcome.bind_eq_matched_iff.mp h
    exact ⟨start, some stop, (Outcome.matched.inj h).symm⟩

theorem exists_of_mapArguments (h : mapArguments node roots = .matched arguments) :
    ∃ fields, arguments = .query (.map fields) := by
  obtain ⟨m, -, h⟩ := Outcome.bind_eq_matched_iff.mp h
  obtain ⟨fields, -, h⟩ := Outcome.bind_eq_matched_iff.mp h
  split at h
  · cases h
  · exact ⟨fields, (Outcome.matched.inj h).symm⟩

/-! ## Writes -/

theorem exists_of_insertArguments (h : insertArguments node roots = .matched arguments) :
    ∃ values, arguments = .modification (.insert values) := by
  obtain ⟨m, -, h⟩ := Outcome.bind_eq_matched_iff.mp h
  dsimp only at h
  split at h
  · cases h
  · split at h
    · exact ⟨_, (Outcome.matched.inj h).symm⟩
    · cases h

theorem exists_of_removeArguments (h : removeArguments node roots = .matched arguments) :
    ∃ predicate, arguments = .modification (.remove predicate) := by
  obtain ⟨call, -, h⟩ := Outcome.bind_eq_matched_iff.mp h
  obtain ⟨m, -, h⟩ := Outcome.bind_eq_matched_iff.mp h
  obtain ⟨keep, -, h⟩ := Outcome.bind_eq_matched_iff.mp h
  exact ⟨_, (Outcome.matched.inj h).symm⟩

theorem exists_of_change {property : Json} {pair : String × Json}
    (h : change property = .matched pair) :
    property.isKind Kind.property = true ∧ property.staticProperty? = some pair.1 ∧
      property.field? "value" = some pair.2 := by
  rw [change] at h
  split at h
  · next name hname hkind =>
    split at h
    · next v hv =>
      cases h
      exact ⟨hkind, hname, hv⟩
    · cases h
  · cases h

theorem exists_of_updateOf {param : String} {m : Bindings} {predicate : Option Json} {op : ModOp}
    (h : updateOf param m predicate = .matched op) :
    m.string? "object" = some param ∧ ∃ pairs,
      changes (((m.get? "overrides").bind Json.asArray?).getD []) = .matched pairs ∧
        op = .update pairs predicate := by
  rw [updateOf] at h
  split at h
  · next hobject =>
    obtain ⟨pairs, hpairs, h⟩ := Outcome.bind_eq_matched_iff.mp h
    split at h
    · cases h
    · exact ⟨hobject, pairs, hpairs, (Outcome.matched.inj h).symm⟩
  · cases h

theorem exists_of_updateForms {param : String} {body : Json} {op : ModOp}
    (h : Rule.firstOf updateForms param body = .matched op) :
    ∃ pairs predicate, op = .update pairs predicate := by
  obtain ⟨rule, hmem, happly⟩ := Rule.exists_of_firstFrom h
  obtain ⟨m, -, hbuild⟩ := Outcome.bind_eq_matched_iff.mp happly
  simp only [updateForms, List.mem_cons, List.not_mem_nil, or_false] at hmem
  rcases hmem with rfl | rfl | rfl
  all_goals
    obtain ⟨-, pairs, -, rfl⟩ := exists_of_updateOf hbuild
    exact ⟨pairs, _, rfl⟩

theorem exists_of_updateArguments (h : updateArguments node roots = .matched arguments) :
    ∃ pairs predicate, arguments = .modification (.update pairs predicate) := by
  obtain ⟨call, -, h⟩ := Outcome.bind_eq_matched_iff.mp h
  obtain ⟨m, -, h⟩ := Outcome.bind_eq_matched_iff.mp h
  obtain ⟨body, -, h⟩ := Outcome.bind_eq_matched_iff.mp h
  obtain ⟨op, hop, h⟩ := Outcome.bind_eq_matched_iff.mp h
  obtain ⟨pairs, predicate, rfl⟩ := exists_of_updateForms hop
  exact ⟨pairs, predicate, (Outcome.matched.inj h).symm⟩

/-! ## The rows

The five reads of the table are rows of one family, and are named by `Read`. `StandardRow` lists all
rows, for case splits. -/

/-- The reads that a chain is made of. -/
inductive Read where
  | filter
  | map
  | slice
  | sort
  | length
deriving DecidableEq, Repr

/-- The operation of a read that gives documents. -/
def QueryOp.opId : QueryOp → OpId
  | .filter _ => .filter
  | .map _ => .map
  | .slice _ _ => .slice
  | .sort _ => .sort

/-- The operation of a change. -/
def ModOp.opId : ModOp → OpId
  | .insert _ => .insert
  | .update _ _ => .update
  | .remove _ => .remove

namespace Read

/-- The operation of a read. -/
def id : Read → OpId
  | .filter => .filter
  | .map => .map
  | .slice => .slice
  | .sort => .sort
  | .length => .length

/-- What a read takes from its node. -/
def extract : Read → Extractor
  | .filter => filterArguments
  | .map => mapArguments
  | .slice => sliceArguments
  | .sort => sortArguments
  | .length => lengthArguments

/-- The row of a read in the standard table. -/
def operation : Read → Operation
  | .filter => Table.queryMethod .filter [.root, .filter, .sort] filterArguments
  | .sort => Table.queryMethod .sort [.root, .filter] sortArguments
  | .slice => Table.queryMethod .slice [.root, .filter, .sort, .map] sliceArguments
  | .map => Table.queryMethod .map [.root, .filter, .sort, .slice] mapArguments
  | .length => Table.lengthProperty

theorem operation_mem (read : Read) : read.operation ∈ Table.standard.operations := by
  cases read <;> simp [Table.standard, operation]

@[simp] theorem operation_id (read : Read) : read.operation.id = read.id := by
  cases read <;> rfl

@[simp] theorem operation_extract (read : Read) : read.operation.extract = read.extract := by
  cases read <;> rfl

theorem operation_name (read : Read) : read.operation.name = some read.id.text := by
  cases read <;> rfl

theorem operation_isInitial (read : Read) : read.operation.isInitial = false := by
  cases read <;> rfl

theorem operation_testShape (read : Read) : read.operation.testShape roots node = .matched () := by
  cases read <;> rfl

theorem operation_attachment {read : Read} (h : read ≠ .length) :
    read.operation.attachment = .call := by
  cases read with
  | length => exact absurd rfl h
  | _ => rfl

theorem id_text_injective {read read' : Read} (h : read.id.text = read'.id.text) :
    read = read' := by
  cases read <;> cases read' <;> first | rfl | exact absurd h (by decide)

/-- The arguments of a read are a query of that read, or the length. -/
theorem arguments_cases {read : Read} (h : read.extract node roots = .matched arguments) :
    (∃ q : QueryOp, arguments = .query q ∧ read.id = q.opId ∧ read.operation.build = buildQuery) ∨
      arguments = .value "length" ∧ read = .length := by
  cases read with
  | filter =>
    change filterArguments node roots = _ at h
    obtain ⟨predicate, rfl⟩ := exists_of_filterArguments h
    exact Or.inl ⟨_, rfl, rfl, rfl⟩
  | map =>
    change mapArguments node roots = _ at h
    obtain ⟨fields, rfl⟩ := exists_of_mapArguments h
    exact Or.inl ⟨_, rfl, rfl, rfl⟩
  | slice =>
    change sliceArguments node roots = _ at h
    obtain ⟨start, stop, rfl⟩ := exists_of_sliceArguments h
    exact Or.inl ⟨_, rfl, rfl, rfl⟩
  | sort =>
    change sortArguments node roots = _ at h
    obtain ⟨keys, rfl⟩ := exists_of_sortArguments h
    exact Or.inl ⟨_, rfl, rfl, rfl⟩
  | length => exact Or.inr ⟨(Outcome.matched.inj h).symm, rfl⟩

end Read

/-- The rows of the standard table. -/
inductive StandardRow : Operation → Prop
  | databaseRoot : StandardRow Table.databaseRoot
  | collectionRoot : StandardRow Table.collectionRoot
  | read (read : Read) : StandardRow read.operation
  | insert : StandardRow (Table.write .insert appended insertArguments)
  | update : StandardRow (Table.write .update (reassignedVia "map") updateArguments)
  | remove : StandardRow (Table.write .remove (reassignedVia "filter") removeArguments)

theorem standardRow_of_mem {op : Operation} (hop : op ∈ Table.standard.operations) :
    StandardRow op := by
  simp only [Table.standard, List.mem_cons, List.not_mem_nil, or_false] at hop
  rcases hop with rfl | rfl | rfl | rfl | rfl | rfl | rfl | rfl | rfl | rfl
  · exact .databaseRoot
  · exact .collectionRoot
  · exact .read .filter
  · exact .read .sort
  · exact .read .slice
  · exact .read .map
  · exact .read .length
  · exact .insert
  · exact .update
  · exact .remove

/-- The rows that need no node before them are those of collections. -/
theorem eq_databaseRoot_or_collectionRoot {op : Operation}
    (hop : op ∈ Table.standard.operations) (hinitial : op.isInitial = true) :
    op = Table.databaseRoot ∨ op = Table.collectionRoot := by
  cases standardRow_of_mem hop with
  | databaseRoot => exact Or.inl rfl
  | collectionRoot => exact Or.inr rfl
  | read read => cases read <;> cases hinitial
  | insert => cases hinitial
  | update => cases hinitial
  | remove => cases hinitial

end FluentQuery
