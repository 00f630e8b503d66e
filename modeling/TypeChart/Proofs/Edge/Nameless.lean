/-
**Edges that point at nothing.**

A document is read leniently, and so a reference may come out without a name: it says none, or says
it in a wrong way, or is no reference at all. A property whose target has no name implies no edge.
The rules for bases and interfaces do not ask for a name, and draw an edge to whatever a declaration
refers to at these places. With names for all types this is the one way for an edge to have an end
without a name, and then it is its target.

* `PropertyDecl.not_dangles_of_edge?`: properties imply no such edge.
* `TypeDecl.of_dangles`, `TypeDecl.exists_dangles_edges_iff`: which edges of a declaration are such.
* `TypeDecl.refersToNothing_iff_of_ofJson?`: what the entry of such a declaration says.
* `Snapshot.exists_dangles_classifiers_iff`: the edges that are drawn for a document.
-/

import TypeChart.Proofs.Declarations
import TypeChart.Proofs.Edge.Candidates
import TypeChart.Proofs.Edge.Selection
import TypeChart.Proofs.Snapshot.Acceptance

namespace TypeChart

/-- An edge with an end that has no name. -/
def Edge.Dangles (edge : Edge) : Prop :=
  edge.origin = "" ∨ edge.target = ""

theorem Edge.dangles_congr {first second : Edge} (same : first.key = second.key) :
    first.Dangles ↔ second.Dangles := by
  obtain ⟨origins, targets, _⟩ := Edge.key_eq_iff.mp same
  unfold Dangles
  rw [origins, targets]

/-! ### Rule by rule -/

theorem PropertyDecl.not_dangles_of_edge? {owner : String} {property : PropertyDecl} {edge : Edge}
    (named : owner ≠ "") (implied : property.edge? owner = some edge) : ¬ edge.Dangles := by
  obtain ⟨isNamed, _, ⟨_, rfl⟩ | ⟨_, _, rfl⟩ | ⟨_, _, rfl⟩⟩ := edge?_eq_some_iff.mp implied
  · exact not_or.mpr ⟨named, isNamed⟩
  · exact not_or.mpr ⟨isNamed, named⟩
  · exact not_or.mpr ⟨named, isNamed⟩

namespace TypeDecl

/-- A declaration that refers to something without a name where it draws an edge in any case. -/
def RefersToNothing (allAncestors : Bool) (decl : TypeDecl) : Prop :=
  ∃ type ∈ decl.drawnBases allAncestors ++ decl.interfaces, type.name = ""

variable {allAncestors : Bool} {owner : String} {decl : TypeDecl}

/-- An edge that dangles comes from the rule for bases or from that for interfaces. -/
theorem of_dangles (named : owner ≠ "") {edge : Edge}
    (member : edge ∈ decl.candidates allAncestors owner) (dangles : edge.Dangles) :
    edge.origin = owner ∧ (edge.kind = .inheritance ∨ edge.kind = .realization) ∧
      ∃ type ∈ decl.drawnBases allAncestors ++ decl.interfaces, type.name = edge.target := by
  rcases mem_candidates_iff.mp member with ofBase | ofInterface | ofProperty
  · obtain ⟨base, drawn, rfl⟩ := List.mem_map.mp ofBase
    exact ⟨rfl, .inl rfl, base, List.mem_append_left _ drawn, rfl⟩
  · obtain ⟨interface, listed, rfl⟩ := List.mem_map.mp ofInterface
    refine ⟨rfl, ?_, interface, List.mem_append_right _ listed, rfl⟩
    by_cases isInterface : decl.kind = .interface
    · exact .inl (if_pos isInterface)
    · exact .inr (if_neg isInterface)
  · obtain ⟨property, _, implied⟩ := List.mem_filterMap.mp ofProperty
    exact absurd dangles (PropertyDecl.not_dangles_of_edge? named implied)

variable (owner) in
/-- Every reference to a base or an interface is the target of a candidate. -/
theorem exists_candidate_of_mem {type : TypeUse}
    (member : type ∈ decl.drawnBases allAncestors ++ decl.interfaces) :
    ∃ edge ∈ decl.candidates allAncestors owner, edge.target = type.name := by
  rcases List.mem_append.mp member with drawn | listed
  · exact ⟨_, mem_candidates_iff.mpr (.inl (List.mem_map_of_mem drawn)), rfl⟩
  · exact ⟨_, mem_candidates_iff.mpr (.inr (.inl (List.mem_map_of_mem listed))), rfl⟩

/-- **An edge of a declaration dangles exactly if the declaration refers to nothing.** -/
theorem exists_dangles_edges_iff (named : owner ≠ "") :
    (∃ edge ∈ decl.edges allAncestors owner, edge.Dangles) ↔ decl.RefersToNothing allAncestors := by
  rw [edges, EdgeSet.exists_mem_ofList_iff Edge.dangles_congr]
  constructor
  · rintro ⟨edge, member, dangles⟩
    obtain ⟨isOwner, _, type, refers, isTarget⟩ := of_dangles named member dangles
    refine ⟨type, refers, isTarget.trans (dangles.resolve_left ?_)⟩
    rw [isOwner]
    exact named
  · rintro ⟨type, refers, nameless⟩
    obtain ⟨edge, member, isTarget⟩ := exists_candidate_of_mem owner refers
    exact ⟨edge, member, .inr (isTarget.trans nameless)⟩

end TypeDecl

/-! ### What a document says -/

/-- The name that a reference says: a bare text is the name. -/
def Json.referredName : Json → String
  | .string name => name
  | json => json.textAt "name"

theorem TypeUse.name_ofJson (json : Json) : (TypeUse.ofJson json).name = json.referredName := by
  by_cases bare : ∃ name, json = .string name
  · obtain ⟨name, rfl⟩ := bare
    rw [ofJson_string]
    rfl
  · have tells := not_exists.mp bare
    rw [ofJson_of_ne_string tells, Json.referredName.eq_2 json tells]

/-- The references of a type entry to which an edge is drawn in any case: the bases that are asked
for, and the interfaces. -/
def Json.drawnReferences (allAncestors : Bool) (entry : Json) : List Json :=
  TypeDecl.wanted allAncestors (entry.saidAt "base") (entry.itemsAt "ancestors") ++
    entry.itemsAt "interfaces"

namespace TypeDecl

/-- The root of all classes has a name, so leaving it out leaves out nothing that has none. -/
theorem refersToNothing_iff {allAncestors : Bool} {decl : TypeDecl} :
    decl.RefersToNothing allAncestors ↔
      ∃ type ∈ wanted allAncestors decl.bases decl.ancestors ++ decl.interfaces,
        type.name = "" := by
  rw [RefersToNothing, drawnBases_eq]
  constructor
  · rintro ⟨type, refers, nameless⟩
    refine ⟨type, ?_, nameless⟩
    rcases List.mem_append.mp refers with drawn | listed
    · exact List.mem_append_left _ (List.mem_filter.mp drawn).1
    · exact List.mem_append_right _ listed
  · rintro ⟨type, refers, nameless⟩
    refine ⟨type, ?_, nameless⟩
    rcases List.mem_append.mp refers with isWanted | listed
    · refine List.mem_append_left _ (List.mem_filter.mpr ⟨isWanted, ?_⟩)
      rw [nameless]
      rfl
    · exact List.mem_append_right _ listed

theorem references_of_ofJson? {entry : Json} {decl : TypeDecl}
    (isRead : TypeDecl.ofJson? entry = some decl) (allAncestors : Bool) :
    wanted allAncestors decl.bases decl.ancestors ++ decl.interfaces =
      (entry.drawnReferences allAncestors).map TypeUse.ofJson := by
  unfold TypeDecl.ofJson? at isRead
  split at isRead
  · cases isRead
    rw [Json.drawnReferences, List.map_append, map_wanted]
    rfl
  · cases isRead

/-- A declaration refers to nothing exactly if a reference of its entry says no name. -/
theorem refersToNothing_iff_of_ofJson? {entry : Json} {decl : TypeDecl}
    (isRead : TypeDecl.ofJson? entry = some decl) (allAncestors : Bool) :
    decl.RefersToNothing allAncestors ↔
      ∃ said ∈ entry.drawnReferences allAncestors, said.referredName = "" := by
  rw [refersToNothing_iff, references_of_ofJson? isRead]
  constructor
  · rintro ⟨type, refers, nameless⟩
    obtain ⟨said, listed, rfl⟩ := List.mem_map.mp refers
    exact ⟨said, listed, (TypeUse.name_ofJson said).symm.trans nameless⟩
  · rintro ⟨said, listed, nameless⟩
    exact ⟨_, List.mem_map_of_mem listed, (TypeUse.name_ofJson said).trans nameless⟩

/-- Whether a declaration has a box with edges, told by its entry. -/
theorem hasEdges_iff_of_ofJson? {entry : Json} {decl : TypeDecl}
    (isRead : TypeDecl.ofJson? entry = some decl) :
    decl.isResolved = true ∧ decl.kind.box ≠ .enumeration ↔
      entry.flagAt "has_symbol" true = true ∧ TypeDecl.kindOfJson entry ≠ .enumeration := by
  unfold TypeDecl.ofJson? at isRead
  split at isRead
  · cases isRead
    rw [Ne, TypeKind.box_eq_enumeration_iff]
  · cases isRead

end TypeDecl

/-! ### Documents -/

namespace Snapshot

variable {snapshot : Snapshot}

theorem exists_dangles_classifiers_iff_refersToNothing
    (named : ∀ unit ∈ snapshot.units, ∀ decl ∈ unit.types, decl.name ≠ "") (allAncestors : Bool) :
    (∃ classifier ∈ (snapshot.classifiers allAncestors).1,
        ∃ edge ∈ classifier.edges, edge.Dangles) ↔
      ∃ unit ∈ snapshot.units, ∃ decl ∈ unit.types,
        (decl.isResolved = true ∧ decl.kind.box ≠ .enumeration) ∧
          decl.RefersToNothing allAncestors := by
  constructor
  · rintro ⟨classifier, member, edge, drawn, dangles⟩
    obtain ⟨unit, inSnapshot, decl, listed, isResolved, isNoEnumeration, implied⟩ :=
      exists_mem_edges_classifiers_iff.mp ⟨classifier, member, drawn⟩
    have refers := (TypeDecl.exists_dangles_edges_iff (named unit inSnapshot decl listed)).mp
      ⟨edge, implied, dangles⟩
    exact ⟨unit, inSnapshot, decl, listed, ⟨isResolved, isNoEnumeration⟩, refers⟩
  · rintro ⟨unit, inSnapshot, decl, listed, ⟨isResolved, isNoEnumeration⟩, refers⟩
    obtain ⟨edge, implied, dangles⟩ :=
      (TypeDecl.exists_dangles_edges_iff (named unit inSnapshot decl listed)).mpr refers
    obtain ⟨classifier, member, drawn⟩ := exists_mem_edges_classifiers_iff.mpr
      ⟨unit, inSnapshot, decl, listed, isResolved, isNoEnumeration, implied⟩
    exact ⟨classifier, member, edge, drawn, dangles⟩

/-- **Only a base or an interface without a name makes an edge that points at nothing.** In a
document whose types all have names, every edge starts at a name, and one that ends at none is drawn
to a base or an interface. There is such an edge exactly if a type entry that is drawn with edges
has, among the bases that are asked for and the interfaces, a reference that says no name. -/
theorem exists_dangles_classifiers_iff {json : Json} (isRead : Snapshot.ofJson json = .ok snapshot)
    (named : ∀ unit ∈ snapshot.units, ∀ decl ∈ unit.types, decl.name ≠ "") (allAncestors : Bool) :
    (∀ classifier ∈ (snapshot.classifiers allAncestors).1, ∀ edge ∈ classifier.edges,
      edge.origin ≠ "" ∧
        (edge.target = "" → edge.kind = .inheritance ∨ edge.kind = .realization)) ∧
    ((∃ classifier ∈ (snapshot.classifiers allAncestors).1,
        ∃ edge ∈ classifier.edges, edge.Dangles) ↔
      ∃ entry ∈ json.typeEntries,
        (entry.flagAt "has_symbol" true = true ∧ TypeDecl.kindOfJson entry ≠ .enumeration) ∧
          ∃ said ∈ entry.drawnReferences allAncestors, said.referredName = "") := by
  constructor
  · intro classifier member edge drawn
    obtain ⟨unit, inSnapshot, decl, listed, _, _, implied⟩ :=
      exists_mem_edges_classifiers_iff.mp ⟨classifier, member, drawn⟩
    have hasName := named unit inSnapshot decl listed
    have ofNothing : edge.Dangles → _ :=
      TypeDecl.of_dangles hasName (EdgeSet.mem_of_mem_ofList implied)
    exact ⟨fun bare => hasName ((ofNothing (.inl bare)).1.symm.trans bare),
      fun bare => (ofNothing (.inr bare)).2.1⟩
  · rw [exists_dangles_classifiers_iff_refersToNothing named]
    constructor
    · rintro ⟨unit, inSnapshot, decl, listed, hasEdges, refers⟩
      obtain ⟨entry, inDocument, entryRead⟩ :=
        (exists_mem_types_iff_of_ofJson isRead).mp ⟨unit, inSnapshot, listed⟩
      exact ⟨entry, inDocument, (TypeDecl.hasEdges_iff_of_ofJson? entryRead).mp hasEdges,
        (TypeDecl.refersToNothing_iff_of_ofJson? entryRead allAncestors).mp refers⟩
    · rintro ⟨entry, inDocument, hasEdges, refers⟩
      have accepted : json.IsDocument := exists_ofJson_iff.mp ⟨snapshot, isRead⟩
      obtain ⟨decl, entryRead⟩ :=
        TypeDecl.exists_ofJson?_iff.mpr (accepted.isNamed inDocument)
      obtain ⟨unit, inSnapshot, listed⟩ :=
        (exists_mem_types_iff_of_ofJson isRead).mpr ⟨entry, inDocument, entryRead⟩
      exact ⟨unit, inSnapshot, decl, listed,
        (TypeDecl.hasEdges_iff_of_ofJson? entryRead).mpr hasEdges,
        (TypeDecl.refersToNothing_iff_of_ofJson? entryRead allAncestors).mpr refers⟩

end Snapshot

/-- A document of one type, which has a base with a name and two properties of types without one:
an array is known by its element, and the element here is no reference at all. -/
def Sample.crate : Json :=
  .object
    [("sources", .array
      [.object
        [("types", .array
          [.object
            [("name", .string "Crate"),
             ("base", .string "Box"),
             ("properties", .array
               [.object [("name", .string "content")],
                .object [("type", .object [("element_type", .array [])])]])]])]])]

/-- Its properties imply no edges, and no edge of it points at nothing. -/
theorem Snapshot.not_dangles_crate :
    ∃ snapshot, ofJson Sample.crate = .ok snapshot ∧
      ∀ allAncestors, ¬ ∃ classifier ∈ (snapshot.classifiers allAncestors).1,
        ∃ edge ∈ classifier.edges, edge.Dangles := by
  have isRead : ofJson Sample.crate = .ok
      { units := [{ types := [{
          name := "Crate"
          bases := [TypeUse.ofJson (.string "Box")]
          properties :=
            [{ name := "content" },
             { type := TypeUse.ofJson (.object [("element_type", .array [])]) }] }] }] } := rfl
  have allNamed : ∀ allAncestors, ¬ ∃ entry ∈ Sample.crate.typeEntries,
      (entry.flagAt "has_symbol" true = true ∧ TypeDecl.kindOfJson entry ≠ .enumeration) ∧
        ∃ said ∈ entry.drawnReferences allAncestors, said.referredName = "" := by decide
  refine ⟨_, isRead, fun allAncestors => ?_⟩
  rw [(exists_dangles_classifiers_iff isRead (by simp) allAncestors).2]
  exact allNamed allAncestors

/-- A document of one type, which has a base without a name. -/
def Sample.orphan : Json :=
  .object
    [("sources", .array
      [.object
        [("path", .string "Orphan.cs"),
         ("types", .array [.object [("name", .string "Orphan"), ("base", .object [])]])]])]

/-- The document is accepted and its one type has a name, but the type inherits from nothing,
whichever ancestors are drawn. -/
theorem Snapshot.dangles_orphan :
    (∃ snapshot, ofJson Sample.orphan = .ok snapshot ∧
      (∀ unit ∈ snapshot.units, ∀ decl ∈ unit.types, decl.name ≠ "") ∧
      ∀ allAncestors, ∃ classifier ∈ (snapshot.classifiers allAncestors).1,
        (⟨"Orphan", "", .inheritance, .solid⟩ : Edge) ∈ classifier.edges) ∧
    ¬ ∀ (json : Json) (snapshot : Snapshot) (allAncestors : Bool),
      ofJson json = .ok snapshot →
        (∀ unit ∈ snapshot.units, ∀ decl ∈ unit.types, decl.name ≠ "") →
          ∀ classifier ∈ (snapshot.classifiers allAncestors).1, ∀ edge ∈ classifier.edges,
            edge.origin ≠ "" ∧ edge.target ≠ "" := by
  have nothing : TypeUse.ofJson (.object []) = {} := TypeUse.ofJson_of_ne_string nofun
  have isRead : ofJson Sample.orphan = .ok
      { units := [{ path := "Orphan.cs", types := [{ name := "Orphan", bases := [{}] }] }] } := by
    rw [← nothing]
    rfl
  have drawn : ∀ allAncestors, (⟨"Orphan", "", .inheritance, .solid⟩ : Edge) ∈
      TypeDecl.edges allAncestors "Orphan" { name := "Orphan", bases := [{}] } := by decide
  refine ⟨⟨_, isRead, by simp, fun allAncestors => ?_⟩, fun never => ?_⟩
  · exact ⟨_, List.mem_cons_self, drawn allAncestors⟩
  · exact (never _ _ false isRead (by simp) _ List.mem_cons_self _ (drawn false)).2 rfl

end TypeChart
