/-
**The two parts of a classifier.**

The members of a classifier and its edges are read off a declaration apart from each other. For the
edges nothing counts but what the declaration refers to: of a property its type alone, whether the
property is written in the program or not. For the members it does not count what the declaration
inherits from or realizes, and what is not written in the program is left out. So two declarations
that refer alike are stored with the same edges, and two that differ in nothing but their bases,
ancestors and interfaces are stored with the same members.

* `TypeDecl.edges_congr`: the edges of two declarations that refer alike.
* `Roster.parts_independent`: what rosters store of two declarations.
-/

import TypeChart.Proofs.Declarations
import TypeChart.Proofs.Edge.Order

namespace TypeChart

namespace TypeDecl

/-! ### Edges -/

/-- Two declarations of one name that refer to the same types at the same places. -/
structure RefersAlike (one other : TypeDecl) : Prop where
  name : one.name = other.name
  /-- Interfaces inherit from their interfaces, and all other types realize them. -/
  isInterface : one.kind = .interface ↔ other.kind = .interface
  bases : one.bases = other.bases
  ancestors : one.ancestors = other.ancestors
  interfaces : one.interfaces = other.interfaces
  types : one.properties.map (·.type) = other.properties.map (·.type)

/-- Of a property nothing counts but its type. -/
theorem propertyEdges_eq (owner : String) (decl : TypeDecl) :
    decl.propertyEdges owner =
      (decl.properties.map (·.type)).filterMap fun type =>
        PropertyDecl.edge? owner { type := type } := by
  rw [List.filterMap_map]
  rfl

/-- **Declarations that refer alike have the same edges**, in the same order and with the same
strokes. -/
theorem edges_congr {one other : TypeDecl} (alike : one.RefersAlike other) (allAncestors : Bool)
    (owner : String) : one.edges allAncestors owner = other.edges allAncestors owner := by
  have bases : one.baseEdges allAncestors owner = other.baseEdges allAncestors owner := by
    rw [baseEdges, baseEdges, drawnBases, drawnBases, alike.bases, alike.ancestors]
  have interfaces : one.interfaceEdges owner = other.interfaceEdges owner := by
    simp only [interfaceEdges, alike.interfaces, alike.isInterface]
  have properties : one.propertyEdges owner = other.propertyEdges owner := by
    rw [propertyEdges_eq, propertyEdges_eq, alike.types]
  rw [edges, edges, candidates, candidates, bases, interfaces, properties]

end TypeDecl

/-! ### What a roster stores -/

namespace Roster

/-- What a roster holds more once a type was entered. -/
def stored (roster : Roster) (decl : TypeDecl) : List Classifier :=
  (roster.enterType decl).classifiers.drop roster.classifiers.length

theorem stored_eq (roster : Roster) (decl : TypeDecl) :
    roster.stored decl =
      if decl.isResolved then [decl.classifier roster.allAncestors] else [] := by
  unfold stored enterType
  split
  · exact List.drop_left
  · exact List.drop_length

theorem eq_of_mem_stored {roster : Roster} {decl : TypeDecl} {classifier : Classifier}
    (member : classifier ∈ roster.stored decl) :
    classifier = decl.classifier roster.allAncestors := by
  rw [stored_eq] at member
  split at member
  · exact List.mem_singleton.mp member
  · cases member

/-- **Members and edges are independent.** Two declarations that refer alike are stored with the
same edges, whatever else they say; every property counts for these, an implicit one too. Two that
differ in nothing but bases, ancestors and interfaces are stored with the same members and with
all else the same but the edges: the members are the written properties and the written methods in
their order. Each of the declarations is stored once, unless it is unresolved. -/
theorem parts_independent (first second : Roster)
    (choice : first.allAncestors = second.allAncestors) :
    (∀ one other : TypeDecl, one.kind ≠ .enumeration → other.kind ≠ .enumeration →
      one.RefersAlike other →
        ∀ stored ∈ first.stored one, ∀ otherStored ∈ second.stored other,
          stored.edges = otherStored.edges) ∧
    (∀ decl : TypeDecl, (first.stored decl).length = if decl.isResolved then 1 else 0) ∧
    ∀ decl : TypeDecl, decl.kind ≠ .enumeration → ∀ stored ∈ first.stored decl,
      (∀ property ∈ decl.properties, ∀ edge, property.edge? decl.name = some edge →
        edge ∈ stored.edges) ∧
      stored.attributes =
        (decl.properties.filter fun property => !property.isImplicit).map
          PropertyDecl.attribute ∧
      stored.operations =
        (decl.methods.filter fun method => !method.isImplicit && method.role == .ordinary).map
          MethodDecl.operation ∧
      ∀ bases ancestors interfaces, ∀ otherStored ∈ second.stored
          { decl with bases := bases, ancestors := ancestors, interfaces := interfaces },
        { stored with edges := [] } = { otherStored with edges := [] } := by
  refine ⟨fun one other isNoEnumeration otherIsNone alike stored member otherStored
    otherMember => ?_, fun decl => ?_, fun decl isNoEnumeration stored member => ?_⟩
  · rw [eq_of_mem_stored member, eq_of_mem_stored otherMember,
      TypeDecl.edges_classifier_of_not_enumeration isNoEnumeration,
      TypeDecl.edges_classifier_of_not_enumeration otherIsNone, ← choice, ← alike.name]
    exact TypeDecl.edges_congr alike _ _
  · rw [stored_eq]
    split <;> rfl
  · obtain rfl := eq_of_mem_stored member
    have box := TypeDecl.box_of_not_enumeration isNoEnumeration
    refine ⟨fun property declared edge implied => ?_, ?_, ?_,
      fun bases ancestors interfaces otherStored otherMember => ?_⟩
    · rw [TypeDecl.edges_classifier_of_not_enumeration isNoEnumeration]
      exact TypeDecl.mem_edges_iff.mpr (.inr (.inr (List.mem_filterMap.mpr
        ⟨property, declared, implied⟩)))
    · show decl.box.attributes = _
      rw [box]
      rfl
    · show decl.box.operations = _
      rw [box]
      rfl
    · rw [eq_of_mem_stored otherMember]
      rfl

end Roster

/-- A shelf of books, with a property that the compiler made. -/
def Sample.shelf : TypeDecl where
  name := "Shelf"
  bases := [{ name := "Furniture" }]
  interfaces := [{ name := "IShelf" }]
  properties :=
    [{ name := "Books", access := .everyone
       type := { name := "List", arguments := [{ name := "Book" }] } },
      { name := "owner", type := { name := "Reader" }, isImplicit := true }]
  methods := [{ name := "Add" }, { name := "Shelf", role := .constructor }]

/-- A shelf that has all but its references changed. -/
def Sample.oldShelf : TypeDecl where
  name := "Shelf"
  kind := .struct
  isAbstract := true
  scope := "Library.Old"
  bases := [{ name := "Furniture" }]
  interfaces := [{ name := "IShelf" }]
  properties :=
    [{ name := "books", isMany := true, isImplicit := true
       type := { name := "List", arguments := [{ name := "Book" }] } },
      { name := "Owner", access := .subtypes, type := { name := "Reader" } }]

/-- Both shelves are stored with the same four edges. Moved into another family, the first is stored
with other edges and the same members. -/
theorem Roster.parts_independent_shelf :
    (Sample.shelf.classifier false).edges =
        [⟨"Shelf", "Furniture", .inheritance, .solid⟩, ⟨"Shelf", "IShelf", .realization, .dashed⟩,
          ⟨"Book", "Shelf", .aggregation, .solid⟩, ⟨"Shelf", "Reader", .association, .solid⟩] ∧
      (Sample.shelf.classifier false).edges = (Sample.oldShelf.classifier false).edges ∧
      (Sample.shelf.classifier false).attributes.map (·.name) = ["Books"] ∧
      (Sample.shelf.classifier false).operations.map (·.name) = ["Add"] ∧
      { Sample.shelf.classifier false with edges := [] } =
        { ({ Sample.shelf with bases := [{ name := "Box" }], interfaces := [] } :
            TypeDecl).classifier false with edges := [] } := by
  obtain ⟨edges, _, members⟩ := parts_independent {} { classifiers := [{ name := "Desk" }] } rfl
  have alike : Sample.shelf.RefersAlike Sample.oldShelf := ⟨rfl, by decide, rfl, rfl, rfl, rfl⟩
  obtain ⟨_, attributes, operations, others⟩ :=
    members Sample.shelf (by decide) _ List.mem_cons_self
  refine ⟨by decide +kernel, ?_, ?_, ?_, ?_⟩
  · exact edges _ _ (by decide) (by decide) alike _ List.mem_cons_self _ List.mem_cons_self
  · rw [attributes]
    rfl
  · rw [operations]
    rfl
  · exact others [{ name := "Box" }] [] [] _ List.mem_cons_self

end TypeChart
