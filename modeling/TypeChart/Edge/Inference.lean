/-
**Edges that a declaration implies.**

A declared type implies edges to its bases, to its interfaces and to the types of its properties,
in this order. `TypeDecl.candidates` lists them all, and `TypeDecl.edges` keeps the first of each
key.
-/

import TypeChart.Edge.Set
import TypeChart.Snapshot.Declaration

namespace TypeChart

/-- The edge that a property of `owner` implies. A target without a name and a library type imply
none; an aggregation points from the part to the whole, all other edges from the owner. -/
def PropertyDecl.edge? (owner : String) (property : PropertyDecl) : Option Edge :=
  let target := property.type.target
  if target.name = "" ∨ target.isSystem = true then none
  else if target.kind = .enumeration then
    some { origin := owner, target := target.name, kind := .dependency }
  else if property.type.isCollection = true then
    some { origin := target.name, target := owner, kind := .aggregation }
  else
    some { origin := owner, target := target.name, kind := .association }

/-- All that a property can imply, and when. -/
theorem PropertyDecl.edge?_eq_some_iff {owner : String} {property : PropertyDecl} {edge : Edge} :
    property.edge? owner = some edge ↔
      property.type.target.name ≠ "" ∧ property.type.target.isSystem = false ∧
        (property.type.target.kind = .enumeration ∧
            ⟨owner, property.type.target.name, .dependency, .solid⟩ = edge ∨
          property.type.target.kind ≠ .enumeration ∧ property.type.isCollection = true ∧
            ⟨property.type.target.name, owner, .aggregation, .solid⟩ = edge ∨
          property.type.target.kind ≠ .enumeration ∧ property.type.isCollection = false ∧
            ⟨owner, property.type.target.name, .association, .solid⟩ = edge) := by
  dsimp only [edge?]
  split
  · rename_i none
    refine iff_of_false nofun fun ⟨named, notSystem, _⟩ => ?_
    simp [named, notSystem] at none
  · rename_i drawn
    obtain ⟨named, notSystem⟩ := not_or.mp drawn
    split
    · rename_i isEnumeration
      simp [named, notSystem, isEnumeration]
    · rename_i isNoEnumeration
      split
      · rename_i isCollection
        simp [named, notSystem, isNoEnumeration, isCollection]
      · rename_i isSingle
        simp [named, notSystem, isNoEnumeration, isSingle]

namespace TypeDecl

/-- The bases to which edges are drawn. With all ancestors wanted these are the ancestors, or the
direct base where no ancestor is listed; else the direct base, or the nearest ancestor where no
base is given. The root of all classes is left out. -/
def drawnBases (allAncestors : Bool) (decl : TypeDecl) : List TypeUse :=
  let chosen :=
    if allAncestors then (if decl.ancestors.isEmpty then decl.bases else decl.ancestors)
    else (decl.bases ++ decl.ancestors).take 1
  chosen.filter fun base => !base.isRoot

/-- The edges to the drawn bases. -/
def baseEdges (allAncestors : Bool) (owner : String) (decl : TypeDecl) : List Edge :=
  (decl.drawnBases allAncestors).map fun base =>
    { origin := owner, target := base.name, kind := .inheritance }

/-- An interface inherits from its interfaces; every other type realizes them. -/
def interfaceEdges (owner : String) (decl : TypeDecl) : List Edge :=
  decl.interfaces.map fun interface =>
    { origin := owner
      target := interface.name
      kind := if decl.kind = .interface then .inheritance else .realization
      stroke := .dashed }

/-- The edges that the properties imply, the implicit ones included. -/
def propertyEdges (owner : String) (decl : TypeDecl) : List Edge :=
  decl.properties.filterMap (PropertyDecl.edge? owner)

/-- All edges that a declaration implies, with repetitions. -/
def candidates (allAncestors : Bool) (owner : String) (decl : TypeDecl) : List Edge :=
  decl.baseEdges allAncestors owner ++ decl.interfaceEdges owner ++ decl.propertyEdges owner

theorem mem_candidates_iff {allAncestors : Bool} {owner : String} {decl : TypeDecl} {edge : Edge} :
    edge ∈ decl.candidates allAncestors owner ↔
      edge ∈ decl.baseEdges allAncestors owner ∨ edge ∈ decl.interfaceEdges owner ∨
        edge ∈ decl.propertyEdges owner := by
  unfold candidates
  rw [List.mem_append, List.mem_append, or_assoc]

/-- The edges of a declaration: of all candidates of one key, the first. -/
def edges (allAncestors : Bool) (owner : String) (decl : TypeDecl) : List Edge :=
  (EdgeSet.ofList (decl.candidates allAncestors owner)).edges

end TypeDecl

end TypeChart
