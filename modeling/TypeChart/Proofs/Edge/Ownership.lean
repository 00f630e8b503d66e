/-
**Owners of edges.**

Every edge of a classifier has the classifier at one of its ends, and the kind of the edge tells at
which: an aggregation points at its owner, all other edges start there. So the owner of an edge can
be read off its key, and two classifiers of different names cannot hold edges of one key. Within one
classifier the edge set has dropped the repetitions.

* `TypeDecl.owner_of_mem_candidates`: everything that a declaration implies, it owns.
* `Declaration.ownsEdges`: classifiers of declarations own their edges, each once.
* `nodup_keys_flatMap`: distinct names make all edges of a list of owners distinct.
* `Snapshot.nodup_keys_diagram`: no diagram has an edge twice.
-/

import Mathlib.Data.List.Nodup
import TypeChart.Proofs.Declarations
import TypeChart.Snapshot.Sample

namespace TypeChart

/-! ### The owner of an edge -/

/-- The name of the classifier that an edge belongs to. -/
def Edge.owner (edge : Edge) : String :=
  if edge.kind = .aggregation then edge.target else edge.origin

theorem Edge.owner_congr {first second : Edge} (same : first.key = second.key) :
    first.owner = second.owner := by
  obtain ⟨origins, targets, kinds⟩ := Edge.key_eq_iff.mp same
  unfold Edge.owner
  rw [origins, targets, kinds]

theorem PropertyDecl.owner_of_edge? {owner : String} {property : PropertyDecl} {edge : Edge}
    (implied : property.edge? owner = some edge) : edge.owner = owner := by
  obtain ⟨_, _, ⟨_, rfl⟩ | ⟨_, _, rfl⟩ | ⟨_, _, rfl⟩⟩ := edge?_eq_some_iff.mp implied
  · rfl
  · rfl
  · rfl

namespace TypeDecl

theorem owner_of_mem_baseEdges {allAncestors : Bool} {owner : String} {decl : TypeDecl}
    {edge : Edge} (member : edge ∈ decl.baseEdges allAncestors owner) : edge.owner = owner := by
  obtain ⟨base, _, rfl⟩ := List.mem_map.mp member
  rfl

theorem owner_of_mem_interfaceEdges {owner : String} {decl : TypeDecl} {edge : Edge}
    (member : edge ∈ decl.interfaceEdges owner) : edge.owner = owner := by
  obtain ⟨interface, _, rfl⟩ := List.mem_map.mp member
  by_cases isInterface : decl.kind = .interface
  · simp [Edge.owner, isInterface]
  · simp [Edge.owner, isInterface]

theorem owner_of_mem_propertyEdges {owner : String} {decl : TypeDecl} {edge : Edge}
    (member : edge ∈ decl.propertyEdges owner) : edge.owner = owner := by
  obtain ⟨property, _, implied⟩ := List.mem_filterMap.mp member
  exact PropertyDecl.owner_of_edge? implied

/-- **What a declaration implies, it owns**, whichever rule implies it. -/
theorem owner_of_mem_candidates {allAncestors : Bool} {owner : String} {decl : TypeDecl}
    {edge : Edge} (member : edge ∈ decl.candidates allAncestors owner) : edge.owner = owner := by
  rcases mem_candidates_iff.mp member with member | member | member
  · exact owner_of_mem_baseEdges member
  · exact owner_of_mem_interfaceEdges member
  · exact owner_of_mem_propertyEdges member

theorem owner_of_mem_edges {allAncestors : Bool} {owner : String} {decl : TypeDecl} {edge : Edge}
    (member : edge ∈ decl.edges allAncestors owner) : edge.owner = owner :=
  owner_of_mem_candidates (EdgeSet.mem_of_mem_ofList member)

theorem nodup_keys_edges (allAncestors : Bool) (owner : String) (decl : TypeDecl) :
    ((decl.edges allAncestors owner).map Edge.key).Nodup :=
  EdgeSet.nodup_keys _

end TypeDecl

/-! ### Owners among classifiers -/

/-- A classifier holds edges of pairwise different keys, and owns all of them. -/
structure Classifier.OwnsEdges (classifier : Classifier) : Prop where
  distinct : (classifier.edges.map Edge.key).Nodup
  owned : ∀ edge ∈ classifier.edges, edge.owner = classifier.name

theorem Classifier.ownsEdges_of_edges_eq_nil {classifier : Classifier}
    (none : classifier.edges = []) : classifier.OwnsEdges where
  distinct := by
    rw [none]
    exact .nil
  owned := by
    rw [none]
    exact fun _ member => by cases member

theorem TypeDecl.ownsEdges (allAncestors : Bool) (decl : TypeDecl) :
    (decl.classifier allAncestors).OwnsEdges := by
  have edges := decl.edges_classifier allAncestors
  by_cases isEnumeration : decl.kind.box = .enumeration
  · rw [if_pos isEnumeration] at edges
    exact Classifier.ownsEdges_of_edges_eq_nil edges
  · rw [if_neg isEnumeration] at edges
    refine ⟨?_, fun edge member => ?_⟩
    · rw [edges]
      exact decl.nodup_keys_edges allAncestors decl.name
    · rw [edges] at member
      exact (owner_of_mem_edges member).trans decl.name_box.symm

theorem Declaration.ownsEdges (allAncestors : Bool) (declaration : Declaration) :
    (declaration.classifier allAncestors).OwnsEdges := by
  cases declaration with
  | type decl => exact decl.ownsEdges allAncestors
  | enumeration decl => exact Classifier.ownsEdges_of_edges_eq_nil rfl

theorem Snapshot.ownsEdges_of_mem_diagram {options : Options} {snapshot : Snapshot}
    {classifier : Classifier} (member : classifier ∈ (snapshot.diagram options).1.classifiers) :
    classifier.OwnsEdges := by
  rw [Snapshot.classifiers_diagram] at member
  obtain ⟨declaration, _, rfl⟩ := List.mem_map.mp member
  exact declaration.ownsEdges options.allAncestors

/-- Two owners of different names share no key: the key tells the owner. -/
theorem Classifier.OwnsEdges.key_ne {first second : Classifier} (ownsFirst : first.OwnsEdges)
    (ownsSecond : second.OwnsEdges) (different : first.name ≠ second.name) {edge other : Edge}
    (member : edge ∈ first.edges) (otherMember : other ∈ second.edges) : edge.key ≠ other.key := by
  intro same
  apply different
  calc first.name = edge.owner := (ownsFirst.owned edge member).symm
    _ = other.owner := Edge.owner_congr same
    _ = second.name := ownsSecond.owned other otherMember

/-- **Owners of different names hold no edge twice**, taken all together. -/
theorem nodup_keys_flatMap {classifiers : List Classifier}
    (owners : ∀ classifier ∈ classifiers, classifier.OwnsEdges)
    (names : (classifiers.map (·.name)).Nodup) :
    ((classifiers.flatMap (·.edges)).map Edge.key).Nodup := by
  rw [List.map_flatMap]
  refine List.pairwise_flatMap.mpr
    ⟨fun classifier member => (owners classifier member).distinct, ?_⟩
  refine (List.pairwise_map.mp names).imp_of_mem ?_
  intro first second firstMember secondMember different key keyMember otherKey otherMember
  obtain ⟨edge, edgeMember, rfl⟩ := List.mem_map.mp keyMember
  obtain ⟨other, otherEdgeMember, rfl⟩ := List.mem_map.mp otherMember
  exact (owners first firstMember).key_ne (owners second secondMember) different edgeMember
    otherEdgeMember

/-! ### No edge twice -/

/-- **No diagram has an edge twice.** No classifier of a diagram holds two edges of one key, and if
the classifiers have different names, no two of them hold edges of one key either. -/
theorem Snapshot.nodup_keys_diagram (options : Options) (snapshot : Snapshot) :
    (∀ classifier ∈ (snapshot.diagram options).1.classifiers,
      (classifier.edges.map Edge.key).Nodup) ∧
    (((snapshot.diagram options).1.classifiers.map (·.name)).Nodup →
      (((snapshot.diagram options).1.classifiers.flatMap (·.edges)).map Edge.key).Nodup) := by
  have owners : ∀ classifier ∈ (snapshot.diagram options).1.classifiers, classifier.OwnsEdges :=
    fun _ member => ownsEdges_of_mem_diagram member
  exact ⟨fun classifier member => (owners classifier member).distinct,
    nodup_keys_flatMap owners⟩

/-- The eleven classifiers of the sample have different names, so all their edges differ. -/
theorem Snapshot.nodup_keys_diagram_zoo :
    ((Sample.zoo.diagram {}).1.classifiers.map (·.name)).Nodup ∧
      (((Sample.zoo.diagram {}).1.classifiers.flatMap (·.edges)).map Edge.key).Nodup := by
  have names : ((Sample.zoo.diagram {}).1.classifiers.map (·.name)).Nodup := by decide
  exact ⟨names, (Snapshot.nodup_keys_diagram {} Sample.zoo).2 names⟩

end TypeChart
