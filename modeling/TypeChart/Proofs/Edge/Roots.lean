/-
**Inheritance from the root of all classes.**

Every class inherits from the root, so an edge to it tells nothing. The rule for bases leaves the
root out, whichever ancestors are drawn, and the rule for properties draws no inheritance. The rule
for interfaces leaves nothing out: an interface inherits from all that it lists, and if it lists the
root, it inherits from it. This is the one way for such an edge to come about.

* `TypeDecl.exists_inheritsRoot_candidates_iff`: the edges of all rules.
* `TypeDecl.exists_inheritsRoot_edges_iff`: the edges of a declaration.
* `Snapshot.exists_inheritsRoot_diagram_iff`: the edges of a declaration and those of a diagram.
-/

import TypeChart.Proofs.Declarations
import TypeChart.Proofs.Edge.Selection

namespace TypeChart

/-- An edge of inheritance to the root of all classes. -/
def Edge.InheritsRoot (edge : Edge) : Prop :=
  edge.kind = .inheritance ∧ edge.target = "Object"

theorem Edge.inheritsRoot_congr {first second : Edge} (same : first.key = second.key) :
    first.InheritsRoot ↔ second.InheritsRoot := by
  obtain ⟨_, targets, kinds⟩ := Edge.key_eq_iff.mp same
  unfold InheritsRoot
  rw [targets, kinds]

/-- The root is known by its name alone. -/
theorem TypeUse.isRoot_iff {type : TypeUse} : type.isRoot = true ↔ type.name = "Object" :=
  beq_iff_eq

namespace TypeDecl

/-- An interface that lists the root of all classes among the interfaces which it extends. -/
def ExtendsRoot (decl : TypeDecl) : Prop :=
  decl.kind = .interface ∧ ∃ interface ∈ decl.interfaces, interface.name = "Object"

variable {allAncestors : Bool} {owner : String} {decl : TypeDecl}

/-! ### Rule by rule -/

theorem not_inheritsRoot_of_mem_baseEdges {edge : Edge}
    (member : edge ∈ decl.baseEdges allAncestors owner) : ¬ edge.InheritsRoot := by
  obtain ⟨base, drawn, rfl⟩ := List.mem_map.mp member
  rintro ⟨_, isRoot⟩
  have notRoot : (!base.isRoot) = true := (List.mem_filter.mp drawn).2
  rw [TypeUse.isRoot_iff.mpr isRoot] at notRoot
  cases notRoot

theorem not_inheritsRoot_of_mem_propertyEdges {edge : Edge}
    (member : edge ∈ decl.propertyEdges owner) : ¬ edge.InheritsRoot := by
  obtain ⟨property, _, implied⟩ := List.mem_filterMap.mp member
  rintro ⟨inherits, _⟩
  obtain ⟨_, _, ⟨_, rfl⟩ | ⟨_, _, rfl⟩ | ⟨_, _, rfl⟩⟩ := PropertyDecl.edge?_eq_some_iff.mp implied
  · cases inherits
  · cases inherits
  · cases inherits

variable (allAncestors owner)

theorem exists_inheritsRoot_interfaceEdges_iff :
    (∃ edge ∈ decl.interfaceEdges owner, edge.InheritsRoot) ↔ decl.ExtendsRoot := by
  constructor
  · rintro ⟨edge, member, inherits, isRoot⟩
    obtain ⟨interface, listed, rfl⟩ := List.mem_map.mp member
    refine ⟨?_, interface, listed, isRoot⟩
    by_contra noInterface
    simp [noInterface] at inherits
  · rintro ⟨isInterface, interface, listed, isRoot⟩
    exact ⟨_, List.mem_map_of_mem listed, if_pos isInterface, isRoot⟩

/-- **Of all rules, only that for interfaces** can imply inheritance from the root. -/
theorem exists_inheritsRoot_candidates_iff :
    (∃ edge ∈ decl.candidates allAncestors owner, edge.InheritsRoot) ↔ decl.ExtendsRoot := by
  rw [← exists_inheritsRoot_interfaceEdges_iff owner]
  constructor
  · rintro ⟨edge, member, inheritsRoot⟩
    rcases mem_candidates_iff.mp member with ofBase | ofInterface | ofProperty
    · exact absurd inheritsRoot (not_inheritsRoot_of_mem_baseEdges ofBase)
    · exact ⟨edge, ofInterface, inheritsRoot⟩
    · exact absurd inheritsRoot (not_inheritsRoot_of_mem_propertyEdges ofProperty)
  · rintro ⟨edge, ofInterface, inheritsRoot⟩
    exact ⟨edge, mem_candidates_iff.mpr (.inr (.inl ofInterface)), inheritsRoot⟩

/-! ### Declarations and diagrams -/

theorem exists_inheritsRoot_edges_iff :
    (∃ edge ∈ decl.edges allAncestors owner, edge.InheritsRoot) ↔ decl.ExtendsRoot := by
  rw [← exists_inheritsRoot_candidates_iff allAncestors owner]
  exact EdgeSet.exists_mem_ofList_iff Edge.inheritsRoot_congr

theorem exists_inheritsRoot_classifier_iff :
    (∃ edge ∈ (decl.classifier allAncestors).edges, edge.InheritsRoot) ↔ decl.ExtendsRoot := by
  rw [edges_classifier]
  split
  · rename_i isEnumeration
    refine iff_of_false (by simp) fun extendsRoot => ?_
    rw [extendsRoot.1] at isEnumeration
    cases isEnumeration
  · exact exists_inheritsRoot_edges_iff _ _

end TypeDecl

/-- **Only an interface can inherit from the root of all classes.** Whichever ancestors are drawn,
no rule for bases or properties implies such an edge, and a declaration has one exactly if it is an
interface that lists the root among its interfaces. So has a diagram exactly if it shows such an
interface. -/
theorem Snapshot.exists_inheritsRoot_diagram_iff (options : Options) (snapshot : Snapshot) :
    (∀ (decl : TypeDecl) (owner : String),
      (¬ ∃ edge ∈ decl.baseEdges options.allAncestors owner ++ decl.propertyEdges owner,
        edge.InheritsRoot) ∧
      ((∃ edge ∈ decl.edges options.allAncestors owner, edge.InheritsRoot) ↔
        decl.ExtendsRoot)) ∧
    ((∃ classifier ∈ (snapshot.diagram options).1.classifiers,
        ∃ edge ∈ classifier.edges, edge.InheritsRoot) ↔
      ∃ decl, .type decl ∈ SourceUnit.kept options snapshot.units ∧ decl.ExtendsRoot) := by
  refine ⟨fun decl owner => ⟨?_, TypeDecl.exists_inheritsRoot_edges_iff _ _⟩, ?_⟩
  · rintro ⟨edge, member, inheritsRoot⟩
    rcases List.mem_append.mp member with ofBase | ofProperty
    · exact TypeDecl.not_inheritsRoot_of_mem_baseEdges ofBase inheritsRoot
    · exact TypeDecl.not_inheritsRoot_of_mem_propertyEdges ofProperty inheritsRoot
  · rw [classifiers_diagram]
    constructor
    · rintro ⟨classifier, member, drawn⟩
      obtain ⟨declaration, kept, rfl⟩ := List.mem_map.mp member
      cases declaration with
      | type decl => exact ⟨decl, kept, (TypeDecl.exists_inheritsRoot_classifier_iff _).mp drawn⟩
      | enumeration decl =>
        obtain ⟨edge, none, _⟩ := drawn
        cases none
    · rintro ⟨decl, kept, extendsRoot⟩
      exact ⟨_, List.mem_map_of_mem kept,
        (TypeDecl.exists_inheritsRoot_classifier_iff _).mpr extendsRoot⟩

/-- An interface that lists the root of all classes. -/
def Sample.marker : TypeDecl where
  name := "IMarker"
  kind := .interface
  interfaces := [{ name := "Object", scope := "System", kind := .classType }]

/-- Its diagram shows it inherit from the root, whichever ancestors are drawn. -/
theorem Snapshot.inheritsRoot_marker :
    (∀ allAncestors, (⟨"IMarker", "Object", .inheritance, .dashed⟩ : Edge) ∈
      Sample.marker.edges allAncestors "IMarker") ∧
    (∃ classifier ∈ (diagram {} { units := [{ types := [Sample.marker] }] }).1.classifiers,
      ∃ edge ∈ classifier.edges, edge.InheritsRoot) ∧
    ¬ ∀ (decl : TypeDecl) (owner : String) (allAncestors : Bool),
      ∀ edge ∈ decl.edges allAncestors owner,
        edge.kind = .inheritance → edge.target ≠ "Object" := by
  have inherits : ∀ allAncestors, (⟨"IMarker", "Object", .inheritance, .dashed⟩ : Edge) ∈
      Sample.marker.edges allAncestors "IMarker" := by decide
  refine ⟨inherits, ⟨Sample.marker.classifier false, ?_, _, inherits false, rfl, rfl⟩, ?_⟩
  · exact List.mem_cons_self
  · intro never
    exact never Sample.marker "IMarker" false _ (inherits false) rfl rfl

end TypeChart
