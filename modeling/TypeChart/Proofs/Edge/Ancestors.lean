/-
**Drawing all ancestors.**

A diagram with edges to all ancestors differs from the one with edges to the direct bases in nothing
but inheritance. The two take their bases from different lists, so an inheritance edge may move or
change its stroke: what an interface extends is dashed, unless it is an ancestor too. But an edge
set compares keys, and so no edge of another kind is touched. Where the ancestors of a declaration
name its base, as they should, no inheritance edge is lost.

* `TypeDecl.filter_edges_eq`: the edges of other kinds do not depend on the choice.
* `TypeDecl.mem_keys_edges_of_listsBase`: no edge is lost if the ancestors name the base.
* `Snapshot.diagram_allAncestors`: the two diagrams of a snapshot, side by side.
-/

import Mathlib.Data.List.Forall2
import TypeChart.Proofs.Declarations
import TypeChart.Proofs.Edge.Selection

namespace TypeChart

namespace TypeDecl

/-! ### Edges of other kinds -/

/-- What is implied besides inheritance does not depend on the choice of ancestors. -/
theorem filter_candidates_eq (owner : String) (decl : TypeDecl) (first second : Bool) :
    (decl.candidates first owner).filter (fun edge => edge.kind != .inheritance) =
      (decl.candidates second owner).filter fun edge => edge.kind != .inheritance := by
  have bases : ∀ choice, (decl.baseEdges choice owner).filter
      (fun edge => edge.kind != .inheritance) = [] := by
    intro choice
    refine List.filter_eq_nil_iff.mpr fun edge member => ?_
    obtain ⟨base, _, rfl⟩ := List.mem_map.mp member
    show ¬ (EdgeKind.inheritance != .inheritance) = true
    decide
  unfold candidates
  rw [List.filter_append, List.filter_append, List.filter_append, List.filter_append, bases, bases]

theorem filter_edges_eq (owner : String) (decl : TypeDecl) (first second : Bool) :
    (decl.edges first owner).filter (fun edge => edge.kind != .inheritance) =
      (decl.edges second owner).filter fun edge => edge.kind != .inheritance := by
  have chosen : ∀ choice, (decl.edges choice owner).filter
      (fun edge => edge.kind != .inheritance) =
        (EdgeSet.ofList ((decl.candidates choice owner).filter
          fun edge => edge.kind != .inheritance)).edges :=
    fun choice => EdgeSet.filter_edges_ofList (fun key => key.2.2 != .inheritance)
      (decl.candidates choice owner)
  rw [chosen, chosen, filter_candidates_eq owner decl first second]

/-! ### Inheritance -/

/-- What a front end promises: where both are given, the ancestors name the first base. -/
def ListsBase (decl : TypeDecl) : Prop :=
  decl.ancestors = [] ∨ decl.bases = [] ∨
    ∃ base, decl.bases.head? = some base ∧ ∃ ancestor ∈ decl.ancestors, ancestor.name = base.name

theorem exists_drawnBase_of_listsBase {decl : TypeDecl} (lists : decl.ListsBase) {base : TypeUse}
    (drawn : base ∈ decl.drawnBases false) :
    ∃ other ∈ decl.drawnBases true, other.name = base.name := by
  obtain ⟨nearest, notRoot⟩ := List.mem_filter.mp drawn
  replace nearest : base ∈ (decl.bases ++ decl.ancestors).take 1 := nearest
  -- any use of the name among the chosen ones is drawn, because the root is known by its name
  have keep : ∀ other ∈ (if decl.ancestors.isEmpty then decl.bases else decl.ancestors),
      other.name = base.name → ∃ other ∈ decl.drawnBases true, other.name = base.name := by
    intro other chosen name
    refine ⟨other, List.mem_filter.mpr ⟨chosen, ?_⟩, name⟩
    rw [TypeUse.isRoot, name]
    exact notRoot
  cases ancestors : decl.ancestors with
  | nil =>
    rw [ancestors, List.append_nil] at nearest
    refine keep base ?_ rfl
    rw [ancestors]
    exact List.mem_of_mem_take nearest
  | cons parent further =>
    have chosen : (if decl.ancestors.isEmpty then decl.bases else decl.ancestors) =
        decl.ancestors := by
      rw [ancestors]
      rfl
    rw [chosen] at keep
    rcases lists with none | none | ⟨first, isFirst, ancestor, listed, name⟩
    · rw [ancestors] at none
      cases none
    · rw [none, List.nil_append] at nearest
      exact keep base (List.mem_of_mem_take nearest) rfl
    · obtain ⟨others, bases⟩ := List.head?_eq_some_iff.mp isFirst
      rw [bases] at nearest
      obtain rfl : base = first := List.mem_singleton.mp nearest
      exact keep ancestor listed name

theorem mem_keys_edges_of_listsBase {decl : TypeDecl} (lists : decl.ListsBase) (owner : String)
    {edge : Edge} (member : edge ∈ decl.edges false owner) :
    edge.key ∈ (decl.edges true owner).map Edge.key := by
  refine EdgeSet.mem_keys_ofList.mpr ?_
  rcases mem_candidates_iff.mp (EdgeSet.mem_of_mem_ofList member) with
    ofBase | ofInterface | ofProperty
  · obtain ⟨base, drawn, rfl⟩ := List.mem_map.mp ofBase
    obtain ⟨other, drawnToo, name⟩ := exists_drawnBase_of_listsBase lists drawn
    refine List.mem_map.mpr
      ⟨_, mem_candidates_iff.mpr (.inl (List.mem_map_of_mem drawnToo)), ?_⟩
    rw [Edge.key, Edge.key, name]
  · exact List.mem_map_of_mem (mem_candidates_iff.mpr (.inr (.inl ofInterface)))
  · exact List.mem_map_of_mem (mem_candidates_iff.mpr (.inr (.inr ofProperty)))

end TypeDecl

/-! ### Classifiers -/

/-- Two classifiers that differ in nothing but their inheritance. -/
structure Classifier.SameButInheritance (one other : Classifier) : Prop where
  /-- All fields but the edges are equal. -/
  fields : { one with edges := [] } = { other with edges := [] }
  /-- The edges of other kinds are the same, in the same order and with the same strokes. -/
  others : one.edges.filter (fun edge => edge.kind != .inheritance) =
    other.edges.filter fun edge => edge.kind != .inheritance

theorem Declaration.sameButInheritance (declaration : Declaration) (first second : Bool) :
    (declaration.classifier first).SameButInheritance (declaration.classifier second) := by
  cases declaration with
  | enumeration decl => exact ⟨rfl, rfl⟩
  | type decl =>
    refine ⟨rfl, ?_⟩
    show ((decl.classifier first).edges.filter _) = ((decl.classifier second).edges.filter _)
    rw [decl.edges_classifier, decl.edges_classifier]
    split
    · rfl
    · exact decl.filter_edges_eq decl.name first second

/-- If the ancestors of a declaration name its base, its classifier keeps all edges. -/
theorem TypeDecl.mem_keys_classifier_of_listsBase {decl : TypeDecl} (lists : decl.ListsBase)
    {edge : Edge} (member : edge ∈ (decl.classifier false).edges) :
    edge.key ∈ (decl.classifier true).edges.map Edge.key := by
  rw [edges_classifier] at member ⊢
  by_cases isEnumeration : decl.kind.box = .enumeration
  · rw [if_pos isEnumeration] at member
    cases member
  · rw [if_neg isEnumeration] at member ⊢
    exact mem_keys_edges_of_listsBase lists decl.name member

/-! ### Diagrams -/

theorem SourceUnit.kept_allAncestors (options : Options) (choice : Bool)
    (units : List SourceUnit) :
    kept { options with allAncestors := choice } units = kept options units :=
  List.filter_congr fun _ _ => rfl

/-- The classifiers of a diagram are those of the same declarations with and without ancestors. -/
theorem Snapshot.classifiers_diagram_allAncestors (options : Options) (choice : Bool)
    (snapshot : Snapshot) :
    (snapshot.diagram { options with allAncestors := choice }).1.classifiers =
      (SourceUnit.kept options snapshot.units).map (Declaration.classifier choice) := by
  rw [classifiers_diagram, SourceUnit.kept_allAncestors options choice]

/-- **Drawing all ancestors changes inheritance only, and only adds to it.** With and without it a
snapshot has diagrams of one title, and classifier by classifier, for the same declarations, they
differ in nothing but inheritance; and a declaration whose ancestors name its base keeps every
inheritance edge. -/
theorem Snapshot.diagram_allAncestors (options : Options) (snapshot : Snapshot) :
    (snapshot.diagram { options with allAncestors := false }).1.title =
        (snapshot.diagram { options with allAncestors := true }).1.title ∧
      List.Forall₂ Classifier.SameButInheritance
        (snapshot.diagram { options with allAncestors := false }).1.classifiers
        (snapshot.diagram { options with allAncestors := true }).1.classifiers ∧
      (∀ choice, (snapshot.diagram { options with allAncestors := choice }).1.classifiers =
        (SourceUnit.kept options snapshot.units).map (Declaration.classifier choice)) ∧
      ∀ decl : TypeDecl, decl.ListsBase →
        ∀ edge ∈ ((Declaration.type decl).classifier false).edges, edge.kind = .inheritance →
          edge.key ∈ ((Declaration.type decl).classifier true).edges.map Edge.key := by
  have same := classifiers_diagram_allAncestors options
  refine ⟨?_, ?_, fun choice => same choice snapshot, fun decl lists edge member _ => ?_⟩
  · rw [title_diagram, title_diagram, SourceUnit.kept_allAncestors options false,
      SourceUnit.kept_allAncestors options true]
  · rw [same false, same true, List.forall₂_map_left_iff, List.forall₂_map_right_iff]
    exact List.forall₂_same.mpr fun declaration _ => declaration.sameButInheritance false true
  · exact TypeDecl.mem_keys_classifier_of_listsBase lists member

/-- An interface that extends an interface which is an ancestor of its base. -/
def Sample.ring : TypeDecl where
  name := "Ring"
  kind := .interface
  bases := [{ name := "Curve" }]
  ancestors := [{ name := "Curve" }, { name := "Shape" }, { name := "Object" }]
  interfaces := [{ name := "Shape" }]
  properties := [{ name := "Colour", type := { name := "Colour", kind := .enumeration } }]

/-- Its edge to the interface is dashed, and solid once all ancestors are drawn, yet not lost. -/
theorem Snapshot.diagram_allAncestors_ring :
    Sample.ring.ListsBase ∧
      (⟨"Ring", "Shape", .inheritance, .dashed⟩ : Edge) ∈ (Sample.ring.classifier false).edges ∧
      (⟨"Ring", "Shape", .inheritance, .dashed⟩ : Edge) ∉ (Sample.ring.classifier true).edges ∧
      ("Ring", "Shape", EdgeKind.inheritance) ∈
        (Sample.ring.classifier true).edges.map Edge.key := by
  have lists : Sample.ring.ListsBase :=
    .inr (.inr ⟨{ name := "Curve" }, rfl, { name := "Curve" }, List.mem_cons_self, rfl⟩)
  have dashed : (⟨"Ring", "Shape", .inheritance, .dashed⟩ : Edge) ∈
      (Sample.ring.classifier false).edges := by decide
  have solid : (⟨"Ring", "Shape", .inheritance, .dashed⟩ : Edge) ∉
      (Sample.ring.classifier true).edges := by decide
  have kept := (diagram_allAncestors {} { units := [{ types := [Sample.ring] }] }).2.2.2 Sample.ring
    lists _ dashed rfl
  exact ⟨lists, dashed, solid, kept⟩

end TypeChart
