/-
**Well-formed classifiers.**

Classifiers come from declared types of every kind and from declared enumerations. All of them are
well formed: a namespace that is there can be read, an enumeration is bare, whichever way it was
declared and whatever it was declared with, and the edges of any other classifier are of the five
kinds that a declaration can imply, start or end at the classifier, and are dashed for interfaces
only. A roster makes its classifiers in no other way, so this holds of it at any time.

* `TypeDecl.befits_of_mem_candidates`: the edges of the three rules.
* `Declaration.wellFormed`: the classifier of a declaration.
* `Roster.wellFormed_serveAll`: all classifiers that a roster held or handed over, and all of a
  diagram.
-/

import TypeChart.Proofs.Edge.Ownership
import TypeChart.Proofs.Roster.Conservation

namespace TypeChart

/-! ### Edges -/

/-- What an edge can be that belongs to a classifier of a name and a kind. -/
structure Edge.Befits (name : String) (box : Classifier.Kind) (edge : Edge) : Prop where
  /-- No declaration implies a composition or a link. -/
  kind : edge.kind ∈
    [EdgeKind.inheritance, .realization, .association, .dependency, .aggregation]
  target : edge.kind = .aggregation → edge.target = name
  origin : edge.kind ≠ .aggregation → edge.origin = name
  stroke : edge.stroke = .dashed →
    edge.kind = .realization ∨ box = .interface ∧ edge.kind = .inheritance

/-- An edge that is owned stands where its kind says. -/
theorem Edge.Befits.of_owner {name : String} {box : Classifier.Kind} {edge : Edge}
    (owned : edge.owner = name)
    (kind : edge.kind ∈
      [EdgeKind.inheritance, .realization, .association, .dependency, .aggregation])
    (stroke : edge.stroke = .dashed →
      edge.kind = .realization ∨ box = .interface ∧ edge.kind = .inheritance) :
    edge.Befits name box where
  kind := kind
  target isAggregation := by rw [← owned, owner, if_pos isAggregation]
  origin isNot := by rw [← owned, owner, if_neg isNot]
  stroke := stroke

namespace TypeDecl

variable {allAncestors : Bool} {owner : String} {decl : TypeDecl} {edge : Edge}

theorem befits_of_mem_baseEdges (member : edge ∈ decl.baseEdges allAncestors owner) :
    edge.Befits owner decl.kind.box := by
  refine .of_owner (owner_of_mem_baseEdges member) ?_ ?_
  · obtain ⟨base, _, rfl⟩ := List.mem_map.mp member
    exact List.mem_cons_self
  · obtain ⟨base, _, rfl⟩ := List.mem_map.mp member
    exact nofun

theorem befits_of_mem_interfaceEdges (member : edge ∈ decl.interfaceEdges owner) :
    edge.Befits owner decl.kind.box := by
  have owned := owner_of_mem_interfaceEdges member
  obtain ⟨interface, _, rfl⟩ := List.mem_map.mp member
  by_cases isInterface : decl.kind = .interface
  · refine .of_owner owned ?_ fun _ => .inr ⟨?_, if_pos isInterface⟩
    · simp [isInterface]
    · rw [isInterface]
      rfl
  · refine .of_owner owned ?_ fun _ => .inl (if_neg isInterface)
    simp [isInterface]

theorem befits_of_mem_propertyEdges (member : edge ∈ decl.propertyEdges owner) :
    edge.Befits owner decl.kind.box := by
  have owned := owner_of_mem_propertyEdges member
  obtain ⟨property, _, implied⟩ := List.mem_filterMap.mp member
  obtain ⟨_, _, ⟨_, rfl⟩ | ⟨_, _, rfl⟩ | ⟨_, _, rfl⟩⟩ := PropertyDecl.edge?_eq_some_iff.mp implied
  · exact .of_owner owned (by simp) nofun
  · exact .of_owner owned (by simp) nofun
  · exact .of_owner owned (by simp) nofun

/-- **The edges of all rules befit their owner.** -/
theorem befits_of_mem_candidates (member : edge ∈ decl.candidates allAncestors owner) :
    edge.Befits owner decl.kind.box := by
  rcases mem_candidates_iff.mp member with member | member | member
  · exact befits_of_mem_baseEdges member
  · exact befits_of_mem_interfaceEdges member
  · exact befits_of_mem_propertyEdges member

end TypeDecl

/-! ### Classifiers -/

/-- A classifier with nothing but the names of members. -/
structure Classifier.IsBare (classifier : Classifier) : Prop where
  notAbstract : classifier.isAbstract = false
  operations : classifier.operations = []
  edges : classifier.edges = []
  attributes : ∀ shown ∈ classifier.attributes,
    shown.typeText = "enum" ∧ shown.visibility = .everyone ∧ shown.isMany = false

/-- What holds of every classifier that a declaration is drawn as. -/
structure Classifier.WellFormed (classifier : Classifier) : Prop where
  scope : ∀ scope, classifier.scope = some scope → ∃ c ∈ scope.toList, Scope.isBlank c = false
  bare : classifier.kind = .enumeration → classifier.IsBare
  edges : classifier.kind ≠ .enumeration →
    ∀ edge ∈ classifier.edges, edge.Befits classifier.name classifier.kind

/-- A namespace is made of a text in which something can be read. -/
theorem Scope.exists_not_blank_of_ofText? {text scope : String}
    (isScope : Scope.ofText? text = some scope) : ∃ c ∈ scope.toList, Scope.isBlank c = false := by
  unfold Scope.ofText? at isScope
  split at isScope
  · cases isScope
  · rename_i notBlank
    obtain rfl := Option.some.inj isScope
    obtain ⟨c, member, visible⟩ := List.all_eq_false.mp (eq_false_of_ne_true notBlank)
    exact ⟨c, member, eq_false_of_ne_true visible⟩

theorem Attribute.of_mem_map_ofMember {names : List String} {shown : Attribute}
    (member : shown ∈ names.map Attribute.ofMember) :
    shown.typeText = "enum" ∧ shown.visibility = .everyone ∧ shown.isMany = false := by
  obtain ⟨name, _, rfl⟩ := List.mem_map.mp member
  exact ⟨rfl, rfl, rfl⟩

namespace TypeDecl

theorem scope_box (decl : TypeDecl) : decl.box.scope = Scope.ofText? decl.scope := by
  unfold box
  split <;> rfl

/-- A type that is declared as an enumeration loses all that an enumeration has not. -/
theorem box_of_enumeration {decl : TypeDecl} (isEnumeration : decl.kind.box = .enumeration) :
    decl.box =
      { name := decl.name
        kind := .enumeration
        visibility := decl.access.visibility
        scope := Scope.ofText? decl.scope
        attributes :=
          (decl.writtenProperties.map PropertyDecl.name).map Attribute.ofMember } := by
  rw [box, isEnumeration, List.map_map]
  rfl

theorem wellFormed (allAncestors : Bool) (decl : TypeDecl) :
    (decl.classifier allAncestors).WellFormed where
  scope scope isScope := by
    replace isScope : decl.box.scope = some scope := isScope
    rw [scope_box] at isScope
    exact Scope.exists_not_blank_of_ofText? isScope
  bare isEnumeration := by
    replace isEnumeration : decl.box.kind = .enumeration := isEnumeration
    have box := box_of_enumeration (decl.kind_box.symm.trans isEnumeration)
    refine ⟨?_, ?_, if_pos isEnumeration, fun shown member => ?_⟩
    · show decl.box.isAbstract = false
      rw [box]
    · show decl.box.operations = []
      rw [box]
    · replace member : shown ∈ decl.box.attributes := member
      rw [box] at member
      exact Attribute.of_mem_map_ofMember member
  edges isNoEnumeration edge member := by
    replace isNoEnumeration : decl.box.kind ≠ .enumeration := isNoEnumeration
    rw [kind_box] at isNoEnumeration
    rw [edges_classifier, if_neg isNoEnumeration] at member
    have befits := befits_of_mem_candidates (EdgeSet.mem_of_mem_ofList member)
    rw [← decl.name_box, ← decl.kind_box] at befits
    exact befits

end TypeDecl

theorem EnumDecl.wellFormed (decl : EnumDecl) : decl.classifier.WellFormed where
  scope _ isScope := nomatch isScope
  bare _ := ⟨rfl, rfl, rfl, fun _ member => Attribute.of_mem_map_ofMember member⟩
  edges isNoEnumeration := absurd rfl isNoEnumeration

/-- **Every declaration is drawn as a well-formed classifier.** -/
theorem Declaration.wellFormed (allAncestors : Bool) (declaration : Declaration) :
    (declaration.classifier allAncestors).WellFormed := by
  cases declaration with
  | type decl => exact decl.wellFormed allAncestors
  | enumeration decl => exact decl.wellFormed

/-! ### Rosters and diagrams -/

theorem Roster.wellFormed_of_mem_offered {allAncestors : Bool} {requests : List Request}
    {classifier : Classifier} (member : classifier ∈ offered allAncestors requests) :
    classifier.WellFormed := by
  obtain ⟨declaration, _, rfl⟩ := List.mem_map.mp member
  exact declaration.wellFormed allAncestors

/-- **A roster holds well-formed classifiers only**, after any requests, and a diagram of a snapshot
has no others. -/
theorem Roster.wellFormed_serveAll :
    (∀ (allAncestors : Bool) (requests : List Request),
      let (served, roster) := serveAll { allAncestors := allAncestors } requests
      ∀ classifier ∈ served.flatMap Served.taken ++ roster.classifiers, classifier.WellFormed) ∧
    ∀ (options : Options) (snapshot : Snapshot),
      ∀ classifier ∈ (snapshot.diagram options).1.classifiers, classifier.WellFormed := by
  refine ⟨fun allAncestors requests classifier member => ?_,
    fun options snapshot classifier member => ?_⟩
  · rw [taken_append_classifiers_serveAll] at member
    exact wellFormed_of_mem_offered member
  · rw [Snapshot.classifiers_diagram] at member
    obtain ⟨declaration, _, rfl⟩ := List.mem_map.mp member
    exact declaration.wellFormed options.allAncestors

/-- A type that is declared as an enumeration, with much that an enumeration has not. -/
def Sample.weekday : TypeDecl where
  name := "Weekday"
  kind := .enumeration
  isAbstract := true
  scope := " \t"
  bases := [{ name := "Number" }]
  properties :=
    [{ name := "Monday", type := { name := "Day" }, access := .subtypes, isMany := true }]
  methods := [{ name := "Next" }]

/-- It is handed over bare, and the dog that is still held has an edge that ends at it. -/
theorem Roster.wellFormed_serveAll_weekday :
    let result := serveAll {} [.enterType Sample.weekday, .take, .enterUnit Sample.animals]
    Sample.weekday.classifier false ∈ result.1.flatMap Served.taken ∧
      (Sample.weekday.classifier false).IsBare ∧
      Sample.animals.types[2].classifier false ∈ result.2.classifiers ∧
      (⟨"Toy", "Dog", .aggregation, .solid⟩ : Edge).Befits "Dog" .classBox := by
  have wellFormed := wellFormed_serveAll.1 false
    [.enterType Sample.weekday, .take, .enterUnit Sample.animals]
  have taken : Sample.weekday.classifier false ∈ Sample.weekday.classifier false ::
      Sample.animals.declarations.map (Declaration.classifier false) := List.mem_cons_self
  have dog : Sample.animals.types[2].classifier false ∈
      Sample.animals.declarations.map (Declaration.classifier false) :=
    List.mem_map.mpr
      ⟨.type Sample.animals.types[2], by simp [Sample.animals, SourceUnit.declarations], rfl⟩
  refine ⟨List.mem_cons_self, (wellFormed _ taken).bare rfl, dog, ?_⟩
  exact (wellFormed _ (List.mem_cons_of_mem _ dog)).edges (by decide +kernel) _ (by decide +kernel)

end TypeChart
