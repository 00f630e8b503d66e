/-
**Declarations in their order.**

A snapshot is read unit by unit, and of one unit the types before the enumerations: this is the
order of `SourceUnit.declarations`. A roster keeps it, and a diagram keeps it too, because nothing
after the roster moves a classifier.

* `Roster.classifiers_enterUnits`: filling a roster adds the classifiers of the resolved
  declarations at its end.
* `Snapshot.classifiers_diagram`, `Snapshot.title_diagram`: a diagram holds the classifiers of the
  declarations that are not dropped, and is titled after the first of them.
-/

import TypeChart.Diagram

namespace TypeChart

/-- A declaration of either sort. -/
inductive Declaration where
  | type (decl : TypeDecl)
  | enumeration (decl : EnumDecl)

namespace Declaration

/-- The name that is declared. -/
def name : Declaration → String
  | type decl => decl.name
  | enumeration decl => decl.name

/-- The kind of box that a declaration is drawn as. -/
def box : Declaration → Classifier.Kind
  | type decl => decl.kind.box
  | enumeration _ => .enumeration

/-- A type may be unresolved, an enumeration never is. -/
def isResolved : Declaration → Bool
  | type decl => decl.isResolved
  | enumeration _ => true

/-- The classifier of a declaration, with its edges. -/
def classifier (allAncestors : Bool) : Declaration → Classifier
  | type decl => decl.classifier allAncestors
  | enumeration decl => decl.classifier

/-- A declaration is dropped if it is unresolved or if its kind of box is hidden. -/
def isDropped (options : Options) (declaration : Declaration) : Bool :=
  !declaration.isResolved || options.hides declaration.box

end Declaration

theorem TypeDecl.name_box (decl : TypeDecl) : decl.box.name = decl.name := by
  unfold TypeDecl.box
  split <;> rfl

theorem TypeDecl.kind_box (decl : TypeDecl) : decl.box.kind = decl.kind.box := by
  unfold TypeDecl.box
  split
  · rename_i isEnumeration
    exact isEnumeration.symm
  · rfl

/-- A type that is drawn as an enumeration has no edges, any other all that it implies. -/
theorem TypeDecl.edges_classifier (allAncestors : Bool) (decl : TypeDecl) :
    (decl.classifier allAncestors).edges =
      if decl.kind.box = .enumeration then [] else decl.edges allAncestors decl.name := by
  rw [← decl.kind_box, ← decl.name_box]
  rfl

theorem TypeDecl.edges_classifier_of_not_enumeration {decl : TypeDecl}
    (isNoEnumeration : decl.kind ≠ .enumeration) (allAncestors : Bool) :
    (decl.classifier allAncestors).edges = decl.edges allAncestors decl.name := by
  rw [edges_classifier, if_neg (mt TypeKind.box_eq_enumeration_iff.mp isNoEnumeration)]

/-- The members of a declaration are its written properties and its written methods. -/
theorem TypeDecl.box_of_not_enumeration {decl : TypeDecl}
    (isNoEnumeration : decl.kind ≠ .enumeration) :
    decl.box =
      { name := decl.name
        kind := decl.kind.box
        isAbstract := decl.isAbstract
        visibility := decl.access.visibility
        scope := Scope.ofText? decl.scope
        attributes := decl.writtenProperties.map PropertyDecl.attribute
        operations := decl.writtenMethods.map MethodDecl.operation } := by
  unfold box
  split
  · rename_i isEnumeration
    exact absurd (TypeKind.box_eq_enumeration_iff.mp isEnumeration) isNoEnumeration
  · rfl

namespace Declaration

@[simp]
theorem name_classifier (allAncestors : Bool) (declaration : Declaration) :
    (declaration.classifier allAncestors).name = declaration.name := by
  cases declaration with
  | type decl => exact decl.name_box
  | enumeration decl => rfl

@[simp]
theorem kind_classifier (allAncestors : Bool) (declaration : Declaration) :
    (declaration.classifier allAncestors).kind = declaration.box := by
  cases declaration with
  | type decl => exact decl.kind_box
  | enumeration decl => rfl

end Declaration

/-! ### What a snapshot declares -/

/-- The declarations of a unit: its types, then its enumerations. -/
def SourceUnit.declarations (source : SourceUnit) : List Declaration :=
  source.types.map .type ++ source.enums.map .enumeration

/-- The declarations of a unit that are resolved: some of its types, and all its enumerations. -/
theorem SourceUnit.resolved_declarations (source : SourceUnit) :
    source.declarations.filter (·.isResolved) =
      (source.types.filter (·.isResolved)).map .type ++ source.enums.map .enumeration := by
  have types : (source.types.map Declaration.type).filter (·.isResolved) =
      (source.types.filter (·.isResolved)).map .type := List.filter_map
  have enums : (source.enums.map Declaration.enumeration).filter (·.isResolved) =
      source.enums.map .enumeration := by
    refine List.filter_eq_self.mpr fun declaration member => ?_
    obtain ⟨decl, _, rfl⟩ := List.mem_map.mp member
    rfl
  rw [declarations, List.filter_append, types, enums]

/-- The declarations of units that are not dropped, unit by unit. -/
def SourceUnit.kept (options : Options) (units : List SourceUnit) : List Declaration :=
  (units.flatMap SourceUnit.declarations).filter fun declaration => !declaration.isDropped options

theorem SourceUnit.kept_append (options : Options) (front back : List SourceUnit) :
    SourceUnit.kept options (front ++ back) =
      SourceUnit.kept options front ++ SourceUnit.kept options back := by
  unfold SourceUnit.kept
  rw [List.flatMap_append, List.filter_append]

namespace Roster

@[simp]
theorem allAncestors_enterUnit (roster : Roster) (source : SourceUnit) :
    (roster.enterUnit source).1.allAncestors = roster.allAncestors := by
  simp only [enterUnit, foldl_enterEnum, foldl_enterType]

theorem classifiers_enterUnit (roster : Roster) (source : SourceUnit) :
    (roster.enterUnit source).1.classifiers =
      roster.classifiers ++ (source.declarations.filter (·.isResolved)).map
        (Declaration.classifier roster.allAncestors) := by
  simp only [enterUnit, foldl_enterEnum, foldl_enterType, SourceUnit.resolved_declarations,
    List.map_append, List.map_map, List.append_assoc]
  rfl

theorem unresolved_enterUnit (roster : Roster) (source : SourceUnit) :
    (roster.enterUnit source).1.unresolved =
      roster.unresolved + (source.types.filter fun decl => !decl.isResolved).length := by
  rw [enterUnit, foldl_enterEnum, foldl_enterType]

/-- **The order of declarations is the order of the roster**: entering units adds the classifiers of
their resolved declarations, and nothing that was there moves. -/
theorem classifiers_enterUnits (roster : Roster) (units : List SourceUnit) :
    (roster.enterUnits units).1.classifiers =
      roster.classifiers ++ ((units.flatMap SourceUnit.declarations).filter (·.isResolved)).map
        (Declaration.classifier roster.allAncestors) := by
  induction units generalizing roster with
  | nil => simp [enterUnits]
  | cons source rest ih =>
    show ((roster.enterUnit source).1.enterUnits rest).1.classifiers = _
    rw [ih, classifiers_enterUnit, allAncestors_enterUnit, List.flatMap_cons, List.filter_append,
      List.map_append, List.append_assoc]

end Roster

namespace Snapshot

theorem classifiers_eq (allAncestors : Bool) (snapshot : Snapshot) :
    (snapshot.classifiers allAncestors).1 =
      ((snapshot.units.flatMap SourceUnit.declarations).filter (·.isResolved)).map
        (Declaration.classifier allAncestors) := by
  show (Roster.enterUnits { allAncestors := allAncestors } snapshot.units).1.classifiers = _
  rw [Roster.classifiers_enterUnits]
  rfl

/-- **The edges of a snapshot** are those of its resolved types that are no enumerations. -/
theorem exists_mem_edges_classifiers_iff {allAncestors : Bool} {snapshot : Snapshot} {edge : Edge} :
    (∃ classifier ∈ (snapshot.classifiers allAncestors).1, edge ∈ classifier.edges) ↔
      ∃ unit ∈ snapshot.units, ∃ decl ∈ unit.types, decl.isResolved = true ∧
        decl.kind.box ≠ .enumeration ∧ edge ∈ decl.edges allAncestors decl.name := by
  rw [classifiers_eq]
  constructor
  · rintro ⟨classifier, member, drawn⟩
    obtain ⟨declaration, kept, rfl⟩ := List.mem_map.mp member
    obtain ⟨declared, isResolved⟩ := List.mem_filter.mp kept
    obtain ⟨unit, inSnapshot, inUnit⟩ := List.mem_flatMap.mp declared
    rcases List.mem_append.mp inUnit with ofType | ofEnum
    · obtain ⟨decl, listed, rfl⟩ := List.mem_map.mp ofType
      change edge ∈ (decl.classifier allAncestors).edges at drawn
      rw [TypeDecl.edges_classifier] at drawn
      split at drawn
      · cases drawn
      · rename_i isNoEnumeration
        exact ⟨unit, inSnapshot, decl, listed, isResolved, isNoEnumeration, drawn⟩
    · obtain ⟨decl, _, rfl⟩ := List.mem_map.mp ofEnum
      cases drawn
  · rintro ⟨unit, inSnapshot, decl, listed, isResolved, isNoEnumeration, implied⟩
    have declared : Declaration.type decl ∈ snapshot.units.flatMap SourceUnit.declarations :=
      List.mem_flatMap.mpr
        ⟨unit, inSnapshot, List.mem_append_left _ (List.mem_map_of_mem listed)⟩
    refine ⟨decl.classifier allAncestors,
      List.mem_map_of_mem (List.mem_filter.mpr ⟨declared, isResolved⟩), ?_⟩
    rw [TypeDecl.edges_classifier, if_neg isNoEnumeration]
    exact implied

/-- **A diagram holds what was not dropped**, each declaration as its own classifier. -/
theorem classifiers_diagram (options : Options) (snapshot : Snapshot) :
    (snapshot.diagram options).1.classifiers =
      (SourceUnit.kept options snapshot.units).map
        (Declaration.classifier options.allAncestors) := by
  show (snapshot.classifiers options.allAncestors).1.filter
    (fun classifier => !options.hides classifier.kind) = _
  rw [classifiers_eq, List.filter_map, List.filter_filter, SourceUnit.kept]
  refine congrArg _ (List.filter_congr fun declaration _ => ?_)
  rw [Function.comp_apply, Declaration.kind_classifier, Declaration.isDropped, Bool.not_or,
    Bool.not_not, Bool.and_comm]

/-- A diagram is titled after the first declaration that was not dropped. -/
theorem title_diagram (options : Options) (snapshot : Snapshot) :
    (snapshot.diagram options).1.title =
      ((SourceUnit.kept options snapshot.units).head?.map Declaration.name).getD
        Diagram.defaultTitle := by
  show ((snapshot.diagram options).1.classifiers.head?.map (·.name)).getD Diagram.defaultTitle = _
  rw [classifiers_diagram, List.head?_map, Option.map_map]
  congr 2
  funext declaration
  exact declaration.name_classifier options.allAncestors

end Snapshot

end TypeChart
