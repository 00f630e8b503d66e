/-
**What becomes of unresolved types.**

A type that could not be resolved is passed over as if it had never been declared: the classifiers
of a snapshot are those of the snapshot without such types, and so is every document that is drawn
from them. All that is left of these types is the report. It names them one by one in their order,
each with the path of its unit, and then says how many there were, if there were any.

* `Roster.unresolved_enterUnits`, `Roster.events_enterUnits`: the count and the report of a roster.
* `Snapshot.classifiers_resolved`: the classifiers do not tell of unresolved types.
* `Snapshot.passesOver_unresolved`: classifiers, report, numbers and documents of a snapshot.
-/

import Mathlib.Data.List.Basic
import TypeChart.Mermaid.Document
import TypeChart.Proofs.Roster.Conservation

namespace TypeChart

/-- The unit without its unresolved types. -/
def SourceUnit.resolved (source : SourceUnit) : SourceUnit :=
  { source with types := source.types.filter (·.isResolved) }

/-- The snapshot without unresolved types. -/
def Snapshot.resolved (snapshot : Snapshot) : Snapshot :=
  { snapshot with units := snapshot.units.map SourceUnit.resolved }

/-- The unresolved types of units in their order, each with the path of its unit. -/
def SourceUnit.unresolved (units : List SourceUnit) : List (TypeDecl × String) :=
  units.flatMap fun source =>
    (source.types.filter fun decl => !decl.isResolved).map fun decl => (decl, source.path)

/-- The number of all types and enumerations that units declare. -/
def SourceUnit.declared (units : List SourceUnit) : Nat :=
  (units.flatMap SourceUnit.types).length + (units.flatMap SourceUnit.enums).length

theorem SourceUnit.unresolved_cons (source : SourceUnit) (rest : List SourceUnit) :
    unresolved (source :: rest) =
      (source.types.filter fun decl => !decl.isResolved).map (fun decl => (decl, source.path)) ++
        unresolved rest :=
  List.flatMap_cons

theorem SourceUnit.length_unresolved (units : List SourceUnit) :
    (unresolved units).length =
      ((units.flatMap declarations).filter fun declaration => !declaration.isResolved).length := by
  rw [unresolved, List.filter_flatMap, List.length_flatMap, List.length_flatMap]
  simp only [unresolved_declarations, List.length_map]

theorem SourceUnit.length_declarations (units : List SourceUnit) :
    (units.flatMap declarations).length = declared units := by
  unfold declared
  induction units with
  | nil => rfl
  | cons source rest ih =>
    simp only [List.flatMap_cons, List.length_append, ih, declarations, List.length_map]
    omega

/-! ### The roster of units -/

namespace Roster

variable (roster : Roster)

theorem unresolved_enterUnits (units : List SourceUnit) :
    (roster.enterUnits units).1.unresolved =
      roster.unresolved + (SourceUnit.unresolved units).length := by
  induction units generalizing roster with
  | nil => rfl
  | cons source rest ih =>
    show ((roster.enterUnit source).1.enterUnits rest).1.unresolved = _
    rw [ih, unresolved_enterUnit, SourceUnit.unresolved_cons, List.length_append, List.length_map,
      Nat.add_assoc]

theorem events_enterUnits (units : List SourceUnit) :
    (roster.enterUnits units).2 =
      (SourceUnit.unresolved units).map fun (decl, path) => .unresolved decl.name path := by
  induction units generalizing roster with
  | nil => rfl
  | cons source rest ih =>
    show unitEvents source ++ ((roster.enterUnit source).1.enterUnits rest).2 = _
    rw [ih, SourceUnit.unresolved_cons, List.map_append, List.map_map]
    rfl

end Roster

/-! ### The snapshot without unresolved types -/

theorem SourceUnit.declarations_resolved (source : SourceUnit) :
    source.resolved.declarations = source.declarations.filter (·.isResolved) := by
  rw [SourceUnit.resolved_declarations]
  rfl

namespace Snapshot

theorem declarations_resolved (snapshot : Snapshot) :
    snapshot.resolved.units.flatMap SourceUnit.declarations =
      (snapshot.units.flatMap SourceUnit.declarations).filter (·.isResolved) := by
  rw [List.filter_flatMap, resolved, List.flatMap_map]
  congr 1
  funext source
  exact source.declarations_resolved

theorem classifiers_resolved (allAncestors : Bool) (snapshot : Snapshot) :
    (snapshot.resolved.classifiers allAncestors).1 = (snapshot.classifiers allAncestors).1 := by
  rw [classifiers_eq, classifiers_eq, declarations_resolved, List.filter_filter]
  simp only [Bool.and_self]

/-- The report of a snapshot: its unresolved types, then their number if there are any. -/
theorem events_classifiers (allAncestors : Bool) (snapshot : Snapshot) :
    (snapshot.classifiers allAncestors).2 =
      (SourceUnit.unresolved snapshot.units).map
          (fun (decl, path) => .unresolved decl.name path) ++
        if (SourceUnit.unresolved snapshot.units).length = 0 then []
        else [.unresolvedTotal (SourceUnit.unresolved snapshot.units).length] := by
  have count := Roster.unresolved_enterUnits { allAncestors := allAncestors } snapshot.units
  have events := Roster.events_enterUnits { allAncestors := allAncestors } snapshot.units
  simp only [Nat.zero_add] at count
  simp only [classifiers, count, events]
  split
  · exact (List.append_nil _).symm
  · rfl

theorem unresolved_resolved (snapshot : Snapshot) :
    SourceUnit.unresolved snapshot.resolved.units = [] := by
  refine List.flatMap_eq_nil_iff.mpr fun source member => List.map_eq_nil_iff.mpr ?_
  obtain ⟨full, _, rfl⟩ := List.mem_map.mp member
  refine List.filter_eq_nil_iff.mpr fun decl kept => ?_
  rw [(List.mem_filter.mp kept).2]
  exact Bool.false_ne_true

/-- Every declaration is drawn or unresolved, and none is both. -/
theorem length_classifiers_add (allAncestors : Bool) (snapshot : Snapshot) :
    (snapshot.classifiers allAncestors).1.length + (SourceUnit.unresolved snapshot.units).length =
      SourceUnit.declared snapshot.units := by
  rw [classifiers_eq, List.length_map, SourceUnit.length_unresolved,
    ← List.length_eq_length_filter_add, SourceUnit.length_declarations]

/-- **Unresolved types leave nothing but their report.** A snapshot has the same classifiers without
them, and in either layout and with any kinds hidden the same documents. The report names them one
by one at debug level, each with the path of its unit, and then their number if there are any;
without them there is nothing to report. With the classifiers they are as many as the types and
enumerations that are declared. -/
theorem passesOver_unresolved (snapshot : Snapshot) :
    let left := SourceUnit.unresolved snapshot.units
    (∀ allAncestors,
      (snapshot.classifiers allAncestors).1 = (snapshot.resolved.classifiers allAncestors).1 ∧
      (snapshot.classifiers allAncestors).2.map (fun event => (event.level, event.message)) =
        left.map (fun (decl, path) =>
            (.debug, "Skipping '" ++ decl.name ++ "' in " ++ path ++ ": no resolved symbol")) ++
          (if left.length = 0 then []
          else [(.debug, toString left.length ++ " declared type(s) skipped without a symbol")]) ∧
      (snapshot.resolved.classifiers allAncestors).2 = [] ∧
      (snapshot.classifiers allAncestors).1.length + left.length =
        SourceUnit.declared snapshot.units) ∧
    ∀ options, (snapshot.document options).1 = (snapshot.resolved.document options).1 := by
  intro left
  refine ⟨fun allAncestors => ⟨?_, ?_, ?_, ?_⟩, fun options => ?_⟩
  · exact (classifiers_resolved allAncestors snapshot).symm
  · rw [events_classifiers, List.map_append, List.map_map, apply_ite (List.map _)]
    rfl
  · rw [events_classifiers, unresolved_resolved]
    rfl
  · exact length_classifiers_add allAncestors snapshot
  · have diagrams : (snapshot.diagram options).1 = (snapshot.resolved.diagram options).1 :=
      congrArg (Diagram.assemble options) (classifiers_resolved options.allAncestors snapshot).symm
    rw [text_document, text_document, diagrams]

end Snapshot

end TypeChart
