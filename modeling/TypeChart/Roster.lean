/-
**Rosters.**

A `Roster` gathers the classifiers of declarations in the order in which these are entered; of one
source unit the types come first. A type that the front end could not resolve is counted and left
out. `Snapshot.classifiers` is the roster of a whole snapshot, with the events of filling it.

* `Roster.enterType`, `Roster.enterEnum`, `Roster.enterUnit`: one more type, enumeration, unit.
* `Roster.take`: hands the classifiers over; the count of unresolved types stays.
-/

import TypeChart.Classifier.Declared
import TypeChart.Log

namespace TypeChart

/-- Classifiers gathered so far. -/
structure Roster where
  /-- Whether edges go to all ancestors. -/
  allAncestors : Bool := false
  classifiers : List Classifier := []
  /-- The number of unresolved types met so far. -/
  unresolved : Nat := 0
  deriving Inhabited

namespace Roster

/-- The roster with one more type, or with one more unresolved type in its count. -/
def enterType (roster : Roster) (decl : TypeDecl) : Roster :=
  if decl.isResolved then
    { roster with classifiers := roster.classifiers ++ [decl.classifier roster.allAncestors] }
  else { roster with unresolved := roster.unresolved + 1 }

/-- The roster with one more enumeration. -/
def enterEnum (roster : Roster) (decl : EnumDecl) : Roster :=
  { roster with classifiers := roster.classifiers ++ [decl.classifier] }

theorem foldl_enterType (roster : Roster) (types : List TypeDecl) :
    types.foldl enterType roster =
      { roster with
        classifiers := roster.classifiers ++
          (types.filter (·.isResolved)).map (TypeDecl.classifier roster.allAncestors)
        unresolved := roster.unresolved + (types.filter fun decl => !decl.isResolved).length } := by
  induction types generalizing roster with
  | nil => simp
  | cons decl rest ih =>
    rw [List.foldl_cons, ih]
    cases resolved : decl.isResolved
    · simp [enterType, resolved]
      omega
    · simp [enterType, resolved]

theorem foldl_enterEnum (roster : Roster) (enums : List EnumDecl) :
    enums.foldl enterEnum roster =
      { roster with classifiers := roster.classifiers ++ enums.map EnumDecl.classifier } := by
  induction enums generalizing roster with
  | nil => simp
  | cons decl rest ih =>
    rw [List.foldl_cons, ih]
    simp [enterEnum]

/-- What a unit has to report: each type that it leaves unresolved. -/
def unitEvents (source : SourceUnit) : List Event :=
  (source.types.filter fun decl => !decl.isResolved).map fun decl =>
    .unresolved decl.name source.path

/-- The roster with one more source unit, and what there is to report about the unit. -/
def enterUnit (roster : Roster) (source : SourceUnit) : Roster × List Event :=
  (source.enums.foldl enterEnum (source.types.foldl enterType roster), unitEvents source)

/-- The roster with further units in their order, and all that there is to report about them. -/
def enterUnits (roster : Roster) : List SourceUnit → Roster × List Event
  | [] => (roster, [])
  | source :: rest =>
    let (entered, events) := roster.enterUnit source
    let (final, later) := entered.enterUnits rest
    (final, events ++ later)

/-- All classifiers, and the roster without them. -/
def take (roster : Roster) : List Classifier × Roster :=
  (roster.classifiers, { roster with classifiers := [] })

/-! ### Requests -/

/-- What can be asked of a roster that is being filled. -/
inductive Request where
  | enterType (decl : TypeDecl)
  | enterEnum (decl : EnumDecl)
  | enterUnit (source : SourceUnit)
  | look
  | take

/-- What a request is answered with, besides the events that it causes. -/
inductive Answer where
  | entered (isResolved : Bool)
  | done
  | classifiers (classifiers : List Classifier)

/-- One request: its answer, its events and the roster after it. -/
def serve (roster : Roster) : Request → Answer × List Event × Roster
  | .enterType decl => (.entered decl.isResolved, [], roster.enterType decl)
  | .enterEnum decl => (.done, [], roster.enterEnum decl)
  | .enterUnit source =>
    let (entered, events) := roster.enterUnit source
    (.done, events, entered)
  | .look => (.classifiers roster.classifiers, [], roster)
  | .take =>
    let (classifiers, rest) := roster.take
    (.classifiers classifiers, [], rest)

end Roster

/-- All classifiers of a snapshot, and the report of its unresolved types: one by one, then their
number if there are any. -/
def Snapshot.classifiers (allAncestors : Bool) (snapshot : Snapshot) :
    List Classifier × List Event :=
  let (roster, events) := Roster.enterUnits { allAncestors := allAncestors } snapshot.units
  (roster.take.1,
    if roster.unresolved = 0 then events else events ++ [.unresolvedTotal roster.unresolved])

end TypeChart
