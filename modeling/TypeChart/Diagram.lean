/-
**Class diagrams.**

`Diagram.assemble` drops the kinds of classifier that are not wanted, keeps the order of the rest
and titles the diagram after the first that is left.
-/

import TypeChart.Roster

namespace TypeChart

/-- What is drawn, and how. -/
structure Options where
  hideClasses : Bool := false
  hideInterfaces : Bool := false
  hideEnums : Bool := false
  /-- Draw edges to all ancestors and not to the direct base alone. -/
  allAncestors : Bool := false
  /-- Draw one container for each namespace. -/
  byNamespace : Bool := false
  deriving DecidableEq, Repr, Inhabited

/-- Whether boxes of a kind are left out. -/
def Options.hides (options : Options) : Classifier.Kind → Bool
  | .classBox => options.hideClasses
  | .interface => options.hideInterfaces
  | .enumeration => options.hideEnums

/-- A class diagram. -/
structure Diagram where
  title : String := ""
  classifiers : List Classifier := []
  deriving DecidableEq, Repr, Inhabited

namespace Diagram

/-- The title of a diagram without classifiers. -/
def defaultTitle : String :=
  "UML Diagram"

/-- The diagram of the classifiers that are not hidden, titled after the first of them. -/
def assemble (options : Options) (classifiers : List Classifier) : Diagram :=
  let kept := classifiers.filter fun classifier => !options.hides classifier.kind
  { title := (kept.head?.map (·.name)).getD defaultTitle
    classifiers := kept }

end Diagram

/-- The diagram of a snapshot, and the report of drawing it. -/
def Snapshot.diagram (options : Options) (snapshot : Snapshot) : Diagram × List Event :=
  let (classifiers, events) := snapshot.classifiers options.allAncestors
  (Diagram.assemble options classifiers, events)

end TypeChart
