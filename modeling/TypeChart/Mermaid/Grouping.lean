/-
**Classifiers by namespace.**

The layout by namespace draws one container for each key of a namespace. A `Grouping` is filled in
one pass over the classifiers: one without a namespace stays loose, every other goes to the end of
its container, and the containers are held by increasing key.

* `Container.place`: one more classifier for the container of a key, which is opened at its place
  unless it is there.
* `Grouping.ofList`: the grouping of a list of classifiers.
-/

import TypeChart.Classifier.Basic
import TypeChart.Scope

namespace TypeChart

/-- The key of the container that a classifier is drawn in, if it has a namespace. -/
def Classifier.container (classifier : Classifier) : Option String :=
  classifier.scope.map Scope.key

/-- One container: its key and what stands in it. -/
structure Container where
  key : String
  members : List Classifier
  deriving DecidableEq, Repr

/-- A classifier put at the end of the container of a key, among containers of increasing key. -/
def Container.place (key : String) (classifier : Classifier) : List Container → List Container
  | [] => [⟨key, [classifier]⟩]
  | first :: rest =>
    if key < first.key then ⟨key, [classifier]⟩ :: first :: rest
    else if key = first.key then ⟨first.key, first.members ++ [classifier]⟩ :: rest
    else first :: place key classifier rest

/-- Classifiers sorted into containers. -/
structure Grouping where
  /-- The classifiers outside all containers. -/
  loose : List Classifier := []
  /-- The containers, by increasing key. -/
  containers : List Container := []
  deriving DecidableEq, Repr

namespace Grouping

/-- The grouping with one more classifier. -/
def place (grouping : Grouping) (classifier : Classifier) : Grouping :=
  match classifier.container with
  | none => { grouping with loose := grouping.loose ++ [classifier] }
  | some key => { grouping with containers := Container.place key classifier grouping.containers }

/-- The grouping of classifiers, placed one after the other. -/
def ofList (classifiers : List Classifier) : Grouping :=
  classifiers.foldl place {}

end Grouping

end TypeChart
