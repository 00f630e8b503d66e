/-
**Classifiers.**

A `Classifier` is one box of a class diagram: a name, attributes, operations and the edges that
start its inference. It is text already; nothing here refers to declarations.
-/

import TypeChart.Edge.Basic

namespace TypeChart

/-- Who may reach a classifier or one of its members, as far as the diagram tells. -/
inductive Visibility where
  | everyone
  | declaringType
  | subtypes
  | assembly
  | subtypesOrAssembly
  | unknown
  deriving DecidableEq, Repr, Inhabited

/-- An attribute: one property of a class, or one member of an enumeration. -/
structure Attribute where
  name : String := ""
  /-- The type as shown, arguments and array brackets included. -/
  typeText : String := ""
  visibility : Visibility := .everyone
  isMany : Bool := false
  deriving DecidableEq, Repr, Inhabited

/-- An operation: one method with its types as text. -/
structure Operation where
  name : String := ""
  result : String := ""
  visibility : Visibility := .everyone
  /-- Each parameter as its type, a space and its name. -/
  parameters : List String := []
  isAsync : Bool := false
  deriving DecidableEq, Repr, Inhabited

/-- The kinds of box in a diagram. -/
inductive Classifier.Kind where
  | interface
  | classBox
  | enumeration
  deriving DecidableEq, Repr, Inhabited

/-- One box of a class diagram, known in it by its simple name. -/
structure Classifier where
  name : String := ""
  kind : Classifier.Kind := .classBox
  isAbstract : Bool := false
  visibility : Visibility := .everyone
  /-- The dotted namespace, if the declaration stands in one. -/
  scope : Option String := none
  attributes : List Attribute := []
  operations : List Operation := []
  /-- The edges that the declaration of this classifier implies. -/
  edges : List Edge := []
  deriving DecidableEq, Repr, Inhabited

end TypeChart
