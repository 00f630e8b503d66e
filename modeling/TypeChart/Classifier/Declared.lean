/-
**Classifiers of declarations.**

* `TypeDecl.box`: the classifier of a declared type, without edges.
* `TypeDecl.classifier`: the same with the edges that the declaration implies.
* `EnumDecl.classifier`: the classifier of a declared enumeration.

Enumerations, whichever way they are declared, have attributes of type `enum` and nothing else.
-/

import TypeChart.Classifier.Basic
import TypeChart.Edge.Inference
import TypeChart.Scope

namespace TypeChart

/-- The visibility that an access is drawn as: who inherits inside the assembly only, and what is
unstated, has no sign of its own. -/
def Access.visibility : Access → Visibility
  | everyone => .everyone
  | declaringType => .declaringType
  | subtypes => .subtypes
  | assembly => .assembly
  | subtypesOrAssembly => .subtypesOrAssembly
  | subtypesInAssembly => .unknown
  | unstated => .unknown

/-- The kind of box that a kind of type is drawn as: all that is no interface and no enumeration
is a class. -/
def TypeKind.box : TypeKind → Classifier.Kind
  | interface => .interface
  | enumeration => .enumeration
  | unknown | classType | struct | array | parameter => .classBox

theorem TypeKind.box_eq_enumeration_iff {kind : TypeKind} :
    kind.box = .enumeration ↔ kind = .enumeration := by
  cases kind <;> simp [box]

/-- The attribute of a property. -/
def PropertyDecl.attribute (property : PropertyDecl) : Attribute where
  name := property.name
  typeText := property.type.shown
  visibility := property.access.visibility
  isMany := property.isMany || property.type.isCollection

/-- A parameter as the text of its type, a space and its name. -/
def ParameterDecl.line (parameter : ParameterDecl) : String :=
  parameter.type.plain ++ " " ++ parameter.name

/-- The operation of a method. -/
def MethodDecl.operation (method : MethodDecl) : Operation where
  name := method.name
  result := method.result.plain
  visibility := method.access.visibility
  parameters := method.parameters.map ParameterDecl.line
  isAsync := method.isAsync

/-- The attribute of a member of an enumeration. -/
def Attribute.ofMember (name : String) : Attribute where
  name := name
  typeText := "enum"

/-- The classifier of an enumeration. -/
def EnumDecl.classifier (decl : EnumDecl) : Classifier where
  name := decl.name
  kind := .enumeration
  attributes := decl.members.map Attribute.ofMember

namespace TypeDecl

/-- The properties that are written in the program. -/
def writtenProperties (decl : TypeDecl) : List PropertyDecl :=
  decl.properties.filter fun property => !property.isImplicit

/-- The methods that are written in the program, without constructors, accessors and operators. -/
def writtenMethods (decl : TypeDecl) : List MethodDecl :=
  decl.methods.filter fun method => !method.isImplicit && method.role == .ordinary

/-- The classifier of a declared type, without its edges. -/
def box (decl : TypeDecl) : Classifier :=
  match decl.kind.box with
  | .enumeration =>
    { name := decl.name
      kind := .enumeration
      visibility := decl.access.visibility
      scope := Scope.ofText? decl.scope
      attributes := decl.writtenProperties.map fun property => Attribute.ofMember property.name }
  | kind =>
    { name := decl.name
      kind := kind
      isAbstract := decl.isAbstract
      visibility := decl.access.visibility
      scope := Scope.ofText? decl.scope
      attributes := decl.writtenProperties.map PropertyDecl.attribute
      operations := decl.writtenMethods.map MethodDecl.operation }

/-- The classifier of a declared type with the edges that it implies; an enumeration has none. -/
def classifier (allAncestors : Bool) (decl : TypeDecl) : Classifier :=
  let box := decl.box
  { box with
    edges := if box.kind = .enumeration then [] else decl.edges allAncestors box.name }

end TypeDecl

end TypeChart
