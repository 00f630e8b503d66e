/-
**Lines of a Mermaid class diagram.**

Each part of a classifier is one line of text: an attribute, an operation, a stereotype, an edge.
The signs and words of the notation are tables here.
-/

import TypeChart.Classifier.Basic

namespace TypeChart

/-- The sign before a member. Mermaid has one sign for an assembly, with or without subtypes. -/
def Visibility.sign : Visibility → String
  | everyone => "+"
  | declaringType => "-"
  | subtypes => "#"
  | assembly => "~"
  | subtypesOrAssembly => "~"
  | unknown => "?"

namespace EdgeKind

/-- The head of an arrow. -/
def arrowHead : EdgeKind → String
  | inheritance => "|>"
  | composition => "*"
  | aggregation => "o"
  | association => ">"
  | realization => "|>"
  | dependency => ">"
  | link => ""

/-- The shaft of an arrow: the kind alone decides whether it is dotted. -/
def arrowShaft : EdgeKind → String
  | realization | dependency | link => ".."
  | inheritance | composition | aggregation | association => "--"

/-- What the origin of an edge does to its target. -/
def verb : EdgeKind → String
  | inheritance => "inherits"
  | composition => "composes"
  | aggregation => "aggregates"
  | association => "associates"
  | realization => "realizes"
  | dependency => "depends on"
  | link => "links"

end EdgeKind

/-- The name of a kind of box in its stereotype. -/
def Classifier.Kind.label : Classifier.Kind → String
  | interface => "Interface"
  | classBox => "Class"
  | enumeration => "Enum"

/-- The line of an attribute: sign, type, name. -/
def Attribute.line (member : Attribute) : String :=
  member.visibility.sign ++ " " ++ member.typeText ++ " " ++ member.name

/-- The line of an operation: sign, result, name and the parameters in parentheses. -/
def Operation.line (operation : Operation) : String :=
  operation.visibility.sign ++ " " ++ (if operation.isAsync then "async " else "") ++
    operation.result ++ " " ++ operation.name ++ "(" ++ ", ".intercalate operation.parameters ++ ")"

/-- The line of an edge: both ends around the arrow, and the verb. -/
def Edge.line (edge : Edge) : String :=
  edge.origin ++ " " ++ edge.kind.arrowShaft ++ edge.kind.arrowHead ++ " " ++ edge.target ++
    " : " ++ edge.kind.verb

/-- The line that gives a classifier's stereotype; of an abstract class it tells only that. -/
def Classifier.stereotype (classifier : Classifier) : String :=
  let label :=
    if classifier.isAbstract = true ∧ classifier.kind = .classBox then "abstract"
    else classifier.kind.label
  "<<" ++ label ++ ">> " ++ classifier.name

/-- The lines between the braces of a classifier: its attributes, then its operations. -/
def Classifier.memberLines (classifier : Classifier) : List String :=
  classifier.attributes.map Attribute.line ++ classifier.operations.map Operation.line

end TypeChart
