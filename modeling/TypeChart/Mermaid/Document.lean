/-
**Mermaid documents.**

A diagram is drawn in one of two layouts. `Layout.flat` puts each classifier's body, stereotype
and edges together. `Layout.byNamespace` puts all bodies first, inside a container for each
namespace, then all stereotypes, then all edges, because a class has to be declared before
anything refers to it.

* `unlines`: lines as a text, each ended by a line feed.
* `Diagram.lines`, `Diagram.text`: the document as lines and as text.
* `Snapshot.document`: from a snapshot to the text.
* `Options.fileName`: the name of the file that holds the document.
-/

import TypeChart.Diagram
import TypeChart.Mermaid.Grouping
import TypeChart.Mermaid.Line

namespace TypeChart

/-- The two ways to lay a diagram out. -/
inductive Layout where
  | flat
  | byNamespace
  deriving DecidableEq, Repr

/-- Lines as a text, each ended by a line feed. -/
def unlines (lines : List String) : String :=
  String.join (lines.map fun line => line ++ "\n")

/-- A line moved in by four spaces for each step of depth. -/
def indented (depth : Nat) (line : String) : String :=
  String.join (List.replicate depth "    ") ++ line

namespace Classifier

/-- The lines that declare a classifier and its members. -/
def body (depth : Nat) (classifier : Classifier) : List String :=
  [indented depth ("class " ++ classifier.name ++ " \x7b")] ++
    classifier.memberLines.map (indented (depth + 1)) ++
    [indented depth "\x7d"]

/-- The line of the stereotype, as it stands in a document. -/
def stereotypeLine (classifier : Classifier) : String :=
  indented 1 classifier.stereotype

/-- The lines of the edges, as they stand in a document. -/
def edgeLines (classifier : Classifier) : List String :=
  classifier.edges.map fun edge => indented 1 edge.line

/-- All lines of a classifier in the flat layout. -/
def flatBlock (classifier : Classifier) : List String :=
  classifier.body 1 ++ [classifier.stereotypeLine] ++ classifier.edgeLines

end Classifier

def Container.block (container : Container) : List String :=
  [indented 1 ("namespace " ++ container.key ++ " \x7b")] ++
    container.members.flatMap (Classifier.body 2) ++
    [indented 1 "\x7d"]

/-- The lines that declare all classifiers: the loose ones first, then container by container. -/
def Grouping.bodies (grouping : Grouping) : List String :=
  grouping.loose.flatMap (Classifier.body 1) ++ grouping.containers.flatMap Container.block

namespace Diagram

/-- The lines before the first classifier. -/
def header (diagram : Diagram) : List String :=
  ["```mermaid",
    "---",
    "title: " ++ diagram.title,
    "config:",
    "  class:",
    "    hideEmptyMembersBox: true",
    "---",
    "classDiagram"]

def footer : String :=
  "```"

/-- The lines between header and footer. -/
def content (diagram : Diagram) : Layout → List String
  | .flat => diagram.classifiers.flatMap Classifier.flatBlock
  | .byNamespace =>
    (Grouping.ofList diagram.classifiers).bodies ++
      [""] ++ diagram.classifiers.map Classifier.stereotypeLine ++
      [""] ++ diagram.classifiers.flatMap Classifier.edgeLines

def lines (layout : Layout) (diagram : Diagram) : List String :=
  diagram.header ++ diagram.content layout ++ [footer]

def text (layout : Layout) (diagram : Diagram) : String :=
  unlines (diagram.lines layout)

end Diagram

namespace Options

def layout (options : Options) : Layout :=
  if options.byNamespace then .byNamespace else .flat

/-- What each option adds to the name of the file. -/
def marks (options : Options) : List String :=
  [(options.hideClasses, "_NoClasses"),
    (options.hideInterfaces, "_NoInterfaces"),
    (options.hideEnums, "_NoEnums"),
    (options.allAncestors, "_NestedInheritance"),
    (options.byNamespace, "_WithNamespaces")].filterMap fun (isOn, mark) =>
      if isOn then some mark else none

theorem mem_marks_iff {options : Options} {mark : String} :
    mark ∈ options.marks ↔
      options.hideClasses = true ∧ mark = "_NoClasses" ∨
        options.hideInterfaces = true ∧ mark = "_NoInterfaces" ∨
        options.hideEnums = true ∧ mark = "_NoEnums" ∨
        options.allAncestors = true ∧ mark = "_NestedInheritance" ∨
        options.byNamespace = true ∧ mark = "_WithNamespaces" := by
  simp [marks, Option.ite_none_right_eq_some, @eq_comm String mark]

/-- The name of the file that holds the document of a project. -/
def fileName (options : Options) (project : String) : String :=
  project ++ String.join options.marks ++ ".md"

end Options

/-- The document of a snapshot, and the report of drawing it. -/
def Snapshot.document (options : Options) (snapshot : Snapshot) : String × List Event :=
  let (diagram, events) := snapshot.diagram options
  (diagram.text options.layout, events)

theorem Snapshot.text_document (options : Options) (snapshot : Snapshot) :
    (snapshot.document options).1 = (snapshot.diagram options).1.text options.layout := by
  simp only [document]

end TypeChart
