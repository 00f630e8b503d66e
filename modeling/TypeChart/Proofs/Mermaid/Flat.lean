/-
**The flat document, declaration by declaration.**

In the flat layout a document is an opening with the title, one block of text for each declaration
that is not dropped, and a closing fence. A block is the body, the stereotype and the edges of one
declaration; it is made of nothing but the declaration and the choice of its ancestors, so no other
declaration and no other option can change it, and more units only add blocks.

* `Diagram.text_flat`: a diagram's text, block by block.
* `Snapshot.document_flat`: a snapshot's document, declaration by declaration and unit by unit.
-/

import TypeChart.Proofs.Declarations
import TypeChart.Proofs.Text.Lines
import TypeChart.Snapshot.Sample

namespace TypeChart

/-! ### The parts of a flat document -/

/-- The eight lines before the first block, the third of them with the title. -/
def opening (title : String) : String :=
  unlines
    ["```mermaid",
      "---",
      "title: " ++ title,
      "config:",
      "  class:",
      "    hideEmptyMembersBox: true",
      "---",
      "classDiagram"]

/-- The line after the last block. -/
def closing : String :=
  unlines ["```"]

/-- The text of a classifier in the flat layout: its body, its stereotype and its edges. -/
def Classifier.blockText (classifier : Classifier) : String :=
  unlines (classifier.body 1 ++ [classifier.stereotypeLine] ++ classifier.edgeLines)

/-- The text of a declaration in the flat layout. -/
def Declaration.blockText (allAncestors : Bool) (declaration : Declaration) : String :=
  (declaration.classifier allAncestors).blockText

namespace SourceUnit

/-- The blocks of all declarations of units that are not dropped. -/
def blocks (options : Options) (units : List SourceUnit) : String :=
  String.join ((kept options units).map (Declaration.blockText options.allAncestors))

/-- The name of the first declaration of units that is not dropped, if one is left. -/
def title (options : Options) (units : List SourceUnit) : String :=
  ((kept options units).head?.map Declaration.name).getD "UML Diagram"

theorem blocks_append (options : Options) (front back : List SourceUnit) :
    blocks options (front ++ back) = blocks options front ++ blocks options back := by
  unfold blocks
  rw [kept_append, List.map_append, String.join_append]

end SourceUnit

/-! ### Assembling them -/

theorem Diagram.text_flat (diagram : Diagram) :
    diagram.text .flat =
      opening diagram.title ++ String.join (diagram.classifiers.map Classifier.blockText) ++
        closing := by
  have content : unlines (diagram.content .flat) =
      String.join (diagram.classifiers.map Classifier.blockText) :=
    unlines_flatMap Classifier.flatBlock diagram.classifiers
  unfold Diagram.text Diagram.lines
  rw [unlines_append, unlines_append, content]
  rfl

/-- A document without containers is opening, blocks and closing. -/
theorem Snapshot.document_eq {options : Options} (flat : options.byNamespace = false)
    (snapshot : Snapshot) :
    (snapshot.document options).1 =
      opening (SourceUnit.title options snapshot.units) ++
        SourceUnit.blocks options snapshot.units ++ closing := by
  have layout : options.layout = .flat := by
    unfold Options.layout
    rw [flat]
    rfl
  have blocks : (snapshot.diagram options).1.classifiers.map Classifier.blockText =
      (SourceUnit.kept options snapshot.units).map
        (Declaration.blockText options.allAncestors) := by
    rw [Snapshot.classifiers_diagram, List.map_map]
    rfl
  rw [Snapshot.text_document, layout, Diagram.text_flat, blocks, Snapshot.title_diagram]
  rfl

/-- **The flat document, declaration by declaration.** It is the opening with the title, the block
of every declaration that is not dropped in the order of the declarations, and the closing; and of
units in two groups, the blocks are those of the first group followed by those of the second. -/
theorem Snapshot.document_flat (options : Options) (flat : options.byNamespace = false)
    (snapshot : Snapshot) :
    (snapshot.document options).1 =
        opening (SourceUnit.title options snapshot.units) ++
          String.join ((SourceUnit.kept options snapshot.units).map
            (Declaration.blockText options.allAncestors)) ++ closing ∧
      ∀ front back : List SourceUnit, snapshot.units = front ++ back →
        (snapshot.document options).1 =
          opening (SourceUnit.title options (front ++ back)) ++
            (SourceUnit.blocks options front ++ SourceUnit.blocks options back) ++ closing := by
  refine ⟨snapshot.document_eq flat, fun front back groups => ?_⟩
  rw [snapshot.document_eq flat, groups, SourceUnit.blocks_append]

/-- The sample without its enumerations, whose first declaration gives the title. -/
theorem Snapshot.document_flat_zoo :
    ({ hideEnums := true } : Options).byNamespace = false ∧
      (Sample.zoo.document { hideEnums := true }).1 =
        opening "LivingThing" ++
          String.join ((SourceUnit.kept { hideEnums := true } Sample.zoo.units).map
            (Declaration.blockText false)) ++ closing := by
  have title : SourceUnit.title { hideEnums := true } Sample.zoo.units = "LivingThing" := by decide
  rw [← title]
  exact ⟨rfl, (Snapshot.document_flat { hideEnums := true } rfl Sample.zoo).1⟩

end TypeChart
