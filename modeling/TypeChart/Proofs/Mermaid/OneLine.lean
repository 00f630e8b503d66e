/-
**Lines stay lines.**

A diagram is made of texts, and its document puts each of them inside a line. As long as no text of
the diagram holds a line feed (`Diagram.IsLinear`), no line of the document does, in either layout.

* `Attribute.texts`, `Operation.texts`, `Edge.texts`, `Classifier.texts`, `Diagram.texts`: the texts
  that the parts of a diagram are made of.
* `Diagram.isOneLine_of_mem_lines`: every line of the document is one line.
* `Diagram.pieces_text`: the document cut at its line feeds.
-/

import TypeChart.Proofs.Mermaid.Grouping
import TypeChart.Proofs.Text.Lines

namespace TypeChart

/-! ### The texts of a diagram -/

/-- The texts of an attribute. -/
def Attribute.texts (member : Attribute) : List String :=
  [member.name, member.typeText]

/-- The texts of an operation. -/
def Operation.texts (operation : Operation) : List String :=
  operation.name :: operation.result :: operation.parameters

/-- The texts of an edge. -/
def Edge.texts (edge : Edge) : List String :=
  [edge.origin, edge.target]

/-- The texts of a classifier and of its parts. -/
def Classifier.texts (classifier : Classifier) : List String :=
  classifier.name :: classifier.scope.toList ++ classifier.attributes.flatMap Attribute.texts ++
    classifier.operations.flatMap Operation.texts ++ classifier.edges.flatMap Edge.texts

/-- All texts of a diagram. -/
def Diagram.texts (diagram : Diagram) : List String :=
  diagram.title :: diagram.classifiers.flatMap Classifier.texts

/-- No text of a diagram holds a line feed. -/
def Diagram.IsLinear (diagram : Diagram) : Prop :=
  ∀ text ∈ diagram.texts, IsOneLine text

instance (diagram : Diagram) : Decidable diagram.IsLinear :=
  inferInstanceAs (Decidable (∀ text ∈ diagram.texts, IsOneLine text))

/-! ### The lines of a part -/

theorem Attribute.isOneLine_line {member : Attribute}
    (linear : ∀ text ∈ member.texts, IsOneLine text) : IsOneLine member.line := by
  have sign : IsOneLine member.visibility.sign := by cases member.visibility <;> decide
  have name : IsOneLine member.name := linear _ (by simp [texts])
  have typeText : IsOneLine member.typeText := linear _ (by simp [texts])
  simp only [line, isOneLine_append, sign, typeText, name, true_and, and_true]
  decide

theorem Operation.isOneLine_line {operation : Operation}
    (linear : ∀ text ∈ operation.texts, IsOneLine text) : IsOneLine operation.line := by
  have sign : IsOneLine operation.visibility.sign := by cases operation.visibility <;> decide
  have async : IsOneLine (if operation.isAsync then "async " else "") := by
    cases operation.isAsync <;> decide
  have name : IsOneLine operation.name := linear _ (by simp [texts])
  have result : IsOneLine operation.result := linear _ (by simp [texts])
  have parameters : IsOneLine (", ".intercalate operation.parameters) :=
    isOneLine_intercalate (by decide) fun parameter member => linear _ (by simp [texts, member])
  simp only [line, isOneLine_append, sign, async, result, name, parameters, true_and, and_true]
  decide

theorem Edge.isOneLine_line {edge : Edge} (linear : ∀ text ∈ edge.texts, IsOneLine text) :
    IsOneLine edge.line := by
  have origin : IsOneLine edge.origin := linear _ (by simp [texts])
  have target : IsOneLine edge.target := linear _ (by simp [texts])
  have shaft : IsOneLine edge.kind.arrowShaft := by cases edge.kind <;> decide
  have head : IsOneLine edge.kind.arrowHead := by cases edge.kind <;> decide
  have verb : IsOneLine edge.kind.verb := by cases edge.kind <;> decide
  simp only [line, isOneLine_append, origin, shaft, head, target, verb, true_and, and_true]
  decide

theorem Scope.isOneLine_key {scope : String} (oneLine : IsOneLine scope) :
    IsOneLine (Scope.key scope) := by
  unfold IsOneLine
  rw [Scope.toList_key, List.mem_map]
  rintro ⟨c, member, isFeed⟩
  by_cases isDot : c = '.'
  · rw [if_pos isDot] at isFeed
    exact absurd isFeed (by decide)
  · rw [if_neg isDot] at isFeed
    exact oneLine (isFeed ▸ member)

/-! ### The lines of a classifier -/

namespace Classifier

variable {classifier : Classifier}

theorem isOneLine_stereotypeLine (linear : ∀ text ∈ classifier.texts, IsOneLine text) :
    IsOneLine classifier.stereotypeLine := by
  have name : IsOneLine classifier.name := linear _ (by simp [texts])
  have label : IsOneLine classifier.kind.label := by cases classifier.kind <;> decide
  refine isOneLine_indented ?_
  unfold stereotype
  by_cases isAbstract : classifier.isAbstract = true ∧ classifier.kind = .classBox
  · simp only [if_pos isAbstract, isOneLine_append, name, and_true]
    decide
  · simp only [if_neg isAbstract, isOneLine_append, label, name, and_true]
    decide

theorem isOneLine_of_mem_memberLines (linear : ∀ text ∈ classifier.texts, IsOneLine text)
    {line : String} (member : line ∈ classifier.memberLines) : IsOneLine line := by
  rcases List.mem_append.mp member with ofAttribute | ofOperation
  · obtain ⟨shown, listed, rfl⟩ := List.mem_map.mp ofAttribute
    refine Attribute.isOneLine_line fun text inside => linear text ?_
    simp only [texts, List.mem_append, List.mem_flatMap]
    exact .inl (.inl (.inr ⟨shown, listed, inside⟩))
  · obtain ⟨operation, listed, rfl⟩ := List.mem_map.mp ofOperation
    refine Operation.isOneLine_line fun text inside => linear text ?_
    simp only [texts, List.mem_append, List.mem_flatMap]
    exact .inl (.inr ⟨operation, listed, inside⟩)

theorem isOneLine_of_mem_body (linear : ∀ text ∈ classifier.texts, IsOneLine text) {depth : Nat}
    {line : String} (member : line ∈ classifier.body depth) : IsOneLine line := by
  have name : IsOneLine classifier.name := linear _ (by simp [texts])
  simp only [body, List.mem_append, List.mem_singleton, List.mem_map] at member
  rcases member with (rfl | ⟨inner, listed, rfl⟩) | rfl
  · refine isOneLine_indented ?_
    simp only [isOneLine_append, name, and_true]
    decide
  · exact isOneLine_indented (isOneLine_of_mem_memberLines linear listed)
  · exact isOneLine_indented (by decide)

theorem isOneLine_of_mem_edgeLines (linear : ∀ text ∈ classifier.texts, IsOneLine text)
    {line : String} (member : line ∈ classifier.edgeLines) : IsOneLine line := by
  obtain ⟨edge, listed, rfl⟩ := List.mem_map.mp member
  refine isOneLine_indented (Edge.isOneLine_line fun text inside => linear text ?_)
  simp only [texts, List.mem_append, List.mem_flatMap]
  exact .inr ⟨edge, listed, inside⟩

theorem isOneLine_of_container_eq_some (linear : ∀ text ∈ classifier.texts, IsOneLine text)
    {key : String} (home : classifier.container = some key) : IsOneLine key := by
  obtain ⟨scope, hasScope, rfl⟩ := Option.map_eq_some_iff.mp home
  exact Scope.isOneLine_key (linear scope (by simp [texts, hasScope]))

end Classifier

theorem Container.isOneLine_of_mem_block {container : Container} (key : IsOneLine container.key)
    (linear : ∀ classifier ∈ container.members, ∀ text ∈ classifier.texts, IsOneLine text)
    {line : String} (member : line ∈ container.block) : IsOneLine line := by
  simp only [block, List.mem_append, List.mem_singleton, List.mem_flatMap] at member
  rcases member with (rfl | ⟨classifier, held, inside⟩) | rfl
  · refine isOneLine_indented ?_
    simp only [isOneLine_append, key, and_true]
    decide
  · exact Classifier.isOneLine_of_mem_body (linear classifier held) inside
  · exact isOneLine_indented (by decide)

/-! ### The lines of a document -/

namespace Diagram

variable {diagram : Diagram}

theorem IsLinear.title (linear : diagram.IsLinear) : IsOneLine diagram.title :=
  linear diagram.title List.mem_cons_self

theorem IsLinear.classifier (linear : diagram.IsLinear) {classifier : Classifier}
    (member : classifier ∈ diagram.classifiers) : ∀ text ∈ classifier.texts, IsOneLine text :=
  fun text inside => linear text
    (List.mem_cons_of_mem _ (List.mem_flatMap.mpr ⟨classifier, member, inside⟩))

theorem isOneLine_of_mem_header (linear : diagram.IsLinear) {line : String}
    (member : line ∈ diagram.header) : IsOneLine line := by
  have above : ∀ fixed ∈ ["```mermaid", "---"], IsOneLine fixed := by decide
  have below : ∀ fixed ∈ ["config:", "  class:", "    hideEmptyMembersBox: true", "---",
      "classDiagram"], IsOneLine fixed := by decide
  have title : IsOneLine ("title: " ++ diagram.title) :=
    isOneLine_append.mpr ⟨by decide, linear.title⟩
  have header : diagram.header = ["```mermaid", "---"] ++ ["title: " ++ diagram.title] ++
      ["config:", "  class:", "    hideEmptyMembersBox: true", "---", "classDiagram"] := rfl
  rw [header, List.mem_append, List.mem_append, List.mem_singleton] at member
  rcases member with (listed | rfl) | listed
  · exact above line listed
  · exact title
  · exact below line listed

theorem isOneLine_of_mem_bodies (linear : diagram.IsLinear) {line : String}
    (member : line ∈ (Grouping.ofList diagram.classifiers).bodies) : IsOneLine line := by
  rw [Grouping.ofList_eq] at member
  rcases List.mem_append.mp member with loose | contained
  · obtain ⟨classifier, listed, inside⟩ := List.mem_flatMap.mp loose
    have each := linear.classifier (List.mem_filter.mp listed).1
    exact Classifier.isOneLine_of_mem_body each inside
  · obtain ⟨container, listed, inside⟩ := List.mem_flatMap.mp contained
    obtain ⟨key, isKey, rfl⟩ := List.mem_map.mp listed
    -- the key is one line because some classifier of the diagram brought it
    obtain ⟨owner, ownerListed, home⟩ := Grouping.mem_keysOf.mp isKey
    refine Container.isOneLine_of_mem_block ?_ (fun classifier held => ?_) inside
    · exact Classifier.isOneLine_of_container_eq_some (linear.classifier ownerListed) home
    · exact linear.classifier (List.mem_filter.mp held).1

theorem isOneLine_of_mem_content (linear : diagram.IsLinear) {layout : Layout} {line : String}
    (member : line ∈ diagram.content layout) : IsOneLine line := by
  cases layout with
  | flat =>
    obtain ⟨classifier, listed, inside⟩ := List.mem_flatMap.mp member
    have each := linear.classifier listed
    simp only [Classifier.flatBlock, List.mem_append, List.mem_singleton] at inside
    rcases inside with (inside | rfl) | inside
    · exact Classifier.isOneLine_of_mem_body each inside
    · exact Classifier.isOneLine_stereotypeLine each
    · exact Classifier.isOneLine_of_mem_edgeLines each inside
  | byNamespace =>
    simp only [content, List.mem_append, List.mem_singleton, List.mem_map, List.mem_flatMap]
      at member
    rcases member with (((inside | rfl) | ⟨classifier, listed, rfl⟩) | rfl) |
      ⟨classifier, listed, inside⟩
    · exact isOneLine_of_mem_bodies linear inside
    · decide
    · exact Classifier.isOneLine_stereotypeLine (linear.classifier listed)
    · decide
    · exact Classifier.isOneLine_of_mem_edgeLines (linear.classifier listed) inside

/-- **Every line of the document is one line.** -/
theorem isOneLine_of_mem_lines (linear : diagram.IsLinear) {layout : Layout} {line : String}
    (member : line ∈ diagram.lines layout) : IsOneLine line := by
  simp only [lines, List.mem_append, List.mem_singleton] at member
  rcases member with (inside | inside) | rfl
  · exact isOneLine_of_mem_header linear inside
  · exact isOneLine_of_mem_content linear inside
  · decide

/-- The document cut at its line feeds is its lines, and the empty rest after the last of them. -/
theorem pieces_text (linear : diagram.IsLinear) (layout : Layout) :
    pieces (diagram.text layout) = diagram.lines layout ++ [""] :=
  pieces_unlines fun _ member => isOneLine_of_mem_lines linear member

end Diagram

end TypeChart
