/-
**Two layouts, one content.**

The layouts differ in where a line stands and how far it is moved in, not in what it says. Without
the spaces before its lines and without their order (`bagOfText`), the document by namespace is the
flat one with two empty lines and, for each container, the line that opens it and the line that
closes it. What carries this over is that the pass over the classifiers keeps each of them once.

* `bagOfLines_body`: a body says the same at every depth.
* `Grouping.bagOfLines_bodies`: the first phase is all bodies and the frames of the containers.
* `Diagram.bagOfText_byNamespace`: the two documents, line by line.
-/

import Mathlib.Algebra.BigOperators.Group.Finset.Basic
import Mathlib.Tactic.Abel
import TypeChart.Proofs.Mermaid.OneLine

namespace TypeChart

/-! ### Lines without their places -/

/-- Lines without the spaces before them, in no order. -/
def bagOfLines (lines : List String) : Multiset String :=
  (lines.map unindented : List String)

/-- The lines of a text without the spaces before them, in no order. -/
def bagOfText (text : String) : Multiset String :=
  bagOfLines (pieces text)

theorem bagOfLines_append (front back : List String) :
    bagOfLines (front ++ back) = bagOfLines front + bagOfLines back := by
  unfold bagOfLines
  rw [List.map_append, Multiset.coe_add]

theorem bagOfLines_flatMap {α : Type} (block : α → List String) (items : List α) :
    bagOfLines (items.flatMap block) = (items.map fun item => bagOfLines (block item)).sum := by
  induction items with
  | nil => rfl
  | cons item rest ih =>
    rw [List.flatMap_cons, bagOfLines_append, ih, List.map_cons, List.sum_cons]

theorem bagOfLines_singleton_indented (depth : Nat) (line : String) :
    bagOfLines [indented depth line] = {unindented line} := by
  unfold bagOfLines
  rw [List.map_singleton, unindented_indented, Multiset.coe_singleton]

theorem bagOfLines_map_indented (depth : Nat) (lines : List String) :
    bagOfLines (lines.map (indented depth)) = bagOfLines lines := by
  unfold bagOfLines
  rw [List.map_map]
  exact congrArg _ (List.map_congr_left fun line _ => unindented_indented depth line)

/-- **A body says the same at every depth.** -/
theorem bagOfLines_body (depth : Nat) (classifier : Classifier) :
    bagOfLines (classifier.body depth) =
      {unindented ("class " ++ classifier.name ++ " \x7b")} + bagOfLines classifier.memberLines +
        {unindented "\x7d"} := by
  unfold Classifier.body
  rw [bagOfLines_append, bagOfLines_append, bagOfLines_singleton_indented, bagOfLines_map_indented,
    bagOfLines_singleton_indented]

/-! ### The first phase -/

/-- The lines that open and close the container of a key. -/
def frame (key : String) : Multiset String :=
  {"namespace " ++ key ++ " \x7b", "\x7d"}

theorem unindented_eq_self {line : String} (first : line.toList.head? ≠ some ' ') :
    unindented line = line := by
  have kept : line.toList.dropWhile (· == ' ') = line.toList := by
    cases characters : line.toList with
    | nil => rfl
    | cons c rest =>
      rw [characters, List.head?_cons] at first
      exact List.dropWhile_cons_of_neg fun isSpace => first (congrArg some (eq_of_beq isSpace))
  rw [unindented, kept, String.ofList_toList]

theorem bagOfLines_block (container : Container) :
    bagOfLines container.block =
      frame container.key +
        (container.members.map fun classifier => bagOfLines (classifier.body 1)).sum := by
  have opens : unindented ("namespace " ++ container.key ++ " \x7b") =
      "namespace " ++ container.key ++ " \x7b" := by
    refine unindented_eq_self ?_
    rw [String.toList_append, String.toList_append]
    show some 'n' ≠ some ' '
    decide
  have closes : unindented "\x7d" = "\x7d" := by decide
  have inside : (container.members.map fun classifier => bagOfLines (classifier.body 2)).sum =
      (container.members.map fun classifier => bagOfLines (classifier.body 1)).sum := by
    simp only [bagOfLines_body]
  unfold Container.block frame
  rw [bagOfLines_append, bagOfLines_append, bagOfLines_singleton_indented,
    bagOfLines_singleton_indented, bagOfLines_flatMap, inside, opens, closes,
    Multiset.insert_eq_cons, ← Multiset.singleton_add]
  abel

theorem Grouping.bagOfLines_bodies (grouping : Grouping) :
    bagOfLines grouping.bodies =
      (grouping.all.map fun classifier => bagOfLines (classifier.body 1)).sum +
        (grouping.containers.map fun container => frame container.key).sum := by
  have members : ((grouping.containers.flatMap Container.members).map
      fun classifier => bagOfLines (classifier.body 1)).sum =
        (grouping.containers.map fun container =>
          (container.members.map fun classifier => bagOfLines (classifier.body 1)).sum).sum := by
    rw [List.map_flatMap, List.flatMap_def, List.sum_flatten, List.map_map]
    rfl
  unfold bodies all
  rw [bagOfLines_append, bagOfLines_flatMap, bagOfLines_flatMap, List.map_append,
    List.sum_append, members]
  simp only [bagOfLines_block]
  rw [List.sum_map_add]
  abel

theorem Grouping.sum_frame_ofList (classifiers : List Classifier) :
    ((ofList classifiers).containers.map fun container => frame container.key).sum =
      ∑ key ∈ (classifiers.filterMap Classifier.container).toFinset, frame key := by
  have keys : (classifiers.filterMap Classifier.container).toFinset =
      (keysOf classifiers).toFinset := by
    ext key
    rw [List.mem_toFinset, List.mem_toFinset, keysOf, mem_sortedKeys]
  have distinct : (keysOf classifiers).Nodup := nodup_sortedKeys _
  rw [ofList_eq, keys, List.sum_toFinset _ distinct, separated, List.map_map]
  rfl

/-! ### The whole document -/

namespace Diagram

theorem bagOfLines_flat (diagram : Diagram) :
    bagOfLines (diagram.content .flat) =
      (diagram.classifiers.map fun classifier => bagOfLines (classifier.body 1)).sum +
        bagOfLines (diagram.classifiers.map Classifier.stereotypeLine) +
        bagOfLines (diagram.classifiers.flatMap Classifier.edgeLines) := by
  have stereotypes : diagram.classifiers.map Classifier.stereotypeLine =
      diagram.classifiers.flatMap fun classifier => [classifier.stereotypeLine] :=
    List.map_eq_flatMap
  have block : ∀ classifier : Classifier, bagOfLines classifier.flatBlock =
      bagOfLines (classifier.body 1) + bagOfLines [classifier.stereotypeLine] +
        bagOfLines classifier.edgeLines := by
    intro classifier
    rw [Classifier.flatBlock, bagOfLines_append, bagOfLines_append]
  rw [content, stereotypes, bagOfLines_flatMap, bagOfLines_flatMap, bagOfLines_flatMap]
  simp only [block, List.sum_map_add]

theorem bagOfLines_byNamespace (diagram : Diagram) :
    bagOfLines (diagram.content .byNamespace) =
      bagOfLines (diagram.content .flat) + {"", ""} +
        ∑ key ∈ (diagram.classifiers.filterMap Classifier.container).toFinset, frame key := by
  have bodies : ((Grouping.ofList diagram.classifiers).all.map
      fun classifier => bagOfLines (classifier.body 1)).sum =
        (diagram.classifiers.map fun classifier => bagOfLines (classifier.body 1)).sum :=
    ((Grouping.perm_all_ofList diagram.classifiers).map _).sum_eq
  have emptyLine : bagOfLines [""] = {""} := rfl
  have emptyLines : ({"", ""} : Multiset String) = {""} + {""} := rfl
  rw [bagOfLines_flat]
  simp only [content, bagOfLines_append, Grouping.bagOfLines_bodies, bodies,
    Grouping.sum_frame_ofList, emptyLine, emptyLines]
  abel

/-- **Two layouts, one content.** Line by line, without the spaces before a line and without the
order of the lines, the document by namespace is the flat document with two empty lines more, and
for each key of a namespace the two lines of its container more. -/
theorem bagOfText_byNamespace (diagram : Diagram) (linear : diagram.IsLinear) :
    bagOfText (diagram.text .byNamespace) =
      bagOfText (diagram.text .flat) + {"", ""} +
        ∑ key ∈ (diagram.classifiers.filterMap Classifier.container).toFinset,
          {"namespace " ++ key ++ " \x7b", "\x7d"} := by
  have lines : ∀ layout, bagOfText (diagram.text layout) =
      bagOfLines diagram.header + bagOfLines (diagram.content layout) + bagOfLines [footer] +
        bagOfLines [""] := by
    intro layout
    rw [bagOfText, diagram.pieces_text linear, Diagram.lines, bagOfLines_append, bagOfLines_append,
      bagOfLines_append]
  rw [lines, lines, bagOfLines_byNamespace]
  simp only [frame]
  abel

/-- Two namespaces of one key, and between them a classifier without a namespace. -/
def twoScopesOneKey : Diagram where
  title := "Shapes"
  classifiers :=
    [{ name := "Circle", scope := some "Plane.Round" },
      { name := "Shape", kind := .interface },
      { name := "Oval"
        scope := some "Plane-Round"
        edges := [{ origin := "Oval", target := "Circle" }] }]

/-- Both namespaces share one container, which adds one pair of lines. -/
theorem bagOfText_twoScopesOneKey :
    twoScopesOneKey.IsLinear ∧
      bagOfText (twoScopesOneKey.text .byNamespace) =
        bagOfText (twoScopesOneKey.text .flat) + {"", ""} +
          {"namespace Plane-Round \x7b", "\x7d"} := by
  have linear : twoScopesOneKey.IsLinear := by decide
  have dotted : Scope.key "Plane.Round" = "Plane-Round" := Scope.key_eq_iff.mpr (by decide)
  have dashed : Scope.key "Plane-Round" = "Plane-Round" := Scope.key_eq_iff.mpr (by decide)
  have keys : (twoScopesOneKey.classifiers.filterMap Classifier.container).toFinset =
      {"Plane-Round"} := by
    have containers : twoScopesOneKey.classifiers.filterMap Classifier.container =
        [Scope.key "Plane.Round", Scope.key "Plane-Round"] := rfl
    rw [containers, dotted, dashed]
    decide
  have opens : "namespace " ++ "Plane-Round" ++ " \x7b" = "namespace Plane-Round \x7b" := by decide
  refine ⟨linear, ?_⟩
  rw [bagOfText_byNamespace twoScopesOneKey linear, keys, Finset.sum_singleton, opens]

end Diagram

end TypeChart
