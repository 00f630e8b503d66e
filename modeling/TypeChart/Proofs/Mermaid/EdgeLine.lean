/-
**Lines of edges.**

The line of an edge tells its ends and its kind, and nothing of its stroke. The ends stand there as
they are, between spaces. So where no end holds a space, the line is read back word by word: the
origin, the arrow, the target, and after the colon the verb, which no two kinds share. Two edges
then have one line exactly if they have one key, and dropping repeated keys is dropping repeated
lines.

* `EdgeKind.verb_injective`: a kind is told by its verb.
* `Edge.line_eq_iff`: what two edges with the same line share.
* `Edge.map_line_firsts`: the first edges of a list print the first lines of the list.
* `Edge.line_tells_key`: all of this, for lists, declarations and diagrams.
-/

import TypeChart.Proofs.Edge.History
import TypeChart.Proofs.Edge.Ownership
import TypeChart.Proofs.Mermaid.Reading
import TypeChart.Proofs.Text.Words

namespace TypeChart

/-! ### Kinds -/

namespace EdgeKind

/-- The arrow of a kind: shaft and head. -/
def arrow (kind : EdgeKind) : String :=
  kind.arrowShaft ++ kind.arrowHead

theorem isWord_arrow (kind : EdgeKind) : IsWord kind.arrow := by
  cases kind <;> decide

/-- **A kind is told by its verb.** -/
theorem verb_injective : Function.Injective verb := by
  intro first second same
  cases first <;> cases second <;> first | rfl | exact absurd same (by decide)

end EdgeKind

namespace Edge

/-! ### The line of an edge -/

/-- No end of an edge holds a space. -/
def JoinsWords (edge : Edge) : Prop :=
  IsWord edge.origin ∧ IsWord edge.target

instance (edge : Edge) : Decidable edge.JoinsWords :=
  inferInstanceAs (Decidable (_ ∧ _))

theorem line_eq (edge : Edge) :
    edge.line = edge.origin ++ (String.singleton ' ' ++ (edge.kind.arrow ++
      (String.singleton ' ' ++ (edge.target ++ (String.singleton ' ' ++
        (": " ++ edge.kind.verb)))))) := by
  have colon : " : " = String.singleton ' ' ++ ": " := by decide
  have space : " " = String.singleton ' ' := by decide
  rw [line, colon, space, EdgeKind.arrow]
  simp only [String.append_assoc]

/-- The stroke is not drawn. -/
theorem line_congr {first second : Edge} (same : first.key = second.key) :
    first.line = second.line := by
  obtain ⟨origins, targets, kinds⟩ := key_eq_iff.mp same
  rw [line, line, origins, targets, kinds]

/-- **Two edges that join words have one line exactly if they have one key.** -/
theorem line_eq_iff {first second : Edge} (firstWords : first.JoinsWords)
    (secondWords : second.JoinsWords) : first.line = second.line ↔ first.key = second.key := by
  rw [line_eq, line_eq, append_cut_inj firstWords.1 secondWords.1,
    append_cut_inj first.kind.isWord_arrow second.kind.isWord_arrow,
    append_cut_inj firstWords.2 secondWords.2, String.append_right_inj,
    EdgeKind.verb_injective.eq_iff, key_eq_iff]
  constructor
  · rintro ⟨origins, _, targets, kinds⟩
    exact ⟨origins, targets, kinds⟩
  · rintro ⟨origins, targets, kinds⟩
    exact ⟨origins, congrArg EdgeKind.arrow kinds, targets, kinds⟩

-- with a space in an end, an edge may look like another
example :
    (⟨"Fox", "Den --> Hill", .association, .solid⟩ : Edge).line =
      (⟨"Fox --> Den", "Hill", .association, .solid⟩ : Edge).line := by
  decide

/-! ### Lines of lists of edges -/

theorem eraseDups_concat (front : List String) (last : String) :
    (front ++ [last]).eraseDups =
      if last ∈ front then front.eraseDups else front.eraseDups ++ [last] := by
  rw [List.eraseDups_append, List.removeAll]
  by_cases known : last ∈ front
  · rw [if_pos known, List.filter_singleton, List.elem_eq_true_of_mem known]
    exact List.append_nil _
  · rw [if_neg known, List.filter_singleton, List.elem_eq_mem, decide_eq_false known]
    rfl

/-- **The first edges of a list print the first lines of the list**: to drop what repeats a key is
to drop what repeats a line. -/
theorem map_line_firsts {edges : List Edge} (words : ∀ edge ∈ edges, edge.JoinsWords) :
    (firsts edges).map line = (edges.map line).eraseDups := by
  induction edges using List.reverseRecOn with
  | nil => rfl
  | append_singleton front last ih =>
    obtain ⟨inFront, ofLast⟩ := List.forall_mem_append.mp words
    have known : last.line ∈ front.map line ↔ last.key ∈ front.map key := by
      rw [List.mem_map, List.mem_map]
      exact exists_congr fun other => and_congr_right fun member =>
        line_eq_iff (inFront other member) (ofLast last (List.mem_singleton_self last))
    rw [firsts_concat, List.map_append, List.map_singleton, eraseDups_concat, ← ih inFront]
    simp only [known]
    split
    · rfl
    · rw [List.map_append, List.map_singleton]

theorem nodup_map_line {edges : List Edge} (words : ∀ edge ∈ edges, edge.JoinsWords)
    (distinct : (edges.map key).Nodup) : (edges.map line).Nodup := by
  refine List.pairwise_map.mpr ((List.pairwise_map.mp distinct).imp_of_mem ?_)
  intro first second firstMember secondMember different
  exact mt (line_eq_iff (words first firstMember) (words second secondMember)).mp different

theorem joinsWords_congr {first second : Edge} (same : first.key = second.key) :
    first.JoinsWords ↔ second.JoinsWords := by
  obtain ⟨origins, targets, _⟩ := key_eq_iff.mp same
  unfold JoinsWords
  rw [origins, targets]

end Edge

/-- Every candidate for an edge has the ends of one that became an edge. -/
theorem TypeDecl.joinsWords_candidates {allAncestors : Bool} {owner : String} {decl : TypeDecl}
    (words : ∀ edge ∈ decl.edges allAncestors owner, edge.JoinsWords) :
    ∀ edge ∈ decl.candidates allAncestors owner, edge.JoinsWords := by
  intro edge member
  have known : edge.key ∈ (decl.edges allAncestors owner).map Edge.key :=
    EdgeSet.mem_keys_ofList.mpr (List.mem_map_of_mem member)
  obtain ⟨first, drawn, same⟩ := List.mem_map.mp known
  exact (Edge.joinsWords_congr same).mp (words first drawn)

/-! ### Lines of classifiers -/

namespace Classifier

theorem edgeLines_eq (classifier : Classifier) :
    classifier.edgeLines = (classifier.edges.map Edge.line).map (indented 1) := by
  rw [edgeLines, List.map_map]
  rfl

theorem flatMap_edgeLines (classifiers : List Classifier) :
    classifiers.flatMap edgeLines =
      ((classifiers.flatMap (·.edges)).map Edge.line).map (indented 1) := by
  rw [List.map_flatMap, List.map_flatMap]
  exact List.flatMap_congr fun classifier _ => classifier.edgeLines_eq

end Classifier

theorem nodup_map_indented {depth : Nat} {lines : List String} :
    (lines.map (indented depth)).Nodup ↔ lines.Nodup :=
  List.nodup_map_iff fun _ _ => indented_inj.mp

/-! ### Lines and keys -/

/-- **The line of an edge tells its key, and nothing else.** Edges of one key have one line,
whatever their strokes are. Where no end holds a space, edges of one line have one key. So in every
list of such edges, to drop what repeats a key is to drop what repeats a line: a declaration prints
the first of each line that its candidates print, and no line twice. In the document of a snapshot,
edges look the same exactly if they are, wherever they stand; no classifier has a line twice, and
if the classifiers have different names, neither have all of them together. -/
theorem Edge.line_tells_key :
    (∀ first second : Edge, first.key = second.key → first.line = second.line) ∧
    (∀ first second : Edge, first.JoinsWords → second.JoinsWords →
      (first.line = second.line ↔ first.key = second.key)) ∧
    (∀ edges : List Edge, (∀ edge ∈ edges, edge.JoinsWords) →
      (EdgeSet.ofList edges).edges.map line = (edges.map line).eraseDups) ∧
    (∀ (allAncestors : Bool) (owner : String) (decl : TypeDecl),
      (∀ edge ∈ decl.edges allAncestors owner, edge.JoinsWords) →
        (decl.edges allAncestors owner).map line =
          ((decl.candidates allAncestors owner).map line).eraseDups ∧
        ((decl.edges allAncestors owner).map line).Nodup) ∧
    ∀ (options : Options) (snapshot : Snapshot),
      let classifiers := (snapshot.diagram options).1.classifiers
      let edges := classifiers.flatMap (·.edges)
      (∀ edge ∈ edges, edge.JoinsWords) →
        (∀ first ∈ edges, ∀ second ∈ edges,
          (indented 1 first.line = indented 1 second.line ↔ first.key = second.key)) ∧
        (∀ classifier ∈ classifiers, classifier.edgeLines.Nodup) ∧
        ((classifiers.map (·.name)).Nodup → (classifiers.flatMap Classifier.edgeLines).Nodup) := by
  have ofList : ∀ edges : List Edge, (∀ edge ∈ edges, edge.JoinsWords) →
      (EdgeSet.ofList edges).edges.map line = (edges.map line).eraseDups := by
    intro edges words
    rw [EdgeSet.edges_ofList, map_line_firsts words]
  refine ⟨fun _ _ => line_congr, fun _ _ => line_eq_iff, ofList,
    fun allAncestors owner decl words => ⟨?_, ?_⟩, ?_⟩
  · exact ofList _ (TypeDecl.joinsWords_candidates words)
  · exact nodup_map_line words (EdgeSet.nodup_keys _)
  · intro options snapshot classifiers edges words
    have owners : ∀ classifier ∈ classifiers, classifier.OwnsEdges :=
      fun _ member => Snapshot.ownsEdges_of_mem_diagram member
    refine ⟨fun first firstMember second secondMember => ?_, fun classifier member => ?_,
      fun names => ?_⟩
    · rw [indented_inj, line_eq_iff (words first firstMember) (words second secondMember)]
    · rw [classifier.edgeLines_eq, nodup_map_indented]
      refine nodup_map_line (fun edge drawn => ?_) (owners classifier member).distinct
      exact words edge (List.mem_flatMap.mpr ⟨classifier, member, drawn⟩)
    · rw [Classifier.flatMap_edgeLines, nodup_map_indented]
      exact nodup_map_line words (nodup_keys_flatMap owners names)

/-- A type that refers to names which look like arrows and verbs, and is called so itself. -/
def Sample.quiver : TypeDecl where
  name := "-->"
  interfaces := [{ name := "..|>" }, { name := ":" }]
  properties :=
    [{ type := { name := ":associates" } },
      { type := { kind := .array, elements := [{ name := "-->:" }] } }]

/-- The zoo with one more source unit. -/
def Sample.zooWithQuiver : Snapshot :=
  { zoo with units := zoo.units ++ [{ types := [quiver] }] }

/-- All the names are words, and so no line of an edge stands twice in the document. -/
theorem Edge.line_tells_key_quiver :
    (∀ edge ∈ (Sample.zooWithQuiver.diagram {}).1.classifiers.flatMap (·.edges),
      edge.JoinsWords) ∧
      (⟨"-->", "..|>", .realization, .dashed⟩ : Edge) ∈
        (Sample.zooWithQuiver.diagram {}).1.classifiers.flatMap (·.edges) ∧
      ((Sample.zooWithQuiver.diagram {}).1.classifiers.map (·.name)).Nodup ∧
      ((Sample.zooWithQuiver.diagram {}).1.classifiers.flatMap Classifier.edgeLines).Nodup := by
  have words : ∀ edge ∈ (Sample.zooWithQuiver.diagram {}).1.classifiers.flatMap (·.edges),
      edge.JoinsWords := by decide +kernel
  have shown : (⟨"-->", "..|>", .realization, .dashed⟩ : Edge) ∈
      (Sample.zooWithQuiver.diagram {}).1.classifiers.flatMap (·.edges) := by decide +kernel
  have names : ((Sample.zooWithQuiver.diagram {}).1.classifiers.map (·.name)).Nodup := by decide
  exact ⟨words, shown, names,
    (line_tells_key.2.2.2.2 {} Sample.zooWithQuiver words).2.2 names⟩

end TypeChart
