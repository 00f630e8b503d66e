/-
**Reading a flat document back.**

A flat document tells the title of its diagram and of each classifier the name, the member lines,
the stereotype and the edge lines (`Diagram.outline`). It tells them so that they can be read back
(`readOutline?`), whatever stands in the names: after the eight lines of the header a classifier is
a body, one line of stereotype and then edge lines, which end where a line is the first of another
body or the fence that closes the document. An edge line is neither, because its last word is that
of a verb, and because spaces stand before it.

* `Edge.readHead?_line`: no edge line begins a body.
* `readFaces?_flatBlocks`: the classifiers of a document are read back, by induction over them.
* `Diagram.readOutline?_text`: a document is read back.
* `Diagram.text_flat_eq_iff`: two documents are equal exactly if the same is read from both.
-/

import Mathlib.Data.List.Forall2
import TypeChart.Proofs.Mermaid.OneLine
import TypeChart.Proofs.Mermaid.Reading

namespace TypeChart

/-! ### What a flat document tells -/

/-- What a flat document tells of a classifier, line by line. -/
structure Face where
  name : String
  members : List String
  stereotype : String
  edges : List String
  deriving DecidableEq, Repr

/-- What a flat document tells of a diagram. -/
structure Outline where
  title : String
  faces : List Face
  deriving DecidableEq, Repr

def Classifier.face (classifier : Classifier) : Face where
  name := classifier.name
  members := classifier.memberLines
  stereotype := classifier.stereotype
  edges := classifier.edges.map Edge.line

def Diagram.outline (diagram : Diagram) : Outline where
  title := diagram.title
  faces := diagram.classifiers.map Classifier.face

/-- The lines that tell a face. -/
def Face.lines (face : Face) : List String :=
  bodyHead 1 face.name :: face.members.map (indented 2) ++
    [bodyEnd 1, indented 1 face.stereotype] ++ face.edges.map (indented 1)

theorem Classifier.flatBlock_eq (classifier : Classifier) :
    classifier.flatBlock = classifier.face.lines := by
  have edges : classifier.edgeLines = (classifier.edges.map Edge.line).map (indented 1) := by
    rw [List.map_map]
    rfl
  unfold Classifier.flatBlock Classifier.body
  rw [edges, List.append_assoc _ [indented 1 "\x7d"]]
  rfl

/-! ### Lines of one sort -/

/-- **No edge line begins a body**: it does not end in a brace, whatever its ends are called. -/
theorem Edge.readHead?_line (edge : Edge) : readHead? 1 (indented 1 edge.line) = none := by
  refine Option.eq_none_iff_forall_ne_some.mpr fun name found => ?_
  have same : edge.line = "class " ++ name ++ " \x7b" :=
    indented_inj.mp (readHead?_eq_some_iff.mp found)
  have brace : edge.line.toList.getLast? = some '\x7b' := by
    rw [same, String.toList_append, List.getLast?_append]
    rfl
  have verb : edge.kind.verb.toList.getLast? = some '\x7b' := by
    unfold Edge.line at brace
    rw [String.toList_append, List.getLast?_append] at brace
    revert brace
    cases edge.kind <;> exact fun last => last
  revert verb
  cases edge.kind <;> decide

/-- No line with a space before it closes the document. -/
theorem indented_ne_footer (depth : Nat) (line : String) :
    indented (depth + 1) line ≠ Diagram.footer :=
  indented_ne (by decide)

/-- A line among the edges: it neither begins a body nor closes the document. -/
def isEdgeLine (line : String) : Bool :=
  (readHead? 1 line).isNone && line != Diagram.footer

theorem isEdgeLine_of_mem_edgeLines {classifier : Classifier} {line : String}
    (member : line ∈ classifier.edgeLines) : isEdgeLine line = true := by
  obtain ⟨edge, _, rfl⟩ := List.mem_map.mp member
  unfold isEdgeLine
  rw [Edge.readHead?_line, Option.isNone_none, Bool.true_and, bne_iff_ne]
  exact indented_ne_footer 0 edge.line

/-! ### Reading -/

/-- The faces that lines tell, up to the line that closes a document. -/
def readFaces? (lines : List String) : Option (List Face) :=
  if lines = [Diagram.footer] then some []
  else
    match _found : readBody? 1 lines with
    | some (name, members, stereotype :: rest) =>
      (readFaces? (rest.dropWhile isEdgeLine)).map fun faces =>
        { name := name
          members := members
          stereotype := dedented 1 stereotype
          edges := (rest.takeWhile isEdgeLine).map (dedented 1) } :: faces
    | _ => none
termination_by lines.length
decreasing_by
  have body := length_of_readBody? _found
  have edges := (List.dropWhile_sublist isEdgeLine (l := rest)).length_le
  rw [List.length_cons] at body
  omega

/-- The outline that a text tells: the title is in the third line of the header, and the faces
follow the eighth. -/
def readOutline? (text : String) : Option Outline :=
  match (pieces text).dropLast with
  | _ :: _ :: title :: _ :: _ :: _ :: _ :: _ :: rest =>
    match between? "title: " "" title, readFaces? rest with
    | some title, some faces => some { title := title, faces := faces }
    | _, _ => none
  | _ => none

/-- Lines that begin with no edge line, as what follows the edges of a classifier does. -/
def EndsEdges (rest : List String) : Prop :=
  ∀ line, rest.head? = some line → isEdgeLine line = false

/-- The next body ends the edges of a classifier, and so does the end of the document. -/
theorem endsEdges_flatBlocks (classifiers : List Classifier) :
    EndsEdges (classifiers.flatMap Classifier.flatBlock ++ [Diagram.footer]) := by
  intro line first
  unfold isEdgeLine
  cases classifiers with
  | nil =>
    obtain rfl : Diagram.footer = line := Option.some.inj first
    rw [bne_self_eq_false, Bool.and_false]
  | cons classifier rest =>
    obtain rfl : bodyHead 1 classifier.name = line := Option.some.inj first
    rw [readHead?_eq_some_iff.mpr rfl]
    rfl

theorem span_edgeLines (classifier : Classifier) {rest : List String} (ends : EndsEdges rest) :
    (classifier.edgeLines ++ rest).takeWhile isEdgeLine = classifier.edgeLines ∧
      (classifier.edgeLines ++ rest).dropWhile isEdgeLine = rest := by
  have inside : ∀ line ∈ classifier.edgeLines, isEdgeLine line = true :=
    fun _ member => isEdgeLine_of_mem_edgeLines member
  rw [List.takeWhile_append_of_pos inside, List.dropWhile_append_of_pos inside]
  cases rest with
  | nil => exact ⟨List.append_nil _, rfl⟩
  | cons line rest =>
    have noEdge : ¬ isEdgeLine line = true := by
      rw [ends line rfl]
      decide
    rw [List.takeWhile_cons_of_neg noEdge, List.dropWhile_cons_of_neg noEdge, List.append_nil]
    exact ⟨rfl, rfl⟩

/-- **One classifier is read back**: its lines give its face, and the reading goes on after them. -/
theorem readFaces?_flatBlock (classifier : Classifier) {rest : List String}
    (ends : EndsEdges rest) :
    readFaces? (classifier.flatBlock ++ rest) =
      (readFaces? rest).map fun faces => classifier.face :: faces := by
  have lines : classifier.flatBlock ++ rest =
      classifier.body 1 ++ classifier.stereotypeLine :: (classifier.edgeLines ++ rest) := by
    unfold Classifier.flatBlock
    simp only [List.append_assoc]
    rfl
  have notEnd : classifier.body 1 ++ classifier.stereotypeLine :: (classifier.edgeLines ++ rest) ≠
      [Diagram.footer] := by
    intro same
    exact indented_ne_footer 0 _ (List.cons.inj same).1
  have body := readBody?_append 1 classifier
    (classifier.stereotypeLine :: (classifier.edgeLines ++ rest))
  obtain ⟨edges, after⟩ := span_edgeLines classifier ends
  have edgeTexts : classifier.edgeLines.map (dedented 1) = classifier.edges.map Edge.line := by
    unfold Classifier.edgeLines
    rw [List.map_map]
    exact List.map_congr_left fun edge _ => dedented_indented 1 edge.line
  rw [lines, readFaces?, if_neg notEnd]
  split
  · rename_i found
    rw [body] at found
    obtain ⟨rfl, rfl, rfl, rfl⟩ : _ ∧ _ ∧ _ ∧ _ := by
      simpa only [Option.some.injEq, Prod.mk.injEq, List.cons.injEq] using found
    rw [after, edges, edgeTexts, Classifier.stereotypeLine, dedented_indented]
    rfl
  · rename_i unread
    exact absurd body (unread _ _ _ _)

/-- **The classifiers of a flat document are read back.** -/
theorem readFaces?_flatBlocks (classifiers : List Classifier) :
    readFaces? (classifiers.flatMap Classifier.flatBlock ++ [Diagram.footer]) =
      some (classifiers.map Classifier.face) := by
  induction classifiers with
  | nil =>
    rw [readFaces?]
    exact if_pos rfl
  | cons classifier rest ih =>
    rw [List.flatMap_cons, List.append_assoc,
      readFaces?_flatBlock classifier (endsEdges_flatBlocks rest), ih]
    rfl

namespace Diagram

/-- **A flat document is read back**, if no text of its diagram holds a line feed. -/
theorem readOutline?_text {diagram : Diagram} (linear : diagram.IsLinear) :
    readOutline? (diagram.text .flat) = some diagram.outline := by
  have lines : (pieces (diagram.text .flat)).dropLast = diagram.header ++
      (diagram.classifiers.flatMap Classifier.flatBlock ++ [footer]) := by
    rw [pieces_text linear, List.dropLast_concat, Diagram.lines, List.append_assoc]
    rfl
  rw [readOutline?, lines]
  simp only [header, List.cons_append, List.nil_append, between?_append_right,
    readFaces?_flatBlocks]
  rfl

/-- A flat document tells nothing but the outline. -/
theorem text_flat_congr {first second : Diagram} (same : first.outline = second.outline) :
    first.text .flat = second.text .flat := by
  have title : first.title = second.title := congrArg Outline.title same
  have faces : first.classifiers.map Classifier.face = second.classifiers.map Classifier.face :=
    congrArg Outline.faces same
  have blocks : ∀ diagram : Diagram, diagram.content .flat =
      (diagram.classifiers.map Classifier.face).flatMap Face.lines := by
    intro diagram
    rw [List.flatMap_map]
    exact List.flatMap_congr fun classifier _ => classifier.flatBlock_eq
  unfold text Diagram.lines header
  rw [blocks, blocks, title, faces]

theorem outline_eq_iff {first second : Diagram} :
    first.outline = second.outline ↔
      first.title = second.title ∧
        List.Forall₂ (fun one other : Classifier =>
          one.name = other.name ∧ one.stereotype = other.stereotype ∧
            one.memberLines = other.memberLines ∧
            one.edges.map Edge.line = other.edges.map Edge.line)
          first.classifiers second.classifiers := by
  have face : ∀ one other : Classifier, one.face = other.face ↔
      one.name = other.name ∧ one.stereotype = other.stereotype ∧
        one.memberLines = other.memberLines ∧
        one.edges.map Edge.line = other.edges.map Edge.line := by
    intro one other
    simp only [Classifier.face, Face.mk.injEq]
    tauto
  simp only [← face]
  rw [outline, outline, Outline.mk.injEq, ← List.forall₂_eq_eq_eq, List.forall₂_map_left_iff,
    List.forall₂_map_right_iff]

/-! ### Lines that are never mistaken -/

theorem exists_indented_of_mem_flatBlock {classifier : Classifier} {line : String}
    (member : line ∈ classifier.flatBlock) : ∃ text, line = indented 1 text := by
  simp only [Classifier.flatBlock, Classifier.body, List.mem_append, List.mem_singleton,
    List.mem_map] at member
  rcases member with (((rfl | ⟨text, _, rfl⟩) | rfl) | rfl) | listed
  · exact ⟨_, rfl⟩
  · exact ⟨_, indented_succ 1 text⟩
  · exact ⟨_, rfl⟩
  · exact ⟨_, rfl⟩
  · obtain ⟨edge, _, rfl⟩ := List.mem_map.mp listed
    exact ⟨_, rfl⟩

theorem ne_footer_of_mem_header {diagram : Diagram} {line : String}
    (member : line ∈ diagram.header) : line ≠ footer := by
  have fixed : ∀ other ∈ ["```mermaid", "---", "config:", "  class:",
      "    hideEmptyMembersBox: true", "classDiagram"], other ≠ footer := by decide
  have title : "title: " ++ diagram.title ≠ footer := by
    intro same
    have first : ("title: " ++ diagram.title).toList.head? = some 't' := by
      rw [String.toList_append]
      rfl
    rw [same] at first
    exact absurd first (by decide)
  by_cases isTitle : line = "title: " ++ diagram.title
  · rw [isTitle]
    exact title
  · refine fixed line ?_
    simp only [header, List.mem_cons, isTitle, false_or] at member
    simp only [List.mem_cons]
    tauto

/-- The lines of a flat document that decide how to read on are never mistaken for others. -/
structure TellsApart (diagram : Diagram) : Prop where
  /-- No edge line is the first line of a body. -/
  edge : ∀ classifier ∈ diagram.classifiers, ∀ line ∈ classifier.edgeLines, ∀ name,
    line ≠ indented 1 ("class " ++ name ++ " \x7b")
  /-- No member line is the last line of a body. -/
  member : ∀ classifier ∈ diagram.classifiers, ∀ text ∈ classifier.memberLines,
    indented 2 text ≠ indented 1 "\x7d"
  /-- No line before the last closes the document. -/
  closing : ∀ line ∈ (diagram.lines .flat).dropLast, line ≠ footer

theorem tellsApart (diagram : Diagram) : diagram.TellsApart where
  edge := by
    intro classifier _ line listed name same
    obtain ⟨edge, _, rfl⟩ := List.mem_map.mp listed
    have isHead : readHead? 1 (indented 1 edge.line) = some name := readHead?_eq_some_iff.mpr same
    rw [Edge.readHead?_line] at isHead
    cases isHead
  member := fun _ _ text _ => indented_member_ne_bodyEnd 1 text
  closing := by
    intro line listed
    rw [Diagram.lines, List.dropLast_concat] at listed
    rcases List.mem_append.mp listed with above | inside
    · exact ne_footer_of_mem_header above
    · obtain ⟨classifier, _, inBlock⟩ := List.mem_flatMap.mp inside
      obtain ⟨text, rfl⟩ := exists_indented_of_mem_flatBlock inBlock
      exact indented_ne_footer 0 text

/-! ### Unique reading -/

/-- **The flat document is uniquely readable.** As long as no text holds a line feed, two diagrams
have one flat document exactly if they have one title and, classifier by classifier, the same name,
stereotype, member lines and edge lines. No line that decides how to read on can be mistaken. -/
theorem text_flat_eq_iff (first second : Diagram) (firstLinear : first.IsLinear)
    (secondLinear : second.IsLinear) :
    (first.text .flat = second.text .flat ↔
      first.title = second.title ∧
        List.Forall₂ (fun one other : Classifier =>
          one.name = other.name ∧ one.stereotype = other.stereotype ∧
            one.memberLines = other.memberLines ∧
            one.edges.map Edge.line = other.edges.map Edge.line)
          first.classifiers second.classifiers) ∧
      first.TellsApart ∧ second.TellsApart := by
  refine ⟨?_, first.tellsApart, second.tellsApart⟩
  rw [← outline_eq_iff]
  refine ⟨fun same => ?_, text_flat_congr⟩
  have outlines : some first.outline = some second.outline := by
    rw [← readOutline?_text firstLinear, same, readOutline?_text secondLinear]
  exact Option.some.inj outlines

/-- A diagram whose names look like lines of its document. -/
def looksLikeLines : Diagram where
  title := "```"
  classifiers :=
    [{ name := "Box \x7b"
       attributes := [{ name := "\x7d", typeText := "    \x7d" }]
       edges := [{ origin := "class Box", target := "Lid \x7b", kind := .composition }] },
      { name := "<<Enum>> ```", kind := .enumeration }]

/-- The same with another stroke, a namespace and a mark that no flat document tells. -/
def looksLikeLinesToo : Diagram where
  title := "```"
  classifiers :=
    [{ name := "Box \x7b"
       scope := some "Storage"
       attributes := [{ name := "\x7d", typeText := "    \x7d", isMany := true }]
       edges :=
         [{ origin := "class Box"
            target := "Lid \x7b"
            kind := .composition
            stroke := .dashed }] },
      { name := "<<Enum>> ```", kind := .enumeration, visibility := .assembly }]

theorem text_flat_looksLikeLines :
    looksLikeLines.IsLinear ∧ looksLikeLinesToo.IsLinear ∧
      looksLikeLines.text .flat = looksLikeLinesToo.text .flat ∧
      looksLikeLines.TellsApart := by
  have linear : looksLikeLines.IsLinear := by decide
  have linearToo : looksLikeLinesToo.IsLinear := by decide
  have read := text_flat_eq_iff looksLikeLines looksLikeLinesToo linear linearToo
  refine ⟨linear, linearToo, read.1.mpr ⟨rfl, ?_⟩, read.2.1⟩
  exact .cons ⟨rfl, rfl, rfl, rfl⟩ (.cons ⟨rfl, rfl, rfl, rfl⟩ .nil)

end Diagram

end TypeChart
