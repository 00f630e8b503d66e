/-
**Reading a document by namespace back.**

A document by namespace forgets some of its diagram: which classifier an edge stands with, and how
the classifiers of different containers followed each other. What it tells of the rest
(`Diagram.plan`) can be read back (`readPlan?`), whatever stands in the names. Bodies are read one
after the other as long as the next line begins one, and so are containers, each with the bodies one
step further in. An empty line ends the bodies and another one the stereotypes, because every line
of theirs begins with spaces.

* `readAll_flatMap`: what a reader can read once, it can read over and over.
* `readContainer?_append`: a container is read back, whatever follows it.
* `Diagram.readPlan?_text`: a document is read back.
* `Diagram.text_byNamespace_eq_iff`: two documents are equal exactly if the same is read from both.
-/

import Mathlib.Data.List.Sort
import TypeChart.Proofs.Mermaid.Grouped
import TypeChart.Proofs.Mermaid.OneLine
import TypeChart.Proofs.Mermaid.Reading

namespace TypeChart

/-! ### Reading over and over -/

/-- What a reader finds at the beginning of lines, over and over, and the lines at which it finds
nothing more. What takes no line is not found. -/
def readAll {Found : Type} (read? : List String → Option (Found × List String))
    (lines : List String) : List Found × List String :=
  match read? lines with
  | none => ([], lines)
  | some (found, rest) =>
    if rest.length < lines.length then
      let (further, after) := readAll read? rest
      (found :: further, after)
    else ([], lines)
termination_by lines.length

/-- **What a reader can read once, it can read over and over**, up to where it finds nothing. -/
theorem readAll_flatMap {Item Found : Type} {read? : List String → Option (Found × List String)}
    {write : Item → List String} {told : Item → Found} (occupied : ∀ item, write item ≠ [])
    (reads : ∀ item rest, read? (write item ++ rest) = some (told item, rest)) (items : List Item)
    {rest : List String} (ends : read? rest = none) :
    readAll read? (items.flatMap write ++ rest) = (items.map told, rest) := by
  induction items with
  | nil =>
    rw [List.flatMap_nil, List.nil_append, readAll, ends]
    rfl
  | cons item items ih =>
    have shorter : (items.flatMap write ++ rest).length <
        (write item ++ (items.flatMap write ++ rest)).length := by
      have size := List.length_pos_of_ne_nil (occupied item)
      simp only [List.length_append]
      omega
    rw [List.flatMap_cons, List.append_assoc, readAll, reads]
    simp only [if_pos shorter, ih, List.map_cons]

/-! ### Bodies -/

/-- What a body tells of its classifier. -/
structure Panel where
  name : String
  members : List String
  deriving DecidableEq, Repr

def Classifier.panel (classifier : Classifier) : Panel where
  name := classifier.name
  members := classifier.memberLines

/-- The lines that tell a panel. -/
def Panel.lines (depth : Nat) (panel : Panel) : List String :=
  bodyHead depth panel.name :: panel.members.map (indented (depth + 1)) ++ [bodyEnd depth]

/-- The panel at the beginning of lines, and the lines after it. -/
def readPanel? (depth : Nat) (lines : List String) : Option (Panel × List String) :=
  (readBody? depth lines).map fun (name, members, rest) => (⟨name, members⟩, rest)

theorem readPanel?_append (depth : Nat) (classifier : Classifier) (rest : List String) :
    readPanel? depth (classifier.body depth ++ rest) = some (classifier.panel, rest) := by
  rw [readPanel?, readBody?_append]
  rfl

/-- No panel is read where no line begins a body. -/
theorem readPanel?_eq_none {depth : Nat} {line : String} (rest : List String)
    (noHead : ∀ name, line ≠ bodyHead depth name) : readPanel? depth (line :: rest) = none := by
  have unread : readHead? depth line = none :=
    Option.eq_none_iff_forall_ne_some.mpr fun name found =>
      noHead name (readHead?_eq_some_iff.mp found)
  rw [readPanel?, readBody?, unread]
  rfl

theorem readAll_bodies (depth : Nat) (classifiers : List Classifier) {rest : List String}
    (ends : readPanel? depth rest = none) :
    readAll (readPanel? depth) (classifiers.flatMap (Classifier.body depth) ++ rest) =
      (classifiers.map Classifier.panel, rest) :=
  readAll_flatMap (fun _ => List.cons_ne_nil _ _) (readPanel?_append depth) classifiers ends

/-! ### Containers -/

/-- The line that opens the container of a key. -/
def containerHead (key : String) : String :=
  indented 1 ("namespace " ++ key ++ " \x7b")

/-- What a container tells: its key, and what the bodies in it tell. -/
def Container.told (container : Container) : String × List Panel :=
  (container.key, container.members.map Classifier.panel)

/-- The lines of a container, told from its key and the panels in it. -/
def toldLines (told : String × List Panel) : List String :=
  [containerHead told.1] ++ told.2.flatMap (Panel.lines 2) ++ [bodyEnd 1]

theorem Container.block_eq (container : Container) :
    container.block = toldLines container.told := by
  unfold toldLines told
  rw [List.flatMap_map]
  rfl

/-- The key in the first line of a container, if a line is one. -/
def readKey? (line : String) : Option String :=
  between? (indented 1 "namespace ") " \x7b" line

theorem readKey?_eq_some_iff {line key : String} :
    readKey? line = some key ↔ line = containerHead key := by
  unfold readKey? containerHead
  rw [between?_eq_some_iff, indented_append, indented_append]

/-- The container at the beginning of lines, and the lines after it. -/
def readContainer? : List String → Option ((String × List Panel) × List String)
  | [] => none
  | line :: rest =>
    (readKey? line).map fun key =>
      let (panels, after) := readAll (readPanel? 2) rest
      ((key, panels), after.tail)

/-- The line that closes a container begins no body in it. -/
theorem bodyEnd_ne_bodyHead (depth : Nat) (name : String) :
    bodyEnd depth ≠ bodyHead (depth + 1) name :=
  (indented_succ_ne (by decide)).symm

/-- **A container is read back**, whatever lines follow it. -/
theorem readContainer?_append (container : Container) (rest : List String) :
    readContainer? (container.block ++ rest) = some (container.told, rest) := by
  have lines : container.block ++ rest = containerHead container.key ::
      (container.members.flatMap (Classifier.body 2) ++ bodyEnd 1 :: rest) := by
    unfold Container.block
    rw [List.append_assoc, List.append_assoc]
    rfl
  have ends : readPanel? 2 (bodyEnd 1 :: rest) = none :=
    readPanel?_eq_none rest (bodyEnd_ne_bodyHead 1)
  have key : readKey? (containerHead container.key) = some container.key :=
    readKey?_eq_some_iff.mpr rfl
  rw [lines, readContainer?, key]
  simp only [Option.map_some, readAll_bodies 2 container.members ends]
  rfl

/-- The line that opens a container begins no body beside it. -/
theorem containerHead_ne_bodyHead (key name : String) : containerHead key ≠ bodyHead 1 name := by
  intro same
  have texts := congrArg (fun text => text.toList.head?) (indented_inj.mp same)
  simp only [String.toList_append, List.append_assoc] at texts
  have letters : some 'n' = some 'c' := texts
  exact absurd letters (by decide)

/-! ### What a document by namespace tells -/

/-- What a document by namespace tells of a diagram. -/
structure Plan where
  title : String
  /-- The panels outside all containers. -/
  loose : List Panel
  /-- The keys, each with the panels in its container. -/
  containers : List (String × List Panel)
  stereotypes : List String
  edges : List String
  deriving DecidableEq, Repr

def Diagram.plan (diagram : Diagram) : Plan where
  title := diagram.title
  loose := (Grouping.ofList diagram.classifiers).loose.map Classifier.panel
  containers := (Grouping.ofList diagram.classifiers).containers.map Container.told
  stereotypes := diagram.classifiers.map Classifier.stereotype
  edges := diagram.classifiers.flatMap fun classifier => classifier.edges.map Edge.line

/-- The lines of stereotypes and edges, with the empty lines before them. -/
def Plan.annotations (plan : Plan) : List String :=
  "" :: (plan.stereotypes.map (indented 1) ++ "" :: plan.edges.map (indented 1))

/-- The lines between header and footer, phase by phase. -/
theorem Diagram.content_byNamespace (diagram : Diagram) :
    diagram.content .byNamespace =
      (Grouping.ofList diagram.classifiers).loose.flatMap (Classifier.body 1) ++
        ((Grouping.ofList diagram.classifiers).containers.flatMap Container.block ++
          diagram.plan.annotations) := by
  have stereotypes : diagram.classifiers.map Classifier.stereotypeLine =
      diagram.plan.stereotypes.map (indented 1) := by
    rw [plan, List.map_map]
    rfl
  have edges : diagram.classifiers.flatMap Classifier.edgeLines =
      diagram.plan.edges.map (indented 1) := by
    rw [plan, List.map_flatMap]
    refine List.flatMap_congr fun classifier _ => ?_
    rw [List.map_map]
    rfl
  unfold Plan.annotations
  rw [content, Grouping.bodies, stereotypes, edges]
  simp only [List.append_assoc, List.cons_append, List.nil_append]

/-! ### Reading a document -/

/-- The stereotypes and the edges that lines tell, each group after an empty line. -/
def readAnnotations (lines : List String) : List String × List String :=
  ((lines.tail.takeWhile (· ≠ "")).map (dedented 1),
    (lines.tail.dropWhile (· ≠ "")).tail.map (dedented 1))

/-- The plan that a text tells. The title is in the third line of the header, the bodies follow the
eighth, and the last line tells nothing. -/
def readPlan? (text : String) : Option Plan :=
  match (pieces text).dropLast.dropLast with
  | _ :: _ :: title :: _ :: _ :: _ :: _ :: _ :: rest =>
    let (loose, afterLoose) := readAll (readPanel? 1) rest
    let (containers, afterBodies) := readAll readContainer? afterLoose
    let (stereotypes, edges) := readAnnotations afterBodies
    (between? "title: " "" title).map fun title =>
      { title := title
        loose := loose
        containers := containers
        stereotypes := stereotypes
        edges := edges }
  | _ => none

/-- Stereotypes begin with spaces, so the next empty line is the one after all of them. -/
theorem readAnnotations_annotations (plan : Plan) :
    readAnnotations plan.annotations = (plan.stereotypes, plan.edges) := by
  have inside : ∀ line ∈ plan.stereotypes.map (indented 1), decide (line ≠ "") = true := by
    intro line member
    obtain ⟨text, _, rfl⟩ := List.mem_map.mp member
    exact decide_eq_true (indented_ne (by decide))
  unfold readAnnotations Plan.annotations
  rw [List.tail_cons, List.takeWhile_append_of_pos inside, List.dropWhile_append_of_pos inside,
    List.takeWhile_cons_of_neg (by simp), List.dropWhile_cons_of_neg (by simp), List.append_nil,
    List.tail_cons, map_dedented_indented, map_dedented_indented]

/-- No body begins with an empty line. -/
theorem readPanel?_annotations (plan : Plan) : readPanel? 1 plan.annotations = none :=
  readPanel?_eq_none _ fun _ => (indented_ne (by decide)).symm

/-- No container begins with an empty line. -/
theorem readContainer?_annotations (plan : Plan) : readContainer? plan.annotations = none := by
  have noKey : readKey? "" = none :=
    Option.eq_none_iff_forall_ne_some.mpr fun _ found =>
      indented_ne (by decide) (readKey?_eq_some_iff.mp found).symm
  rw [Plan.annotations, readContainer?, noKey]
  rfl

theorem readAll_blocks (containers : List Container) (plan : Plan) :
    readAll readContainer? (containers.flatMap Container.block ++ plan.annotations) =
      (containers.map Container.told, plan.annotations) :=
  readAll_flatMap (fun _ => List.cons_ne_nil _ _) readContainer?_append containers
    (readContainer?_annotations plan)

/-- The bodies outside all containers go on to the first container, or to the first empty line. -/
theorem readPanel?_blocks (containers : List Container) (plan : Plan) :
    readPanel? 1 (containers.flatMap Container.block ++ plan.annotations) = none := by
  cases containers with
  | nil => exact readPanel?_annotations plan
  | cons container rest => exact readPanel?_eq_none _ (containerHead_ne_bodyHead container.key)

namespace Diagram

/-- **A document by namespace is read back**, if no text of its diagram holds a line feed. -/
theorem readPlan?_text {diagram : Diagram} (linear : diagram.IsLinear) :
    readPlan? (diagram.text .byNamespace) = some diagram.plan := by
  have lines : (pieces (diagram.text .byNamespace)).dropLast.dropLast =
      diagram.header ++ diagram.content .byNamespace := by
    rw [pieces_text linear, List.dropLast_concat, Diagram.lines, List.dropLast_concat]
  have loose := readAll_bodies 1 (Grouping.ofList diagram.classifiers).loose
    (readPanel?_blocks (Grouping.ofList diagram.classifiers).containers diagram.plan)
  rw [readPlan?, lines, content_byNamespace]
  simp only [header, List.cons_append, List.nil_append, between?_append_right, loose,
    readAll_blocks, readAnnotations_annotations]
  rfl

/-- A document by namespace tells nothing but the plan. -/
theorem text_byNamespace_congr {first second : Diagram} (same : first.plan = second.plan) :
    first.text .byNamespace = second.text .byNamespace := by
  have title : first.title = second.title := congrArg Plan.title same
  have loose : ∀ diagram : Diagram,
      (Grouping.ofList diagram.classifiers).loose.flatMap (Classifier.body 1) =
        diagram.plan.loose.flatMap (Panel.lines 1) := by
    intro diagram
    rw [plan, List.flatMap_map]
    rfl
  have containers : ∀ diagram : Diagram,
      (Grouping.ofList diagram.classifiers).containers.flatMap Container.block =
        diagram.plan.containers.flatMap toldLines := by
    intro diagram
    rw [plan, List.flatMap_map]
    exact List.flatMap_congr fun container _ => container.block_eq
  unfold text Diagram.lines header
  rw [content_byNamespace, content_byNamespace, loose, loose, containers, containers, title, same]

/-! ### Unique reading -/

theorem containers_plan_eq_iff {first second : Diagram} :
    first.plan.containers = second.plan.containers ↔
      (∀ key, key ∈ Grouping.keysOf first.classifiers ↔ key ∈ Grouping.keysOf second.classifiers) ∧
        ∀ key, (Grouping.membersOf first.classifiers key).map Classifier.panel =
          (Grouping.membersOf second.classifiers key).map Classifier.panel := by
  have told : ∀ diagram : Diagram, diagram.plan.containers =
      (Grouping.keysOf diagram.classifiers).map fun key =>
        (key, (Grouping.membersOf diagram.classifiers key).map Classifier.panel) := by
    intro diagram
    rw [plan, Grouping.ofList_eq, Grouping.separated, List.map_map]
    rfl
  rw [told, told]
  constructor
  · intro same
    have keys : Grouping.keysOf first.classifiers = Grouping.keysOf second.classifiers := by
      have firsts := congrArg (List.map Prod.fst) same
      rw [List.map_map, List.map_map] at firsts
      exact (List.map_id _).symm.trans (firsts.trans (List.map_id _))
    refine ⟨fun key => by rw [keys], fun key => ?_⟩
    rw [keys] at same
    by_cases isKey : key ∈ Grouping.keysOf second.classifiers
    · exact (Prod.mk.inj (List.map_inj_left.mp same key isKey)).2
    · rw [Grouping.membersOf_eq_nil_iff.mpr isKey, Grouping.membersOf_eq_nil_iff.mpr (keys ▸ isKey)]
  · rintro ⟨keys, members⟩
    have sameKeys : Grouping.keysOf first.classifiers = Grouping.keysOf second.classifiers :=
      (sortedKeys_increasing _).eq_of_mem_iff (sortedKeys_increasing _) fun key => keys key
    rw [sameKeys]
    exact List.map_congr_left fun key _ => by rw [members]

theorem plan_eq_iff {first second : Diagram} :
    first.plan = second.plan ↔
      first.title = second.title ∧
        first.plan.loose = second.plan.loose ∧
        first.plan.containers = second.plan.containers ∧
        first.plan.stereotypes = second.plan.stereotypes ∧
        first.plan.edges = second.plan.edges :=
  Iff.of_eq (Plan.mk.injEq ..)

/-- **The document by namespace is uniquely readable**, but for what it forgets. As long as no text
holds a line feed, two diagrams have one such document exactly if they have one title, the same
names and member lines outside all containers, the same keys, for each key the same names and member
lines inside its container, the same stereotypes and, all in a row, the same edge lines. -/
theorem text_byNamespace_eq_iff (first second : Diagram) (firstLinear : first.IsLinear)
    (secondLinear : second.IsLinear) :
    first.text .byNamespace = second.text .byNamespace ↔
      first.title = second.title ∧
        (first.classifiers.filter fun classifier => classifier.scope = none).map
            Classifier.panel =
          (second.classifiers.filter fun classifier => classifier.scope = none).map
            Classifier.panel ∧
        ((∀ key, (∃ classifier ∈ first.classifiers, classifier.container = some key) ↔
            ∃ classifier ∈ second.classifiers, classifier.container = some key) ∧
          ∀ key, (first.classifiers.filter fun classifier =>
              classifier.container = some key).map Classifier.panel =
            (second.classifiers.filter fun classifier =>
              classifier.container = some key).map Classifier.panel) ∧
        first.classifiers.map Classifier.stereotype =
          second.classifiers.map Classifier.stereotype ∧
        (first.classifiers.flatMap fun classifier => classifier.edges.map Edge.line) =
          second.classifiers.flatMap fun classifier => classifier.edges.map Edge.line := by
  have loose : ∀ diagram : Diagram, diagram.plan.loose =
      (diagram.classifiers.filter fun classifier => classifier.scope = none).map
        Classifier.panel := by
    intro diagram
    rw [plan, (Grouping.divides_ofList diagram.classifiers).loose]
  have told : first.text .byNamespace = second.text .byNamespace ↔ first.plan = second.plan := by
    refine ⟨fun same => ?_, text_byNamespace_congr⟩
    have plans : some first.plan = some second.plan := by
      rw [← readPlan?_text firstLinear, same, readPlan?_text secondLinear]
    exact Option.some.inj plans
  rw [told, plan_eq_iff, containers_plan_eq_iff, loose, loose]
  simp only [Grouping.mem_keysOf]
  rfl

/-- Two boxes of one name in different containers, with texts that look like lines of a document. -/
def twoBoxes : Diagram where
  title := "---"
  classifiers :=
    [{ name := "Box"
       scope := some "Store.Front"
       attributes := [{ name := "\x7d", typeText := "    \x7d" }]
       edges := [{ origin := "Box", target := "", kind := .link }] },
      { name := "Box", scope := some "Hall \x7b" },
      { name := "namespace Hall \x7b", kind := .enumeration }]

/-- The same boxes in another order, the edge with the other one of them. -/
def twoBoxesToo : Diagram where
  title := "---"
  classifiers :=
    [{ name := "Box"
       scope := some "Hall \x7b"
       edges := [{ origin := "Box", target := "", kind := .link }] },
      { name := "Box"
        scope := some "Store-Front"
        attributes := [{ name := "\x7d", typeText := "    \x7d" }] },
      { name := "namespace Hall \x7b", kind := .enumeration }]

/-- They have one document, which tells neither how the boxes of different containers followed each
other nor which of them the edge is with. -/
theorem text_byNamespace_twoBoxes :
    twoBoxes.IsLinear ∧ twoBoxesToo.IsLinear ∧ twoBoxes ≠ twoBoxesToo ∧
      twoBoxes.text .byNamespace = twoBoxesToo.text .byNamespace := by
  have linear : twoBoxes.IsLinear := by decide
  have linearToo : twoBoxesToo.IsLinear := by decide
  have dotted : Scope.key "Store.Front" = "Store-Front" := Scope.key_eq_iff.mpr (by decide)
  have dashed : Scope.key "Store-Front" = "Store-Front" := Scope.key_eq_iff.mpr (by decide)
  have hall : Scope.key "Hall \x7b" = "Hall \x7b" := Scope.key_eq_iff.mpr (by decide)
  refine ⟨linear, linearToo, by decide,
    (text_byNamespace_eq_iff twoBoxes twoBoxesToo linear linearToo).mpr
      ⟨rfl, by decide, ⟨fun key => ?_, fun key => ?_⟩, by decide, by decide⟩⟩
  · simp only [twoBoxes, twoBoxesToo, Classifier.container, Option.map_some, Option.map_none,
      dotted, dashed, hall, List.exists_mem_cons_iff, List.not_mem_nil]
    tauto
  · by_cases isFront : key = "Store-Front"
    · simp [twoBoxes, twoBoxesToo, Classifier.container, dotted, dashed, hall, isFront,
        Classifier.panel, Classifier.memberLines]
    · by_cases isHall : key = "Hall \x7b"
      · simp [twoBoxes, twoBoxesToo, Classifier.container, dotted, dashed, hall, isHall,
          Classifier.panel, Classifier.memberLines]
      · simp [twoBoxes, twoBoxesToo, Classifier.container, dotted, dashed, hall, Ne.symm isFront,
          Ne.symm isHall]

end Diagram

end TypeChart
