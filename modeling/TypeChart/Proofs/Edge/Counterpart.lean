/-
**What a property is about, in its edge and in its line.**

A property is drawn twice: as an attribute, whose line has the text of the type, and as an edge to
what the type stands for. Which of the types below a use counts is decided for each on its own, from
the kind, the elements and the arguments. They agree on every use, however odd it is: the text of an
array is the name of what it stands for and brackets, the text of a generic type with one argument
has that name between its own brackets, and any other type stands for itself and is shown by its
name first. So the name at the other end of the edge is always found in the line.

* `TypeUse.shown_of_isArray`, `TypeUse.shown_of_single`, `TypeUse.target_of_not_single`: the cases
  of a use.
* `TypeUse.name_target_infix_shown`: the text of a use has the name of what it stands for.
* `Edge.counterpart`: the end of an edge that is not its owner.
* `PropertyDecl.line_names_counterpart`: the edge of a property, and its line.
-/

import TypeChart.Mermaid.Document
import TypeChart.Proofs.Edge.Classification
import TypeChart.Proofs.Edge.Ownership
import TypeChart.Proofs.Edge.Selection
import TypeChart.Proofs.Snapshot.Arrays

namespace TypeChart

/-! ### Texts and targets -/

namespace TypeUse

variable {type : TypeUse}

/-- An array is shown by the name of what it stands for. -/
theorem shown_of_isArray (isArray : type.isArray = true) :
    type.shown = type.target.name ++ "[]" := by
  obtain ⟨element, isElement⟩ := Option.isSome_iff_exists.mp isArray
  obtain ⟨isKind, _, elements⟩ := element?_eq_some_iff.mp isElement
  have isTarget : element = type.target := standsFor_iff.mp (.element isKind elements)
  rw [shown_of_element? isElement, isTarget]

/-- A generic type with one argument is shown by its own name and that of what it stands for. -/
theorem shown_of_single (noArray : type.isArray = false) (single : type.arguments.length = 1) :
    type.shown = type.name ++ "<" ++ type.target.name ++ ">" := by
  obtain ⟨only, isOnly⟩ := List.length_eq_one_iff.mp single
  have noElement := element?_eq_none_iff.mp (isArray_eq_false_iff.mp noArray)
  have isTarget : only = type.target := standsFor_iff.mp (.argument noElement isOnly)
  have isGeneric : type.arguments ≠ [] := by simp [isOnly]
  rw [shown_of_arguments noArray isGeneric, ← isTarget, isOnly, List.map_singleton,
    String.intercalate_singleton]

/-- Any other type stands for itself. -/
theorem target_of_not_single (noArray : type.isArray = false)
    (notSingle : type.arguments.length ≠ 1) : type.target = type :=
  (standsFor_iff.mp
    (.itself (element?_eq_none_iff.mp (isArray_eq_false_iff.mp noArray)) notSingle)).symm

theorem shown_of_no_arguments (noArray : type.isArray = false) (isBare : type.arguments = []) :
    type.shown = type.name := by
  rw [shown, isArray_eq_false_iff.mp noArray, isBare]

/-- A type that is no array is shown by its name first. -/
theorem name_prefix_shown (noArray : type.isArray = false) :
    type.name.toList <+: type.shown.toList := by
  by_cases isBare : type.arguments = []
  · have same := shown_of_no_arguments noArray isBare
    exact same ▸ List.prefix_refl _
  · rw [shown_of_arguments noArray isBare]
    simp [String.toList_append, List.append_assoc]

/-- **The text of a use has the name of what it stands for.** -/
theorem name_target_infix_shown (type : TypeUse) :
    type.target.name.toList <:+: type.shown.toList := by
  cases isArray : type.isArray with
  | true =>
    rw [shown_of_isArray isArray, String.toList_append]
    exact (List.prefix_append _ _).isInfix
  | false =>
    by_cases single : type.arguments.length = 1
    · rw [shown_of_single isArray single, String.toList_append, String.toList_append]
      exact List.infix_append _ _ _
    · rw [target_of_not_single isArray single]
      exact (name_prefix_shown isArray).isInfix

end TypeUse

/-! ### The other end -/

/-- The name at the end of an edge that is not its owner's. -/
def Edge.counterpart (edge : Edge) : String :=
  if edge.kind = .aggregation then edge.origin else edge.target

theorem Edge.counterpart_congr {first second : Edge} (same : first.key = second.key) :
    first.counterpart = second.counterpart := by
  obtain ⟨origins, targets, kinds⟩ := Edge.key_eq_iff.mp same
  unfold counterpart
  rw [origins, targets, kinds]

theorem PropertyDecl.counterpart_of_edge? {owner : String} {property : PropertyDecl} {edge : Edge}
    (implied : property.edge? owner = some edge) :
    edge.counterpart = property.type.target.name := by
  obtain ⟨_, _, ⟨_, rfl⟩ | ⟨_, _, rfl⟩ | ⟨_, _, rfl⟩⟩ := edge?_eq_some_iff.mp implied
  · rfl
  · rfl
  · rfl

/-! ### The drawing of a property -/

/-- What stands in a list stands there still when more is put behind it. -/
theorem getElem?_append_of_eq_some {α : Type} {front : List α} {place : Nat} {item : α}
    (stands : front[place]? = some item) (back : List α) :
    (front ++ back)[place]? = some item := by
  obtain ⟨inside, _⟩ := List.getElem?_eq_some_iff.mp stands
  rw [List.getElem?_append_left inside, stands]

namespace TypeDecl

variable {decl : TypeDecl} {property : PropertyDecl} {place : Nat}

/-- A written property has its line in the body, in its place. -/
theorem body_of_written (isNoEnumeration : decl.kind ≠ .enumeration)
    (written : decl.writtenProperties[place]? = some property) (allAncestors : Bool)
    (depth : Nat) :
    ((decl.classifier allAncestors).body depth)[place + 1]? =
      some (indented (depth + 1) property.attribute.line) := by
  have drawn : (decl.classifier allAncestors).attributes[place]? = some property.attribute :=
    attribute_of_written isNoEnumeration written
  have line : (decl.classifier allAncestors).memberLines[place]? =
      some property.attribute.line := by
    refine getElem?_append_of_eq_some ?_ _
    rw [List.getElem?_map, drawn]
    rfl
  -- the body begins with the line of the classifier itself
  refine getElem?_append_of_eq_some ?_ _
  rw [List.singleton_append, List.getElem?_cons_succ, List.getElem?_map, line]
  rfl

/-- What a property implies is an edge of the declaration. -/
theorem mem_keys_classifier_of_edge? {implied : Edge} (isNoEnumeration : decl.kind ≠ .enumeration)
    (listed : property ∈ decl.properties) (isImplied : property.edge? decl.name = some implied)
    (allAncestors : Bool) :
    implied.key ∈ (decl.classifier allAncestors).edges.map Edge.key := by
  have candidate : implied ∈ decl.candidates allAncestors decl.name :=
    mem_candidates_iff.mpr (.inr (.inr (List.mem_filterMap.mpr ⟨property, listed, isImplied⟩)))
  rw [edges_classifier_of_not_enumeration isNoEnumeration]
  exact EdgeSet.mem_keys_ofList.mpr (List.mem_map_of_mem candidate)

end TypeDecl

/-- **The edge of a property and its line are about one type.** The text of an array is the name of
what the use stands for and brackets; the text of any other use with exactly one argument has that
name in its brackets; any other use stands for itself, and is shown by its name alone or with the
names of all its arguments in order. A written property of a declaration that is no enumeration has
a line with this text in the body, in its place. What the property implies is among the edges of the
classifier, and the name at the other end of it occurs in the text. -/
theorem PropertyDecl.line_names_counterpart :
    (∀ type : TypeUse,
      (type.isArray = true → type.shown = type.target.name ++ "[]") ∧
      (type.isArray = false → type.arguments.length = 1 →
        type.shown = type.name ++ "<" ++ type.target.name ++ ">") ∧
      (type.isArray = false → type.arguments.length ≠ 1 →
        type.target = type ∧ (type.arguments = [] → type.shown = type.name) ∧
        (type.arguments ≠ [] → type.shown =
          type.name ++ "<" ++ ", ".intercalate (type.arguments.map (·.name)) ++ ">"))) ∧
    ∀ (allAncestors : Bool) (decl : TypeDecl) (place : Nat) (property : PropertyDecl)
      (implied : Edge), decl.kind ≠ .enumeration →
      decl.writtenProperties[place]? = some property →
      property.edge? decl.name = some implied →
        (∀ depth, ((decl.classifier allAncestors).body depth)[place + 1]? =
          some (indented (depth + 1) (property.access.visibility.sign ++ " " ++
            property.type.shown ++ " " ++ property.name))) ∧
        (∃ edge ∈ (decl.classifier allAncestors).edges, edge.key = implied.key) ∧
        ∀ edge ∈ (decl.classifier allAncestors).edges, edge.key = implied.key →
          edge.owner = decl.name ∧
            edge.counterpart.toList <:+: property.type.shown.toList := by
  refine ⟨fun type => ⟨TypeUse.shown_of_isArray, TypeUse.shown_of_single, ?_⟩, ?_⟩
  · intro noArray notSingle
    exact ⟨TypeUse.target_of_not_single noArray notSingle, TypeUse.shown_of_no_arguments noArray,
      TypeUse.shown_of_arguments noArray⟩
  · intro allAncestors decl place property implied isNoEnumeration written isImplied
    have listed : property ∈ decl.properties :=
      (List.mem_filter.mp (List.mem_of_getElem? written)).1
    refine ⟨TypeDecl.body_of_written isNoEnumeration written allAncestors, ?_, ?_⟩
    · exact List.mem_map.mp
        (TypeDecl.mem_keys_classifier_of_edge? isNoEnumeration listed isImplied allAncestors)
    · intro edge _ same
      rw [Edge.owner_congr same, Edge.counterpart_congr same, counterpart_of_edge? isImplied]
      exact ⟨owner_of_edge? isImplied, property.type.name_target_infix_shown⟩

/-- A type whose properties have odd types: an array by kind that has no element, and elements below
a type that is no array. -/
def Sample.burrow : TypeDecl where
  name := "Burrow"
  properties :=
    [{ name := "Depth", type := { name := "Metre" }, isImplicit := true },
      { name := "Rooms"
        type := { name := "List", kind := .array, arguments := [{ name := "Room" }] } },
      { name := "Owners"
        type := { name := "Pair", elements := [{ name := "Fox" }]
                  arguments := [{ name := "Vixen" }, { name := "Cub" }] } }]

/-- The rooms are shown as a list and aggregated. The owners are a pair of two arguments, and the
edge is about the pair: the element below it counts for nothing. -/
theorem PropertyDecl.line_names_counterpart_burrow :
    Sample.burrow.properties[1].edge? "Burrow" =
        some ⟨"Room", "Burrow", .aggregation, .solid⟩ ∧
      Sample.burrow.properties[1].type.shown = "List<Room>" ∧
      "Room".toList <:+: "List<Room>".toList ∧
      Sample.burrow.properties[2].type.shown = "Pair<Vixen, Cub>" ∧
      ∃ edge ∈ (Sample.burrow.classifier false).edges,
        edge.key = ("Burrow", "Pair", .association) := by
  have rooms : Sample.burrow.properties[1].edge? "Burrow" =
      some ⟨"Room", "Burrow", .aggregation, .solid⟩ := by decide +kernel
  have owners : Sample.burrow.properties[2].edge? "Burrow" =
      some ⟨"Burrow", "Pair", .association, .solid⟩ := by decide +kernel
  obtain ⟨texts, drawn⟩ := line_names_counterpart
  obtain ⟨_, ⟨edge, isEdge, same⟩, named⟩ :=
    drawn false Sample.burrow 0 Sample.burrow.properties[1] _ (by decide) rfl rooms
  obtain ⟨_, ofOwners, _⟩ :=
    drawn false Sample.burrow 1 Sample.burrow.properties[2] _ (by decide) rfl owners
  have several := (texts Sample.burrow.properties[2].type).2.2 rfl (by decide)
  refine ⟨rooms, (texts _).2.1 rfl rfl, ?_, several.2.2 (by simp [Sample.burrow]), ofOwners⟩
  have isNamed := (named edge isEdge same).2
  rw [Edge.counterpart_congr same] at isNamed
  exact isNamed

end TypeChart
