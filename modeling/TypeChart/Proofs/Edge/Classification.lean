/-
**Which edge a property implies.**

A property implies an edge about the type that its use stands for. The kind of the edge is told from
two uses: from the target, whether it is an enumeration, and from the use itself, whether it is a
collection. The attribute that is drawn for the property tells on its own whether there are many,
from the use and from what the front end holds it for. The two agree wherever a property is drawn
as an attribute with its type. In an enumeration it is not: there a property is no more than a name,
and it is never many, whatever its type.

* `TypeUse.standsFor_iff`: what a use stands for, said without the function that finds it.
* `TypeUse.isText_iff`: text is known by its name in any letter case.
* `PropertyDecl.classifies_of_edge?`: the edge of a property.
* `PropertyDecl.edge?_agrees`: the edge of a property and its attribute.
-/

import Mathlib.Data.List.Forall2
import TypeChart.Proofs.Declarations

namespace TypeChart

/-! ### Targets -/

namespace TypeUse

/-- What an edge that is drawn for a use is about. -/
inductive StandsFor : TypeUse → TypeUse → Prop where
  /-- An array stands for its element. -/
  | element {type element : TypeUse} {others : List TypeUse} (isArray : type.kind = .array)
      (elements : type.elements = element :: others) : StandsFor type element
  /-- A generic type with one argument stands for the argument. -/
  | argument {type only : TypeUse} (noArray : type.kind = .array → type.elements = [])
      (arguments : type.arguments = [only]) : StandsFor type only
  /-- Any other type stands for itself. -/
  | itself {type : TypeUse} (noArray : type.kind = .array → type.elements = [])
      (arguments : type.arguments.length ≠ 1) : StandsFor type type

theorem element?_eq_some_iff {type element : TypeUse} :
    type.element? = some element ↔
      type.kind = .array ∧ ∃ others, type.elements = element :: others := by
  unfold element?
  split
  · rename_i isArray
    rw [List.head?_eq_some_iff, and_iff_right isArray]
  · rename_i noArray
    exact iff_of_false nofun fun isArray => noArray isArray.1

theorem element?_eq_none_iff {type : TypeUse} :
    type.element? = none ↔ (type.kind = .array → type.elements = []) := by
  unfold element?
  split
  · rename_i isArray
    rw [List.head?_eq_none_iff, forall_prop_of_true isArray]
  · rename_i noArray
    exact iff_of_true rfl fun isArray => absurd isArray noArray

/-- **A use stands for one type**, which is its target. -/
theorem standsFor_iff {type target : TypeUse} : type.StandsFor target ↔ target = type.target := by
  unfold TypeUse.target
  constructor
  · rintro (⟨isArray, elements⟩ | ⟨noArray, arguments⟩ | ⟨noArray, arguments⟩)
    · rw [element?_eq_some_iff.mpr ⟨isArray, _, elements⟩]
    · rw [element?_eq_none_iff.mpr noArray, arguments]
    · rw [element?_eq_none_iff.mpr noArray]
      split
      · contradiction
      · rename_i only _ isOnly
        rw [isOnly] at arguments
        exact absurd rfl arguments
      · rfl
  · rintro rfl
    split
    · rename_i element _ isElement
      obtain ⟨isArray, _, elements⟩ := element?_eq_some_iff.mp isElement
      exact .element isArray elements
    · rename_i only isNone isOnly
      exact .argument (element?_eq_none_iff.mp isNone) isOnly
    · rename_i isNone notOne
      refine .itself (element?_eq_none_iff.mp isNone) fun one => ?_
      obtain ⟨only, isOnly⟩ := List.length_eq_one_iff.mp one
      exact notOne only isOnly

/-- A library type is one whose namespace begins so. -/
theorem isSystem_iff {type : TypeUse} :
    type.isSystem = true ↔ "System".toList <+: type.scope.toList :=
  List.isPrefixOf_iff_prefix

/-! ### Text -/

/-- A name spells a word in some letter case: each of its characters is a letter of the word or the
capital of it. -/
def Spells (name word : String) : Prop :=
  List.Forall₂ (fun c letter => c = letter ∨ c = letter.toUpper) name.toList word.toList

theorem toNat_toLower (c : Char) :
    c.toLower.toNat = if 65 ≤ c.toNat ∧ c.toNat ≤ 90 then c.toNat + 32 else c.toNat := by
  unfold Char.toLower
  simp only [ge_iff_le, UInt32.le_iff_toNat_le]
  split
  · rename_i isUpper
    have bound : c.val.toNat ≤ 90 := isUpper.2
    rw [if_pos (by exact isUpper)]
    show (c.val + ('a'.val - 'A'.val)).toNat = c.val.toNat + 32
    rw [UInt32.toNat_add]
    show (c.val.toNat + 32) % 2 ^ 32 = _
    omega
  · rename_i notUpper
    rw [if_neg (by exact notUpper)]

theorem toNat_toUpper (c : Char) :
    c.toUpper.toNat = if 97 ≤ c.toNat ∧ c.toNat ≤ 122 then c.toNat - 32 else c.toNat := by
  unfold Char.toUpper
  simp only [UInt32.le_iff_toNat_le]
  split
  · rename_i isLower
    have bound : 97 ≤ c.val.toNat := isLower.1
    have small := c.val.toNat_lt
    rw [if_pos (by exact isLower)]
    show (c.val + ('A'.val - 'a'.val)).toNat = c.val.toNat - 32
    rw [UInt32.toNat_add]
    -- the difference is negative, so it is stored as `2 ^ 32 - 32` and the sum goes round once
    show (c.val.toNat + 4294967264) % 2 ^ 32 = _
    omega
  · rename_i notLower
    rw [if_neg (by exact notLower)]

theorem isLower_iff {c : Char} : c.isLower = true ↔ 97 ≤ c.toNat ∧ c.toNat ≤ 122 := by
  unfold Char.isLower
  simp only [ge_iff_le, UInt32.le_iff_toNat_le, Bool.and_eq_true, decide_eq_true_eq]
  exact Iff.rfl

theorem toLower_eq_iff {c letter : Char} (isLower : letter.isLower = true) :
    c.toLower = letter ↔ c = letter ∨ c = letter.toUpper := by
  have bounds := isLower_iff.mp isLower
  rw [← Char.toNat_inj, ← Char.toNat_inj, ← Char.toNat_inj, toNat_toLower, toNat_toUpper,
    if_pos bounds]
  split
  · omega
  · omega

theorem map_toLower_eq_iff {letters : List Char}
    (lower : ∀ letter ∈ letters, letter.isLower = true) {name : List Char} :
    name.map Char.toLower = letters ↔
      List.Forall₂ (fun c letter => c = letter ∨ c = letter.toUpper) name letters := by
  induction name generalizing letters with
  | nil => rw [List.map_nil, List.forall₂_nil_left_iff, eq_comm]
  | cons c rest ih =>
    cases letters with
    | nil => simp
    | cons letter others =>
      obtain ⟨first, further⟩ := List.forall_mem_cons.mp lower
      rw [List.map_cons, List.cons.injEq, List.forall₂_cons, toLower_eq_iff first, ih further]

theorem isText_iff {type : TypeUse} : type.isText = true ↔ Spells type.name "string" := by
  rw [isText, beq_iff_eq, ← String.toList_inj, String.toList_map]
  exact map_toLower_eq_iff (List.all_eq_true.mp (by decide))

theorem isCollection_of_isText {type : TypeUse} (isText : type.isText = true) :
    type.isCollection = false := by
  rw [isCollection, isText]
  rfl

end TypeUse

/-! ### The edge of a property -/

/-- What an edge that a property of `owner` implies tells of the property's type and its target. -/
structure Edge.Classifies (owner : String) (type target : TypeUse) (edge : Edge) : Prop where
  dependency : edge.kind = .dependency ↔ target.kind = .enumeration
  aggregation : edge.kind = .aggregation ↔ target.kind ≠ .enumeration ∧ type.isCollection = true
  association : edge.kind = .association ↔ target.kind ≠ .enumeration ∧ type.isCollection = false
  /-- An aggregation points at the owner, any other edge at the target. -/
  ends : (edge.origin, edge.target) =
    if edge.kind = .aggregation then (target.name, owner) else (owner, target.name)
  stroke : edge.stroke = .solid

namespace PropertyDecl

variable {owner : String} {property : PropertyDecl} {edge : Edge}

theorem isSome_edge?_iff (owner : String) (property : PropertyDecl) :
    (property.edge? owner).isSome = true ↔
      property.type.target.name ≠ "" ∧
        ¬ "System".toList <+: property.type.target.scope.toList := by
  rw [← TypeUse.isSystem_iff, ← not_or, Option.isSome_iff_ne_none, not_iff_not]
  dsimp only [edge?]
  split
  · rename_i isNone
    exact iff_of_true rfl isNone
  · rename_i isSome
    refine iff_of_false ?_ isSome
    split
    · exact nofun
    · split
      · exact nofun
      · exact nofun

/-- **The edge of a property** is told from the property's type and its target. -/
theorem classifies_of_edge? (implied : property.edge? owner = some edge) :
    edge.Classifies owner property.type property.type.target := by
  obtain ⟨_, _, ⟨isEnumeration, rfl⟩ | ⟨isNone, isCollection, rfl⟩ | ⟨isNone, isSingle, rfl⟩⟩ :=
    edge?_eq_some_iff.mp implied
  · constructor <;> simp [isEnumeration]
  · constructor <;> simp [isNone, isCollection]
  · constructor <;> simp [isNone, isSingle]

/-- Text is no collection, so it is never aggregated. -/
theorem not_aggregation_of_spells (implied : property.edge? owner = some edge)
    (spelled : TypeUse.Spells property.type.name "string") : edge.kind ≠ .aggregation := by
  intro isAggregation
  obtain ⟨_, isCollection⟩ := (classifies_of_edge? implied).aggregation.mp isAggregation
  rw [TypeUse.isCollection_of_isText (TypeUse.isText_iff.mpr spelled)] at isCollection
  cases isCollection

/-! ### The attribute of a property -/

theorem isMany_attribute_of_aggregation (implied : property.edge? owner = some edge)
    (isAggregation : edge.kind = .aggregation) : property.attribute.isMany = true := by
  obtain ⟨_, isCollection⟩ := (classifies_of_edge? implied).aggregation.mp isAggregation
  show (property.isMany || property.type.isCollection) = true
  rw [isCollection, Bool.or_true]

theorem aggregation_iff_isMany_attribute (implied : property.edge? owner = some edge)
    (unmarked : property.isMany = false) (isNone : property.type.target.kind ≠ .enumeration) :
    edge.kind = .aggregation ↔ property.attribute.isMany = true := by
  rw [(classifies_of_edge? implied).aggregation, and_iff_right isNone]
  show _ ↔ (property.isMany || property.type.isCollection) = true
  rw [unmarked, Bool.false_or]

end PropertyDecl

/-- A written property is drawn as an attribute with its type, in its place. -/
theorem TypeDecl.attribute_of_written {decl : TypeDecl} (isNoEnumeration : decl.kind ≠ .enumeration)
    {property : PropertyDecl} {place : Nat}
    (written : decl.writtenProperties[place]? = some property) :
    decl.box.attributes[place]? = some property.attribute := by
  rw [box_of_not_enumeration isNoEnumeration]
  show (decl.writtenProperties.map PropertyDecl.attribute)[place]? = _
  rw [List.getElem?_map, written]
  rfl

/-- **The edge of a property and its attribute agree.** The use of a property stands for one target,
and there is an edge exactly if the target has a name and is no library type. Its kind and its ends
are told from the use and the target, and text in any letter case is never aggregated. In a
declaration that is no enumeration, the attribute of a property whose edge is an aggregation is
many; and if the front end does not hold the property for many and the target is no enumeration,
the attribute is many exactly if the edge is an aggregation. -/
theorem PropertyDecl.edge?_agrees (owner : String) (property : PropertyDecl) :
    ∃ target, (∀ other, property.type.StandsFor other ↔ other = target) ∧
      ((property.edge? owner).isSome = true ↔
        target.name ≠ "" ∧ ¬ "System".toList <+: target.scope.toList) ∧
      ∀ edge, property.edge? owner = some edge →
        edge.Classifies owner property.type target ∧
        (TypeUse.Spells property.type.name "string" → edge.kind ≠ .aggregation) ∧
        ∀ decl : TypeDecl, decl.kind ≠ .enumeration →
          ∀ place : Nat, decl.writtenProperties[place]? = some property →
            ∃ shown : Attribute, decl.box.attributes[place]? = some shown ∧
              (edge.kind = .aggregation → shown.isMany = true) ∧
              (property.isMany = false → target.kind ≠ .enumeration →
                (edge.kind = .aggregation ↔ shown.isMany = true)) := by
  refine ⟨property.type.target, fun other => TypeUse.standsFor_iff, isSome_edge?_iff owner property,
    fun edge implied => ⟨classifies_of_edge? implied, not_aggregation_of_spells implied,
      fun decl isNoEnumeration place written => ⟨property.attribute, ?_, ?_, ?_⟩⟩⟩
  · exact TypeDecl.attribute_of_written isNoEnumeration written
  · exact isMany_attribute_of_aggregation implied
  · exact aggregation_iff_isMany_attribute implied

/-- A workshop with its tools, and a label that is text for all its elements. -/
def Sample.workshop : TypeDecl where
  name := "Workshop"
  properties :=
    [{ name := "Made", type := { name := "Chair" }, isImplicit := true },
      { name := "Tools"
        type := { kind := .array, elements := [{ name := "Tool", scope := "Craft" }] } },
      { name := "Label"
        type := { name := "STRing", kind := .array, elements := [{ name := "Word" }]
                  interfaces := ["IEnumerable"] } }]

/-- The tools are aggregated and drawn as many. The label is an array that implements a collection,
and is merely associated, because it is text. -/
theorem PropertyDecl.edge?_agrees_workshop :
    Sample.workshop.properties[1].edge? "Workshop" =
        some ⟨"Tool", "Workshop", .aggregation, .solid⟩ ∧
      (∃ shown : Attribute, Sample.workshop.box.attributes[0]? = some shown ∧ shown.isMany = true) ∧
      Sample.workshop.properties[2].edge? "Workshop" =
        some ⟨"Workshop", "Word", .association, .solid⟩ ∧
      TypeUse.Spells "STRing" "string" ∧
      (∃ shown : Attribute,
        Sample.workshop.box.attributes[1]? = some shown ∧ shown.isMany ≠ true) := by
  have tools : Sample.workshop.properties[1].edge? "Workshop" =
      some ⟨"Tool", "Workshop", .aggregation, .solid⟩ := by decide +kernel
  have label : Sample.workshop.properties[2].edge? "Workshop" =
      some ⟨"Workshop", "Word", .association, .solid⟩ := by decide +kernel
  have spelled : TypeUse.Spells "STRing" "string" :=
    TypeUse.isText_iff.mp (by decide +kernel : ({ name := "STRing" } : TypeUse).isText = true)
  refine ⟨tools, ?_, label, spelled, ?_⟩
  · obtain ⟨_, _, _, agrees⟩ := edge?_agrees "Workshop" Sample.workshop.properties[1]
    obtain ⟨_, _, drawn⟩ := agrees _ tools
    obtain ⟨shown, isShown, isMany, _⟩ := drawn Sample.workshop (by decide) 0 rfl
    exact ⟨shown, isShown, isMany rfl⟩
  · obtain ⟨target, standsFor, _, agrees⟩ :=
      edge?_agrees "Workshop" Sample.workshop.properties[2]
    obtain ⟨_, notAggregated, drawn⟩ := agrees _ label
    obtain ⟨shown, isShown, _, isMany⟩ := drawn Sample.workshop (by decide) 1 rfl
    obtain rfl := (standsFor _).mp (.element rfl rfl)
    exact ⟨shown, isShown, mt (isMany rfl (by decide)).mpr (notAggregated spelled)⟩

/-- An enumeration with a property of many tools. -/
def Sample.toolKind : TypeDecl where
  name := "ToolKind"
  kind := .enumeration
  properties :=
    [{ name := "Tools", type := { kind := .array, elements := [{ name := "Tool" }] } }]

/-- In an enumeration the attribute of a property is never many, even where the property on its own
implies an aggregation. -/
theorem PropertyDecl.not_isMany_toolKind :
    Sample.toolKind.properties[0].edge? "ToolKind" =
        some ⟨"Tool", "ToolKind", .aggregation, .solid⟩ ∧
      Sample.toolKind.box.attributes = [{ name := "Tools", typeText := "enum", isMany := false }] ∧
      ¬ ∀ (owner : String) (property : PropertyDecl) (edge : Edge),
        property.edge? owner = some edge → edge.kind = .aggregation →
          ∀ (decl : TypeDecl) (place : Nat), decl.writtenProperties[place]? = some property →
            ∃ shown : Attribute,
              decl.box.attributes[place]? = some shown ∧ shown.isMany = true := by
  have implied : Sample.toolKind.properties[0].edge? "ToolKind" =
      some ⟨"Tool", "ToolKind", .aggregation, .solid⟩ := by decide +kernel
  refine ⟨implied, rfl, fun always => ?_⟩
  obtain ⟨shown, isShown, isMany⟩ := always _ _ _ implied rfl Sample.toolKind 0 rfl
  obtain rfl : { name := "Tools", typeText := "enum", isMany := false } = shown :=
    Option.some.inj isShown
  cases isMany

end TypeChart
