/-
**Arrays of arrays, and arrays as arguments.**

An array has no name of its own: it is an element type, in brackets. The text of a use looks one
step down for names, at the element of an array and at the arguments of a generic type. So an array
of a named type is shown with its name, but for an array of arrays there is no name one step down,
and nothing but brackets is shown. In the same way an array among the arguments of a generic type
leaves its place there empty.

* `TypeUse.ArrayOver.shown_eq`, `TypeUse.ArrayOver.plain_eq`: the text of arrays, at any depth.
* `TypeUse.arrayOver_ofJson`: how a document comes to say such arrays.
* `TypeUse.shown_tells_iff`: when the text tells the name of the base.
-/

import Mathlib.Data.List.Forall2
import TypeChart.Snapshot.Document

namespace TypeChart

namespace TypeUse

/-- A use that is so many arrays over a base, each without a name and with one element. -/
inductive ArrayOver (base : TypeUse) : Nat → TypeUse → Prop where
  | base : ArrayOver base 0 base
  | array {depth : Nat} {element type : TypeUse} (stack : ArrayOver base depth element)
      (isArray : type.kind = .array) (nameless : type.name = "")
      (elements : type.elements = [element]) : ArrayOver base (depth + 1) type

/-! ### Texts -/

theorem element?_of_elements {type element : TypeUse} (isArray : type.kind = .array)
    (elements : type.elements = [element]) : type.element? = some element := by
  rw [element?, if_pos isArray, elements]
  rfl

theorem shown_of_element? {type element : TypeUse} (isElement : type.element? = some element) :
    type.shown = element.name ++ "[]" := by
  rw [shown, isElement]

theorem plain_of_element? {type element : TypeUse} (isElement : type.element? = some element) :
    type.plain = element.name ++ "[]" := by
  rw [plain, isElement]

/-- The arguments of a generic type are shown by their own names. -/
theorem shown_of_arguments {type : TypeUse} (noArray : type.isArray = false)
    (isGeneric : type.arguments ≠ []) :
    type.shown = type.name ++ "<" ++ ", ".intercalate (type.arguments.map (·.name)) ++ ">" := by
  unfold shown
  rw [isArray_eq_false_iff.mp noArray]
  split
  · contradiction
  · rename_i isEmpty
    exact absurd isEmpty isGeneric
  · rfl

variable {base type : TypeUse} {depth : Nat}

/-- The name of so many arrays over a base: only the base has one. -/
def nameOver (base : TypeUse) (depth : Nat) : String :=
  if depth = 0 then base.name else ""

theorem nameOver_eq_name_iff (named : base.name ≠ "") :
    nameOver base depth = base.name ↔ depth = 0 := by
  unfold nameOver
  by_cases isBase : depth = 0
  · rw [if_pos isBase]
    exact iff_of_true rfl isBase
  · rw [if_neg isBase]
    exact iff_of_false named.symm isBase

theorem nameOver_eq_empty_iff (named : base.name ≠ "") :
    nameOver base depth = "" ↔ depth ≠ 0 := by
  unfold nameOver
  by_cases isBase : depth = 0
  · rw [if_pos isBase]
    exact iff_of_false named (not_not.mpr isBase)
  · rw [if_neg isBase]
    exact iff_of_true rfl isBase

theorem ArrayOver.name_eq (stack : ArrayOver base depth type) :
    type.name = nameOver base depth := by
  cases stack with
  | base => rfl
  | array _ _ nameless _ => exact nameless

/-- **An array over a base** is shown by the name that stands one step down. -/
theorem ArrayOver.shown_eq (stack : ArrayOver base (depth + 1) type) :
    type.shown = nameOver base depth ++ "[]" := by
  cases stack with
  | array under isArray _ elements =>
    rw [shown_of_element? (element?_of_elements isArray elements), under.name_eq]

theorem ArrayOver.plain_eq (stack : ArrayOver base (depth + 1) type) :
    type.plain = nameOver base depth ++ "[]" := by
  cases stack with
  | array under isArray _ elements =>
    rw [plain_of_element? (element?_of_elements isArray elements), under.name_eq]

/-- A name is a beginning of the brackets of an array in no other way than by being one. -/
theorem prefix_brackets_iff {name : String} (named : name ≠ "") :
    name.toList <+: "[]".toList ↔ name = "[" ∨ name = "[]" := by
  have notNil : name.toList ≠ [] := fun isNil => named (String.toList_eq_nil_iff.mp isNil)
  have brackets : "[]".toList = ['[', ']'] := rfl
  rw [← String.toList_inj, ← String.toList_inj, brackets]
  constructor
  · rintro ⟨rest, whole⟩
    match chars : name.toList with
    | [] => exact absurd chars notNil
    | [c] =>
      rw [chars] at whole
      obtain ⟨rfl, _⟩ := List.cons.inj whole
      exact .inl rfl
    | c :: d :: more =>
      rw [chars] at whole
      simp only [List.cons_append, List.cons.injEq, List.append_eq_nil_iff] at whole
      obtain ⟨rfl, rfl, rfl, _⟩ := whole
      exact .inr rfl
  · rintro (isOpening | isBoth)
    · rw [isOpening]
      exact ⟨[']'], rfl⟩
    · exact isBoth ▸ List.prefix_rfl

/-- **The text of arrays tells the name of the base** if there is one array, and else only by
accident. -/
theorem ArrayOver.prefix_shown_iff (stack : ArrayOver base (depth + 1) type)
    (named : base.name ≠ "") :
    base.name.toList <+: type.shown.toList ↔ depth = 0 ∨ base.name = "[" ∨ base.name = "[]" := by
  rw [stack.shown_eq]
  by_cases single : depth = 0
  · rw [(nameOver_eq_name_iff named).mpr single, String.toList_append]
    exact iff_of_true (List.prefix_append _ _) (.inl single)
  · rw [(nameOver_eq_empty_iff named).mpr single, String.empty_append, prefix_brackets_iff named,
      or_iff_right single]

theorem ArrayOver.shown_eq_brackets_iff (stack : ArrayOver base (depth + 1) type)
    (named : base.name ≠ "") : type.shown = "[]" ↔ depth ≠ 0 := by
  rw [stack.shown_eq, String.append_eq_right_iff, nameOver_eq_empty_iff named]

end TypeUse

/-! ### Documents -/

/-- A reference below so many element types. -/
def Json.nested (json : Json) : Nat → Json
  | 0 => json
  | depth + 1 => .object [("element_type", json.nested depth)]

theorem Json.nested_ne_null {json : Json} (tells : json ≠ .null) (depth : Nat) :
    json.nested depth ≠ .null := by
  cases depth with
  | zero => exact tells
  | succ depth => exact Json.noConfusion

/-- **Element types in a document are arrays**, one for each step down to the base. -/
theorem TypeUse.arrayOver_ofJson {json : Json} (tells : json ≠ .null) (depth : Nat) :
    ArrayOver (ofJson json) depth (ofJson (json.nested depth)) := by
  induction depth with
  | zero => exact .base
  | succ depth ih =>
    have said : (json.nested (depth + 1)).saidAt "element_type" = [json.nested depth] :=
      Json.saidAt_of_get? rfl (Json.nested_ne_null tells depth)
    have isObject (name : String) : json.nested (depth + 1) ≠ .string name := Json.noConfusion
    rw [ofJson_of_ne_string isObject, said]
    exact .array ih rfl rfl rfl

/-! ### Names that are told -/

namespace TypeUse

/-- The names of arguments that are arrays, or are none: an array has the empty name. -/
theorem map_name_arguments {bases : List (TypeUse × Nat)} {arguments : List TypeUse}
    (stack : List.Forall₂ (fun base argument => ArrayOver base.1 base.2 argument) bases arguments) :
    arguments.map (·.name) = bases.map fun base => nameOver base.1 base.2 := by
  induction stack with
  | nil => rfl
  | cons first _ ih => rw [List.map_cons, List.map_cons, first.name_eq, ih]

/-- **When the text of a type tells the names of all types in it.** An array over a base that has a
name is shown with this name first exactly if its element is the base itself, unless the name is
made of brackets; with more arrays between, nothing but brackets is shown. A generic type is shown
with one place for each argument. The places tell the names of the bases exactly if no argument is
an array, and a place is empty exactly if one is. A document says such arrays by element types. -/
theorem shown_tells_iff (type : TypeUse) :
    (∀ (base : TypeUse) (depth : Nat), base.name ≠ "" → depth ≠ 0 → ArrayOver base depth type →
        type.shown = type.plain ∧
        (base.name.toList <+: type.shown.toList ↔
          depth = 1 ∨ base.name = "[" ∨ base.name = "[]") ∧
        (type.shown = "[]" ↔ depth ≠ 1)) ∧
    (∀ bases : List (TypeUse × Nat), type.isArray = false → bases ≠ [] →
      (∀ base ∈ bases, base.1.name ≠ "") →
      List.Forall₂ (fun base argument => ArrayOver base.1 base.2 argument) bases type.arguments →
        let places := type.arguments.map (·.name)
        type.shown = type.name ++ "<" ++ ", ".intercalate places ++ ">" ∧
        (places = bases.map (·.1.name) ↔ ∀ base ∈ bases, base.2 = 0) ∧
        ("" ∈ places ↔ ∃ base ∈ bases, base.2 ≠ 0)) ∧
    ∀ (json : Json) (depth : Nat), json ≠ .null → type = ofJson (json.nested depth) →
      ArrayOver (ofJson json) depth type := by
  refine ⟨fun base depth named notZero stack => ?_,
    fun bases noArray isGeneric named stack => ?_,
    fun json depth tells said => said ▸ arrayOver_ofJson tells depth⟩
  · obtain ⟨between, rfl⟩ := Nat.exists_eq_add_one_of_ne_zero notZero
    refine ⟨stack.shown_eq.trans stack.plain_eq.symm, ?_, ?_⟩
    · rw [stack.prefix_shown_iff named, Nat.add_eq_right]
    · rw [stack.shown_eq_brackets_iff named, Ne, Ne, Nat.add_eq_right]
  · have hasArguments : type.arguments ≠ [] := by
      intro isEmpty
      rw [isEmpty, List.forall₂_nil_right_iff] at stack
      exact isGeneric stack
    intro places
    have isPlaces : places = bases.map fun base => nameOver base.1 base.2 :=
      map_name_arguments stack
    refine ⟨shown_of_arguments noArray hasArguments, ?_, ?_⟩
    · rw [isPlaces, List.map_inj_left]
      exact forall₂_congr fun base member => nameOver_eq_name_iff (named base member)
    · rw [isPlaces, List.mem_map]
      exact exists_congr fun base => and_congr_right fun member =>
        nameOver_eq_empty_iff (named base member)

end TypeUse

/-- A row of tiles, as an array. -/
def Sample.row : TypeUse :=
  { kind := .array, elements := [{ name := "Tile" }] }

theorem Sample.arrayOver_row : TypeUse.ArrayOver { name := "Tile" } 1 row :=
  .array .base rfl rfl rfl

/-- A map from tiles to rows of tiles. -/
def Sample.rowMap : TypeUse :=
  { name := "Map", arguments := [{ name := "Tile" }, row] }

/-- A row is shown with the name of its tiles. Among the arguments of a map it has an empty place,
beside the tile that has its name there. -/
theorem TypeUse.shown_tells_iff_row :
    "Tile".toList <+: Sample.row.shown.toList ∧ Sample.rowMap.shown = "Map<Tile, >" ∧
      "" ∈ Sample.rowMap.arguments.map (·.name) := by
  have ofRow := (shown_tells_iff Sample.row).1 { name := "Tile" } 1 (by decide) (by decide)
    Sample.arrayOver_row
  have ofMap := (shown_tells_iff Sample.rowMap).2.1
    [({ name := "Tile" }, 0), ({ name := "Tile" }, 1)] rfl (by simp) (by simp)
    (.cons .base (.cons Sample.arrayOver_row .nil))
  refine ⟨ofRow.2.1.mpr (.inl rfl), ofMap.1.trans (by decide), ofMap.2.2.mpr ?_⟩
  exact ⟨_, List.mem_cons_of_mem _ List.mem_cons_self, by decide⟩

/-- Rows of tiles, as an array of arrays. -/
def Sample.grid : TypeUse :=
  { kind := .array, elements := [row] }

/-- A grid is shown as nothing but brackets, whichever way it is shown, and a list of rows has
nothing between its own brackets. -/
theorem TypeUse.shown_grid :
    Sample.grid.shown = "[]" ∧ Sample.grid.plain = "[]" ∧
      ({ name := "List", arguments := [Sample.row] } : TypeUse).shown = "List<>" ∧
      ¬ ∀ (base type : TypeUse) (depth : Nat), base.name ≠ "" → base.isArray = false → 1 ≤ depth →
        ArrayOver base depth type →
          base.name.toList <+: type.shown.toList ∧ base.name.toList <+: type.plain.toList := by
  have stack : ArrayOver { name := "Tile" } 2 Sample.grid := .array Sample.arrayOver_row rfl rfl rfl
  have brackets : Sample.grid.shown = "[]" := by decide
  refine ⟨brackets, by decide, by decide, fun always => ?_⟩
  have told := (always _ _ 2 (by decide) rfl (by decide) stack).1
  rw [brackets] at told
  exact absurd told (by decide)

end TypeChart
