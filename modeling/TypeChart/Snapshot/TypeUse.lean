/-
**Uses of a type.**

A `TypeUse` is what a property, a parameter, a base, an ancestor or a type argument names. Nothing
here looks at declarations: every question is answered from the use alone.

* `TypeUse.element?`: the element type, which only an array has.
* `TypeUse.shown`, `TypeUse.plain`: the text of a use in an attribute line, in an operation line.
* `TypeUse.isCollection`: arrays, the listed collection names and whatever implements one of them.
* `TypeUse.target`: the type that an edge drawn for a use points at.
-/

namespace TypeChart

/-- The kinds of type that a front end reports. -/
inductive TypeKind where
  | unknown
  | classType
  | interface
  | enumeration
  | struct
  | array
  | parameter
  deriving DecidableEq, Repr, Inhabited

/-- A type as it is named at one place of a program. -/
structure TypeUse where
  /-- The simple name; an array has none of its own. -/
  name : String := ""
  /-- The dotted namespace of the type. -/
  scope : String := ""
  kind : TypeKind := .unknown
  /-- The arguments of a generic type, in order. -/
  arguments : List TypeUse := []
  /-- The element type of an array; the first one counts. -/
  elements : List TypeUse := []
  /-- The simple names of all interfaces that the type implements. -/
  interfaces : List String := []
  deriving Inhabited

namespace TypeUse

/-- The element type: a use of another kind has none, whatever elements it lists. -/
def element? (type : TypeUse) : Option TypeUse :=
  if type.kind = .array then type.elements.head? else none

/-- An array is a use with an element type. -/
def isArray (type : TypeUse) : Bool :=
  type.element?.isSome

theorem isArray_eq_false_iff {type : TypeUse} : type.isArray = false ↔ type.element? = none := by
  rw [isArray, Option.isSome_eq_false_iff, Option.isNone_iff_eq_none]

/-! ### The text of a use -/

/-- The text of a use with nothing of its arguments: `Element[]` for an array, else the name. -/
def plain (type : TypeUse) : String :=
  match type.element? with
  | some element => element.name ++ "[]"
  | none => type.name

/-- The text of a use with the names of its arguments: `Element[]`, `Outer<A, B>` or the name. -/
def shown (type : TypeUse) : String :=
  match type.element?, type.arguments with
  | some element, _ => element.name ++ "[]"
  | none, [] => type.name
  | none, arguments => type.name ++ "<" ++ ", ".intercalate (arguments.map (·.name)) ++ ">"

/-! ### What a use stands for -/

/-- The base of all classes, known by its simple name in any namespace. -/
def isRoot (type : TypeUse) : Bool :=
  type.name == "Object"

/-- Library types live in namespaces that begin with `System`. -/
def isSystem (type : TypeUse) : Bool :=
  "System".toList.isPrefixOf type.scope.toList

/-- Text is known by its name in any letter case of the Latin alphabet. -/
def isText (type : TypeUse) : Bool :=
  type.name.map Char.toLower == "string"

/-- The names that mark a collection, as a type's own name or as that of an interface it has. -/
def collectionNames : List String :=
  ["IEnumerable", "ICollection", "List"]

/-- Arrays, the collection names and all that implements one of them; text never counts, although
it enumerates its characters. -/
def isCollection (type : TypeUse) : Bool :=
  !type.isText &&
    (type.isArray || (type.name :: type.interfaces).any fun name => collectionNames.contains name)

/-- The type that an edge drawn for this use is about: the element of an array, the argument of a
generic type that has exactly one, else the type itself. -/
def target (type : TypeUse) : TypeUse :=
  match type.element?, type.arguments with
  | some element, _ => element
  | none, [only] => only
  | none, _ => type

end TypeUse

end TypeChart
