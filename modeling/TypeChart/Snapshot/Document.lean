/-
**Snapshots as JSON documents.**

A document is read leniently: what is missing or of another type takes its default, and what is
not known is ignored. Only two things are required, and without them the whole document is refused:
the root has an array of sources (`Refusal.shape`), and every type entry is an object with a name
(`Refusal.nameless`).

* `TypeUse.ofJson`: a type reference, which may be a bare name.
* `TypeDecl.ofJson?`, `SourceUnit.ofJson`: the declarations of a source.
* `Snapshot.ofJson`: a snapshot from a value.
* `Snapshot.report`: what is reported of a document.
-/

import TypeChart.Json.Basic
import TypeChart.Log
import TypeChart.Snapshot.Declaration

namespace TypeChart

/-! ### Words -/

/-- The kind of type that a word names. A record is a class. -/
def TypeKind.ofWord : String → TypeKind
  | "class" | "record" => .classType
  | "interface" => .interface
  | "enum" => .enumeration
  | "struct" => .struct
  | "array" => .array
  | "type_parameter" => .parameter
  | _ => .unknown

/-- The access that a word names; the two combined ones have two words each. -/
def Access.ofWord : String → Access
  | "public" => .everyone
  | "private" => .declaringType
  | "protected" => .subtypes
  | "internal" => .assembly
  | "protected_internal" | "protected_or_internal" => .subtypesOrAssembly
  | "private_protected" | "protected_and_internal" => .subtypesInAssembly
  | _ => .unstated

/-- The role of a method that a word names; a method of which nothing is said is ordinary. -/
def MethodRole.ofWord : String → MethodRole
  | "" | "ordinary" => .ordinary
  | "constructor" => .constructor
  | "accessor" => .accessor
  | "operator" => .operator
  | _ => .other

/-! ### Type references -/

/-- A type reference: a bare string is its name, an object tells all, and anything else tells
nothing. Whatever has an element type is an array. -/
def TypeUse.ofJson (json : Json) : TypeUse :=
  match json with
  | .string name => { name := name }
  | json =>
    let elements := (json.saidAt "element_type").attach.map fun element => ofJson element.val
    { name := json.textAt "name"
      scope := json.textAt "namespace"
      kind := if elements.isEmpty then TypeKind.ofWord (json.textAt "kind") else .array
      arguments := (json.itemsAt "type_arguments").attach.map fun argument => ofJson argument.val
      elements := elements
      interfaces := json.textsAt "interfaces" }
termination_by sizeOf json
decreasing_by
  · exact Json.sizeOf_saidAt element.property
  · exact Json.sizeOf_itemsAt argument.property

theorem TypeUse.ofJson_string (name : String) :
    TypeUse.ofJson (.string name) = { name := name } := by
  rw [TypeUse.ofJson]

/-- What a reference that is not a bare name tells. -/
theorem TypeUse.ofJson_of_ne_string {json : Json} (tells : ∀ name, json ≠ .string name) :
    TypeUse.ofJson json =
      { name := json.textAt "name"
        scope := json.textAt "namespace"
        kind :=
          if (json.saidAt "element_type").isEmpty then TypeKind.ofWord (json.textAt "kind")
          else .array
        arguments := (json.itemsAt "type_arguments").map TypeUse.ofJson
        elements := (json.saidAt "element_type").map TypeUse.ofJson
        interfaces := json.textsAt "interfaces" } := by
  rw [TypeUse.ofJson.eq_2 json tells]
  simp

/-- The type reference under a name; without one, a reference that tells nothing. -/
def TypeUse.oneAt (json : Json) (name : String) : TypeUse :=
  ((json.get? name).map TypeUse.ofJson).getD {}

/-- The type references in the array under a name. -/
def TypeUse.allAt (json : Json) (name : String) : List TypeUse :=
  (json.itemsAt name).map TypeUse.ofJson

/-! ### Declarations -/

def PropertyDecl.ofJson (json : Json) : PropertyDecl where
  name := json.textAt "name"
  type := TypeUse.oneAt json "type"
  access := Access.ofWord (json.textAt "accessibility")
  isMany := json.flagAt "is_collection" false
  isImplicit := json.flagAt "is_implicit" false

def ParameterDecl.ofJson (json : Json) : ParameterDecl where
  name := json.textAt "name"
  type := TypeUse.oneAt json "type"

def MethodDecl.ofJson (json : Json) : MethodDecl where
  name := json.textAt "name"
  result := TypeUse.oneAt json "return_type"
  access := Access.ofWord (json.textAt "accessibility")
  parameters := (json.itemsAt "parameters").map ParameterDecl.ofJson
  isAsync := json.flagAt "is_async" false
  role := MethodRole.ofWord (json.textAt "method_kind")
  isImplicit := json.flagAt "is_implicit" false

/-- The kind of a type entry: a class if nothing is said of it. -/
def TypeDecl.kindOfJson (json : Json) : TypeKind :=
  match json.textAt "kind" with
  | "" => .classType
  | word => TypeKind.ofWord word

/-- A type entry; one without a name is none. -/
def TypeDecl.ofJson? (json : Json) : Option TypeDecl :=
  match json.get? "name" with
  | some (.string name) =>
    some
      { name := name
        kind := TypeDecl.kindOfJson json
        isAbstract := json.flagAt "is_abstract" false
        access := Access.ofWord (json.textAt "accessibility")
        scope := json.textAt "namespace"
        isResolved := json.flagAt "has_symbol" true
        bases := (json.saidAt "base").map TypeUse.ofJson
        ancestors := TypeUse.allAt json "ancestors"
        interfaces := TypeUse.allAt json "interfaces"
        properties := (json.itemsAt "properties").map PropertyDecl.ofJson
        methods := (json.itemsAt "methods").map MethodDecl.ofJson }
  | _ => none

/-- An enumeration entry; members that are no strings are passed over. -/
def EnumDecl.ofJson (json : Json) : EnumDecl where
  name := json.textAt "name"
  members := json.textsAt "members"

/-! ### Snapshots -/

/-- Why a document gives no snapshot. -/
inductive Refusal where
  /-- The text is no JSON document. -/
  | malformed (fault : String)
  /-- The root has no array of sources. -/
  | shape
  /-- The source of this path has a type entry without a name. -/
  | nameless (path : String)
  deriving DecidableEq, Repr

/-- What a refusal reports: a document of the wrong shape is refused without a word. -/
def Refusal.events : Refusal → List Event
  | malformed fault => [.malformed fault]
  | shape => []
  | nameless path => [.nameless path]

/-- What is reported of a document: one that is accepted calls for no word. -/
def Snapshot.report : Except Refusal Snapshot → List Event
  | .ok _ => []
  | .error refusal => refusal.events

/-- A type entry of the source of a path, or the refusal of it. -/
def TypeDecl.ofEntry (path : String) (json : Json) : Except Refusal TypeDecl :=
  match TypeDecl.ofJson? json with
  | some decl => .ok decl
  | none => .error (.nameless path)

/-- A source entry, unless one of its types is refused. -/
def SourceUnit.ofJson (json : Json) : Except Refusal SourceUnit := do
  let path := json.textAt "path"
  let types ← (json.itemsAt "types").mapM (TypeDecl.ofEntry path)
  return { path := path
           types := types
           enums := (json.itemsAt "enums").map EnumDecl.ofJson }

def Snapshot.ofJson (json : Json) : Except Refusal Snapshot :=
  match json.get? "sources" with
  | some (.array sources) => do
    let units ← sources.mapM SourceUnit.ofJson
    return { project := json.textAt "project", units := units }
  | _ => .error .shape

end TypeChart
