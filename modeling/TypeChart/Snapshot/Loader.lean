/-
**Loading snapshots.**

A document is read value by value, and every access to a value may raise (`Json.Raising`). So each
reader asks what a value is before it takes anything from it. What it comes to is said in
`TypeChart.Snapshot.Document`; here is how it gets there.

A refusal is no raise: it ends the reading of the whole document, from wherever it stands. Whatever
is raised on the way, by the parser or by an access, ends in a refusal of the text as malformed.

* `TypeUse.load`, `TypeDecl.load`, `SourceUnit.load`, `Snapshot.load`: the readers.
* `Snapshot.read`: the snapshot of a text, with the parser that is given.
* `Snapshot.loadText`: the loader of a text, which also reports.
-/

import TypeChart.Json.Access
import TypeChart.Snapshot.Document

namespace TypeChart

open Json (Raising)

/-! ### Type references -/

/-- A type reference: a bare string is its name, an object tells all, and anything else tells
nothing. -/
def TypeUse.load (json : Json) : Raising TypeUse := do
  if json.isString then
    return { name := ← json.text }
  else if json.isObject then
    let name ← json.askText "name"
    let scope ← json.askText "namespace"
    let word ← json.askText "kind"
    let arguments ← json.askEach "type_arguments" fun argument => load argument.val
    let elements ← json.askSaid "element_type" fun element => load element.val
    let interfaces ← json.askTexts "interfaces"
    return { name := name
             scope := scope
             kind := if elements.isEmpty then TypeKind.ofWord word else .array
             arguments := arguments
             elements := elements
             interfaces := interfaces }
  else
    return {}
termination_by sizeOf json
decreasing_by
  · exact argument.property
  · exact element.property

/-- The type reference under a name; without one, a reference that tells nothing. -/
def TypeUse.loadOne (json : Json) (name : String) : Raising TypeUse :=
  json.askOne name {} fun type => TypeUse.load type.val

/-- The type references in the array under a name. -/
def TypeUse.loadAll (json : Json) (name : String) : Raising (List TypeUse) :=
  json.askEach name fun type => TypeUse.load type.val

/-! ### Declarations -/

def PropertyDecl.load (json : Json) : Raising PropertyDecl := do
  return { name := ← json.askText "name"
           type := ← TypeUse.loadOne json "type"
           access := Access.ofWord (← json.askText "accessibility")
           isMany := ← json.askFlag "is_collection" false
           isImplicit := ← json.askFlag "is_implicit" false }

def ParameterDecl.load (json : Json) : Raising ParameterDecl := do
  return { name := ← json.askText "name"
           type := ← TypeUse.loadOne json "type" }

def MethodDecl.load (json : Json) : Raising MethodDecl := do
  return { name := ← json.askText "name"
           result := ← TypeUse.loadOne json "return_type"
           access := Access.ofWord (← json.askText "accessibility")
           isAsync := ← json.askFlag "is_async" false
           role := MethodRole.ofWord (← json.askText "method_kind")
           isImplicit := ← json.askFlag "is_implicit" false
           parameters := ← json.askEach "parameters" fun entry => ParameterDecl.load entry.val }

/-- A type entry; one without a name is none. -/
def TypeDecl.load (json : Json) : Raising (Option TypeDecl) := do
  if ← json.askHolds "name" Json.isString then
    let name ← (← json.member "name").val.text
    let word ← json.askText "kind"
    return some
      { name := name
        kind := if word.isEmpty then .classType else TypeKind.ofWord word
        isAbstract := ← json.askFlag "is_abstract" false
        access := Access.ofWord (← json.askText "accessibility")
        scope := ← json.askText "namespace"
        isResolved := ← json.askFlag "has_symbol" true
        bases := ← json.askSaid "base" fun base => TypeUse.load base.val
        ancestors := ← TypeUse.loadAll json "ancestors"
        interfaces := ← TypeUse.loadAll json "interfaces"
        properties := ← json.askEach "properties" fun entry => PropertyDecl.load entry.val
        methods := ← json.askEach "methods" fun entry => MethodDecl.load entry.val }
  else
    return none

def EnumDecl.load (json : Json) : Raising EnumDecl := do
  return { name := ← json.askText "name"
           members := ← json.askTexts "members" }

/-! ### Documents -/

/-- What a reader comes to that may also refuse the document. -/
abbrev Refusing : Type → Type :=
  ExceptT Refusal Raising

/-- A type entry of the source of a path, or the refusal of it. -/
def TypeDecl.loadEntry (path : String) (json : Json) : Refusing TypeDecl := do
  match ← TypeDecl.load json with
  | some decl => return decl
  | none => throw (.nameless path)

/-- A source entry, unless one of its types is refused. -/
def SourceUnit.load (json : Json) : Refusing SourceUnit := do
  let path ← json.askText "path"
  let types ← (← json.askItems "types").mapM fun entry => TypeDecl.loadEntry path entry.val
  let enums ← json.askEach "enums" fun entry => EnumDecl.load entry.val
  return { path := path, types := types, enums := enums }

def Snapshot.load (json : Json) : Refusing Snapshot := do
  if ← json.askHolds "sources" Json.isArray then
    let sources := (← json.member "sources").elements
    let units ← sources.mapM fun source => SourceUnit.load source.val
    return { project := ← json.askText "project", units := units }
  else
    throw .shape

/-! ### Texts -/

/-- The snapshot of a text. What the parser or an access raises makes the text a malformed one. -/
def Snapshot.read (parser : Json.Parser) (text : String) : Except Refusal Snapshot :=
  match parser text with
  | .error fault => .error (.malformed fault)
  | .ok json =>
    match (Snapshot.load json).run with
    | .error raised => .error (.malformed raised.message)
    | .ok result => result

/-- Loads a text: the snapshot, if there is one, and what is reported. -/
def Snapshot.loadText (parser : Json.Parser) (text : String) : Option Snapshot × List Event :=
  let result := Snapshot.read parser text
  (result.toOption, Snapshot.report result)

end TypeChart
