/-
**Declarations.**

What a front end found in a program: source units, in each the declared types and then the
declared enumerations. All lists are in declaration order, and none is sorted anywhere later.
-/

import TypeChart.Snapshot.TypeUse

namespace TypeChart

/-- Who may reach a declaration. -/
inductive Access where
  | unstated
  | declaringType
  | subtypesInAssembly
  | subtypes
  | assembly
  | subtypesOrAssembly
  | everyone
  deriving DecidableEq, Repr, Inhabited

structure PropertyDecl where
  name : String := ""
  type : TypeUse := {}
  access : Access := .unstated
  /-- The front end holds the property for a collection, whatever its type says. -/
  isMany : Bool := false
  /-- The compiler made the property; it is written nowhere. -/
  isImplicit : Bool := false
  deriving Inhabited

structure ParameterDecl where
  name : String := ""
  type : TypeUse := {}
  deriving Inhabited

/-- What a method is for. -/
inductive MethodRole where
  | ordinary
  | constructor
  | accessor
  | operator
  | other
  deriving DecidableEq, Repr, Inhabited

structure MethodDecl where
  name : String := ""
  result : TypeUse := {}
  access : Access := .unstated
  parameters : List ParameterDecl := []
  isAsync : Bool := false
  role : MethodRole := .ordinary
  /-- The compiler made the method; it is written nowhere. -/
  isImplicit : Bool := false
  deriving Inhabited

/-- A declared class, interface, struct, or enumeration with properties. -/
structure TypeDecl where
  name : String := ""
  kind : TypeKind := .classType
  isAbstract : Bool := false
  access : Access := .unstated
  /-- The dotted namespace of the declaration. -/
  scope : String := ""
  /-- A declaration that the front end saw but could not resolve is not drawn. -/
  isResolved : Bool := true
  /-- The direct base; the first one counts unless all ancestors are drawn. -/
  bases : List TypeUse := []
  /-- The ancestors, nearest first; the root of all classes may end the list. -/
  ancestors : List TypeUse := []
  interfaces : List TypeUse := []
  properties : List PropertyDecl := []
  methods : List MethodDecl := []
  deriving Inhabited

/-- A declared enumeration with nothing but the names of its members. -/
structure EnumDecl where
  name : String := ""
  members : List String := []
  deriving Inhabited

/-- One source unit of a program. -/
structure SourceUnit where
  path : String := ""
  types : List TypeDecl := []
  enums : List EnumDecl := []
  deriving Inhabited

/-- All that a front end delivered about one project. -/
structure Snapshot where
  project : String := ""
  units : List SourceUnit := []
  deriving Inhabited

end TypeChart
