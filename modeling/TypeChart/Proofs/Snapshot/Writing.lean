/-
**Writing a snapshot as a document.**

Every field stands under its own name; a base and an element type are left out where there is none.
Enumerators are written as words, and more than one word may be read as the same enumerator, so the
words are free: a `Vocabulary` has a word for each, and another vocabulary may be chosen at every
place of the document.

What is written is read back: `Snapshot.ofJson_toJson`, for canonical snapshots, which are the only
ones that are ever read.
-/

import TypeChart.Proofs.Snapshot.Canonical
import TypeChart.Snapshot.Sample

namespace TypeChart

/-! ### Words and places -/

/-- A word for each enumerator, by which it is known. -/
structure Vocabulary where
  kind : TypeKind → String
  access : Access → String
  role : MethodRole → String
  ofWord_kind : ∀ value, TypeKind.ofWord (kind value) = value
  ofWord_access : ∀ value, Access.ofWord (access value) = value
  ofWord_role : ∀ value, MethodRole.ofWord (role value) = value
  /-- A declaration of which no kind is said would be a class. -/
  kind_ne_empty : ∀ value, kind value ≠ ""

/-- The vocabulary at each place of a document. A place is the way to it from above: names of
members, each with the position among the items there. -/
def Wording : Type := List (String × Nat) → Vocabulary

namespace Wording

/-- The vocabulary at the place itself. -/
def here (wording : Wording) : Vocabulary :=
  wording []

/-- The wording of what stands below a member, at a position. -/
def below (wording : Wording) (name : String) (position : Nat) : Wording :=
  fun place => wording ((name, position) :: place)

/-- The array of a member, with an entry for each item. -/
def array {α : Type} (wording : Wording) (name : String) (write : Wording → α → Json)
    (items : List α) : Json :=
  .array (items.mapIdx fun position item => write (wording.below name position) item)

end Wording

/-- The array of texts. -/
def Json.texts (texts : List String) : Json :=
  .array (texts.map .string)

/-! ### Entries -/

theorem TypeUse.sizeOf_of_mem_arguments {type argument : TypeUse}
    (member : argument ∈ type.arguments) : sizeOf argument < sizeOf type := by
  have inside := List.sizeOf_lt_of_mem member
  cases type
  simp only [mk.sizeOf_spec] at inside ⊢
  omega

theorem TypeUse.sizeOf_of_mem_elements {type element : TypeUse}
    (member : element ∈ type.elements) : sizeOf element < sizeOf type := by
  have inside := List.sizeOf_lt_of_mem member
  cases type
  simp only [mk.sizeOf_spec] at inside ⊢
  omega

/-- An element type is written if there is one. -/
def TypeUse.toJson (wording : Wording) (type : TypeUse) : Json :=
  .object
    ([("name", .string type.name),
      ("namespace", .string type.scope),
      ("kind", .string (wording.here.kind type.kind)),
      ("type_arguments", .array (type.arguments.attach.mapIdx fun position argument =>
        argument.val.toJson (wording.below "type_arguments" position))),
      ("interfaces", .texts type.interfaces)] ++
      type.elements.attach.map fun element =>
        ("element_type", element.val.toJson (wording.below "element_type" 0)))
termination_by sizeOf type
decreasing_by
  · exact sizeOf_of_mem_arguments argument.property
  · exact sizeOf_of_mem_elements element.property

theorem TypeUse.toJson_eq (wording : Wording) (type : TypeUse) :
    type.toJson wording =
      .object
        ([("name", .string type.name),
          ("namespace", .string type.scope),
          ("kind", .string (wording.here.kind type.kind)),
          ("type_arguments", wording.array "type_arguments" toJson type.arguments),
          ("interfaces", .texts type.interfaces)] ++
          type.elements.map fun element =>
            ("element_type", element.toJson (wording.below "element_type" 0))) := by
  rw [toJson]
  have arguments : (type.arguments.attach.mapIdx fun position argument =>
      argument.val.toJson (wording.below "type_arguments" position)) =
        type.arguments.mapIdx fun position argument =>
          argument.toJson (wording.below "type_arguments" position) :=
    List.ext_getElem (by simp) (by simp)
  have elements : (type.elements.attach.map fun element =>
      ("element_type", element.val.toJson (wording.below "element_type" 0))) =
        type.elements.map fun element =>
          ("element_type", element.toJson (wording.below "element_type" 0)) :=
    List.attach_map_val (f := fun element : TypeUse =>
      ("element_type", element.toJson (wording.below "element_type" 0)))
  rw [arguments, elements]
  rfl

def PropertyDecl.toJson (wording : Wording) (decl : PropertyDecl) : Json :=
  .object
    [("name", .string decl.name),
     ("type", decl.type.toJson (wording.below "type" 0)),
     ("accessibility", .string (wording.here.access decl.access)),
     ("is_collection", .bool decl.isMany),
     ("is_implicit", .bool decl.isImplicit)]

def ParameterDecl.toJson (wording : Wording) (decl : ParameterDecl) : Json :=
  .object
    [("name", .string decl.name),
     ("type", decl.type.toJson (wording.below "type" 0))]

def MethodDecl.toJson (wording : Wording) (decl : MethodDecl) : Json :=
  .object
    [("name", .string decl.name),
     ("return_type", decl.result.toJson (wording.below "return_type" 0)),
     ("accessibility", .string (wording.here.access decl.access)),
     ("parameters", wording.array "parameters" ParameterDecl.toJson decl.parameters),
     ("is_async", .bool decl.isAsync),
     ("method_kind", .string (wording.here.role decl.role)),
     ("is_implicit", .bool decl.isImplicit)]

/-- A base is written if there is one. -/
def TypeDecl.toJson (wording : Wording) (decl : TypeDecl) : Json :=
  .object
    ([("name", .string decl.name),
      ("kind", .string (wording.here.kind decl.kind)),
      ("namespace", .string decl.scope),
      ("is_abstract", .bool decl.isAbstract),
      ("accessibility", .string (wording.here.access decl.access)),
      ("has_symbol", .bool decl.isResolved),
      ("ancestors", wording.array "ancestors" TypeUse.toJson decl.ancestors),
      ("interfaces", wording.array "interfaces" TypeUse.toJson decl.interfaces),
      ("properties", wording.array "properties" PropertyDecl.toJson decl.properties),
      ("methods", wording.array "methods" MethodDecl.toJson decl.methods)] ++
      decl.bases.map fun base => ("base", base.toJson (wording.below "base" 0)))

def EnumDecl.toJson (decl : EnumDecl) : Json :=
  .object
    [("name", .string decl.name),
     ("members", .texts decl.members)]

def SourceUnit.toJson (wording : Wording) (unit : SourceUnit) : Json :=
  .object
    [("path", .string unit.path),
     ("types", wording.array "types" TypeDecl.toJson unit.types),
     ("enums", .array (unit.enums.map EnumDecl.toJson))]

def Snapshot.toJson (wording : Wording) (snapshot : Snapshot) : Json :=
  .object
    [("project", .string snapshot.project),
     ("sources", wording.array "sources" SourceUnit.toJson snapshot.units)]

/-! ### Members that may be left out -/

namespace Json

variable {α : Type} {name other : String} {front : List (String × Json)} {items : List α}
  {write : α → Json}

theorem lastOf_map_of_ne (differs : other ≠ name) :
    lastOf name (items.map fun item => (other, write item)) = none := by
  induction items with
  | nil => rfl
  | cons item rest ih =>
    rw [List.map_cons, lastOf, ih]
    exact if_neg differs

/-- What is written at most once, and left out where there is none, is said as it is. -/
theorem saidAt_append_map (absent : lastOf name front = none) (single : items.length ≤ 1)
    (tells : ∀ item, write item ≠ .null) :
    (Json.object (front ++ items.map fun item => (name, write item))).saidAt name =
      items.map write := by
  match items with
  | [] =>
    have found : (Json.object (front ++ [])).get? name = none := by
      rw [List.append_nil]
      exact absent
    show (Json.object (front ++ [])).saidAt name = []
    rw [saidAt, found]
  | [item] =>
    refine saidAt_of_get? ?_ (tells item)
    show lastOf name (front ++ [(name, write item)]) = some (write item)
    clear absent
    induction front with
    | nil => exact if_pos rfl
    | cons member rest ih => rw [List.cons_append, lastOf, ih]

end Json

/-! ### Lists that are read back -/

theorem forall₂_mapIdx {α β : Type} {related : β → α → Prop} {items : List α} {write : Nat → α → β}
    (each : ∀ position, ∀ item ∈ items, related (write position item) item) :
    List.Forall₂ related (items.mapIdx write) items := by
  induction items generalizing write with
  | nil => exact .nil
  | cons item rest ih =>
    rw [List.mapIdx_cons]
    refine .cons (each 0 item List.mem_cons_self) (ih fun position other member => ?_)
    exact each (position + 1) other (List.mem_cons_of_mem item member)

/-- Entries that are read back one by one are read back as a list, whatever words they have. -/
theorem Wording.map_entries {α : Type} {read : Json → α} {write : Wording → α → Json}
    {items : List α} (wording : Wording) (name : String)
    (each : ∀ item ∈ items, ∀ other, read (write other item) = item) :
    (items.mapIdx fun position item => write (wording.below name position) item).map read =
      items := by
  have pairs : List.Forall₂ (fun entry item => read entry = item)
      (items.mapIdx fun position item => write (wording.below name position) item) items :=
    forall₂_mapIdx fun position item member => each item member (wording.below name position)
  rwa [← List.forall₂_map_left_iff (R := fun entry item => entry = item), List.forall₂_eq_eq_eq]
    at pairs

theorem map_map_eq_self {α β : Type} {read : β → α} {items : List α} {write : α → β}
    (each : ∀ item ∈ items, read (write item) = item) : (items.map write).map read = items := by
  rw [List.map_map]
  exact (List.map_congr_left each).trans (List.map_id items)

/-! ### Entries that are read back -/

theorem TypeUse.toJson_ne_null (wording : Wording) (type : TypeUse) :
    type.toJson wording ≠ .null := by
  rw [toJson_eq]
  exact Json.noConfusion

theorem TypeUse.toJson_ne_string (wording : Wording) (type : TypeUse) (name : String) :
    type.toJson wording ≠ .string name := by
  rw [toJson_eq]
  exact Json.noConfusion

section

-- Reading an entry that was written evaluates the accessors on its members.
attribute [local simp] Json.textAt Json.flagAt Json.itemsAt Json.textsAt Json.get? Json.lastOf
  Json.lastOf_map_of_ne Json.texts Wording.array

theorem TypeUse.ofJson_toJson {type : TypeUse} (canonical : type.IsCanonical) (wording : Wording) :
    TypeUse.ofJson (type.toJson wording) = type := by
  induction canonical generalizing wording with
  | @intro type single array _ _ arguments elements =>
    have argumentsRead := wording.map_entries "type_arguments" arguments
    have elementsRead := map_map_eq_self fun element member =>
      elements element member (wording.below "element_type" 0)
    have kindRead : (if type.elements = [] then TypeKind.ofWord (wording.here.kind type.kind)
        else .array) = type.kind := by
      split
      · exact wording.here.ofWord_kind type.kind
      · rename_i notEmpty
        exact (array notEmpty).symm
    rw [ofJson_of_ne_string (toJson_ne_string wording type), toJson_eq,
      Json.saidAt_append_map rfl single (toJson_ne_null _), elementsRead]
    cases type
    simp [argumentsRead, kindRead]

theorem PropertyDecl.ofJson_toJson {decl : PropertyDecl} (canonical : decl.type.IsCanonical)
    (wording : Wording) : PropertyDecl.ofJson (decl.toJson wording) = decl := by
  simp [PropertyDecl.ofJson, PropertyDecl.toJson, TypeUse.oneAt, TypeUse.ofJson_toJson canonical,
    wording.here.ofWord_access]

theorem ParameterDecl.ofJson_toJson {decl : ParameterDecl} (canonical : decl.type.IsCanonical)
    (wording : Wording) : ParameterDecl.ofJson (decl.toJson wording) = decl := by
  simp [ParameterDecl.ofJson, ParameterDecl.toJson, TypeUse.oneAt, TypeUse.ofJson_toJson canonical]

theorem MethodDecl.ofJson_toJson {decl : MethodDecl} (canonical : decl.IsCanonical)
    (wording : Wording) : MethodDecl.ofJson (decl.toJson wording) = decl := by
  have parametersRead := wording.map_entries "parameters" fun parameter member =>
    ParameterDecl.ofJson_toJson (canonical.parameters parameter member)
  simp [MethodDecl.ofJson, MethodDecl.toJson, TypeUse.oneAt,
    TypeUse.ofJson_toJson canonical.result, wording.here.ofWord_access, wording.here.ofWord_role,
    parametersRead]

theorem TypeDecl.ofJson?_toJson {decl : TypeDecl} (canonical : decl.IsCanonical)
    (wording : Wording) : TypeDecl.ofJson? (decl.toJson wording) = some decl := by
  have nameRead : (decl.toJson wording).get? "name" = some (.string decl.name) := by
    simp [TypeDecl.toJson]
  have kindRead : TypeDecl.kindOfJson (decl.toJson wording) = decl.kind := by
    simp [TypeDecl.kindOfJson, TypeDecl.toJson, wording.here.ofWord_kind,
      wording.here.kind_ne_empty]
  have basesSaid : (decl.toJson wording).saidAt "base" =
      decl.bases.map fun base => base.toJson (wording.below "base" 0) :=
    Json.saidAt_append_map rfl canonical.single (TypeUse.toJson_ne_null _)
  have basesRead := map_map_eq_self fun base member =>
    TypeUse.ofJson_toJson (canonical.bases base member) (wording.below "base" 0)
  have ancestorsRead := wording.map_entries "ancestors" fun ancestor member =>
    TypeUse.ofJson_toJson (canonical.ancestors ancestor member)
  have interfacesRead := wording.map_entries "interfaces" fun interface member =>
    TypeUse.ofJson_toJson (canonical.interfaces interface member)
  have propertiesRead := wording.map_entries "properties" fun property member =>
    PropertyDecl.ofJson_toJson (canonical.properties property member)
  have methodsRead := wording.map_entries "methods" fun method member =>
    MethodDecl.ofJson_toJson (canonical.methods method member)
  rw [ofJson?, nameRead, basesSaid, basesRead, kindRead]
  cases decl
  simp [TypeDecl.toJson, TypeUse.allAt, wording.here.ofWord_access, ancestorsRead, interfacesRead,
    propertiesRead, methodsRead]

theorem EnumDecl.ofJson_toJson (decl : EnumDecl) : EnumDecl.ofJson decl.toJson = decl := by
  simp [EnumDecl.ofJson, EnumDecl.toJson]

/-! ### Documents that are read back -/

theorem SourceUnit.ofJson_toJson {unit : SourceUnit}
    (canonical : ∀ decl ∈ unit.types, decl.IsCanonical) (wording : Wording) :
    SourceUnit.ofJson (unit.toJson wording) = .ok unit := by
  have typesRead : ((unit.toJson wording).itemsAt "types").mapM
      (TypeDecl.ofEntry ((unit.toJson wording).textAt "path")) = .ok unit.types := by
    refine mapM_eq_ok_iff.mpr (forall₂_mapIdx fun position decl member => ?_)
    exact TypeDecl.ofEntry_eq_ok_iff.mpr
      (TypeDecl.ofJson?_toJson (canonical decl member) (wording.below "types" position))
  have enumsRead := map_map_eq_self fun decl (_ : decl ∈ unit.enums) => decl.ofJson_toJson
  rw [SourceUnit.ofJson_eq_map, typesRead]
  refine congrArg Except.ok ?_
  cases unit
  simp [SourceUnit.toJson, enumsRead]

/-- **What is written is read back**, whatever words are chosen for the enumerators. -/
theorem Snapshot.ofJson_toJson {snapshot : Snapshot} (canonical : snapshot.IsCanonical)
    (wording : Wording) : Snapshot.ofJson (snapshot.toJson wording) = .ok snapshot := by
  have found : (snapshot.toJson wording).get? "sources" =
      some (wording.array "sources" SourceUnit.toJson snapshot.units) := by
    simp [Snapshot.toJson]
  have unitsRead : (snapshot.units.mapIdx fun position unit =>
      unit.toJson (wording.below "sources" position)).mapM SourceUnit.ofJson =
        .ok snapshot.units := by
    refine mapM_eq_ok_iff.mpr (forall₂_mapIdx fun position unit member => ?_)
    exact SourceUnit.ofJson_toJson (canonical unit member) (wording.below "sources" position)
  rw [ofJson_of_sources found, unitsRead]
  refine congrArg Except.ok ?_
  cases snapshot
  simp [Snapshot.toJson]

end

/-- **Reading documents gives the canonical snapshots, and loses nothing of them.** -/
theorem Snapshot.ofJson_canonical :
    (∀ json snapshot, Snapshot.ofJson json = .ok snapshot → snapshot.IsCanonical) ∧
      ∀ snapshot : Snapshot, snapshot.IsCanonical → ∀ wording : Wording,
        Snapshot.ofJson (snapshot.toJson wording) = .ok snapshot :=
  ⟨fun _ _ isRead => isCanonical_of_ofJson isRead,
    fun _ canonical wording => ofJson_toJson canonical wording⟩

/-! ### A document with both words for a class -/

def Vocabulary.usual : Vocabulary where
  kind
    | .unknown => "unknown"
    | .classType => "class"
    | .interface => "interface"
    | .enumeration => "enum"
    | .struct => "struct"
    | .array => "array"
    | .parameter => "type_parameter"
  access
    | .unstated => "none"
    | .declaringType => "private"
    | .subtypesInAssembly => "private_protected"
    | .subtypes => "protected"
    | .assembly => "internal"
    | .subtypesOrAssembly => "protected_internal"
    | .everyone => "public"
  role
    | .ordinary => "ordinary"
    | .constructor => "constructor"
    | .accessor => "accessor"
    | .operator => "operator"
    | .other => "destructor"
  ofWord_kind value := by cases value <;> rfl
  ofWord_access value := by cases value <;> rfl
  ofWord_role value := by cases value <;> rfl
  kind_ne_empty value := by cases value <;> decide

/-- The usual words, but a class is a record. -/
def Vocabulary.records : Vocabulary where
  kind
    | .classType => "record"
    | value => usual.kind value
  access := usual.access
  role := usual.role
  ofWord_kind value := by cases value <;> rfl
  ofWord_access := usual.ofWord_access
  ofWord_role := usual.ofWord_role
  kind_ne_empty value := by cases value <;> decide

/-- A type with a base, an array of arrays, and a method of a role that has no word. -/
def Sample.map : TypeDecl where
  name := "Map"
  kind := .unknown
  bases := [zooType "Sheet" "" .classType]
  properties :=
    [{ name := "Tiles", type := arrayOf (arrayOf (zooType "Tile" "Atlas" .classType)) }]
  methods := [{ name := "~Map", role := .other }]

def Sample.atlas : Snapshot where
  project := "Atlas"
  units :=
    [{ path := "Map.cs"
       types := [map]
       enums := [{ name := "Scale", members := ["Small", "Large"] }] }]

theorem TypeUse.IsCanonical.arrayOf {element : TypeUse} (canonical : element.IsCanonical) :
    (Sample.arrayOf element).IsCanonical :=
  .intro (Nat.le_refl 1) (fun _ => rfl) (fun _ member => nomatch member)
    fun other member => by rwa [List.mem_singleton.mp member]

theorem Sample.isCanonical_map : map.IsCanonical where
  single := Nat.le_refl 1
  bases := List.forall_mem_singleton.mpr (.of_eq_nil rfl rfl)
  ancestors _ member := nomatch member
  interfaces _ member := nomatch member
  properties := List.forall_mem_singleton.mpr (.arrayOf (.arrayOf (.of_eq_nil rfl rfl)))
  methods := List.forall_mem_singleton.mpr ⟨.of_eq_nil rfl rfl, fun _ member => nomatch member⟩

/-- The base of the map is a record in the document, and its tiles are classes. -/
theorem Snapshot.ofJson_canonical_atlas :
    Sample.atlas.IsCanonical ∧
      Snapshot.ofJson (Sample.atlas.toJson fun place =>
        if place.length = 3 then .records else .usual) = .ok Sample.atlas := by
  have canonical : Sample.atlas.IsCanonical :=
    List.forall_mem_singleton.mpr (List.forall_mem_singleton.mpr Sample.isCanonical_map)
  exact ⟨canonical, ofJson_canonical.2 Sample.atlas canonical _⟩

end TypeChart
