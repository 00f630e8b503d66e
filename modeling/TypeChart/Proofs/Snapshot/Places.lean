/-
**Places in a document.**

What is read of a value depends on where it stands: the same member is a list of references in one
object and a list of texts in another. A `Json.Place` says what a value is read as. At each place
there is a list of the members that are read of an object, each with the place of its value
(`Json.Place.members`); where no members are read, an object says no more than that it is one.

Two values are alike at a place if they cannot be told apart there (`Json.Place.Alike`), and this is
settled one step down: values are alike if the members that are read are alike, each at its own
place, and the items.

* `Json.textAt_congr` and its siblings: what the accessors make of members that are alike.
* `Json.Place.alike_of_below`: from the members and items of two values to the values.
* `Json.Place.under?_eq_none_iff`: the table leaves out just the members that are never noticed.
-/

import Mathlib.Data.List.Forall2
import Mathlib.Data.Option.Basic
import TypeChart.Proofs.Snapshot.Entries

namespace TypeChart

namespace Json

/-! ### Places -/

/-- What a value of a document is read as. -/
inductive Place where
  | document
  | source
  | type
  | enumeration
  | property
  | method
  | parameter
  /-- A reference to a type: an object, or a bare name. -/
  | reference
  /-- An array whose items all stand at one place. -/
  | array (item : Place)
  /-- A text or a truth value: nothing is read of an object or an array. -/
  | plain

namespace Place

/-- The members that are read of an object at a place, and the places of their values. -/
def members : Place → List (String × Place)
  | document => [("project", plain), ("sources", array source)]
  | source => [("path", plain), ("types", array type), ("enums", array enumeration)]
  | type =>
    [("name", plain), ("kind", plain), ("namespace", plain), ("is_abstract", plain),
      ("accessibility", plain), ("has_symbol", plain), ("base", reference),
      ("ancestors", array reference), ("interfaces", array reference),
      ("properties", array property), ("methods", array method)]
  | enumeration => [("name", plain), ("members", array plain)]
  | property =>
    [("name", plain), ("type", reference), ("accessibility", plain), ("is_collection", plain),
      ("is_implicit", plain)]
  | method =>
    [("name", plain), ("return_type", reference), ("accessibility", plain),
      ("parameters", array parameter), ("is_async", plain), ("method_kind", plain),
      ("is_implicit", plain)]
  | parameter => [("name", plain), ("type", reference)]
  | reference =>
    [("name", plain), ("namespace", plain), ("kind", plain), ("type_arguments", array reference),
      ("element_type", reference), ("interfaces", array plain)]
  | array _ => []
  | plain => []

/-- The place of a member, if that member is read. -/
def under? (place : Place) (name : String) : Option Place :=
  place.members.lookup name

/-- The place of a member. Nothing is read of a member that is not read itself. -/
def under (place : Place) (name : String) : Place :=
  (place.under? name).getD plain

/-- The place of the items of an array. -/
def item : Place → Place
  | array item => item
  | _ => plain

end Place

/-! ### Values that are alike -/

/-- The items of an array; any other value has none to speak of. -/
def items? : Json → Option (List Json)
  | array items => some items
  | _ => none

/-- Arrays and objects. -/
def isCompound : Json → Bool
  | array _ | object _ => true
  | _ => false

/-- Two values that cannot be told apart at a place. At a plain place no compound value says
anything, and a reference that is `null` says that there is none. -/
def Place.Alike : Place → Json → Json → Prop
  | document, one, other => Snapshot.ofJson one = Snapshot.ofJson other
  | source, one, other => SourceUnit.ofJson one = SourceUnit.ofJson other
  | type, one, other => TypeDecl.ofJson? one = TypeDecl.ofJson? other
  | enumeration, one, other => EnumDecl.ofJson one = EnumDecl.ofJson other
  | property, one, other => PropertyDecl.ofJson one = PropertyDecl.ofJson other
  | method, one, other => MethodDecl.ofJson one = MethodDecl.ofJson other
  | parameter, one, other => ParameterDecl.ofJson one = ParameterDecl.ofJson other
  | reference, one, other =>
    TypeUse.ofJson one = TypeUse.ofJson other ∧ (one = .null ↔ other = .null)
  | array item, one, other => Option.Rel (List.Forall₂ item.Alike) one.items? other.items?
  | plain, one, other => one = other ∨ one.isCompound = true ∧ other.isCompound = true

theorem Place.Alike.refl (place : Place) (json : Json) : place.Alike json json := by
  induction place generalizing json with
  | array item ih =>
    show Option.Rel _ _ _
    cases json.items? with
    | none => exact .none
    | some items => exact .some (List.forall₂_same.mpr fun value _ => ih value)
  | reference => exact ⟨rfl, Iff.rfl⟩
  | plain => exact .inl rfl
  | _ => exact rfl

/-- Two values that are alike in what is read of them one step down: the members and the items. -/
structure Place.AlikeBelow (place : Place) (one other : Json) : Prop where
  compound : one.isCompound = true ∧ other.isCompound = true
  members : ∀ name under, place.under? name = some under →
    Option.Rel under.Alike (one.get? name) (other.get? name)
  items : Option.Rel (List.Forall₂ place.item.Alike) one.items? other.items?

/-! ### Lists that are alike -/

section Lists

variable {α β ε : Type} {items others : List α}

theorem map_congr_of_forall₂ {read : α → β}
    (alike : List.Forall₂ (fun item other => read item = read other) items others) :
    items.map read = others.map read := by
  rwa [← List.forall₂_eq_eq_eq, List.forall₂_map_left_iff, List.forall₂_map_right_iff]

theorem mapM_congr_of_forall₂ {read : α → Except ε β}
    (alike : List.Forall₂ (fun item other => read item = read other) items others) :
    items.mapM read = others.mapM read := by
  rw [← Function.id_comp read, ← List.mapM_map, ← List.mapM_map, map_congr_of_forall₂ alike]

theorem filterMap_congr_of_forall₂ {read : α → Option β}
    (alike : List.Forall₂ (fun item other => read item = read other) items others) :
    items.filterMap read = others.filterMap read := by
  induction alike with
  | nil => rfl
  | cons here _ ih => rw [List.filterMap_cons, List.filterMap_cons, here, ih]

end Lists

/-! ### Members that are alike -/

section Members

variable {one other : Json} {name : String}

theorem textAt_of_compound {value : Json} (found : one.get? name = some value)
    (compound : value.isCompound = true) : one.textAt name = "" := by
  rw [textAt, found]
  cases value <;> first | rfl | cases compound

theorem flagAt_of_compound {value : Json} (found : one.get? name = some value)
    (compound : value.isCompound = true) (otherwise : Bool) :
    one.flagAt name otherwise = otherwise := by
  rw [flagAt, found]
  cases value <;> first | rfl | cases compound

/-- Plain members are the same, or both say nothing. -/
theorem plain_cases (alike : Option.Rel Place.plain.Alike (one.get? name) (other.get? name)) :
    one.get? name = other.get? name ∨
      ∃ value value', one.get? name = some value ∧ other.get? name = some value' ∧
        value.isCompound = true ∧ value'.isCompound = true := by
  generalize one.get? name = found, other.get? name = found' at alike ⊢
  cases alike with
  | none => exact .inl rfl
  | @some value value' same =>
    rcases same with rfl | ⟨compound, compound'⟩
    · exact .inl rfl
    · exact .inr ⟨value, value', rfl, rfl, compound, compound'⟩

theorem textAt_congr (alike : Option.Rel Place.plain.Alike (one.get? name) (other.get? name)) :
    one.textAt name = other.textAt name := by
  rcases plain_cases alike with same | ⟨value, value', found, found', compound, compound'⟩
  · rw [textAt, textAt, same]
  · rw [textAt_of_compound found compound, textAt_of_compound found' compound']

theorem flagAt_congr (alike : Option.Rel Place.plain.Alike (one.get? name) (other.get? name))
    (otherwise : Bool) : one.flagAt name otherwise = other.flagAt name otherwise := by
  rcases plain_cases alike with same | ⟨value, value', found, found', compound, compound'⟩
  · rw [flagAt, flagAt, same]
  · rw [flagAt_of_compound found compound, flagAt_of_compound found' compound']

/-- Members that stand for arrays are alike item by item. -/
theorem items?_congr {item : Place}
    (alike : Option.Rel (Place.array item).Alike (one.get? name) (other.get? name)) :
    Option.Rel (List.Forall₂ item.Alike) ((one.get? name).bind items?)
      ((other.get? name).bind items?) := by
  generalize one.get? name = found, other.get? name = found' at alike ⊢
  cases alike with
  | none => exact .none
  | some same => exact same

theorem itemsAt_eq (json : Json) (name : String) :
    json.itemsAt name = ((json.get? name).bind items?).getD [] := by
  unfold itemsAt
  cases json.get? name with
  | none => rfl
  | some value => cases value <;> rfl

theorem itemsAt_congr {item : Place}
    (alike : Option.Rel (Place.array item).Alike (one.get? name) (other.get? name)) :
    List.Forall₂ item.Alike (one.itemsAt name) (other.itemsAt name) := by
  have each := items?_congr alike
  rw [itemsAt_eq, itemsAt_eq]
  generalize (one.get? name).bind items? = items, (other.get? name).bind items? = items' at each ⊢
  cases each with
  | none => exact .nil
  | some each => exact each

theorem textsAt_congr
    (alike : Option.Rel (Place.array .plain).Alike (one.get? name) (other.get? name)) :
    one.textsAt name = other.textsAt name := by
  refine filterMap_congr_of_forall₂ ((itemsAt_congr alike).imp fun value value' same => ?_)
  rcases same with rfl | ⟨compound, compound'⟩
  · rfl
  · cases value <;> cases compound <;> cases value' <;> cases compound' <;> rfl

theorem saidAt_congr (alike : Option.Rel Place.reference.Alike (one.get? name) (other.get? name)) :
    (one.saidAt name).map TypeUse.ofJson = (other.saidAt name).map TypeUse.ofJson := by
  generalize found : one.get? name = value, found' : other.get? name = value' at alike
  cases alike with
  | none => rw [saidAt, saidAt, found, found']
  | @some value value' same =>
    obtain ⟨same, isNull⟩ := same
    by_cases null : value = .null
    · rw [saidAt, saidAt, found, found', null, isNull.mp null]
    · rw [saidAt_of_get? found null, saidAt_of_get? found' (mt isNull.mpr null), List.map_singleton,
        List.map_singleton, same]

theorem oneAt_congr (alike : Option.Rel Place.reference.Alike (one.get? name) (other.get? name)) :
    TypeUse.oneAt one name = TypeUse.oneAt other name := by
  unfold TypeUse.oneAt
  generalize one.get? name = found, other.get? name = found' at alike ⊢
  cases alike with
  | none => rfl
  | some same => rw [Option.map_some, Option.map_some, same.1]

end Members

end Json

/-! ### From members to values -/

/-- A type entry whose name is no text is none. -/
theorem TypeDecl.ofJson?_of_compound {json value : Json} (found : json.get? "name" = some value)
    (compound : value.isCompound = true) : TypeDecl.ofJson? json = none := by
  rw [ofJson?, found]
  cases value <;> first | rfl | cases compound

/-- A document is its array of sources, if it has one. -/
theorem Snapshot.ofJson_eq_match (json : Json) :
    Snapshot.ofJson json =
      match (json.get? "sources").bind Json.items? with
      | some sources => (sources.mapM SourceUnit.ofJson).map fun units =>
          { project := json.textAt "project", units := units }
      | none => .error .shape := by
  cases found : json.get? "sources" with
  | none => exact Snapshot.ofJson_of_no_sources (by simp [found])
  | some value =>
    cases value with
    | array sources => exact Snapshot.ofJson_of_sources found
    | _ => exact Snapshot.ofJson_of_no_sources (by simp [found])

namespace Json

variable {one other : Json}

theorem isCompound_ne_string {json : Json} (compound : json.isCompound = true) (name : String) :
    json ≠ .string name := by
  rintro rfl
  cases compound

theorem isCompound_ne_null {json : Json} (compound : json.isCompound = true) : json ≠ .null := by
  rintro rfl
  cases compound

namespace Place

theorem alike_enumeration (below : enumeration.AlikeBelow one other) :
    enumeration.Alike one other := by
  show EnumDecl.ofJson one = EnumDecl.ofJson other
  rw [EnumDecl.ofJson, EnumDecl.ofJson, textAt_congr (below.members "name" _ rfl),
    textsAt_congr (below.members "members" _ rfl)]

theorem alike_property (below : property.AlikeBelow one other) : property.Alike one other := by
  show PropertyDecl.ofJson one = PropertyDecl.ofJson other
  rw [PropertyDecl.ofJson, PropertyDecl.ofJson, textAt_congr (below.members "name" _ rfl),
    oneAt_congr (below.members "type" _ rfl), textAt_congr (below.members "accessibility" _ rfl),
    flagAt_congr (below.members "is_collection" _ rfl),
    flagAt_congr (below.members "is_implicit" _ rfl)]

theorem alike_parameter (below : parameter.AlikeBelow one other) : parameter.Alike one other := by
  show ParameterDecl.ofJson one = ParameterDecl.ofJson other
  rw [ParameterDecl.ofJson, ParameterDecl.ofJson, textAt_congr (below.members "name" _ rfl),
    oneAt_congr (below.members "type" _ rfl)]

theorem alike_method (below : method.AlikeBelow one other) : method.Alike one other := by
  have parameters : (one.itemsAt "parameters").map ParameterDecl.ofJson =
      (other.itemsAt "parameters").map ParameterDecl.ofJson :=
    map_congr_of_forall₂ (itemsAt_congr (below.members "parameters" _ rfl))
  show MethodDecl.ofJson one = MethodDecl.ofJson other
  rw [MethodDecl.ofJson, MethodDecl.ofJson, parameters,
    textAt_congr (below.members "name" _ rfl), oneAt_congr (below.members "return_type" _ rfl),
    textAt_congr (below.members "accessibility" _ rfl),
    flagAt_congr (below.members "is_async" _ rfl),
    textAt_congr (below.members "method_kind" _ rfl),
    flagAt_congr (below.members "is_implicit" _ rfl)]

theorem map_ofJson_congr {name : String}
    (alike : Option.Rel (array reference).Alike (one.get? name) (other.get? name)) :
    (one.itemsAt name).map TypeUse.ofJson = (other.itemsAt name).map TypeUse.ofJson :=
  map_congr_of_forall₂ ((itemsAt_congr alike).imp fun _ _ same => same.1)

theorem alike_reference (below : reference.AlikeBelow one other) : reference.Alike one other := by
  obtain ⟨compound, compound'⟩ := below.compound
  have elements := saidAt_congr (below.members "element_type" _ rfl)
  have single : (one.saidAt "element_type").isEmpty = (other.saidAt "element_type").isEmpty := by
    rw [← List.isEmpty_map (f := TypeUse.ofJson), elements, List.isEmpty_map]
  refine ⟨?_, iff_of_false (isCompound_ne_null compound) (isCompound_ne_null compound')⟩
  rw [TypeUse.ofJson_of_ne_string (isCompound_ne_string compound),
    TypeUse.ofJson_of_ne_string (isCompound_ne_string compound'), elements, single,
    textAt_congr (below.members "name" _ rfl), textAt_congr (below.members "namespace" _ rfl),
    textAt_congr (below.members "kind" _ rfl),
    map_ofJson_congr (below.members "type_arguments" _ rfl),
    textsAt_congr (below.members "interfaces" _ rfl)]

theorem alike_type (below : type.AlikeBelow one other) : type.Alike one other := by
  have kind : TypeDecl.kindOfJson one = TypeDecl.kindOfJson other := by
    rw [TypeDecl.kindOfJson, TypeDecl.kindOfJson, textAt_congr (below.members "kind" _ rfl)]
  have properties : (one.itemsAt "properties").map PropertyDecl.ofJson =
      (other.itemsAt "properties").map PropertyDecl.ofJson :=
    map_congr_of_forall₂ (itemsAt_congr (below.members "properties" _ rfl))
  have methods : (one.itemsAt "methods").map MethodDecl.ofJson =
      (other.itemsAt "methods").map MethodDecl.ofJson :=
    map_congr_of_forall₂ (itemsAt_congr (below.members "methods" _ rfl))
  show TypeDecl.ofJson? one = TypeDecl.ofJson? other
  rcases plain_cases (below.members "name" _ rfl) with
    same | ⟨value, value', found, found', compound, compound'⟩
  · simp only [TypeDecl.ofJson?, TypeUse.allAt, same, kind, properties, methods,
      flagAt_congr (below.members "is_abstract" _ rfl),
      textAt_congr (below.members "accessibility" _ rfl),
      textAt_congr (below.members "namespace" _ rfl),
      flagAt_congr (below.members "has_symbol" _ rfl), saidAt_congr (below.members "base" _ rfl),
      map_ofJson_congr (below.members "ancestors" _ rfl),
      map_ofJson_congr (below.members "interfaces" _ rfl)]
  · rw [TypeDecl.ofJson?_of_compound found compound, TypeDecl.ofJson?_of_compound found' compound']

theorem alike_source (below : source.AlikeBelow one other) : source.Alike one other := by
  have types : (one.itemsAt "types").mapM (TypeDecl.ofEntry (one.textAt "path")) =
      (other.itemsAt "types").mapM (TypeDecl.ofEntry (one.textAt "path")) := by
    refine mapM_congr_of_forall₂
      ((itemsAt_congr (below.members "types" _ rfl)).imp fun entry entry' same => ?_)
    rw [TypeDecl.ofEntry, show TypeDecl.ofJson? entry = TypeDecl.ofJson? entry' from same,
      TypeDecl.ofEntry]
  have enums : (one.itemsAt "enums").map EnumDecl.ofJson =
      (other.itemsAt "enums").map EnumDecl.ofJson :=
    map_congr_of_forall₂ (itemsAt_congr (below.members "enums" _ rfl))
  show SourceUnit.ofJson one = SourceUnit.ofJson other
  rw [SourceUnit.ofJson_eq_map, SourceUnit.ofJson_eq_map, types, enums,
    textAt_congr (below.members "path" _ rfl)]

theorem alike_document (below : document.AlikeBelow one other) : document.Alike one other := by
  have project := textAt_congr (below.members "project" _ rfl)
  have sources := items?_congr (below.members "sources" _ rfl)
  show Snapshot.ofJson one = Snapshot.ofJson other
  rw [Snapshot.ofJson_eq_match, Snapshot.ofJson_eq_match, project]
  generalize (one.get? "sources").bind items? = found, (other.get? "sources").bind items? = found'
    at sources ⊢
  cases sources with
  | none => rfl
  | some each => exact congrArg (Except.map _) (mapM_congr_of_forall₂ each)

/-- **Values are alike if they are alike in what is read of them one step down.** -/
theorem alike_of_below {place : Place} (below : place.AlikeBelow one other) :
    place.Alike one other := by
  cases place with
  | document => exact alike_document below
  | source => exact alike_source below
  | type => exact alike_type below
  | enumeration => exact alike_enumeration below
  | property => exact alike_property below
  | method => exact alike_method below
  | parameter => exact alike_parameter below
  | reference => exact alike_reference below
  | array item => exact below.items
  | plain => exact .inr below.compound

/-! ### Members that are not read -/

variable {place : Place} {name : String}

theorem rel_refl (place : Place) (found : Option Json) : Option.Rel place.Alike found found := by
  cases found with
  | none => exact .none
  | some value => exact .some (Alike.refl place value)

/-- A member that is not read may be added wherever in the object. -/
theorem alike_insert (notRead : place.under? name = none) (front back : List (String × Json))
    (value : Json) :
    place.Alike (.object (front ++ back)) (.object (front ++ (name, value) :: back)) := by
  refine alike_of_below ⟨⟨rfl, rfl⟩, fun key under isRead => ?_, .none⟩
  have differs : name ≠ key := by
    rintro rfl
    cases notRead.symm.trans isRead
  have passedOver : lastOf key (front ++ (name, value) :: back) = lastOf key (front ++ back) := by
    rw [lastOf_append, lastOf_cons, if_neg differs, Option.or_none, lastOf_append]
  show Option.Rel under.Alike (lastOf key _) (lastOf key _)
  rw [passedOver]
  exact under.rel_refl _

/-- The members without which an object is refused, or none. -/
def least : Place → List (String × Json)
  | document => [("sources", .array [])]
  | type => [("name", .string "")]
  | _ => []

/-- For every member that is read, a value that tells something. -/
def telling : Place → List (String × Json)
  | document => [("project", .string "Kennel"), ("sources", .array [.null])]
  | source =>
    [("path", .string "Dog.cs"), ("types", .array [.null]), ("enums", .array [.null])]
  | type =>
    [("name", .string "Dog"), ("kind", .string "struct"), ("namespace", .string "Pets"),
      ("is_abstract", .bool true), ("accessibility", .string "public"),
      ("has_symbol", .bool false), ("base", .string "Animal"), ("ancestors", .array [.null]),
      ("interfaces", .array [.null]), ("properties", .array [.null]), ("methods", .array [.null])]
  | enumeration => [("name", .string "Size"), ("members", .array [.string "Small"])]
  | property =>
    [("name", .string "Bowl"), ("type", .string "Bowl"), ("accessibility", .string "public"),
      ("is_collection", .bool true), ("is_implicit", .bool true)]
  | method =>
    [("name", .string "Fetch"), ("return_type", .string "Toy"), ("accessibility", .string "public"),
      ("parameters", .array [.null]), ("is_async", .bool true), ("method_kind", .string "operator"),
      ("is_implicit", .bool true)]
  | parameter => [("name", .string "toy"), ("type", .string "Toy")]
  | reference =>
    [("name", .string "Dog"), ("namespace", .string "Pets"), ("kind", .string "struct"),
      ("type_arguments", .array [.null]), ("element_type", .string "Dog"),
      ("interfaces", .array [.string "IPet"])]
  | array _ => []
  | plain => []

theorem map_fst_telling (place : Place) :
    place.telling.map Prod.fst = place.members.map Prod.fst := by
  cases place <;> rfl

theorem not_alike_telling (place : Place) :
    ∀ entry ∈ place.telling,
      ¬ place.Alike (.object place.least) (.object (place.least ++ [entry])) := by
  cases place with
  | document =>
    simp [telling, least, Alike, Snapshot.ofJson_eq_match, SourceUnit.ofJson_eq_map, items?,
      itemsAt, textAt, get?, lastOf, Except.map, bind, Except.bind, pure, Except.pure]
  | source =>
    simp [telling, least, Alike, SourceUnit.ofJson_eq_map, TypeDecl.ofEntry, TypeDecl.ofJson?,
      itemsAt, textAt, get?, lastOf, Except.map, bind, Except.bind, pure, Except.pure]
  | type =>
    simp [telling, least, Alike, TypeDecl.ofJson?, TypeDecl.kindOfJson, TypeUse.allAt, textAt,
      itemsAt, saidAt, flagAt, get?, lastOf, Access.ofWord, TypeKind.ofWord]
  | enumeration =>
    simp [telling, least, Alike, EnumDecl.ofJson, textAt, textsAt, itemsAt, get?, lastOf]
  | property =>
    simp [telling, least, Alike, PropertyDecl.ofJson, TypeUse.oneAt, TypeUse.ofJson_string, textAt,
      flagAt, get?, lastOf, Access.ofWord]
  | method =>
    simp [telling, least, Alike, MethodDecl.ofJson, TypeUse.oneAt, TypeUse.ofJson_string, textAt,
      itemsAt, flagAt, get?, lastOf, Access.ofWord, MethodRole.ofWord]
  | parameter =>
    simp [telling, least, Alike, ParameterDecl.ofJson, TypeUse.oneAt, TypeUse.ofJson_string,
      textAt, get?, lastOf]
  | reference =>
    simp [telling, least, Alike, TypeUse.ofJson_of_ne_string, textAt, textsAt, itemsAt, saidAt,
      get?, lastOf, TypeKind.ofWord]
  | array item => exact fun _ none => absurd none List.not_mem_nil
  | plain => exact fun _ none => absurd none List.not_mem_nil

/-- **The table is exact.** It leaves out just the members that may be added to any object at the
place without anyone noticing. -/
theorem under?_eq_none_iff :
    place.under? name = none ↔
      ∀ front back value,
        place.Alike (.object (front ++ back)) (.object (front ++ (name, value) :: back)) := by
  refine ⟨fun notRead => alike_insert notRead, fun unnoticed => ?_⟩
  rw [under?, List.lookup_eq_none_iff]
  intro entry member
  rw [bne_iff_ne]
  rintro rfl
  have listed : entry.1 ∈ place.telling.map Prod.fst := by
    rw [map_fst_telling]
    exact List.mem_map_of_mem member
  obtain ⟨told, tells, named⟩ := List.mem_map.mp listed
  refine not_alike_telling place told tells ?_
  have alike := unnoticed place.least [] told.2
  rwa [List.append_nil, ← named] at alike

end Place

end Json

end TypeChart
