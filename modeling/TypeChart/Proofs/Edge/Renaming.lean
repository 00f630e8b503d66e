/-
**Renaming types.**

To a declaration the names of types are opaque. All that is ever asked of a name is whether it is
empty, whether it is the root of all classes, a collection or text, and whether two edges have the
same ends. So a renaming that keeps different names different and leaves the few names alone that
mean something does nothing but rename the ends of edges: no edge is gained or lost, no two become
one, none changes its kind, its stroke or its place.

* `TypeUse.target_rename`, `TypeUse.isCollection_rename`: what is asked of a use.
* `PropertyDecl.edge?_rename`: the edge of a property.
* `Edge.firsts_rename`: the firsts of a list, which compare ends.
* `TypeDecl.edges_rename`: the edges of a declaration.
-/

import TypeChart.Proofs.Edge.Candidates
import TypeChart.Proofs.Edge.Classification

namespace TypeChart

/-! ### Renamings -/

/-- The names that mean something: no name at all, the root of all classes, the collections, and
text in any letter case. -/
def TypeUse.IsReserved (name : String) : Prop :=
  name ∈ ["", "Object", "IEnumerable", "ICollection", "List"] ∨ Spells name "string"

/-- Only text is asked for its letters. -/
instance (name : String) : Decidable (TypeUse.IsReserved name) :=
  decidable_of_iff (name ∈ ["", "Object", "IEnumerable", "ICollection", "List"] ∨
    TypeUse.isText { name := name } = true) (or_congr_right TypeUse.isText_iff)

/-- New names for types: different names stay different, and reserved names stay as they are. -/
structure Renaming where
  toFun : String → String
  injective : Function.Injective toFun
  fixes : ∀ name, TypeUse.IsReserved name → toFun name = name

namespace Renaming

instance : CoeFun Renaming fun _ => String → String :=
  ⟨Renaming.toFun⟩

variable (newName : Renaming)

/-- **What holds of reserved names only** holds of a name exactly if it holds of the new one: a name
that becomes reserved was so before. -/
theorem apply_iff {P : String → Prop} (reserved : ∀ word, P word → TypeUse.IsReserved word)
    (name : String) : P (newName name) ↔ P name := by
  constructor
  · intro holds
    have fixed : newName (newName name) = newName name := newName.fixes _ (reserved _ holds)
    rwa [newName.injective fixed] at holds
  · intro holds
    rwa [newName.fixes name (reserved name holds)]

theorem apply_eq_iff {word : String} (reserved : TypeUse.IsReserved word) (name : String) :
    newName name = word ↔ name = word :=
  newName.apply_iff (P := (· = word)) (fun _ same => same ▸ reserved) name

/-- Two names that are not reserved may be exchanged. -/
def exchange (one other : String) (oneIsFree : ¬ TypeUse.IsReserved one)
    (otherIsFree : ¬ TypeUse.IsReserved other) : Renaming where
  toFun := Equiv.swap one other
  injective := (Equiv.swap one other).injective
  fixes _ reserved := Equiv.swap_apply_of_ne_of_ne
    (fun same => oneIsFree (same ▸ reserved)) (fun same => otherIsFree (same ▸ reserved))

end Renaming

/-! ### Renamed declarations and edges -/

/-- A use with all names in it renamed, at any depth. -/
def TypeUse.rename (newName : Renaming) : TypeUse → TypeUse
  | ⟨name, scope, kind, arguments, elements, interfaces⟩ =>
    { name := newName name
      scope := scope
      kind := kind
      arguments := arguments.map (rename newName)
      elements := elements.map (rename newName)
      interfaces := interfaces.map newName }

def PropertyDecl.rename (newName : Renaming) (decl : PropertyDecl) : PropertyDecl :=
  { decl with type := decl.type.rename newName }

def ParameterDecl.rename (newName : Renaming) (decl : ParameterDecl) : ParameterDecl :=
  { decl with type := decl.type.rename newName }

def MethodDecl.rename (newName : Renaming) (decl : MethodDecl) : MethodDecl :=
  { decl with
    result := decl.result.rename newName
    parameters := decl.parameters.map (ParameterDecl.rename newName) }

/-- A declaration with all names of types in it renamed, its own included. -/
def TypeDecl.rename (newName : Renaming) (decl : TypeDecl) : TypeDecl :=
  { decl with
    name := newName decl.name
    bases := decl.bases.map (TypeUse.rename newName)
    ancestors := decl.ancestors.map (TypeUse.rename newName)
    interfaces := decl.interfaces.map (TypeUse.rename newName)
    properties := decl.properties.map (PropertyDecl.rename newName)
    methods := decl.methods.map (MethodDecl.rename newName) }

/-- An edge with both ends renamed. -/
def Edge.rename (newName : Renaming) (edge : Edge) : Edge :=
  { edge with
    origin := newName edge.origin
    target := newName edge.target }

variable (newName : Renaming)

/-! ### What is asked of a use -/

namespace TypeUse

@[simp]
theorem name_rename (type : TypeUse) : (type.rename newName).name = newName type.name := by
  cases type
  simp only [rename]

@[simp]
theorem scope_rename (type : TypeUse) : (type.rename newName).scope = type.scope := by
  cases type
  simp only [rename]

@[simp]
theorem kind_rename (type : TypeUse) : (type.rename newName).kind = type.kind := by
  cases type
  simp only [rename]

@[simp]
theorem arguments_rename (type : TypeUse) :
    (type.rename newName).arguments = type.arguments.map (rename newName) := by
  cases type
  simp only [rename]

@[simp]
theorem elements_rename (type : TypeUse) :
    (type.rename newName).elements = type.elements.map (rename newName) := by
  cases type
  simp only [rename]

@[simp]
theorem interfaces_rename (type : TypeUse) :
    (type.rename newName).interfaces = type.interfaces.map newName := by
  cases type
  simp only [rename]

theorem element?_rename (type : TypeUse) :
    (type.rename newName).element? = type.element?.map (rename newName) := by
  unfold element?
  rw [kind_rename, elements_rename, List.head?_map]
  split
  · rfl
  · rfl

/-- **What a use stands for** is renamed with it. -/
theorem target_rename (type : TypeUse) :
    (type.rename newName).target = type.target.rename newName := by
  unfold target
  rw [element?_rename, arguments_rename]
  cases type.element? with
  | some element => rfl
  | none =>
    match type.arguments with
    | [] => rfl
    | [only] => rfl
    | first :: second :: rest => rfl

theorem isArray_rename (type : TypeUse) : (type.rename newName).isArray = type.isArray := by
  rw [isArray, element?_rename, Option.isSome_map, isArray]

theorem isSystem_rename (type : TypeUse) : (type.rename newName).isSystem = type.isSystem := by
  rw [isSystem, scope_rename, isSystem]

theorem isText_rename (type : TypeUse) : (type.rename newName).isText = type.isText := by
  rw [Bool.eq_iff_iff, isText_iff, isText_iff, name_rename]
  exact newName.apply_iff (fun _ => .inr) type.name

theorem isReserved_of_mem_collectionNames (word : String) (member : word ∈ collectionNames) :
    IsReserved word := by
  have listed : collectionNames ⊆ ["", "Object", "IEnumerable", "ICollection", "List"] := by decide
  exact .inl (listed member)

/-- **A collection** is known by names that are reserved. -/
theorem isCollection_rename (type : TypeUse) :
    (type.rename newName).isCollection = type.isCollection := by
  have names : (((type.rename newName).name :: (type.rename newName).interfaces).any fun name =>
      collectionNames.contains name) =
        (type.name :: type.interfaces).any fun name => collectionNames.contains name := by
    rw [name_rename, interfaces_rename, ← List.map_cons (f := newName), List.any_map]
    congr 1
    funext name
    rw [Bool.eq_iff_iff, Function.comp_apply, List.contains_iff_mem, List.contains_iff_mem]
    exact newName.apply_iff isReserved_of_mem_collectionNames name
  rw [isCollection, isText_rename, isArray_rename, names, isCollection]

end TypeUse

/-! ### Edges rule by rule -/

/-- **The edge of a property** is renamed with it. -/
theorem PropertyDecl.edge?_rename (owner : String) (decl : PropertyDecl) :
    (decl.rename newName).edge? (newName owner) =
      (decl.edge? owner).map (Edge.rename newName) := by
  have nameless : newName decl.type.target.name = "" ↔ decl.type.target.name = "" :=
    newName.apply_eq_iff (.inl (by decide)) _
  have asked : (decl.rename newName).type = decl.type.rename newName := rfl
  dsimp only [edge?]
  rw [asked, TypeUse.target_rename, TypeUse.name_rename, TypeUse.isSystem_rename,
    TypeUse.kind_rename, TypeUse.isCollection_rename, if_congr (or_congr_left nameless) rfl rfl]
  split
  · rfl
  · split
    · rfl
    · split
      · rfl
      · rfl

namespace TypeDecl

variable (allAncestors : Bool) (owner : String) (decl : TypeDecl)

theorem drawnBases_rename :
    (decl.rename newName).drawnBases allAncestors =
      (decl.drawnBases allAncestors).map (TypeUse.rename newName) := by
  have chosen : wanted allAncestors (decl.rename newName).bases (decl.rename newName).ancestors =
      (wanted allAncestors decl.bases decl.ancestors).map (TypeUse.rename newName) :=
    (map_wanted _ _ _ _).symm
  rw [drawnBases_eq, drawnBases_eq, chosen, List.filter_map]
  refine congrArg _ (List.filter_congr fun base _ => ?_)
  rw [Function.comp_apply, decide_eq_decide, TypeUse.name_rename]
  exact not_congr (newName.apply_eq_iff (.inl (by decide)) base.name)

theorem baseEdges_rename :
    (decl.rename newName).baseEdges allAncestors (newName owner) =
      (decl.baseEdges allAncestors owner).map (Edge.rename newName) := by
  rw [baseEdges, baseEdges, drawnBases_rename, List.map_map, List.map_map]
  refine List.map_congr_left fun base _ => ?_
  rw [Function.comp_apply, Function.comp_apply, TypeUse.name_rename]
  rfl

theorem interfaceEdges_rename :
    (decl.rename newName).interfaceEdges (newName owner) =
      (decl.interfaceEdges owner).map (Edge.rename newName) := by
  have listed : (decl.rename newName).interfaces =
      decl.interfaces.map (TypeUse.rename newName) := rfl
  rw [interfaceEdges, interfaceEdges, listed, List.map_map, List.map_map]
  refine List.map_congr_left fun interface _ => ?_
  rw [Function.comp_apply, Function.comp_apply, TypeUse.name_rename]
  rfl

theorem propertyEdges_rename :
    (decl.rename newName).propertyEdges (newName owner) =
      (decl.propertyEdges owner).map (Edge.rename newName) := by
  have listed : (decl.rename newName).properties =
      decl.properties.map (PropertyDecl.rename newName) := rfl
  rw [propertyEdges, propertyEdges, listed, List.filterMap_map, List.map_filterMap]
  refine List.filterMap_congr fun property _ => ?_
  exact PropertyDecl.edge?_rename newName owner property

theorem candidates_rename :
    (decl.rename newName).candidates allAncestors (newName owner) =
      (decl.candidates allAncestors owner).map (Edge.rename newName) := by
  rw [candidates, candidates, baseEdges_rename, interfaceEdges_rename, propertyEdges_rename,
    List.map_append, List.map_append]

end TypeDecl

/-! ### The first edge of each key -/

namespace Edge

/-- Edges are the same after the renaming exactly if they were before. -/
theorem key_rename_eq_iff {first second : Edge} :
    (first.rename newName).key = (second.rename newName).key ↔ first.key = second.key := by
  rw [key_eq_iff, key_eq_iff]
  exact and_congr newName.injective.eq_iff (and_congr_left' newName.injective.eq_iff)

theorem key_rename_mem_iff {edge : Edge} {edges : List Edge} :
    (edge.rename newName).key ∈ (edges.map (rename newName)).map key ↔
      edge.key ∈ edges.map key := by
  rw [List.map_map, List.mem_map, List.mem_map]
  exact exists_congr fun other => and_congr_right' (key_rename_eq_iff newName)

/-- **The same edges come first** after the renaming. -/
theorem firsts_rename (edges : List Edge) :
    firsts (edges.map (rename newName)) = (firsts edges).map (rename newName) := by
  induction edges using List.reverseRecOn with
  | nil => rfl
  | append_singleton front last ih =>
    rw [List.map_append, List.map_singleton, firsts_concat, firsts_concat, ih]
    simp only [key_rename_mem_iff]
    split
    · rfl
    · rw [List.map_append, List.map_singleton]

end Edge

/-! ### Edges -/

/-- **Renaming types renames the ends of edges** and does nothing else. For every renaming that
keeps different names different and reserved names as they are, a renamed declaration has the edges
of the declaration with both ends renamed: the same number of them, in the same order, of the same
kinds and strokes. -/
theorem TypeDecl.edges_rename (newName : Renaming) (allAncestors : Bool) (owner : String)
    (decl : TypeDecl) :
    (decl.rename newName).edges allAncestors (newName owner) =
      (decl.edges allAncestors owner).map (Edge.rename newName) := by
  rw [edges, edges, EdgeSet.edges_ofList, EdgeSet.edges_ofList, candidates_rename,
    Edge.firsts_rename]

/-- Dogs are called huskies, and huskies are called dogs. -/
def Sample.huskyForDog : Renaming :=
  .exchange "Dog" "Husky" (by decide +kernel) (by decide +kernel)

/-- A husky in a pack of dogs, which are listed twice, and a label that is text. -/
def Sample.husky : TypeDecl where
  name := "Husky"
  ancestors := [{ name := "Dog" }, { name := "Wolf" }, { name := "Object" }]
  interfaces := [{ name := "IPet" }]
  properties :=
    [{ type := { name := "List", arguments := [{ name := "Dog" }] } },
      { type := { kind := .array, elements := [{ name := "Dog" }] } },
      { type := { name := "STRing", kind := .array, elements := [{ name := "Husky" }] } }]

/-- With the names exchanged, a dog inherits from huskies and aggregates them. Wolves, and the root,
lists and text, are what they were. -/
theorem TypeDecl.edges_rename_husky :
    (Sample.husky.rename Sample.huskyForDog).edges true "Dog" =
      [⟨"Dog", "Husky", .inheritance, .solid⟩, ⟨"Dog", "Wolf", .inheritance, .solid⟩,
        ⟨"Dog", "IPet", .realization, .dashed⟩, ⟨"Husky", "Dog", .aggregation, .solid⟩,
        ⟨"Dog", "Dog", .association, .solid⟩] := by
  have owner : Sample.huskyForDog "Husky" = "Dog" := by decide +kernel
  have renamed := edges_rename Sample.huskyForDog true "Husky" Sample.husky
  rw [owner] at renamed
  rw [renamed]
  decide +kernel

end TypeChart
