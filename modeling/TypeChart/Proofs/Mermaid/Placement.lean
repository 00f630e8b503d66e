/-
**From a namespace to a container.**

Whether and where a declaration is put into a container is settled twice: its classifier has a
namespace unless the text of it is blank, and the document by namespace has a container for each key
of a namespace. Together they put a type by nothing but the text of its namespace. A type of a blank
namespace and a declared enumeration stand outside all containers, no container has a blank key, and
two types share a container exactly if their namespaces differ in nothing but dots and dashes.

* `Scope.exists_not_blank_key`, `Scope.key_inj`: what a key keeps of its namespace.
* `Declaration.container_classifier`: the container of a declaration.
* `Placement.byScope_ofList`: where declarations are put.
* `Snapshot.document_byNamespace`: the document of a snapshot puts them there.
-/

import TypeChart.Proofs.Mermaid.Grouped
import TypeChart.Proofs.Mermaid.Reading
import TypeChart.Proofs.Roster.WellFormed

namespace TypeChart

/-! ### Keys -/

namespace Scope

/-- A key is not blank if its namespace is not. -/
theorem exists_not_blank_key {scope : String} (visible : ∃ c ∈ scope.toList, isBlank c = false) :
    ∃ c ∈ (key scope).toList, isBlank c = false := by
  obtain ⟨c, member, notBlank⟩ := visible
  refine ⟨if c = '.' then '-' else c, ?_, ?_⟩
  · rw [toList_key]
    exact List.mem_map_of_mem member
  · split
    · decide
    · exact notBlank

/-- The namespace of a key, if it had no dashes of its own. -/
def ofKey (key : String) : String :=
  key.map fun c => if c = '-' then '.' else c

theorem ofKey_key {scope : String} (noDash : '-' ∉ scope.toList) : ofKey (key scope) = scope := by
  rw [← String.toList_inj, ofKey, String.toList_map, toList_key, List.map_map]
  conv_rhs => rw [← List.map_id scope.toList]
  refine List.map_congr_left fun c member => ?_
  by_cases isDot : c = '.'
  · simp [isDot]
  · have notDash : c ≠ '-' := fun isDash => noDash (isDash ▸ member)
    simp [isDot, notDash]

/-- Without dashes of their own, namespaces of one key are equal. -/
theorem key_inj {first second : String} (firstPlain : '-' ∉ first.toList)
    (secondPlain : '-' ∉ second.toList) : key first = key second ↔ first = second := by
  refine ⟨fun same => ?_, congrArg key⟩
  rw [← ofKey_key firstPlain, same, ofKey_key secondPlain]

end Scope

/-! ### Declarations -/

namespace Declaration

/-- A declaration that no namespace is told of: an enumeration, or a type of a blank one. -/
def isLoose : Declaration → Bool
  | type decl => decl.scope.toList.all Scope.isBlank
  | enumeration _ => true

/-- The key of the container in which a declaration is to stand. -/
def home : Declaration → Option String
  | type decl => (Scope.ofText? decl.scope).map Scope.key
  | enumeration _ => none

theorem container_classifier (allAncestors : Bool) (declaration : Declaration) :
    (declaration.classifier allAncestors).container = declaration.home := by
  cases declaration with
  | type decl =>
    show decl.box.scope.map Scope.key = _
    rw [decl.scope_box, home]
  | enumeration decl => rfl

theorem home_eq_none_iff {declaration : Declaration} :
    declaration.home = none ↔ declaration.isLoose = true := by
  cases declaration with
  | type decl =>
    rw [home, Option.map_eq_none_iff, Scope.ofText?, isLoose]
    split
    · rename_i blank
      exact iff_of_true rfl blank
    · rename_i notBlank
      exact iff_of_false nofun notBlank
  | enumeration decl => exact iff_of_true rfl rfl

theorem home_of_not_blank {decl : TypeDecl}
    (notBlank : decl.scope.toList.all Scope.isBlank = false) :
    (Declaration.type decl).home = some (Scope.key decl.scope) := by
  rw [home, Scope.ofText?, notBlank]
  rfl

theorem exists_not_blank_of_home {declaration : Declaration} {key : String}
    (isHome : declaration.home = some key) : ∃ c ∈ key.toList, Scope.isBlank c = false := by
  cases declaration with
  | type decl =>
    obtain ⟨scope, isScope, rfl⟩ := Option.map_eq_some_iff.mp isHome
    exact Scope.exists_not_blank_key (Scope.exists_not_blank_of_ofText? isScope)
  | enumeration decl => cases isHome

end Declaration

/-! ### Where declarations are put -/

/-- Declarations outside all containers, and those in the container of each key. -/
structure Placement where
  loose : List Declaration
  containers : List (String × List Declaration)

namespace Placement

/-- The placement of declarations by their namespaces. -/
def ofList (declarations : List Declaration) : Placement where
  loose := declarations.filter Declaration.isLoose
  containers := (sortedKeys (declarations.filterMap Declaration.home)).map fun key =>
    (key, declarations.filter fun declaration => declaration.home = some key)

/-- The lines of the bodies of placed declarations. -/
def bodies (allAncestors : Bool) (placement : Placement) : List String :=
  (placement.loose.flatMap fun declaration => (declaration.classifier allAncestors).body 1) ++
    placement.containers.flatMap fun container =>
      [indented 1 ("namespace " ++ container.1 ++ " \x7b")] ++
        (container.2.flatMap fun declaration => (declaration.classifier allAncestors).body 2) ++
        [indented 1 "\x7d"]

/-- Some container holds both of two types. -/
def Unites (placement : Placement) (first second : TypeDecl) : Prop :=
  ∃ container ∈ placement.containers, .type first ∈ container.2 ∧ .type second ∈ container.2

/-- A placement puts declarations by nothing but the text of their namespaces. -/
structure ByScope (placement : Placement) (declarations : List Declaration) : Prop where
  /-- Outside all containers are, in order, the enumerations and the types of a blank namespace. -/
  outside : placement.loose = declarations.filter Declaration.isLoose
  /-- No container holds these, and every other declaration is in one. -/
  inside : ∀ declaration ∈ declarations,
    (∀ container ∈ placement.containers, declaration ∉ container.2) ↔ declaration.isLoose = true
  /-- No key of a container is blank. -/
  visible : ∀ container ∈ placement.containers, ∃ c ∈ container.1.toList, Scope.isBlank c = false
  /-- Types share a container if their namespaces do not differ once dots are dashes. -/
  shared : ∀ first second : TypeDecl,
    .type first ∈ declarations → .type second ∈ declarations →
    first.scope.toList.all Scope.isBlank = false → second.scope.toList.all Scope.isBlank = false →
      (placement.Unites first second ↔
        (first.scope.map fun c => if c = '.' then '-' else c) =
          second.scope.map fun c => if c = '.' then '-' else c)
  /-- Without dashes, types share a container if their namespaces are equal. -/
  plain : ∀ first second : TypeDecl,
    .type first ∈ declarations → .type second ∈ declarations →
    first.scope.toList.all Scope.isBlank = false → second.scope.toList.all Scope.isBlank = false →
    '-' ∉ first.scope.toList → '-' ∉ second.scope.toList →
      (placement.Unites first second ↔ first.scope = second.scope)

variable {declarations : List Declaration}

theorem mem_containers_ofList_iff {container : String × List Declaration} :
    container ∈ (ofList declarations).containers ↔
      (∃ declaration ∈ declarations, declaration.home = some container.1) ∧
        container.2 = declarations.filter fun declaration =>
          declaration.home = some container.1 := by
  obtain ⟨key, inside⟩ := container
  rw [ofList, List.mem_map]
  simp only [mem_sortedKeys, List.mem_filterMap, Prod.mk.injEq]
  constructor
  · rintro ⟨other, isKey, rfl, rfl⟩
    exact ⟨isKey, rfl⟩
  · rintro ⟨isKey, here⟩
    exact ⟨key, isKey, rfl, here.symm⟩

theorem mem_container_iff {container : String × List Declaration}
    (listed : container ∈ (ofList declarations).containers) {declaration : Declaration} :
    declaration ∈ container.2 ↔
      declaration ∈ declarations ∧ declaration.home = some container.1 := by
  rw [(mem_containers_ofList_iff.mp listed).2, List.mem_filter, decide_eq_true_iff]

/-- Every key that a declaration has is that of a container. -/
theorem exists_container {declaration : Declaration} (member : declaration ∈ declarations)
    {key : String} (isHome : declaration.home = some key) :
    ∃ container ∈ (ofList declarations).containers,
      container.1 = key ∧ declaration ∈ container.2 := by
  have listed : (key, declarations.filter fun other => other.home = some key) ∈
      (ofList declarations).containers :=
    mem_containers_ofList_iff.mpr ⟨⟨declaration, member, isHome⟩, rfl⟩
  exact ⟨_, listed, rfl, (mem_container_iff listed).mpr ⟨member, isHome⟩⟩

/-- **Two declarations are united exactly if they have one key.** -/
theorem unites_ofList_iff {first second : TypeDecl} (firstMember : .type first ∈ declarations)
    (secondMember : .type second ∈ declarations)
    (firstScoped : first.scope.toList.all Scope.isBlank = false)
    (secondScoped : second.scope.toList.all Scope.isBlank = false) :
    (ofList declarations).Unites first second ↔
      Scope.key first.scope = Scope.key second.scope := by
  have firstHome := Declaration.home_of_not_blank firstScoped
  have secondHome := Declaration.home_of_not_blank secondScoped
  constructor
  · rintro ⟨container, listed, holdsFirst, holdsSecond⟩
    have one := ((mem_container_iff listed).mp holdsFirst).2
    have other := ((mem_container_iff listed).mp holdsSecond).2
    exact Option.some.inj (firstHome.symm.trans (one.trans (other.symm.trans secondHome)))
  · intro same
    obtain ⟨container, listed, isKey, holdsFirst⟩ := exists_container firstMember firstHome
    refine ⟨container, listed, holdsFirst, (mem_container_iff listed).mpr ⟨secondMember, ?_⟩⟩
    rw [secondHome, isKey, same]

/-- **Declarations are placed by their namespaces.** -/
theorem byScope_ofList (declarations : List Declaration) :
    (ofList declarations).ByScope declarations where
  outside := rfl
  inside := by
    intro declaration member
    rw [← Declaration.home_eq_none_iff]
    constructor
    · intro nowhere
      cases home : declaration.home with
      | none => rfl
      | some key =>
        obtain ⟨container, listed, _, held⟩ := exists_container member home
        exact absurd held (nowhere container listed)
    · intro homeless container listed held
      rw [((mem_container_iff listed).mp held).2] at homeless
      cases homeless
  visible := by
    intro container listed
    obtain ⟨⟨declaration, _, isHome⟩, _⟩ := mem_containers_ofList_iff.mp listed
    exact Declaration.exists_not_blank_of_home isHome
  shared _ _ firstMember secondMember firstScoped secondScoped :=
    unites_ofList_iff firstMember secondMember firstScoped secondScoped
  plain _ _ firstMember secondMember firstScoped secondScoped firstPlain secondPlain :=
    (unites_ofList_iff firstMember secondMember firstScoped secondScoped).trans
      (Scope.key_inj firstPlain secondPlain)

end Placement

/-! ### Documents -/

/-- The bodies of a grouping of classifiers are those of the placed declarations. -/
theorem Grouping.bodies_ofList_map (allAncestors : Bool) (declarations : List Declaration) :
    (ofList (declarations.map (Declaration.classifier allAncestors))).bodies =
      (Placement.ofList declarations).bodies allAncestors := by
  have loose : (declarations.map (Declaration.classifier allAncestors)).filter
      (fun classifier => classifier.container = none) =
        (declarations.filter Declaration.isLoose).map (Declaration.classifier allAncestors) := by
    rw [List.filter_map]
    refine congrArg _ (List.filter_congr fun declaration _ => ?_)
    rw [Function.comp_apply, Declaration.container_classifier, Bool.eq_iff_iff, decide_eq_true_iff,
      Declaration.home_eq_none_iff]
  have keys : keysOf (declarations.map (Declaration.classifier allAncestors)) =
      sortedKeys (declarations.filterMap Declaration.home) := by
    rw [keysOf, List.filterMap_map]
    refine congrArg _ (List.filterMap_congr fun declaration _ => ?_)
    exact declaration.container_classifier allAncestors
  have members : ∀ key, membersOf (declarations.map (Declaration.classifier allAncestors)) key =
      (declarations.filter fun declaration => declaration.home = some key).map
        (Declaration.classifier allAncestors) := by
    intro key
    rw [membersOf, List.filter_map]
    refine congrArg _ (List.filter_congr fun declaration _ => ?_)
    rw [Function.comp_apply, Declaration.container_classifier]
  rw [ofList_eq]
  unfold bodies separated Placement.bodies Placement.ofList Container.block
  simp only [loose, keys, members, List.flatMap_map]

/-- **The document by namespace places declarations by the text of their namespaces.** First come
the bodies of the declarations outside all containers, then those in each container; after them the
stereotypes and the edges of all declarations that are not dropped. -/
theorem Snapshot.document_byNamespace (options : Options) (grouped : options.byNamespace = true)
    (snapshot : Snapshot) :
    let kept := SourceUnit.kept options snapshot.units
    let placement := Placement.ofList kept
    placement.ByScope kept ∧
      (snapshot.document options).1 =
        unlines
          ((snapshot.diagram options).1.header ++
            placement.bodies options.allAncestors ++
            [""] ++ kept.map (fun declaration =>
              (declaration.classifier options.allAncestors).stereotypeLine) ++
            [""] ++ kept.flatMap (fun declaration =>
              (declaration.classifier options.allAncestors).edgeLines) ++
            [Diagram.footer]) := by
  refine ⟨Placement.byScope_ofList _, ?_⟩
  have layout : options.layout = .byNamespace := if_pos grouped
  rw [text_document, layout, Diagram.text, Diagram.lines, Diagram.content, classifiers_diagram,
    Grouping.bodies_ofList_map, List.map_map, List.flatMap_map]
  simp only [List.append_assoc]
  rfl

/-- Two namespaces of one key, a blank one and an enumeration that has none. -/
def Sample.town : SourceUnit where
  path := "Town.cs"
  types :=
    [{ name := "Mill", scope := "Old.Town" },
      { name := "Moor", scope := " \t" },
      { name := "Market", kind := .enumeration, scope := "Old-Town" }]
  enums := [{ name := "Season", members := ["Wet", "Dry"] }]

/-- The mill and the market share a container, and the moor stands outside with the season. -/
theorem Snapshot.document_byNamespace_town :
    let placement := Placement.ofList (SourceUnit.kept { byNamespace := true } [Sample.town])
    ({ byNamespace := true } : Options).byNamespace = true ∧
      placement.Unites Sample.town.types[0] Sample.town.types[2] ∧
      placement.loose = [.type Sample.town.types[1], .enumeration Sample.town.enums[0]] := by
  have mill : .type Sample.town.types[0] ∈ SourceUnit.kept { byNamespace := true } [Sample.town] :=
    List.mem_cons_self
  have market :
      .type Sample.town.types[2] ∈ SourceUnit.kept { byNamespace := true } [Sample.town] :=
    List.mem_cons_of_mem _ (List.mem_cons_of_mem _ List.mem_cons_self)
  obtain ⟨byScope, _⟩ := document_byNamespace { byNamespace := true } rfl { units := [Sample.town] }
  refine ⟨rfl, (byScope.shared _ _ mill market (by decide) (by decide)).mpr ?_, byScope.outside⟩
  rw [← String.toList_inj, String.toList_map, String.toList_map]
  decide

end TypeChart
