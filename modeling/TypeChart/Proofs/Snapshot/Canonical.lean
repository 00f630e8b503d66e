/-
**What a document can say.**

A document has one place for a base and one for an element type, and whatever has an element type is
read as an array. So a type reference that was read has at most one element type, at any depth, and
a declaration at most one base. Such snapshots are canonical: `Snapshot.isCanonical_of_ofJson`.
-/

import TypeChart.Proofs.Snapshot.Entries

namespace TypeChart

/-! ### Canonical snapshots -/

/-- At most one element type, in arrays only, in a use and in all uses below it. -/
inductive TypeUse.IsCanonical : TypeUse → Prop
  | intro {type : TypeUse}
      (single : type.elements.length ≤ 1)
      (array : type.elements ≠ [] → type.kind = .array)
      (arguments : ∀ argument ∈ type.arguments, argument.IsCanonical)
      (elements : ∀ element ∈ type.elements, element.IsCanonical) :
      type.IsCanonical

structure MethodDecl.IsCanonical (decl : MethodDecl) : Prop where
  result : decl.result.IsCanonical
  parameters : ∀ parameter ∈ decl.parameters, parameter.type.IsCanonical

/-- At most one base, and nothing but canonical uses. -/
structure TypeDecl.IsCanonical (decl : TypeDecl) : Prop where
  single : decl.bases.length ≤ 1
  bases : ∀ base ∈ decl.bases, base.IsCanonical
  ancestors : ∀ ancestor ∈ decl.ancestors, ancestor.IsCanonical
  interfaces : ∀ interface ∈ decl.interfaces, interface.IsCanonical
  properties : ∀ property ∈ decl.properties, property.type.IsCanonical
  methods : ∀ method ∈ decl.methods, method.IsCanonical

def Snapshot.IsCanonical (snapshot : Snapshot) : Prop :=
  ∀ unit ∈ snapshot.units, ∀ decl ∈ unit.types, decl.IsCanonical

/-! ### Type references -/

theorem Json.length_saidAt (json : Json) (name : String) : (json.saidAt name).length ≤ 1 := by
  unfold saidAt
  split
  · exact Nat.zero_le 1
  · exact Nat.zero_le 1
  · exact Nat.le_refl 1

namespace TypeUse

theorem IsCanonical.of_eq_nil {type : TypeUse} (arguments : type.arguments = [])
    (elements : type.elements = []) : type.IsCanonical := by
  refine .intro ?_ (fun notEmpty => absurd elements notEmpty) ?_ ?_
  · rw [elements]
    exact Nat.zero_le 1
  · rw [arguments]
    exact fun _ member => nomatch member
  · rw [elements]
    exact fun _ member => nomatch member

/-- The references in a reference are below it, so they are canonical first. -/
theorem isCanonical_ofJson (json : Json) : (ofJson json).IsCanonical := by
  by_cases bare : ∃ name, json = .string name
  · obtain ⟨name, rfl⟩ := bare
    rw [ofJson_string]
    exact .of_eq_nil rfl rfl
  · rw [ofJson_of_ne_string (not_exists.mp bare)]
    refine .intro ?_ (fun notEmpty => ?_) (fun argument member => ?_) fun element member => ?_
    · rw [List.length_map]
      exact json.length_saidAt "element_type"
    · refine if_neg fun isEmpty => notEmpty ?_
      rw [List.isEmpty_iff.mp isEmpty, List.map_nil]
    · obtain ⟨item, inside, rfl⟩ := List.mem_map.mp member
      have := Json.sizeOf_itemsAt inside
      exact isCanonical_ofJson item
    · obtain ⟨item, inside, rfl⟩ := List.mem_map.mp member
      have := Json.sizeOf_saidAt inside
      exact isCanonical_ofJson item
termination_by sizeOf json

theorem isCanonical_oneAt (json : Json) (name : String) : (oneAt json name).IsCanonical := by
  unfold oneAt
  cases json.get? name with
  | none => exact .of_eq_nil rfl rfl
  | some said => exact isCanonical_ofJson said

theorem isCanonical_of_mem_map_ofJson {items : List Json} :
    ∀ type ∈ items.map ofJson, type.IsCanonical :=
  List.forall_mem_map.mpr fun item _ => isCanonical_ofJson item

end TypeUse

/-! ### Declarations and documents -/

theorem MethodDecl.isCanonical_ofJson (json : Json) : (MethodDecl.ofJson json).IsCanonical where
  result := TypeUse.isCanonical_oneAt json "return_type"
  parameters := List.forall_mem_map.mpr fun item _ => TypeUse.isCanonical_oneAt item "type"

theorem TypeDecl.isCanonical_of_ofJson? {json : Json} {decl : TypeDecl}
    (isRead : TypeDecl.ofJson? json = some decl) : decl.IsCanonical := by
  unfold TypeDecl.ofJson? at isRead
  split at isRead
  · cases isRead
    exact
      { single := le_of_eq_of_le (List.length_map TypeUse.ofJson) (json.length_saidAt "base")
        bases := TypeUse.isCanonical_of_mem_map_ofJson
        ancestors := TypeUse.isCanonical_of_mem_map_ofJson
        interfaces := TypeUse.isCanonical_of_mem_map_ofJson
        properties := List.forall_mem_map.mpr fun item _ => TypeUse.isCanonical_oneAt item "type"
        methods := List.forall_mem_map.mpr fun item _ => MethodDecl.isCanonical_ofJson item }
  · cases isRead

/-- **Only canonical snapshots are read.** -/
theorem Snapshot.isCanonical_of_ofJson {json : Json} {snapshot : Snapshot}
    (isRead : Snapshot.ofJson json = .ok snapshot) : snapshot.IsCanonical := by
  intro unit unitMember decl declMember
  obtain ⟨entry, _, declRead⟩ :=
    (exists_mem_types_iff_of_ofJson isRead).mp ⟨unit, unitMember, declMember⟩
  exact TypeDecl.isCanonical_of_ofJson? declRead

end TypeChart
