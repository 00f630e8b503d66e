/-
**From candidates to edges.**

A declaration names the candidates for its edges rule by rule: its bases, its interfaces, its
properties. Of each key the first candidate becomes an edge, whichever rule named it and whichever
rules named it again. So an interface that lists one of its bases among its interfaces keeps the
stroke of the base.

* `Edge.firsts_sublist`, `Edge.find?_firsts`: the firsts of a list stand in its order, and looking
  up a key finds the same edge among them as in the list.
* `TypeDecl.drawnBases_eq`: which bases are candidates, in either way of drawing.
* `TypeDecl.edges_eq_firsts`: the edges of a declaration.
-/

import TypeChart.Edge.Inference
import TypeChart.Proofs.Edge.History

namespace TypeChart

namespace Edge

/-! ### The firsts of a list -/

theorem firsts_sublist (edges : List Edge) : (firsts edges).Sublist edges := by
  have places : (edges.zipIdx.map Prod.fst).Sublist edges := by
    rw [List.zipIdx_map_fst]
  exact (List.filter_sublist.map Prod.fst).trans places

/-- What was found in the front of a list is found in the list. -/
theorem find?_concat_of_mem {front : List Edge} {last : Edge} {key : String × String × EdgeKind}
    (known : key ∈ front.map Edge.key) :
    (front ++ [last]).find? (fun edge => edge.key = key) =
      front.find? (fun edge => edge.key = key) := by
  obtain ⟨held, member, same⟩ := List.mem_map.mp known
  have found : (front.find? fun edge => edge.key = key).isSome :=
    List.find?_isSome.mpr ⟨held, member, decide_eq_true same⟩
  rw [List.find?_append, Option.or_of_isSome found]

/-- **The first edge of a key** is the one that is kept. -/
theorem find?_firsts (key : String × String × EdgeKind) (edges : List Edge) :
    (firsts edges).find? (fun edge => edge.key = key) =
      edges.find? (fun edge => edge.key = key) := by
  induction edges using List.reverseRecOn with
  | nil => rfl
  | append_singleton front last ih =>
    rw [firsts_concat]
    by_cases known : last.key ∈ front.map Edge.key
    · rw [if_pos known, ih]
      by_cases asked : last.key = key
      · rw [find?_concat_of_mem (asked ▸ known)]
      · rw [List.find?_append, List.find?_cons_of_neg (by simpa using asked), List.find?_nil,
          Option.or_none]
    · rw [if_neg known, List.find?_append, List.find?_append, ih]

end Edge

namespace TypeDecl

/-! ### Candidates -/

section Wanted

variable {α β : Type}

/-- What is asked for of bases and ancestors. With all ancestors wanted, these are the ancestors, or
the bases where none are listed. Else it is the first base, or where none is given the first
ancestor. -/
def wanted (allAncestors : Bool) (bases ancestors : List α) : List α :=
  match allAncestors, bases, ancestors with
  | true, bases, [] => bases
  | true, _, nearest :: further => nearest :: further
  | false, base :: _, _ => [base]
  | false, [], nearest :: _ => [nearest]
  | false, [], [] => []

theorem map_wanted (f : α → β) (allAncestors : Bool) (bases ancestors : List α) :
    (wanted allAncestors bases ancestors).map f =
      wanted allAncestors (bases.map f) (ancestors.map f) := by
  cases allAncestors <;> cases bases <;> cases ancestors <;> rfl

end Wanted

/-- **Of the bases that are asked for, all are drawn** but the root of all classes. -/
theorem drawnBases_eq (allAncestors : Bool) (decl : TypeDecl) :
    decl.drawnBases allAncestors =
      (wanted allAncestors decl.bases decl.ancestors).filter fun base => base.name ≠ "Object" := by
  have noRoot : (fun base : TypeUse => !base.isRoot) =
      fun base => decide (base.name ≠ "Object") := by
    funext base
    rw [TypeUse.isRoot, decide_not]
    rfl
  rw [drawnBases, noRoot]
  unfold wanted
  cases allAncestors with
  | true =>
    cases decl.ancestors with
    | nil => rfl
    | cons nearest further => rfl
  | false =>
    cases decl.bases with
    | cons base rest => rfl
    | nil =>
      cases decl.ancestors with
      | nil => rfl
      | cons nearest further => rfl

/-! ### Edges -/

/-- **The edges of a declaration are its first candidates.** The candidates are the wanted bases but
the root, then the interfaces, then what the properties imply. Of each key the first is an edge,
with its stroke and in the order of the candidates; every key is there, and nothing else is. -/
theorem edges_eq_firsts (allAncestors : Bool) (owner : String) (decl : TypeDecl) :
    let bases := (wanted allAncestors decl.bases decl.ancestors).filter fun base =>
      base.name ≠ "Object"
    let all : List Edge :=
      bases.map (fun base => ⟨owner, base.name, .inheritance, .solid⟩) ++
        decl.interfaces.map (fun interface =>
          ⟨owner, interface.name,
            if decl.kind = .interface then .inheritance else .realization, .dashed⟩) ++
        decl.properties.filterMap (PropertyDecl.edge? owner)
    let edges := decl.edges allAncestors owner
    edges = Edge.firsts all ∧ edges.Sublist all ∧
      (∀ key, key ∈ edges.map Edge.key ↔ key ∈ all.map Edge.key) ∧
      (∀ key, edges.find? (fun edge => edge.key = key) = all.find? (fun edge => edge.key = key)) ∧
      (edges.map Edge.key).Nodup := by
  intro bases all edges
  have isAll : decl.candidates allAncestors owner = all := by
    rw [candidates, baseEdges, drawnBases_eq]
    rfl
  have isFirsts : edges = Edge.firsts all := by
    rw [← isAll]
    exact EdgeSet.edges_ofList _
  refine ⟨isFirsts, ?_, fun key => ?_, fun key => ?_, EdgeSet.nodup_keys _⟩
  · rw [isFirsts]
    exact Edge.firsts_sublist all
  · rw [← isAll]
    exact EdgeSet.mem_keys_ofList
  · rw [isFirsts]
    exact Edge.find?_firsts key all

-- an interface that lists its base again keeps the solid edge to it
example :
    edges false "IPet"
      { name := "IPet", kind := .interface
        bases := [{ name := "IAnimal" }]
        interfaces := [{ name := "INamed" }, { name := "IAnimal" }, { name := "INamed" }] } =
      [⟨"IPet", "IAnimal", .inheritance, .solid⟩, ⟨"IPet", "INamed", .inheritance, .dashed⟩] := by
  decide

end TypeDecl

end TypeChart
