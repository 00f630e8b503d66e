/-
**Sets of edges, key by key.**

Inserting an edge looks at nothing but keys. So the keys of a set are the keys of the list that it
was filled from, and whatever is chosen from a set by its keys could have been chosen from the list:
edges of other keys do not change which edge of a key comes first.

* `EdgeSet.mem_keys_ofList`: the keys of the set of a list.
* `EdgeSet.exists_mem_ofList_iff`: what keys tell of the edges of a set.
* `EdgeSet.restrict_insert`: one more edge, and what is chosen from the set.
* `EdgeSet.filter_edges_ofList`: choosing by keys before and after the set is filled.
-/

import Mathlib.Data.List.Basic
import TypeChart.Edge.Set

namespace TypeChart.EdgeSet

/-! ### Keys -/

theorem mem_keys_insert {set : EdgeSet} {edge : Edge} {key : String × String × EdgeKind} :
    key ∈ (set.insert edge).edges.map Edge.key ↔ key ∈ set.edges.map Edge.key ∨ key = edge.key := by
  rw [edges_insert]
  by_cases present : set.contains edge = true
  · rw [if_pos present]
    refine (or_iff_left_of_imp ?_).symm
    rintro rfl
    obtain ⟨held, member, same⟩ := contains_iff.mp present
    exact List.mem_map.mpr ⟨held, member, same⟩
  · rw [if_neg present, List.map_append, List.mem_append, List.map_singleton, List.mem_singleton]

theorem mem_keys_foldl_insert {edges : List Edge} {set : EdgeSet}
    {key : String × String × EdgeKind} :
    key ∈ (edges.foldl insert set).edges.map Edge.key ↔
      key ∈ set.edges.map Edge.key ∨ key ∈ edges.map Edge.key := by
  induction edges generalizing set with
  | nil => simp
  | cons edge rest ih =>
    rw [List.foldl_cons, ih, mem_keys_insert, List.map_cons, List.mem_cons, or_assoc]

/-- A set has the keys of the list that it was filled from. -/
theorem mem_keys_ofList {edges : List Edge} {key : String × String × EdgeKind} :
    key ∈ (ofList edges).edges.map Edge.key ↔ key ∈ edges.map Edge.key := by
  unfold ofList
  rw [mem_keys_foldl_insert]
  exact or_iff_right List.not_mem_nil

/-- What a key tells is told of an edge of the set if it is told of an edge of the list: of the
edges that share the key, the first is in the set. -/
theorem exists_mem_ofList_iff {P : Edge → Prop}
    (told : ∀ {first second : Edge}, first.key = second.key → (P first ↔ P second))
    {edges : List Edge} : (∃ edge ∈ (ofList edges).edges, P edge) ↔ ∃ edge ∈ edges, P edge := by
  constructor
  · rintro ⟨edge, member, holds⟩
    exact ⟨edge, mem_of_mem_ofList member, holds⟩
  · rintro ⟨edge, member, holds⟩
    obtain ⟨first, kept, same⟩ := List.mem_map.mp (mem_keys_ofList.mpr (List.mem_map_of_mem member))
    exact ⟨first, kept, (told same).mpr holds⟩

/-! ### Choosing by keys -/

/-- The edges of a set whose keys are chosen. -/
def restrict (chosen : String × String × EdgeKind → Bool) (set : EdgeSet) : EdgeSet where
  edges := set.edges.filter fun edge => chosen edge.key
  distinct := set.distinct.filter _

variable {chosen : String × String × EdgeKind → Bool}

@[simp]
theorem edges_restrict (set : EdgeSet) :
    (set.restrict chosen).edges = set.edges.filter fun edge => chosen edge.key :=
  rfl

theorem eq_of_edges_eq {first second : EdgeSet} (same : first.edges = second.edges) :
    first = second := by
  obtain ⟨edges, _⟩ := first
  obtain ⟨_, _⟩ := second
  cases same
  rfl

theorem contains_restrict {set : EdgeSet} {edge : Edge} (isChosen : chosen edge.key = true) :
    (set.restrict chosen).contains edge = true ↔ set.contains edge = true := by
  simp only [contains_iff, edges_restrict, List.mem_filter]
  constructor
  · rintro ⟨held, ⟨member, _⟩, same⟩
    exact ⟨held, member, same⟩
  · rintro ⟨held, member, same⟩
    exact ⟨held, ⟨member, same ▸ isChosen⟩, same⟩

/-- **One more edge** is one more among the chosen ones if its key is chosen, and else none. -/
theorem restrict_insert (set : EdgeSet) (edge : Edge) :
    (set.insert edge).restrict chosen =
      if chosen edge.key = true then (set.restrict chosen).insert edge
      else set.restrict chosen := by
  apply eq_of_edges_eq
  by_cases isChosen : chosen edge.key = true
  · rw [if_pos isChosen, edges_restrict, edges_insert, edges_insert, edges_restrict]
    by_cases present : set.contains edge = true
    · rw [if_pos present, if_pos ((contains_restrict isChosen).mpr present)]
    · rw [if_neg present, if_neg (mt (contains_restrict isChosen).mp present), List.filter_append,
        List.filter_singleton, isChosen, cond_true]
  · rw [if_neg isChosen, edges_restrict, edges_restrict, edges_insert]
    split
    · rfl
    · rw [List.filter_append, List.filter_singleton, eq_false_of_ne_true isChosen, cond_false,
        List.append_nil]

theorem restrict_foldl_insert (edges : List Edge) (set : EdgeSet) :
    (edges.foldl insert set).restrict chosen =
      (edges.filter fun edge => chosen edge.key).foldl insert (set.restrict chosen) := by
  induction edges generalizing set with
  | nil => rfl
  | cons edge rest ih =>
    rw [List.foldl_cons, ih, restrict_insert, List.filter_cons]
    split
    · rfl
    · rfl

/-- **Choosing by keys and filling a set commute.** -/
theorem filter_edges_ofList (chosen : String × String × EdgeKind → Bool) (edges : List Edge) :
    (ofList edges).edges.filter (fun edge => chosen edge.key) =
      (ofList (edges.filter fun edge => chosen edge.key)).edges :=
  congrArg EdgeSet.edges (restrict_foldl_insert edges empty)

end TypeChart.EdgeSet
