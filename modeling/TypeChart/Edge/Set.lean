/-
**Sets of edges in order of first insertion.**

An `EdgeSet` holds no two edges of one key. Insertion keeps the edge that came first, with its
stroke, and drops every later one of its key.

* `EdgeSet.edges_insert`: what insertion does to the list of edges.
* `EdgeSet.contains_iff`: membership is membership of the key.
* `EdgeSet.mem_of_mem_ofList`: the set of a list holds nothing that the list does not.
-/

import TypeChart.Edge.Basic

namespace TypeChart

/-- Edges of pairwise different keys, in the order in which they were first inserted. -/
structure EdgeSet where
  edges : List Edge
  distinct : edges.Pairwise fun first second => first.key ≠ second.key

namespace EdgeSet

/-- The set without edges. -/
def empty : EdgeSet := ⟨[], .nil⟩

instance : Inhabited EdgeSet := ⟨empty⟩

theorem nodup_keys (set : EdgeSet) : (set.edges.map Edge.key).Nodup :=
  List.pairwise_map.mpr set.distinct

/-- The number of edges. -/
def size (set : EdgeSet) : Nat :=
  set.edges.length

/-- Whether the set holds an edge of the same key. -/
def contains (set : EdgeSet) (edge : Edge) : Bool :=
  set.edges.any fun held => held.key == edge.key

theorem contains_iff {set : EdgeSet} {edge : Edge} :
    set.contains edge = true ↔ ∃ held ∈ set.edges, held.key = edge.key := by
  simp [contains]

/-- The set with an edge at its end, unless one of the same key is there. -/
def insert (set : EdgeSet) (edge : Edge) : EdgeSet :=
  if present : set.contains edge = true then set
  else
    { edges := set.edges ++ [edge]
      distinct := by
        rw [List.pairwise_append]
        refine ⟨set.distinct, List.pairwise_singleton _ _, ?_⟩
        intro held member added last same
        rw [List.mem_singleton.mp last] at same
        exact present (contains_iff.mpr ⟨held, member, same⟩) }

theorem edges_insert (set : EdgeSet) (edge : Edge) :
    (set.insert edge).edges =
      if set.contains edge = true then set.edges else set.edges ++ [edge] := by
  unfold insert
  split <;> rfl

theorem mem_of_mem_insert {set : EdgeSet} {edge other : Edge}
    (member : other ∈ (set.insert edge).edges) : other ∈ set.edges ∨ other = edge := by
  rw [edges_insert] at member
  split at member
  · exact .inl member
  · exact (List.mem_append.mp member).imp_right List.mem_singleton.mp

theorem mem_of_mem_foldl_insert {edges : List Edge} {set : EdgeSet} {other : Edge}
    (member : other ∈ (edges.foldl insert set).edges) : other ∈ set.edges ∨ other ∈ edges := by
  induction edges generalizing set with
  | nil => exact .inl member
  | cons edge rest ih =>
    rcases ih member with before | later
    · rcases mem_of_mem_insert before with before | rfl
      · exact .inl before
      · exact .inr List.mem_cons_self
    · exact .inr (List.mem_cons_of_mem _ later)

/-- The set of the edges of a list: of each key, the first. -/
def ofList (edges : List Edge) : EdgeSet :=
  edges.foldl insert empty

theorem mem_of_mem_ofList {edges : List Edge} {edge : Edge}
    (member : edge ∈ (ofList edges).edges) : edge ∈ edges := by
  rcases mem_of_mem_foldl_insert member with none | listed
  · cases none
  · exact listed

/-! ### Requests -/

/-- What can be asked of a set that is being filled. -/
inductive Request where
  | insert (edge : Edge)
  | contains (edge : Edge)
  | freeze

/-- What a request is answered with. -/
inductive Answer where
  | inserted (isNew : Bool)
  | contained (isHeld : Bool)
  | frozen (edges : List Edge)

/-- One request: an insertion tells whether the edge was new, and freezing hands all edges over and
leaves the set empty. -/
def serve (set : EdgeSet) : Request → Answer × EdgeSet
  | .insert edge => (.inserted !(set.contains edge), set.insert edge)
  | .contains edge => (.contained (set.contains edge), set)
  | .freeze => (.frozen set.edges, empty)

end EdgeSet

end TypeChart
