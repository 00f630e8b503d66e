/-
**Edges.**

An edge joins two classifiers by their simple names. Two edges are the same edge when their
`Edge.key` agrees: the stroke carries no meaning of its own.
-/

namespace TypeChart

/-- The relations of a class diagram. -/
inductive EdgeKind where
  | inheritance
  | composition
  | aggregation
  | association
  | dependency
  | realization
  | link
  deriving DecidableEq, Repr, Inhabited

/-- The stroke with which a relation was recorded. -/
inductive Stroke where
  | solid
  | dashed
  deriving DecidableEq, Repr, Inhabited

/-- An edge from one named classifier to another. -/
structure Edge where
  origin : String := ""
  target : String := ""
  kind : EdgeKind := .association
  stroke : Stroke := .solid
  deriving DecidableEq, Repr, Inhabited

/-- What tells two edges apart: both ends and the kind. -/
def Edge.key (edge : Edge) : String × String × EdgeKind :=
  (edge.origin, edge.target, edge.kind)

theorem Edge.key_eq_iff {first second : Edge} :
    first.key = second.key ↔
      first.origin = second.origin ∧ first.target = second.target ∧ first.kind = second.kind := by
  simp only [key, Prod.mk.injEq]

end TypeChart
