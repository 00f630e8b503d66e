/-
**The order in which a declaration lists things.**

Of the candidates of one key the first becomes an edge, with its stroke. Inside one rule it does not
matter which is the first: edges to bases are solid, edges to interfaces are dashed, and what
properties imply is solid, so two candidates of one key are the same edge there. Strokes can differ
between rules only, and the rules have a fixed order. So which edges a declaration has can be told
rule by rule without the order of its lists, and another order of these is but another order of the
edges.

* `Edge.firsts_append`: the firsts of one list after another.
* `TypeDecl.mem_edges_iff`: the edges of a declaration, rule by rule.
* `TypeDecl.edges_perm`: two declarations that list the same in different orders.
* `TypeDecl.edges_reordered`: a declaration in another order, and with further properties.
-/

import TypeChart.Proofs.Edge.Candidates

namespace TypeChart

namespace Edge

theorem eq_of_key_eq {first second : Edge} (same : first.key = second.key)
    (stroke : first.stroke = second.stroke) : first = second := by
  obtain ⟨origins, targets, kinds⟩ := key_eq_iff.mp same
  obtain ⟨_, _, _, _⟩ := first
  obtain ⟨_, _, _, _⟩ := second
  simp_all only

/-! ### Firsts -/

/-- **The firsts of one list after another** are the firsts of the one, and of the firsts of the
other those that bring a new key. -/
theorem firsts_append (front back : List Edge) :
    firsts (front ++ back) =
      firsts front ++ (firsts back).filter fun edge => edge.key ∉ front.map Edge.key := by
  induction back using List.reverseRecOn with
  | nil => rw [List.append_nil]; exact (List.append_nil _).symm
  | append_singleton back last ih =>
    rw [← List.append_assoc, firsts_concat, firsts_concat, ih]
    simp only [List.map_append, List.mem_append]
    by_cases inBack : last.key ∈ back.map Edge.key
    · rw [if_pos (.inr inBack), if_pos inBack]
    · rw [if_neg inBack, List.filter_append, List.filter_singleton]
      by_cases inFront : last.key ∈ front.map Edge.key
      · rw [if_pos (.inl inFront), decide_eq_false (not_not.mpr inFront), cond_false,
          List.append_nil]
      · rw [if_neg (not_or.mpr ⟨inFront, inBack⟩), decide_eq_true inFront, cond_true,
          List.append_assoc]

theorem mem_firsts_append_iff {front back : List Edge} {edge : Edge} :
    edge ∈ firsts (front ++ back) ↔
      edge ∈ firsts front ∨ edge ∈ firsts back ∧ edge.key ∉ front.map Edge.key := by
  rw [firsts_append, List.mem_append, List.mem_filter, decide_eq_true_iff]

/-- **Among edges of one stroke none is lost**: edges that share a key are equal. -/
theorem mem_firsts_iff_of_stroke {stroke : Stroke} {edges : List Edge}
    (drawn : ∀ edge ∈ edges, edge.stroke = stroke) {edge : Edge} :
    edge ∈ firsts edges ↔ edge ∈ edges := by
  refine ⟨fun member => (firsts_sublist edges).mem member, fun member => ?_⟩
  have known := EdgeSet.mem_keys_ofList.mpr (List.mem_map_of_mem (f := Edge.key) member)
  rw [EdgeSet.edges_ofList] at known
  obtain ⟨first, isFirst, same⟩ := List.mem_map.mp known
  have strokes : first.stroke = edge.stroke := by
    rw [drawn first ((firsts_sublist edges).mem isFirst), drawn edge member]
  rw [← eq_of_key_eq same strokes]
  exact isFirst

end Edge

namespace TypeDecl

variable {allAncestors : Bool} {owner : String} {decl : TypeDecl} {edge : Edge}

/-! ### Rule by rule -/

theorem stroke_of_mem_baseEdges (member : edge ∈ decl.baseEdges allAncestors owner) :
    edge.stroke = .solid := by
  obtain ⟨base, _, rfl⟩ := List.mem_map.mp member
  rfl

theorem stroke_of_mem_interfaceEdges (member : edge ∈ decl.interfaceEdges owner) :
    edge.stroke = .dashed := by
  obtain ⟨interface, _, rfl⟩ := List.mem_map.mp member
  rfl

theorem stroke_of_mem_propertyEdges (member : edge ∈ decl.propertyEdges owner) :
    edge.stroke = .solid := by
  obtain ⟨property, _, implied⟩ := List.mem_filterMap.mp member
  obtain ⟨_, _, ⟨_, rfl⟩ | ⟨_, _, rfl⟩ | ⟨_, _, rfl⟩⟩ := PropertyDecl.edge?_eq_some_iff.mp implied
  · rfl
  · rfl
  · rfl

/-- Bases and interfaces imply inheritance and realization. -/
theorem isHeritage_of_mem (member : edge ∈ decl.baseEdges allAncestors owner ++
    decl.interfaceEdges owner) : edge.kind = .inheritance ∨ edge.kind = .realization := by
  rcases List.mem_append.mp member with ofBase | ofInterface
  · obtain ⟨base, _, rfl⟩ := List.mem_map.mp ofBase
    exact .inl rfl
  · obtain ⟨interface, _, rfl⟩ := List.mem_map.mp ofInterface
    by_cases isInterface : decl.kind = .interface
    · exact .inl (if_pos isInterface)
    · exact .inr (if_neg isInterface)

/-- Properties imply neither. -/
theorem not_isHeritage_of_mem_propertyEdges (member : edge ∈ decl.propertyEdges owner) :
    ¬ (edge.kind = .inheritance ∨ edge.kind = .realization) := by
  obtain ⟨property, _, implied⟩ := List.mem_filterMap.mp member
  obtain ⟨_, _, ⟨_, rfl⟩ | ⟨_, _, rfl⟩ | ⟨_, _, rfl⟩⟩ := PropertyDecl.edge?_eq_some_iff.mp implied
  · simp
  · simp
  · simp

/-- No property implies an edge that a base or an interface implied. -/
theorem key_notMem_of_mem_propertyEdges (member : edge ∈ decl.propertyEdges owner) :
    edge.key ∉ (decl.baseEdges allAncestors owner ++ decl.interfaceEdges owner).map Edge.key := by
  intro known
  obtain ⟨other, implied, same⟩ := List.mem_map.mp known
  obtain ⟨_, _, kinds⟩ := Edge.key_eq_iff.mp same
  apply not_isHeritage_of_mem_propertyEdges member
  rw [← kinds]
  exact isHeritage_of_mem implied

/-- **The edges of a declaration, rule by rule**: all edges to its bases, all that its properties
imply, and of the edges to its interfaces those to which no base has the same edge already. -/
theorem mem_edges_iff :
    edge ∈ decl.edges allAncestors owner ↔
      edge ∈ decl.baseEdges allAncestors owner ∨
        edge ∈ decl.interfaceEdges owner ∧
          edge.key ∉ (decl.baseEdges allAncestors owner).map Edge.key ∨
        edge ∈ decl.propertyEdges owner := by
  rw [edges, EdgeSet.edges_ofList, candidates, Edge.mem_firsts_append_iff,
    Edge.mem_firsts_append_iff,
    Edge.mem_firsts_iff_of_stroke fun _ member => stroke_of_mem_baseEdges member,
    Edge.mem_firsts_iff_of_stroke fun _ member => stroke_of_mem_interfaceEdges member,
    Edge.mem_firsts_iff_of_stroke fun _ member => stroke_of_mem_propertyEdges member,
    and_iff_left_of_imp fun member => key_notMem_of_mem_propertyEdges member, or_assoc]

theorem nodup_edges (allAncestors : Bool) (owner : String) (decl : TypeDecl) :
    (decl.edges allAncestors owner).Nodup :=
  List.Nodup.of_map Edge.key (EdgeSet.nodup_keys _)

/-! ### Another order -/

/-- **Two declarations that list the same in different orders** have the same edges in different
orders. -/
theorem edges_perm {one other : TypeDecl} (kind : one.kind = other.kind)
    (bases : (wanted allAncestors one.bases one.ancestors).Perm
      (wanted allAncestors other.bases other.ancestors))
    (interfaces : one.interfaces.Perm other.interfaces)
    (properties : one.properties.Perm other.properties) :
    (one.edges allAncestors owner).Perm (other.edges allAncestors owner) := by
  have ofBases : (one.baseEdges allAncestors owner).Perm (other.baseEdges allAncestors owner) := by
    rw [baseEdges, baseEdges, drawnBases_eq, drawnBases_eq]
    exact (bases.filter _).map _
  have ofInterfaces : (one.interfaceEdges owner).Perm (other.interfaceEdges owner) := by
    rw [interfaceEdges, interfaceEdges, kind]
    exact interfaces.map _
  have ofProperties : (one.propertyEdges owner).Perm (other.propertyEdges owner) :=
    properties.filterMap _
  refine (List.perm_ext_iff_of_nodup (nodup_edges _ _ _) (nodup_edges _ _ _)).mpr fun edge => ?_
  rw [mem_edges_iff, mem_edges_iff, ofBases.mem_iff, ofInterfaces.mem_iff, ofProperties.mem_iff,
    (ofBases.map Edge.key).mem_iff]

/-- What is read of bases and ancestors when all ancestors are drawn: the ancestors, or the bases
where none are listed. -/
def chain (decl : TypeDecl) : List TypeUse :=
  wanted true decl.bases decl.ancestors

/-- The declaration with another chain in the place of its own. -/
def withChain (decl : TypeDecl) (chain : List TypeUse) : TypeDecl :=
  { decl with
    bases := if decl.ancestors.isEmpty then chain else decl.bases
    ancestors := if decl.ancestors.isEmpty then [] else chain }

theorem chain_withChain {decl : TypeDecl} {chain : List TypeUse}
    (reordered : chain.Perm decl.chain) : (decl.withChain chain).chain = chain := by
  cases ancestors : decl.ancestors with
  | nil => simp only [TypeDecl.chain, withChain, ancestors, List.isEmpty_nil, if_true, wanted]
  | cons nearest further =>
    have notEmpty : chain ≠ [] := by
      rintro rfl
      rw [TypeDecl.chain, ancestors] at reordered
      exact List.cons_ne_nil nearest further reordered.symm.eq_nil
    obtain ⟨first, rest, rfl⟩ := List.exists_cons_of_ne_nil notEmpty
    simp only [TypeDecl.chain, withChain, ancestors, List.isEmpty_cons, if_neg Bool.false_ne_true,
      wanted]

/-- **Further properties imply further edges**, after all others: of each key that is new, the
first. -/
theorem edges_append_properties (allAncestors : Bool) (owner : String) (decl : TypeDecl)
    (further : List PropertyDecl) :
    { decl with properties := decl.properties ++ further }.edges allAncestors owner =
      decl.edges allAncestors owner ++
        (Edge.firsts (further.filterMap (PropertyDecl.edge? owner))).filter fun edge =>
          edge.key ∉ (decl.edges allAncestors owner).map Edge.key := by
  have longer :
      { decl with properties := decl.properties ++ further }.candidates allAncestors owner =
        decl.candidates allAncestors owner ++ further.filterMap (PropertyDecl.edge? owner) := by
    simp only [candidates, propertyEdges, List.filterMap_append, List.append_assoc]
    rfl
  rw [edges, longer, EdgeSet.edges_ofList, Edge.firsts_append, edges, EdgeSet.edges_ofList]
  simp only [← EdgeSet.edges_ofList, EdgeSet.mem_keys_ofList]

/-- **The order of a declaration is but the order of its edges.** With its properties and interfaces
in any other order, and where all ancestors are drawn also the chain of those, it has the same
edges with the same strokes, in another order. With further properties after its own, it has the
same edges in the same order, and after them what the further properties bring. -/
theorem edges_reordered (owner : String) (decl : TypeDecl) :
    (∀ (interfaces : List TypeUse) (properties : List PropertyDecl) (chain : List TypeUse),
      interfaces.Perm decl.interfaces → properties.Perm decl.properties → chain.Perm decl.chain →
        (∀ allAncestors,
          ({ decl with interfaces := interfaces, properties := properties }.edges allAncestors
            owner).Perm (decl.edges allAncestors owner)) ∧
        ({ decl.withChain chain with interfaces := interfaces, properties := properties }.edges true
          owner).Perm (decl.edges true owner)) ∧
    ∀ (allAncestors : Bool) (further : List PropertyDecl),
      { decl with properties := decl.properties ++ further }.edges allAncestors owner =
        decl.edges allAncestors owner ++
          (Edge.firsts (further.filterMap (PropertyDecl.edge? owner))).filter fun edge =>
            edge.key ∉ (decl.edges allAncestors owner).map Edge.key := by
  refine ⟨fun interfaces properties chain sameInterfaces sameProperties sameChain =>
    ⟨fun allAncestors => ?_, ?_⟩,
    fun allAncestors further => edges_append_properties allAncestors owner decl further⟩
  · exact edges_perm rfl (.refl _) sameInterfaces sameProperties
  · have used : (decl.withChain chain).chain.Perm decl.chain := by
      rw [chain_withChain sameChain]
      exact sameChain
    exact edges_perm rfl used sameInterfaces sameProperties

end TypeDecl

/-- An interface that lists one of its ancestors among its interfaces, and one of these twice. -/
def Sample.guild : TypeDecl where
  name := "IGuild"
  kind := .interface
  ancestors := [{ name := "IOrder" }, { name := "IUnion" }, { name := "Object" }]
  interfaces := [{ name := "INamed" }, { name := "IUnion" }, { name := "INamed" }]
  properties :=
    [{ type := { name := "List", arguments := [{ name := "Member" }] } },
      { type := { name := "Member" } },
      { type := { kind := .array, elements := [{ name := "Member" }] } }]

/-- All read from back to front, it has the same five edges, and the one to its ancestor is solid
still. -/
theorem TypeDecl.edges_reordered_guild :
    Sample.guild.interfaces.reverse.Perm Sample.guild.interfaces ∧
      Sample.guild.properties.reverse.Perm Sample.guild.properties ∧
      Sample.guild.ancestors.reverse.Perm Sample.guild.chain ∧
      ({ Sample.guild.withChain Sample.guild.ancestors.reverse with
          interfaces := Sample.guild.interfaces.reverse
          properties := Sample.guild.properties.reverse }.edges true "IGuild").Perm
        [⟨"IGuild", "IOrder", .inheritance, .solid⟩, ⟨"IGuild", "IUnion", .inheritance, .solid⟩,
          ⟨"IGuild", "INamed", .inheritance, .dashed⟩, ⟨"Member", "IGuild", .aggregation, .solid⟩,
          ⟨"IGuild", "Member", .association, .solid⟩] := by
  have interfaces := List.reverse_perm Sample.guild.interfaces
  have properties := List.reverse_perm Sample.guild.properties
  have chain : Sample.guild.ancestors.reverse.Perm Sample.guild.chain :=
    List.reverse_perm Sample.guild.ancestors
  have drawn : Sample.guild.edges true "IGuild" =
      [⟨"IGuild", "IOrder", .inheritance, .solid⟩, ⟨"IGuild", "IUnion", .inheritance, .solid⟩,
        ⟨"IGuild", "INamed", .inheritance, .dashed⟩, ⟨"Member", "IGuild", .aggregation, .solid⟩,
        ⟨"IGuild", "Member", .association, .solid⟩] := by decide +kernel
  rw [← drawn]
  exact ⟨interfaces, properties, chain,
    ((edges_reordered "IGuild" Sample.guild).1 _ _ _ interfaces properties chain).2⟩

end TypeChart
