/-
**The document by namespace, phase by phase.**

The layout by namespace goes over the classifiers three times: all bodies, then all stereotypes,
then all edges, with an empty line between one phase and the next. Only the first phase moves
anything. It draws the classifiers without a namespace in their order, and after them one container
for each key, the containers in the order of the bytes of their keys and what stands in each in the
order of the diagram.

* `Grouping.Divides`: what it means that a grouping divides the classifiers of a diagram.
* `Grouping.divides_ofList`: the pass over the classifiers divides them.
* `Diagram.text_byNamespace`: the phases of the document.
-/

import TypeChart.Mermaid.Document
import TypeChart.Proofs.Mermaid.Grouping
import TypeChart.Proofs.Text.ByteOrder

namespace TypeChart

theorem Classifier.container_eq_none_iff {classifier : Classifier} :
    classifier.container = none ↔ classifier.scope = none :=
  Option.map_eq_none_iff

namespace Grouping

/-- A grouping divides classifiers: each has its one place, and no container stands empty. -/
structure Divides (grouping : Grouping) (classifiers : List Classifier) : Prop where
  /-- Outside all containers are the classifiers without a namespace. -/
  loose : grouping.loose = classifiers.filter fun classifier => classifier.scope = none
  /-- The bytes of the keys increase, so no key comes twice. -/
  increasing : grouping.containers.Pairwise fun first second => bytes first.key < bytes second.key
  /-- A container holds the classifiers whose namespace has its key. -/
  members : ∀ container ∈ grouping.containers,
    container.members = classifiers.filter fun classifier =>
      classifier.container = some container.key
  /-- No container is empty. -/
  occupied : ∀ container ∈ grouping.containers, container.members ≠ []
  /-- Every key has its container. -/
  housed : ∀ classifier ∈ classifiers, ∀ key, classifier.container = some key →
    ∃ container ∈ grouping.containers, container.key = key

theorem divides_separated (classifiers : List Classifier) :
    (separated classifiers).Divides classifiers where
  loose := by
    refine List.filter_congr fun classifier _ => ?_
    exact decide_eq_decide.mpr Classifier.container_eq_none_iff
  increasing :=
    List.pairwise_map.mpr ((sortedKeys_increasing _).imp bytes_lt_iff.mpr)
  members := by
    intro container listed
    obtain ⟨key, _, rfl⟩ := List.mem_map.mp listed
    rfl
  occupied := by
    intro container listed none
    obtain ⟨key, isKey, rfl⟩ := List.mem_map.mp listed
    exact membersOf_eq_nil_iff.mp none isKey
  housed := by
    intro classifier member key home
    have isKey : key ∈ keysOf classifiers := mem_keysOf.mpr ⟨classifier, member, home⟩
    exact ⟨⟨key, membersOf classifiers key⟩, List.mem_map.mpr ⟨key, isKey, rfl⟩, rfl⟩

/-- The pass over the classifiers divides them. -/
theorem divides_ofList (classifiers : List Classifier) :
    (ofList classifiers).Divides classifiers := by
  rw [ofList_eq]
  exact divides_separated classifiers

end Grouping

/-- **The document by namespace, phase by phase**: between header and footer are the bodies, those
of the classifiers without a namespace first and then container by container, an empty line, the
stereotypes, an empty line and the edges. Every body is there once. -/
theorem Diagram.text_byNamespace (diagram : Diagram) :
    ∃ grouping : Grouping,
      grouping.Divides diagram.classifiers ∧
      grouping.all.Perm diagram.classifiers ∧
      diagram.text .byNamespace =
        unlines
          (diagram.header ++
            grouping.loose.flatMap (Classifier.body 1) ++
            (grouping.containers.flatMap fun container =>
              [indented 1 ("namespace " ++ container.key ++ " \x7b")] ++
                container.members.flatMap (Classifier.body 2) ++
                [indented 1 "\x7d"]) ++
            [""] ++ diagram.classifiers.map Classifier.stereotypeLine ++
            [""] ++ diagram.classifiers.flatMap Classifier.edgeLines ++
            [footer]) := by
  refine ⟨Grouping.ofList diagram.classifiers, Grouping.divides_ofList diagram.classifiers,
    Grouping.perm_all_ofList diagram.classifiers, ?_⟩
  unfold text lines content Grouping.bodies
  simp only [List.append_assoc]
  rfl

end TypeChart
