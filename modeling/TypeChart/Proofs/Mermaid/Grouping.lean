/-
**What a grouping holds.**

The pass that fills a grouping looks at one classifier at a time. What it leaves behind can be said
without it (`Grouping.separated`): outside all containers are the classifiers without a namespace,
and for each key that occurs there is one container with the classifiers of that key, everywhere in
the order of the list. The keys are those of the list, each once and increasing (`sortedKeys`).

* `Container.place_map`: one more classifier changes the container of its key and no other.
* `Grouping.perm_all_ofList`: no classifier is lost, and none is held twice.
* `Grouping.place_separated`: one more classifier at the end of the list is one more placed.
* `Grouping.ofList_eq`: the pass leaves the separated classifiers.
-/

import Mathlib.Data.List.Induction
import TypeChart.Mermaid.Grouping

namespace TypeChart

/-! ### Increasing keys -/

/-- A key put at its place among increasing keys, unless it is there. -/
def insertKey (key : String) : List String → List String
  | [] => [key]
  | first :: rest =>
    if key < first then key :: first :: rest
    else if key = first then first :: rest
    else first :: insertKey key rest

/-- The keys of a list, each once, in increasing order. -/
def sortedKeys (keys : List String) : List String :=
  keys.foldl (fun sorted key => insertKey key sorted) []

theorem sortedKeys_concat (keys : List String) (key : String) :
    sortedKeys (keys ++ [key]) = insertKey key (sortedKeys keys) := by
  unfold sortedKeys
  rw [List.foldl_append, List.foldl_cons, List.foldl_nil]

theorem mem_insertKey {key other : String} {keys : List String} :
    other ∈ insertKey key keys ↔ other = key ∨ other ∈ keys := by
  induction keys with
  | nil => simp [insertKey]
  | cons first rest ih =>
    by_cases before : key < first
    · rw [insertKey, if_pos before, List.mem_cons]
    · by_cases same : key = first
      · rw [insertKey, if_neg before, if_pos same, same, List.mem_cons]
        exact (or_iff_right_of_imp Or.inl).symm
      · rw [insertKey, if_neg before, if_neg same, List.mem_cons, ih, List.mem_cons]
        exact or_left_comm

theorem insertKey_increasing {key : String} {keys : List String}
    (increasing : keys.Pairwise (· < ·)) : (insertKey key keys).Pairwise (· < ·) := by
  induction keys with
  | nil => exact List.pairwise_singleton _ _
  | cons first rest ih =>
    obtain ⟨below, restIncreasing⟩ := List.pairwise_cons.mp increasing
    by_cases before : key < first
    · rw [insertKey, if_pos before]
      refine List.pairwise_cons.mpr ⟨fun other member => ?_, increasing⟩
      rcases List.mem_cons.mp member with rfl | member
      · exact before
      · exact String.lt_trans before (below other member)
    · by_cases same : key = first
      · rw [insertKey, if_neg before, if_pos same]
        exact increasing
      · rw [insertKey, if_neg before, if_neg same]
        have after : first < key :=
          Decidable.byContradiction fun notAfter => same (String.le_antisymm notAfter before)
        refine List.pairwise_cons.mpr ⟨fun other member => ?_, ih restIncreasing⟩
        rcases mem_insertKey.mp member with rfl | member
        · exact after
        · exact below other member

@[simp]
theorem mem_sortedKeys {key : String} {keys : List String} :
    key ∈ sortedKeys keys ↔ key ∈ keys := by
  induction keys using List.reverseRecOn with
  | nil => rfl
  | append_singleton front last ih =>
    rw [sortedKeys_concat, mem_insertKey, ih, List.mem_append, List.mem_singleton, or_comm]

theorem sortedKeys_increasing (keys : List String) : (sortedKeys keys).Pairwise (· < ·) := by
  induction keys using List.reverseRecOn with
  | nil => exact .nil
  | append_singleton front last ih =>
    rw [sortedKeys_concat]
    exact insertKey_increasing ih

theorem nodup_sortedKeys (keys : List String) : (sortedKeys keys).Nodup :=
  (sortedKeys_increasing keys).imp String.ne_of_lt

/-! ### One more classifier -/

theorem Container.map_unchanged {key : String} {classifier : Classifier} {keys : List String}
    {members : String → List Classifier} (others : ∀ other ∈ keys, other ≠ key) :
    (keys.map fun other =>
      Container.mk other (if other = key then members other ++ [classifier] else members other)) =
        keys.map fun other => ⟨other, members other⟩ := by
  refine List.map_congr_left fun other member => ?_
  rw [if_neg (others other member)]

/-- **One more classifier changes the container of its key and no other.** The containers are given
by increasing keys and what stands in each; a key that is not among them has nothing yet. -/
theorem Container.place_map {key : String} {classifier : Classifier} {keys : List String}
    {members : String → List Classifier} (increasing : keys.Pairwise (· < ·))
    (absent : key ∉ keys → members key = []) :
    Container.place key classifier (keys.map fun other => ⟨other, members other⟩) =
      (insertKey key keys).map fun other =>
        ⟨other, if other = key then members other ++ [classifier] else members other⟩ := by
  induction keys with
  | nil => simp [Container.place, insertKey, absent]
  | cons first rest ih =>
    obtain ⟨below, restIncreasing⟩ := List.pairwise_cons.mp increasing
    by_cases before : key < first
    · -- a new container before all others
      have others : ∀ other ∈ first :: rest, other ≠ key := by
        rintro other member rfl
        rcases List.mem_cons.mp member with rfl | member
        · exact String.lt_irrefl _ before
        · exact String.lt_asymm before (below other member)
      have fresh : members key = [] := absent fun member => others key member rfl
      simp only [List.map_cons (l := rest), Container.place, insertKey, if_pos before]
      rw [List.map_cons, if_pos rfl, fresh, List.nil_append, Container.map_unchanged others]
      rfl
    · by_cases same : key = first
      · -- the container that is there
        subst same
        have others : ∀ other ∈ rest, other ≠ key :=
          fun other member => (String.ne_of_lt (below other member)).symm
        simp only [List.map_cons, Container.place, insertKey, if_neg before, if_true]
        rw [Container.map_unchanged others]
      · -- further down
        have later : key ∉ rest → members key = [] := fun notInRest =>
          absent (List.not_mem_cons_of_ne_of_not_mem same notInRest)
        simp only [List.map_cons, Container.place, insertKey, if_neg before, if_neg same,
          if_neg (Ne.symm same)]
        rw [ih restIncreasing later]

/-- **Placing keeps everything**: what stands in all containers together is one classifier more. -/
theorem Container.perm_place (key : String) (classifier : Classifier)
    (containers : List Container) :
    ((Container.place key classifier containers).flatMap Container.members).Perm
      (containers.flatMap Container.members ++ [classifier]) := by
  induction containers with
  | nil => exact .refl _
  | cons first rest ih =>
    simp only [Container.place]
    split
    · simp only [List.flatMap_cons]
      exact @List.perm_append_comm _ [classifier] _
    · split
      · simp only [List.flatMap_cons, List.append_assoc]
        exact List.perm_append_comm.append_left first.members
      · simp only [List.flatMap_cons, List.append_assoc]
        exact ih.append_left first.members

/-! ### The whole pass -/

namespace Grouping

/-- All classifiers of a grouping: the loose ones, then container by container. -/
def all (grouping : Grouping) : List Classifier :=
  grouping.loose ++ grouping.containers.flatMap Container.members

theorem perm_all_place (grouping : Grouping) (classifier : Classifier) :
    (grouping.place classifier).all.Perm (grouping.all ++ [classifier]) := by
  unfold place all
  split
  · simp only [List.append_assoc]
    exact List.perm_append_comm.append_left grouping.loose
  · rename_i key _
    rw [List.append_assoc]
    exact (Container.perm_place key classifier grouping.containers).append_left grouping.loose

/-- **The pass loses nothing and doubles nothing.** -/
theorem perm_all_ofList (classifiers : List Classifier) :
    (ofList classifiers).all.Perm classifiers := by
  induction classifiers using List.reverseRecOn with
  | nil => exact .refl _
  | append_singleton front last ih =>
    rw [ofList, List.foldl_append, ← ofList]
    exact (perm_all_place (ofList front) last).trans (ih.append_right [last])

/-- The classifiers of one container. -/
def membersOf (classifiers : List Classifier) (key : String) : List Classifier :=
  classifiers.filter fun classifier => classifier.container = some key

/-- The keys of all containers, increasing. -/
def keysOf (classifiers : List Classifier) : List String :=
  sortedKeys (classifiers.filterMap Classifier.container)

/-- Classifiers taken apart by their containers. -/
def separated (classifiers : List Classifier) : Grouping where
  loose := classifiers.filter fun classifier => classifier.container = none
  containers := (keysOf classifiers).map fun key => ⟨key, membersOf classifiers key⟩

theorem mem_keysOf {classifiers : List Classifier} {key : String} :
    key ∈ keysOf classifiers ↔ ∃ classifier ∈ classifiers, classifier.container = some key := by
  rw [keysOf, mem_sortedKeys, List.mem_filterMap]

theorem membersOf_eq_nil_iff {classifiers : List Classifier} {key : String} :
    membersOf classifiers key = [] ↔ key ∉ keysOf classifiers := by
  simp [membersOf, mem_keysOf, List.filter_eq_nil_iff]

theorem membersOf_concat (front : List Classifier) (last : Classifier) (key : String) :
    membersOf (front ++ [last]) key =
      if last.container = some key then membersOf front key ++ [last]
      else membersOf front key := by
  unfold membersOf
  rw [List.filter_append]
  by_cases here : last.container = some key
  · simp [here]
  · simp [here]

theorem keysOf_concat (front : List Classifier) (last : Classifier) :
    keysOf (front ++ [last]) =
      match last.container with
      | none => keysOf front
      | some key => insertKey key (keysOf front) := by
  unfold keysOf
  rw [List.filterMap_append]
  cases home : last.container with
  | none => simp [home]
  | some key => simp [home, sortedKeys_concat]

/-- **The step of the pass**: one more classifier at the end of the list is one more placed. -/
theorem place_separated (front : List Classifier) (last : Classifier) :
    (separated front).place last = separated (front ++ [last]) := by
  have keys := keysOf_concat front last
  unfold place separated
  cases home : last.container with
  | none =>
    rw [home] at keys
    simp [keys, membersOf_concat, home]
  | some key =>
    rw [home] at keys
    have loose : (front ++ [last]).filter (fun classifier => classifier.container = none) =
        front.filter fun classifier => classifier.container = none := by
      simp [home]
    have members : ∀ other, membersOf (front ++ [last]) other =
        if other = key then membersOf front other ++ [last] else membersOf front other := by
      intro other
      rw [membersOf_concat, home]
      simp only [Option.some.injEq, eq_comm]
    have placed : Container.place key last
        ((keysOf front).map fun other => ⟨other, membersOf front other⟩) =
          (insertKey key (keysOf front)).map fun other =>
            ⟨other, membersOf (front ++ [last]) other⟩ := by
      simp only [members]
      exact Container.place_map (sortedKeys_increasing _) membersOf_eq_nil_iff.mpr
    rw [loose, keys]
    exact congrArg _ placed

/-- **The pass leaves the separated classifiers.** -/
theorem ofList_eq (classifiers : List Classifier) : ofList classifiers = separated classifiers := by
  induction classifiers using List.reverseRecOn with
  | nil => rfl
  | append_singleton front last ih =>
    rw [ofList, List.foldl_append, ← ofList, ih]
    exact place_separated front last

end Grouping

end TypeChart
