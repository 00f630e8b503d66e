/-
**What a set of edges tells of its history.**

A set serves insertions, questions and freezings in any order. Whatever the order, nothing counts
but the insertions after the last freezing (`EdgeSet.pending`), and of these nothing but the keys.
An edge is new if none of them has its key, and the set holds the first of each key (`Edge.firsts`),
in their order and with their strokes. So a set can be forgotten and its answers told from the
requests before them (`EdgeSet.answerAfter`).

* `EdgeSet.edges_ofList`: the set of a list holds the firsts of the list.
* `EdgeSet.serve_ofList_pending`: one request to a set that was filled by others.
* `EdgeSet.serveAll_ofList_pending`: a run of requests.
* `EdgeSet.serveAll_empty`: all of this of every run from the empty set.
-/

import Mathlib.Data.Finset.Card
import Mathlib.Data.List.DropRight
import Mathlib.Data.List.Induction
import TypeChart.Proofs.Edge.Selection

namespace TypeChart

/-! ### The first edge of each key -/

/-- The edges of a list that no edge before them shares its key with. -/
def Edge.firsts (edges : List Edge) : List Edge :=
  (edges.zipIdx.filter fun (edge, place) =>
    edge.key ∉ (edges.take place).map Edge.key).map Prod.fst

theorem Edge.firsts_concat (front : List Edge) (last : Edge) :
    firsts (front ++ [last]) =
      if last.key ∈ front.map Edge.key then firsts front else firsts front ++ [last] := by
  have before : (front.zipIdx.filter fun (edge, place) =>
      edge.key ∉ ((front ++ [last]).take place).map Edge.key) =
        front.zipIdx.filter fun (edge, place) => edge.key ∉ (front.take place).map Edge.key := by
    refine List.filter_congr fun (edge, place) member => ?_
    have inside : place ≤ front.length := by
      have bound := List.snd_lt_of_mem_zipIdx member
      omega
    simp only [List.take_append_of_le_length inside]
  have final : ([(last, front.length)].filter fun (edge, place) =>
      edge.key ∉ ((front ++ [last]).take place).map Edge.key) =
        if last.key ∈ front.map Edge.key then [] else [(last, front.length)] := by
    by_cases known : last.key ∈ front.map Edge.key
    · rw [if_pos known, List.filter_cons_of_neg (by simp [known]), List.filter_nil]
    · rw [if_neg known, List.filter_cons_of_pos (by simp [known]), List.filter_nil]
  unfold firsts
  rw [List.zipIdx_append, List.filter_append, before, List.zipIdx_singleton, Nat.zero_add, final,
    List.map_append]
  split
  · exact List.append_nil _
  · rfl

namespace EdgeSet

theorem ofList_concat (front : List Edge) (last : Edge) :
    ofList (front ++ [last]) = (ofList front).insert last := by
  unfold ofList
  rw [List.foldl_append, List.foldl_cons, List.foldl_nil]

/-- A set holds a key if the list that it was filled from does. -/
theorem contains_ofList (edges : List Edge) (edge : Edge) :
    (ofList edges).contains edge = decide (edge.key ∈ edges.map Edge.key) := by
  rw [Bool.eq_iff_iff, decide_eq_true_iff, contains_iff, ← mem_keys_ofList, List.mem_map]

/-- **The set of a list holds the first edge of each key**, in the order of the list. -/
theorem edges_ofList (edges : List Edge) : (ofList edges).edges = Edge.firsts edges := by
  induction edges using List.reverseRecOn with
  | nil => rfl
  | append_singleton front last ih =>
    rw [ofList_concat, edges_insert, contains_ofList, ih, Edge.firsts_concat]
    simp only [decide_eq_true_iff]

-- the stroke that was drawn first stays
example :
    (ofList [⟨"Den", "Fox", .association, .dashed⟩, ⟨"Fox", "Den", .association, .solid⟩,
      ⟨"Den", "Fox", .association, .solid⟩]).edges =
      [⟨"Den", "Fox", .association, .dashed⟩, ⟨"Fox", "Den", .association, .solid⟩] := by
  decide

/-- A set has as many edges as there are keys in the list that it was filled from. -/
theorem size_ofList (edges : List Edge) :
    (ofList edges).size = (edges.map Edge.key).toFinset.card := by
  have keys : (edges.map Edge.key).toFinset = ((ofList edges).edges.map Edge.key).toFinset := by
    ext key
    rw [List.mem_toFinset, List.mem_toFinset, mem_keys_ofList]
  rw [keys, List.toFinset_card_of_nodup (nodup_keys _), List.length_map, size]

/-! ### Requests and what they leave behind -/

/-- A run of requests, each served by the set that the one before it left. -/
def serveAll (set : EdgeSet) : List Request → List Answer × EdgeSet
  | [] => ([], set)
  | request :: rest =>
    let (answer, next) := set.serve request
    let (later, final) := next.serveAll rest
    (answer :: later, final)

namespace Request

def isFreeze : Request → Bool
  | .freeze => true
  | .insert _ | .contains _ => false

/-- The edge that a request is to insert. -/
def inserts? : Request → Option Edge
  | .insert edge => some edge
  | .contains _ | .freeze => none

end Request

/-- The edges of all insertions after the last freezing, whether they were new or not. -/
def pending (requests : List Request) : List Edge :=
  (requests.rtakeWhile fun request => !request.isFreeze).filterMap Request.inserts?

/-- What a request should be answered with after others: an edge is new if nothing of its key is
pending, and freezing hands over the first pending edge of each key. -/
def answerAfter (before : List Request) : Request → Answer
  | .insert edge => .inserted (edge.key ∉ (pending before).map Edge.key)
  | .contains edge => .contained (edge.key ∈ (pending before).map Edge.key)
  | .freeze => .frozen (Edge.firsts (pending before))

theorem pending_concat (before : List Request) (request : Request) :
    pending (before ++ [request]) =
      if request.isFreeze then [] else pending before ++ request.inserts?.toList := by
  unfold pending
  cases freezes : request.isFreeze with
  | true => rw [List.rtakeWhile_concat_neg _ _ _ (by simp [freezes])]; rfl
  | false =>
    rw [List.rtakeWhile_concat_pos _ _ _ (by simp [freezes]), List.filterMap_append]
    cases request <;> rfl

/-- **One request** to a set that holds what is pending: its answer is told from the requests before
it, and the set goes on holding what is pending. -/
theorem serve_ofList_pending (before : List Request) (request : Request) :
    (ofList (pending before)).serve request =
      (answerAfter before request, ofList (pending (before ++ [request]))) := by
  rw [pending_concat]
  cases request with
  | insert edge =>
    show (Answer.inserted !((ofList (pending before)).contains edge), _) = _
    rw [contains_ofList, ← ofList_concat, answerAfter, decide_not]
    rfl
  | contains edge =>
    show (Answer.contained ((ofList (pending before)).contains edge), _) = _
    rw [contains_ofList, answerAfter, Request.inserts?, Option.toList_none, List.append_nil]
    rfl
  | freeze =>
    show (Answer.frozen (ofList (pending before)).edges, _) = _
    rw [edges_ofList]
    rfl

/-! ### A run -/

theorem serveAll_cons (set : EdgeSet) (request : Request) (rest : List Request) :
    set.serveAll (request :: rest) =
      ((set.serve request).1 :: ((set.serve request).2.serveAll rest).1,
        ((set.serve request).2.serveAll rest).2) :=
  rfl

/-- **A run of requests** after others: each is answered as the requests before it demand. -/
theorem serveAll_ofList_pending (before requests : List Request) :
    (ofList (pending before)).serveAll requests =
      (requests.mapIdx fun place request => answerAfter (before ++ requests.take place) request,
        ofList (pending (before ++ requests))) := by
  induction requests generalizing before with
  | nil => rw [List.append_nil]; rfl
  | cons request rest ih =>
    rw [serveAll_cons, serve_ofList_pending, ih, List.mapIdx_cons]
    simp only [List.take_zero, List.take_succ_cons, List.append_nil, List.append_assoc,
      List.singleton_append]

/-- **A set is its history since the last freezing.** After any requests to the empty set, an edge
is new if nothing of its key was inserted since the last freezing, and is held if something was.
Freezing hands over the first insertion of each key, in their order and with its stroke, and then
every edge is new again. There are as many edges as keys, and no key has two. -/
theorem serveAll_empty (requests : List Request) :
    let (answers, set) := serveAll empty requests
    answers = requests.mapIdx (fun place request => answerAfter (requests.take place) request) ∧
      set.edges = Edge.firsts (pending requests) ∧
      (set.edges.map Edge.key).Nodup ∧
      set.size = ((pending requests).map Edge.key).toFinset.card ∧
      set.serve .freeze = (.frozen (Edge.firsts (pending requests)), empty) ∧
      ∀ edge, empty.serve (.insert edge) = (.inserted true, ofList [edge]) := by
  have run : serveAll empty requests = _ := serveAll_ofList_pending [] requests
  rw [run]
  refine ⟨rfl, edges_ofList _, nodup_keys _, size_ofList _, ?_, fun _ => rfl⟩
  exact congrArg (fun edges => (Answer.frozen edges, empty)) (edges_ofList _)

end EdgeSet

end TypeChart
