/-
**Lists of entries.**

Entries are read one after the other, and the first that is refused ends the reading. So a list is
read if each of its entries is, and it is refused with the refusal of the first that is not; what
was read before that is lost.

* `mapM_eq_ok_iff`: a list is read entry by entry.
* `mapM_eq_error_iff`: a list is refused with its first refusal.
* `SourceUnit.ofJson_eq_map`, `Snapshot.ofJson_of_sources`: what a source and a document come to,
  told by the list of their entries.
* `Snapshot.exists_mem_types_iff_of_ofJson`: the types of a snapshot, told by the entries of its
  document.
-/

import Mathlib.Data.List.Forall2
import TypeChart.Snapshot.Document

namespace TypeChart

section Entries

variable {α β ε : Type} {read : α → Except ε β}

theorem map_eq_ok_iff {said : Except ε α} {make : α → β} {result : β} :
    said.map make = .ok result ↔ ∃ value, said = .ok value ∧ make value = result := by
  cases said with
  | error fault => exact ⟨nofun, fun ⟨_, same, _⟩ => nomatch same⟩
  | ok value =>
    constructor
    · intro same
      exact ⟨value, rfl, Except.ok.inj same⟩
    · rintro ⟨_, same, rfl⟩
      cases same
      rfl

theorem exists_map_eq_ok_iff {said : Except ε α} {make : α → β} :
    (∃ result, said.map make = .ok result) ↔ ∃ value, said = .ok value := by
  constructor
  · rintro ⟨result, same⟩
    obtain ⟨value, isSaid, _⟩ := map_eq_ok_iff.mp same
    exact ⟨value, isSaid⟩
  · rintro ⟨value, isSaid⟩
    exact ⟨make value, map_eq_ok_iff.mpr ⟨value, isSaid, rfl⟩⟩

theorem map_eq_error_iff {said : Except ε α} {make : α → β} {fault : ε} :
    said.map make = .error fault ↔ said = .error fault := by
  cases said with
  | error other =>
    exact ⟨fun same => congrArg _ (Except.error.inj same),
      fun same => congrArg _ (Except.error.inj same)⟩
  | ok value => exact ⟨nofun, nofun⟩

theorem mapM_cons_of_ok {item : α} {result : β} (isRead : read item = .ok result)
    (rest : List α) :
    (item :: rest).mapM read = (rest.mapM read).map fun results => result :: results := by
  rw [List.mapM_cons, isRead]
  cases rest.mapM read with
  | error fault => rfl
  | ok results => rfl

theorem mapM_cons_of_error {item : α} {fault : ε} (isRefused : read item = .error fault)
    (rest : List α) : (item :: rest).mapM read = .error fault := by
  rw [List.mapM_cons, isRefused]
  rfl

/-- A list is read if every entry is, and the results stand in the order of the entries. -/
theorem mapM_eq_ok_iff {items : List α} {results : List β} :
    items.mapM read = .ok results ↔
      List.Forall₂ (fun item result => read item = .ok result) items results := by
  induction items generalizing results with
  | nil =>
    rw [List.mapM_nil, List.forall₂_nil_left_iff]
    exact ⟨fun same => (Except.ok.inj same).symm, fun none => congrArg Except.ok none.symm⟩
  | cons item rest ih =>
    rw [List.forall₂_cons_left_iff]
    cases isRead : read item with
    | error fault =>
      rw [mapM_cons_of_error isRead]
      constructor
      · intro same
        cases same
      · rintro ⟨_, _, same, _, _⟩
        cases same
    | ok result =>
      rw [mapM_cons_of_ok isRead, map_eq_ok_iff]
      constructor
      · rintro ⟨others, further, rfl⟩
        exact ⟨result, others, rfl, ih.mp further, rfl⟩
      · rintro ⟨_, others, same, further, rfl⟩
        cases same
        exact ⟨others, ih.mpr further, rfl⟩

theorem exists_mapM_eq_ok_iff {items : List α} :
    (∃ results, items.mapM read = .ok results) ↔
      ∀ item ∈ items, ∃ result, read item = .ok result := by
  induction items with
  | nil => exact ⟨fun _ _ none => absurd none List.not_mem_nil, fun _ => ⟨[], rfl⟩⟩
  | cons item rest ih =>
    rw [List.forall_mem_cons, ← ih]
    cases isRead : read item with
    | error fault =>
      rw [mapM_cons_of_error isRead]
      exact ⟨nofun, nofun⟩
    | ok result =>
      rw [mapM_cons_of_ok isRead]
      cases rest.mapM read with
      | error fault => exact ⟨nofun, nofun⟩
      | ok others => exact ⟨fun _ => ⟨⟨result, rfl⟩, others, rfl⟩, fun _ => ⟨_, rfl⟩⟩

/-- What was read stands for an entry of the list. -/
theorem exists_entry_of_mapM_eq_ok {items : List α} {results : List β}
    (same : items.mapM read = .ok results) {result : β} (member : result ∈ results) :
    ∃ item ∈ items, read item = .ok result := by
  have entries := mapM_eq_ok_iff.mp same
  clear same
  induction entries with
  | nil => cases member
  | cons isRead _ ih =>
    rcases List.mem_cons.mp member with rfl | later
    · exact ⟨_, List.mem_cons_self, isRead⟩
    · obtain ⟨item, inRest, wasRead⟩ := ih later
      exact ⟨item, List.mem_cons_of_mem _ inRest, wasRead⟩

/-- What was read of a list is what was read of its entries. -/
theorem mem_iff_of_mapM_eq_ok {items : List α} {results : List β}
    (same : items.mapM read = .ok results) {result : β} :
    result ∈ results ↔ ∃ item ∈ items, read item = .ok result := by
  refine ⟨exists_entry_of_mapM_eq_ok same, ?_⟩
  rintro ⟨item, member, isRead⟩
  have entries := mapM_eq_ok_iff.mp same
  clear same
  induction entries with
  | nil => cases member
  | cons wasRead _ ih =>
    rcases List.mem_cons.mp member with rfl | later
    · obtain rfl := Except.ok.inj (isRead.symm.trans wasRead)
      exact List.mem_cons_self
    · exact List.mem_cons_of_mem _ (ih later)

/-- **The first refusal of an entry is the refusal of the list.** -/
theorem mapM_eq_error_iff {items : List α} {fault : ε} :
    items.mapM read = .error fault ↔
      ∃ front item back, items = front ++ item :: back ∧
        (∀ other ∈ front, ∃ result, read other = .ok result) ∧ read item = .error fault := by
  induction items with
  | nil =>
    constructor
    · intro same
      cases same
    · rintro ⟨front, item, back, same, _⟩
      exact absurd same.symm (List.append_ne_nil_of_right_ne_nil front (List.cons_ne_nil item back))
  | cons item rest ih =>
    cases isRead : read item with
    | error other =>
      rw [mapM_cons_of_error isRead]
      constructor
      · intro same
        cases same
        exact ⟨[], item, rest, rfl, fun _ none => absurd none List.not_mem_nil, isRead⟩
      · rintro ⟨front, first, back, same, good, isRefused⟩
        cases front with
        | nil =>
          obtain ⟨rfl, rfl⟩ := List.cons.inj same
          cases isRead.symm.trans isRefused
          rfl
        | cons head front =>
          obtain ⟨rfl, rfl⟩ := List.cons.inj same
          obtain ⟨result, wasRead⟩ := good item List.mem_cons_self
          cases isRead.symm.trans wasRead
    | ok result =>
      have further : (item :: rest).mapM read = .error fault ↔ rest.mapM read = .error fault := by
        rw [mapM_cons_of_ok isRead, map_eq_error_iff]
      rw [further, ih]
      constructor
      · rintro ⟨front, first, back, rfl, good, isRefused⟩
        refine ⟨item :: front, first, back, rfl, ?_, isRefused⟩
        exact List.forall_mem_cons.mpr ⟨⟨result, isRead⟩, good⟩
      · rintro ⟨front, first, back, same, good, isRefused⟩
        cases front with
        | nil =>
          obtain ⟨rfl, rfl⟩ := List.cons.inj same
          cases isRead.symm.trans isRefused
        | cons head front =>
          obtain ⟨rfl, rfl⟩ := List.cons.inj same
          exact ⟨front, first, back, rfl, (List.forall_mem_cons.mp good).2, isRefused⟩

end Entries

/-! ### Sources and documents -/

theorem TypeDecl.ofEntry_eq_ok_iff {path : String} {json : Json} {decl : TypeDecl} :
    TypeDecl.ofEntry path json = .ok decl ↔ TypeDecl.ofJson? json = some decl := by
  unfold ofEntry
  cases TypeDecl.ofJson? json with
  | none => exact ⟨nofun, nofun⟩
  | some other => rw [Except.ok.injEq, Option.some.injEq]

theorem TypeDecl.ofEntry_eq_error_iff {path : String} {json : Json} {refusal : Refusal} :
    TypeDecl.ofEntry path json = .error refusal ↔
      TypeDecl.ofJson? json = none ∧ refusal = .nameless path := by
  unfold ofEntry
  cases TypeDecl.ofJson? json with
  | none => exact ⟨fun same => ⟨rfl, (Except.error.inj same).symm⟩, fun ⟨_, same⟩ => same ▸ rfl⟩
  | some other => exact ⟨nofun, nofun⟩

theorem SourceUnit.ofJson_eq_map (json : Json) :
    SourceUnit.ofJson json =
      ((json.itemsAt "types").mapM (TypeDecl.ofEntry (json.textAt "path"))).map fun types =>
        { path := json.textAt "path"
          types := types
          enums := (json.itemsAt "enums").map EnumDecl.ofJson } := by
  unfold SourceUnit.ofJson
  dsimp only
  cases (json.itemsAt "types").mapM (TypeDecl.ofEntry (json.textAt "path")) with
  | error refusal => rfl
  | ok types => rfl

theorem Snapshot.ofJson_of_sources {json : Json} {sources : List Json}
    (found : json.get? "sources" = some (.array sources)) :
    Snapshot.ofJson json = (sources.mapM SourceUnit.ofJson).map fun units =>
      { project := json.textAt "project", units := units } := by
  unfold Snapshot.ofJson
  rw [found]
  dsimp only
  cases sources.mapM SourceUnit.ofJson with
  | error refusal => rfl
  | ok units => rfl

theorem Snapshot.ofJson_of_no_sources {json : Json}
    (none : ∀ sources, json.get? "sources" ≠ some (.array sources)) :
    Snapshot.ofJson json = .error .shape := by
  unfold Snapshot.ofJson
  split
  · rename_i sources found
    exact absurd found (none sources)
  · rfl

/-! ### All type entries of a document -/

/-- The type entries of a document, source by source. -/
def Json.typeEntries (json : Json) : List Json :=
  (json.itemsAt "sources").flatMap fun source => source.itemsAt "types"

theorem SourceUnit.mem_types_iff_of_ofJson {json : Json} {unit : SourceUnit}
    (isRead : SourceUnit.ofJson json = .ok unit) {decl : TypeDecl} :
    decl ∈ unit.types ↔ ∃ entry ∈ json.itemsAt "types", TypeDecl.ofJson? entry = some decl := by
  rw [ofJson_eq_map] at isRead
  obtain ⟨types, typesRead, rfl⟩ := map_eq_ok_iff.mp isRead
  rw [mem_iff_of_mapM_eq_ok typesRead]
  simp only [TypeDecl.ofEntry_eq_ok_iff]

/-- **The types of a snapshot are its type entries.** -/
theorem Snapshot.exists_mem_types_iff_of_ofJson {json : Json} {snapshot : Snapshot}
    (isRead : Snapshot.ofJson json = .ok snapshot) {decl : TypeDecl} :
    (∃ unit ∈ snapshot.units, decl ∈ unit.types) ↔
      ∃ entry ∈ json.typeEntries, TypeDecl.ofJson? entry = some decl := by
  by_cases noSources : ∀ sources, json.get? "sources" ≠ some (.array sources)
  · rw [ofJson_of_no_sources noSources] at isRead
    cases isRead
  · push Not at noSources
    obtain ⟨sources, found⟩ := noSources
    have items : json.itemsAt "sources" = sources := by rw [Json.itemsAt, found]
    rw [ofJson_of_sources found] at isRead
    obtain ⟨units, unitsRead, rfl⟩ := map_eq_ok_iff.mp isRead
    rw [Json.typeEntries, items]
    constructor
    · rintro ⟨unit, unitMember, declMember⟩
      obtain ⟨source, listed, unitRead⟩ := exists_entry_of_mapM_eq_ok unitsRead unitMember
      obtain ⟨entry, inSource, declRead⟩ :=
        (SourceUnit.mem_types_iff_of_ofJson unitRead).mp declMember
      exact ⟨entry, List.mem_flatMap.mpr ⟨source, listed, inSource⟩, declRead⟩
    · rintro ⟨entry, inSources, declRead⟩
      obtain ⟨source, listed, inSource⟩ := List.mem_flatMap.mp inSources
      obtain ⟨unit, unitRead⟩ := exists_mapM_eq_ok_iff.mp ⟨units, unitsRead⟩ source listed
      exact ⟨unit, (mem_iff_of_mapM_eq_ok unitsRead).mpr ⟨source, listed, unitRead⟩,
        (SourceUnit.mem_types_iff_of_ofJson unitRead).mpr ⟨entry, inSource, declRead⟩⟩

end TypeChart
