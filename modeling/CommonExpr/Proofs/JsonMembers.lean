import CommonExpr.Json.Basic
import CommonExpr.Proofs.KeyTexts
import Mathlib.Data.List.Forall2

/-! The JSON document that shows a value. An object has a member for each entry of its map, in the same
order, as long as no two keys of the map have one text. Where two of them have, the later entry takes the
place of the earlier one, and an entry is lost. -/

namespace CommonExpr.Proofs.JsonMembers
open MapKeys KeyTexts

/-- A document that shows a value with all entries of its maps, at any depth: the members of an object
stand in the order of the entries, each under the text of its key, and no name comes twice. -/
inductive Shows : Value → Json → Prop where
  | scalar {value : Value} {json : Json} (scalar : value.isScalar) (shown : value.toJson = .ok json) : Shows value json
  | list {elements : List Value} {contents : List Json} (each : List.Forall₂ Shows elements contents) :
      Shows (.list elements) (.array contents)
  | map {kind : MapKind} {entries : List (Value × Value)} {members : List (String × Json)}
      (names : List.Forall₂ (fun entry member => entry.1.format = .ok member.1) entries members)
      (each : List.Forall₂ Shows (entries.map Prod.snd) (members.map Prod.snd))
      (apart : (members.map Prod.fst).Nodup) : Shows (.map kind entries) (.object members)

/-- A value in whose maps, at any depth, no two keys are confusable. -/
inductive Unconfused : Value → Prop where
  | scalar {value : Value} (scalar : value.isScalar) : Unconfused value
  | list {elements : List Value} (each : ∀ element ∈ elements, Unconfused element) : Unconfused (.list elements)
  | map {kind : MapKind} {entries : List (Value × Value)}
      (apart : entries.Pairwise fun first second => ¬Confusable first.1 second.1)
      (each : ∀ value ∈ entries.map Prod.snd, Unconfused value) : Unconfused (.map kind entries)

section Members
variable {members shown : List (String × Json)} {name : String}

private theorem setMember_new (content : Json) (absent : name ∉ members.map Prod.fst) :
    Json.setMember name content members = members ++ [(name, content)] := by
  induction members with
  | nil => rfl
  | cons member rest ih =>
    rw [List.map_cons, List.mem_cons, not_or] at absent
    rw [Json.setMember, if_neg (Ne.symm absent.1), ih absent.2, List.cons_append]

/-- The members after others were set one by one. -/
def written (members shown : List (String × Json)) : List (String × Json) :=
  shown.foldl (fun built member => Json.setMember member.1 member.2 built) members

/-- Members under new names are added behind those that are there. -/
theorem written_of_nodup (apart : (members.map Prod.fst ++ shown.map Prod.fst).Nodup) :
    written members shown = members ++ shown := by
  induction shown generalizing members with
  | nil => simp [written]
  | cons member rest ih =>
    have absent : member.1 ∉ members.map Prod.fst := by
      intro present
      exact (List.nodup_append.mp apart).2.2 _ present _ (by simp) rfl
    have later : ((members ++ [member]).map Prod.fst ++ rest.map Prod.fst).Nodup := by simpa using apart
    calc written members (member :: rest) = written (members ++ [member]) rest := by
          rw [written, List.foldl_cons, setMember_new member.2 absent]
          rfl
      _ = members ++ member :: rest := by rw [ih later, List.append_assoc, List.singleton_append]

end Members

section Conversion
variable {entries : List (Value × Value)} {elements values : List Value}

private theorem elementsToJson_shown {contents : List Json} (shown : Value.elementsToJson elements = .ok contents) :
    List.Forall₂ (fun value json => value.toJson = .ok json) elements contents := by
  induction elements generalizing contents with
  | nil =>
    cases shown
    exact .nil
  | cons value rest ih =>
    rw [Value.elementsToJson] at shown
    cases first : value.toJson with
    | error failure => rw [first] at shown; cases shown
    | ok json =>
      cases later : Value.elementsToJson rest with
      | error failure => rw [first, later] at shown; cases shown
      | ok others =>
        rw [first, later] at shown
        cases shown
        exact .cons first (ih later)

private theorem entriesToJson_shown {members result : List (String × Json)}
    (shown : Value.entriesToJson members entries = .ok result) :
    ∃ added : List (String × Json), List.Forall₂ (fun entry member => entry.1.format = .ok member.1) entries added ∧
      List.Forall₂ (fun value json => value.toJson = .ok json) (entries.map Prod.snd) (added.map Prod.snd) ∧
      result = written members added := by
  induction entries generalizing members with
  | nil =>
    cases shown
    exact ⟨[], .nil, .nil, rfl⟩
  | cons entry rest ih =>
    obtain ⟨key, value⟩ := entry
    rw [Value.entriesToJson] at shown
    cases named : key.format with
    | error failure => rw [named] at shown; cases shown
    | ok name =>
      cases content : value.toJson with
      | error failure => rw [named, content] at shown; cases shown
      | ok json =>
        rw [named, content] at shown
        obtain ⟨added, names, contents, rfl⟩ := ih shown
        exact ⟨(name, json) :: added, .cons named names, .cons content contents, rfl⟩

variable {members others added : List (String × Json)}

private theorem entriesToJson_eq (names : List.Forall₂ (fun entry member => entry.1.format = .ok member.1) entries added)
    (contents : List.Forall₂ (fun value json => value.toJson = .ok json) (entries.map Prod.snd) (added.map Prod.snd))
    (members : List (String × Json)) : Value.entriesToJson members entries = .ok (written members added) := by
  induction names generalizing members with
  | nil => rfl
  | @cons entry member rest others named _ ih =>
    obtain ⟨content, later⟩ := List.forall₂_cons.mp contents
    obtain ⟨key, value⟩ := entry
    rw [Value.entriesToJson, show key.format = _ from named, show value.toJson = _ from content]
    exact ih later _

theorem toJson_map (kind : MapKind)
    (names : List.Forall₂ (fun entry member => entry.1.format = .ok member.1) entries added)
    (contents : List.Forall₂ (fun value json => value.toJson = .ok json) (entries.map Prod.snd) (added.map Prod.snd)) :
    (Value.map kind entries).toJson = .ok (.object (written [] added)) := by
  rw [Value.toJson, entriesToJson_eq names contents]
  rfl

private theorem mem_names (names : List.Forall₂ (fun entry member => entry.1.format = .ok member.1) entries members)
    {name : String} :
    name ∈ members.map Prod.fst ↔ ∃ entry ∈ entries, entry.1.format = .ok name := by
  induction names with
  | nil => simp
  | cons first _ ih => simp [ih, first, eq_comm]

private theorem name_of_mem (names : List.Forall₂ (fun entry member => entry.1.format = .ok member.1) entries members)
    {entry : Value × Value} (inside : entry ∈ entries) : ∃ name, entry.1.format = .ok name := by
  induction names with
  | nil => cases inside
  | cons first _ ih =>
    rcases List.mem_cons.mp inside with rfl | later
    · exact ⟨_, first⟩
    · exact ih later

/-- The names of all members are different if and only if no two keys are confusable. -/
theorem nodup_names_iff (keyed : Keyed entries)
    (names : List.Forall₂ (fun entry member => entry.1.format = .ok member.1) entries members) :
    (members.map Prod.fst).Nodup ↔ entries.Pairwise fun first second => ¬Confusable first.1 second.1 := by
  induction names with
  | nil => simp
  | @cons entry member rest others first later ih =>
    obtain ⟨scalars, apart⟩ := keyed
    obtain ⟨scalar, scalars⟩ := List.forall_mem_cons.mp scalars
    rw [List.pairwise_cons] at apart
    rw [List.map_cons, List.nodup_cons, List.pairwise_cons, ih ⟨scalars, apart.2⟩, mem_names later]
    refine and_congr_left fun _ => ?_
    constructor
    · intro different other inside confused
      obtain ⟨name, shown⟩ := name_of_mem later inside
      have same := (same_text_iff scalar (scalars other inside) (apart.1 other inside) first shown).mpr confused
      exact different ⟨other, inside, same ▸ shown⟩
    · rintro unconfused ⟨other, inside, shown⟩
      have told := same_text_iff scalar (scalars other inside) (apart.1 other inside) first shown
      exact unconfused other inside (told.mp rfl)

private theorem names_unique (names : List.Forall₂ (fun entry member => entry.1.format = .ok member.1) entries members)
    (also : List.Forall₂ (fun entry member => entry.1.format = .ok member.1) entries others) :
    members.map Prod.fst = others.map Prod.fst := by
  induction names generalizing others with
  | nil =>
    cases also
    rfl
  | cons first _ ih =>
    cases also with
    | cons again rest => rw [List.map_cons, List.map_cons, Except.ok.inj (first.symm.trans again), ih rest]

private theorem each_shown_iff {contents : List Json}
    (converted : List.Forall₂ (fun value json => value.toJson = .ok json) values contents)
    (settled : ∀ value ∈ values, ∀ json, value.toJson = .ok json → (Shows value json ↔ Unconfused value)) :
    List.Forall₂ Shows values contents ↔ ∀ value ∈ values, Unconfused value := by
  induction converted with
  | nil => simp
  | cons first _ ih =>
    obtain ⟨here, later⟩ := List.forall_mem_cons.mp settled
    rw [List.forall₂_cons, List.forall_mem_cons, here _ first, ih later]

theorem not_shows_of_fewer {kind : MapKind} (fewer : members.length < entries.length) :
    ¬ Shows (.map kind entries) (.object members) := by
  intro shows
  cases shows with
  | scalar scalar => cases scalar
  | map names _ _ => exact absurd names.length_eq fewer.ne'

end Conversion

/-- The document for a well keyed value shows all its entries if and only if no map confuses two keys. -/
theorem shows_iff_unconfused {value : Value} (keyed : WellKeyed value) {json : Json} (shown : value.toJson = .ok json) :
    Shows value json ↔ Unconfused value := by
  induction keyed generalizing json with
  | scalar scalar => exact ⟨fun _ => .scalar scalar, fun _ => .scalar scalar shown⟩
  | @list elements each ih =>
    rw [Value.toJson] at shown
    cases converted : Value.elementsToJson elements with
    | error failure => rw [converted] at shown; cases shown
    | ok contents =>
      rw [converted] at shown
      cases shown
      have all := each_shown_iff (elementsToJson_shown converted) fun value member json => ih value member
      constructor
      · intro shows
        cases shows with
        | scalar scalar => cases scalar
        | list each => exact .list (all.mp each)
      · intro unconfused
        cases unconfused with
        | scalar scalar => cases scalar
        | list each => exact .list (all.mpr each)
  | @map kind entries keyed each ih =>
    rw [Value.toJson] at shown
    cases converted : Value.entriesToJson [] entries with
    | error failure => rw [converted] at shown; cases shown
    | ok members =>
      rw [converted] at shown
      cases shown
      obtain ⟨added, names, contents, rfl⟩ := entriesToJson_shown converted
      have apart := nodup_names_iff keyed names
      have all := each_shown_iff contents fun value member json => by
        obtain ⟨entry, inside, rfl⟩ := List.mem_map.mp member
        exact ih entry inside
      have kept (different : (added.map Prod.fst).Nodup) : written [] added = added := written_of_nodup different
      constructor
      · intro shows
        cases shows with
        | scalar scalar => cases scalar
        | map also each different =>
          rw [names_unique also names] at different
          rw [kept different] at each
          exact .map (apart.mp different) (all.mp each)
      · intro unconfused
        cases unconfused with
        | scalar scalar => cases scalar
        | map pairwise each =>
          have different := apart.mpr pairwise
          rw [kept different]
          exact .map names (all.mpr each) different

end CommonExpr.Proofs.JsonMembers
