import CommonExpr.Registry.Basic

/-! Registries answer for each other. A call goes from registry to parent up to the first one
that has the name, while a listing goes from the oldest ancestor down and lets each registry
replace what it inherits. However the registries came to be, both come to the nearest
definition, and what is done to one registry is only seen by those beneath it. -/

namespace CommonExpr.Proofs.NearestDefinition
open Registry

section Tables

/-- What a definition is registered under. -/
def key (definition : Definition) : String × Bool :=
  (definition.name, definition.method)

/-- No two of the definitions share a name and kind. -/
def Distinct (definitions : List Definition) : Prop :=
  definitions.Pairwise fun first second => key first ≠ key second

/-- The definitions of one name and kind. -/
def under (method : Bool) (name : String) (definitions : List Definition) : List Definition :=
  definitions.filter fun definition => key definition = (name, method)

variable {definition other : Definition} {table added inherited : List Definition} {method : Bool} {name : String}

private theorem place_cons (first : Definition) (rest : List Definition) :
    place definition (first :: rest) = if key first = key definition then definition :: rest else first :: place definition rest := by
  rw [place]
  simp only [key, Prod.mk.injEq]

theorem mem_place (member : other ∈ place definition table) : other = definition ∨ other ∈ table := by
  induction table with
  | nil => exact .inl (List.mem_singleton.mp member)
  | cons first rest ih =>
    rw [place_cons] at member
    split at member
    next => exact (List.mem_cons.mp member).imp_right (List.mem_cons_of_mem first)
    next =>
      rcases List.mem_cons.mp member with rfl | later
      · exact .inr List.mem_cons_self
      · exact (ih later).imp_right (List.mem_cons_of_mem first)

theorem Distinct.place (distinct : Distinct table) : Distinct (place definition table) := by
  induction table with
  | nil => exact List.pairwise_singleton _ _
  | cons first rest ih =>
    obtain ⟨apart, others⟩ := List.pairwise_cons.mp distinct
    rw [place_cons]
    split
    next same => exact List.pairwise_cons.mpr ⟨fun other member => same ▸ apart other member, others⟩
    next different =>
      refine List.pairwise_cons.mpr ⟨fun other member => ?_, ih others⟩
      rcases mem_place member with rfl | kept
      · exact different
      · exact apart other kept

private theorem under_cons (first : Definition) (rest : List Definition) :
    under method name (first :: rest) =
      if key first = (name, method) then first :: under method name rest else under method name rest := by
  simp only [under, List.filter_cons, decide_eq_true_eq]

private theorem under_eq_nil (apart : ∀ other ∈ table, key other ≠ (name, method)) : under method name table = [] :=
  List.filter_eq_nil_iff.mpr fun other member => by simpa using apart other member

/-- Under its own name and kind, what is placed is all there is; under others nothing changes. -/
theorem under_place (distinct : Distinct table) :
    under method name (place definition table) =
      if key definition = (name, method) then [definition] else under method name table := by
  induction table with
  | nil => exact under_cons definition []
  | cons first rest ih =>
    obtain ⟨apart, others⟩ := List.pairwise_cons.mp distinct
    rw [place_cons]
    split
    next same =>
      rw [under_cons, under_cons, same]
      split
      next found => rw [under_eq_nil fun other member => found ▸ same ▸ (apart other member).symm]
      next => rfl
    next different =>
      rw [under_cons, under_cons, ih others]
      by_cases found : key first = (name, method)
      · have apart : key definition ≠ (name, method) := fun same => different (found.trans same.symm)
        rw [if_pos found, if_pos found, if_neg apart, if_neg apart]
      · rw [if_neg found, if_neg found]

/-- Definitions placed into a list, one after the other. -/
def placed (added inherited : List Definition) : List Definition :=
  added.foldl (fun listed definition => place definition listed) inherited

theorem Distinct.placed (distinct : Distinct inherited) : Distinct (placed added inherited) := by
  induction added generalizing inherited with
  | nil => exact distinct
  | cons first rest ih => exact ih distinct.place

private theorem under_placed (distinct : Distinct inherited) (apart : Distinct added) :
    under method name (placed added inherited) =
      if under method name added = [] then under method name inherited else under method name added := by
  induction added generalizing inherited with
  | nil => rfl
  | cons first rest ih =>
    obtain ⟨different, others⟩ := List.pairwise_cons.mp apart
    refine (ih distinct.place others).trans ?_
    rw [under_place distinct, under_cons]
    by_cases here : key first = (name, method)
    · have none : under method name rest = [] := under_eq_nil fun other member => here ▸ (different other member).symm
      rw [if_pos none, if_pos here, if_pos here, none]
      rfl
    · rw [if_neg here, if_neg here]

private theorem under_eq_find? (kinds : ∀ other ∈ table, other.method = method) (distinct : Distinct table) :
    under method name table = (table.find? (·.name == name)).toList := by
  induction table with
  | nil => rfl
  | cons first rest ih =>
    obtain ⟨kind, others⟩ := List.forall_mem_cons.mp kinds
    obtain ⟨apart, distinct⟩ := List.pairwise_cons.mp distinct
    rw [under_cons, List.find?_cons]
    by_cases same : first.name = name
    · have here : key first = (name, method) := Prod.ext same kind
      rw [if_pos here, under_eq_nil fun other member => here ▸ (apart other member).symm, beq_iff_eq.mpr same]
      rfl
    · rw [if_neg fun here => same (congrArg Prod.fst here), ih others distinct, beq_eq_false_iff_ne.mpr same]

end Tables

section Registered

/-- Each table holds definitions of its kind, and none of them twice. -/
structure Proper (registry : Registry) : Prop where
  kinds : ∀ method, ∀ definition ∈ registry.table method, definition.method = method
  distinct : ∀ method, Distinct (registry.table method)

variable {registry : Registry} {method : Bool} {name : String}

private theorem proper_empty (parent : Parent) : Proper ⟨parent, [], []⟩ := by
  constructor
  all_goals
    intro method
    cases method
  · exact nofun
  · exact nofun
  · exact List.Pairwise.nil
  · exact List.Pairwise.nil

theorem table_register (definition : Definition) : (registry.register definition).table method =
    if definition.method = method then place definition (registry.table method) else registry.table method := by
  unfold register table
  cases method <;> cases definition.method <;> rfl

theorem Proper.register (proper : Proper registry) (definition : Definition) : Proper (registry.register definition) := by
  constructor
  · intro method other member
    rw [table_register] at member
    split at member
    next same =>
      rcases mem_place member with rfl | kept
      · exact same
      · exact proper.kinds method other kept
    next => exact proper.kinds method other member
  · intro method
    rw [table_register]
    split
    next => exact (proper.distinct method).place
    next => exact proper.distinct method

/-- Functions and methods together, as they are listed. -/
theorem Proper.apart (proper : Proper registry) : Distinct (registry.functions ++ registry.methods) := by
  refine List.pairwise_append.mpr ⟨proper.distinct false, proper.distinct true, ?_⟩
  intro function listed method found same
  have kinds := congrArg Prod.snd same
  rw [key, key, proper.kinds false function listed, proper.kinds true method found] at kinds
  cases kinds

theorem Proper.under_table (proper : Proper registry) (kind : Bool) :
    under method name (registry.table kind) = if kind = method then (registry.find? method name).toList else [] := by
  split
  next same => exact same ▸ under_eq_find? (proper.kinds kind) (proper.distinct kind)
  next different =>
    refine under_eq_nil fun other member same => different ?_
    exact (proper.kinds kind other member).symm.trans (congrArg Prod.snd same)

theorem Proper.under_own (proper : Proper registry) :
    under method name (registry.functions ++ registry.methods) = (registry.find? method name).toList := by
  have split : under method name (registry.functions ++ registry.methods) =
      under method name (registry.table false) ++ under method name (registry.table true) := List.filter_append ..
  rw [split, proper.under_table, proper.under_table]
  cases method with
  | false => exact List.append_nil _
  | true => rfl

/-- A registry lists its own definitions, and those it inherits under other names. -/
theorem Proper.under_listed (proper : Proper registry) {inherited : List Definition} {answer : Option Definition}
    (distinct : Distinct inherited) (inherits : under method name inherited = answer.toList) :
    under method name (placed (registry.functions ++ registry.methods) inherited) =
      ((registry.find? method name).or answer).toList := by
  rw [under_placed distinct proper.apart, proper.under_own, inherits]
  cases registry.find? method name <;> rfl

end Registered

section Lines

/-- A registry and its ancestors, the nearest first. -/
inductive Line (registries : Registries) : Nat → List Nat → Prop where
  | root {id : Nat} {registry : Registry} (found : registries.all[id]? = some registry) (alone : registry.parent = .none) :
      Line registries id [id]
  | child {id parent : Nat} {line : List Nat} {registry : Registry} (found : registries.all[id]? = some registry)
      (linked : registry.parent = .registry parent) (above : Line registries parent line) : Line registries id (id :: line)

/-- The definition in the first of the registries that has the name among those of its kind. -/
def nearest (registries : Registries) (line : List Nat) (method : Bool) (name : String) : Option Definition :=
  line.findSome? fun id => registries.get? id method name

/-- What holds of registries however they came to be. -/
structure Sound (registries : Registries) : Prop where
  parents : ∀ (id : Nat) (registry : Registry), registries.all[id]? = some registry →
    registry.parent = .none ∨ ∃ parent, parent < id ∧ registry.parent = .registry parent
  proper : ∀ (id : Nat) (registry : Registry), registries.all[id]? = some registry → Proper registry

variable {registries : Registries} {id : Nat} {line other : List Nat} {registry : Registry} {method : Bool} {name : String}

theorem Line.unique (first : Line registries id line) (second : Line registries id other) : line = other := by
  induction first generalizing other with
  | root found alone =>
    cases second with
    | root _ _ => rfl
    | child again linked _ =>
      cases Option.some.inj (found.symm.trans again)
      cases alone.symm.trans linked
  | child found linked _ ih =>
    cases second with
    | root again alone =>
      cases Option.some.inj (found.symm.trans again)
      cases alone.symm.trans linked
    | child again relinked above =>
      cases Option.some.inj (found.symm.trans again)
      cases linked.symm.trans relinked
      rw [ih above]

theorem Line.within (line : Line registries id other) : ∀ ancestor ∈ other, ancestor < registries.all.size := by
  induction line with
  | root found _ => exact List.forall_mem_singleton.mpr (Array.getElem?_eq_some_iff.mp found).1
  | child found _ _ ih => exact List.forall_mem_cons.mpr ⟨(Array.getElem?_eq_some_iff.mp found).1, ih⟩

private theorem nearest_cons (found : registries.all[id]? = some registry) :
    nearest registries (id :: line) method name = (registry.find? method name).or (nearest registries line method name) := by
  have own : registries.get? id method name = registry.find? method name := by rw [Registries.get?, found]; rfl
  rw [nearest, List.findSome?_cons, own]
  cases registry.find? method name <;> rfl

namespace Sound
variable (sound : Sound registries)
include sound

theorem line_exists (inside : id < registries.all.size) : ∃ line, Line registries id line := by
  induction id using Nat.strongRecOn with
  | ind id ih =>
    have found : registries.all[id]? = some registries.all[id] := Array.getElem?_eq_getElem inside
    rcases sound.parents id _ found with alone | ⟨parent, older, linked⟩
    · exact ⟨[id], .root found alone⟩
    · obtain ⟨line, above⟩ := ih parent older (Nat.lt_trans older inside)
      exact ⟨id :: line, .child found linked above⟩

theorem older {parent : Nat} (found : registries.all[id]? = some registry) (linked : registry.parent = .registry parent) :
    parent < id := by
  rcases sound.parents id registry found with alone | ⟨_, older, same⟩
  · cases alone.symm.trans linked
  · cases linked.symm.trans same
    exact older

/-- A call finds the nearest definition. -/
theorem resolve_eq (line : Line registries id other) : registries.resolve method name id =
    match nearest registries other method name with
    | some definition => .definition definition
    | none => .missing := by
  induction line with
  | root found alone =>
    rw [Registries.resolve, nearest_cons found, found]
    dsimp only
    rw [alone]
    cases Registry.find? _ method name <;> rfl
  | child found linked above ih =>
    rw [Registries.resolve, nearest_cons found, found]
    dsimp only
    rw [linked]
    cases Registry.find? _ method name with
    | some definition => rfl
    | none =>
      dsimp only
      rw [if_pos (sound.older found linked), ih]
      rfl

/-- A listing holds the nearest definition of each name and kind, and holds it once. -/
theorem under_listAll (line : Line registries id other) : Distinct (registries.listAll id) ∧
    ∀ method name, under method name (registries.listAll id) = (nearest registries other method name).toList := by
  induction line with
  | root found alone =>
    rw [Registries.listAll, found]
    dsimp only
    rw [alone]
    have none : Distinct [] := List.Pairwise.nil
    refine ⟨none.placed, fun method name => ?_⟩
    rw [nearest_cons found]
    exact (sound.proper _ _ found).under_listed none rfl
  | child found linked above ih =>
    rw [Registries.listAll, found]
    dsimp only
    rw [linked]
    dsimp only
    rw [if_pos (sound.older found linked)]
    refine ⟨ih.1.placed, fun method name => ?_⟩
    rw [nearest_cons found]
    exact (sound.proper _ _ found).under_listed ih.1 (ih.2 method name)

end Sound
end Lines

section Steps

/-- What is done to registries. The one with which a step is done is given by its number. -/
inductive Step where
  | create (parent? : Option Nat)
  | extend (id : Nat)
  | register (id : Nat) (definition : Definition)
  | function (id : Nat) (name description : String) (category : Category) (method : Bool)
      (implementation : List Value → Except Failure Value)
  | clear (id : Nat)

namespace Step

/-- The registry that a step names is there. -/
def Possible (registries : Registries) : Step → Prop
  | .create parent? => ∀ parent ∈ parent?, parent < registries.all.size
  | .extend id | .register id _ | .function id _ _ _ _ _ | .clear id => id < registries.all.size

def perform (registries : Registries) : Step → Registries
  | .create none => (registries.create .none).1
  | .create (some parent) => (registries.create (.registry parent)).1
  | .extend id => (registries.extend id).1
  | .register id definition => registries.register id definition
  | .function id name description category method implementation =>
    registries.register id (.ofHost name description category method implementation)
  | .clear id => registries.clear id

/-- The registry whose definitions a step changes. -/
def changed : Step → Option Nat
  | .create _ | .extend _ => none
  | .register id _ | .function id _ _ _ _ _ | .clear id => some id

end Step

/-- Registries that come from a sequence of steps. -/
inductive Reachable : Registries → Prop where
  | empty : Reachable .empty
  | step {registries : Registries} (before : Reachable registries) (step : Step) (possible : step.Possible registries) :
      Reachable (step.perform registries)

/-- A step puts an empty registry behind the others, or changes what one of them holds. -/
inductive Performed (registries : Registries) : Option Nat → Registries → Prop where
  | created (parent : Parent) (older : parent = .none ∨ ∃ id, id < registries.all.size ∧ parent = .registry id) :
      Performed registries none ⟨registries.all.push ⟨parent, [], []⟩⟩
  | changed (id : Nat) (change : Registry → Registry) (linked : ∀ registry, (change registry).parent = registry.parent)
      (proper : ∀ registry, Proper registry → Proper (change registry)) :
      Performed registries (some id) ⟨registries.all.modify id change⟩

variable {registries after : Registries} {id : Nat} {changed : Option Nat} {line : List Nat} {step : Step}

private theorem performed_register (id : Nat) (definition : Definition) :
    Performed registries (some id) (registries.register id definition) := by
  refine .changed id _ (fun registry => ?_) fun registry proper => proper.register definition
  unfold Registry.register
  split <;> rfl

private theorem performed (possible : step.Possible registries) :
    Performed registries step.changed (step.perform registries) := by
  cases step with
  | create parent? =>
    cases parent? with
    | none => exact .created .none (.inl rfl)
    | some parent => exact .created (.registry parent) (.inr ⟨parent, possible parent rfl, rfl⟩)
  | extend id => exact .created (.registry id) (.inr ⟨id, possible, rfl⟩)
  | register id definition => exact performed_register id definition
  | function id => exact performed_register id _
  | clear id => exact .changed id _ (fun _ => rfl) fun registry _ => proper_empty registry.parent

namespace Performed

/-- The other registries stay what they are. -/
theorem apart (performed : Performed registries changed after) {other : Nat} (inside : other < registries.all.size)
    (different : changed ≠ some other) : after.all[other]? = registries.all[other]? := by
  cases performed with
  | created parent older => rw [Array.getElem?_push, if_neg (Nat.ne_of_lt inside)]
  | changed id change linked proper => rw [Array.getElem?_modify, if_neg fun same => different (congrArg some same)]

theorem parent_kept (performed : Performed registries changed after) {registry : Registry}
    (found : registries.all[id]? = some registry) : ∃ later, after.all[id]? = some later ∧ later.parent = registry.parent := by
  have inside := (Array.getElem?_eq_some_iff.mp found).1
  cases performed with
  | created parent older =>
    refine ⟨registry, ?_, rfl⟩
    rw [Array.getElem?_push, if_neg (Nat.ne_of_lt inside), found]
  | changed other change linked proper =>
    rw [Array.getElem?_modify, found]
    by_cases here : other = id
    · exact ⟨change registry, if_pos here, linked registry⟩
    · exact ⟨registry, if_neg here, rfl⟩

theorem line_kept (performed : Performed registries changed after) (kept : Line registries id line) : Line after id line := by
  induction kept with
  | root found alone =>
    obtain ⟨later, found, same⟩ := performed.parent_kept found
    exact .root found (same.trans alone)
  | child found linked _ ih =>
    obtain ⟨later, found, same⟩ := performed.parent_kept found
    exact .child found (same.trans linked) ih

theorem nearest_kept (performed : Performed registries changed after) (within : ∀ ancestor ∈ line, ancestor < registries.all.size)
    (apart : ∀ ancestor ∈ line, changed ≠ some ancestor) (method : Bool) (name : String) :
    nearest after line method name = nearest registries line method name := by
  induction line with
  | nil => rfl
  | cons id rest ih =>
    obtain ⟨inside, within⟩ := List.forall_mem_cons.mp within
    obtain ⟨different, apart⟩ := List.forall_mem_cons.mp apart
    have same : after.get? id method name = registries.get? id method name := by
      rw [Registries.get?, performed.apart inside different, Registries.get?]
    rw [nearest, nearest, List.findSome?_cons, List.findSome?_cons, same]
    cases registries.get? id method name with
    | some definition => rfl
    | none => exact ih within apart

theorem sound (performed : Performed registries changed after) (sound : Sound registries) : Sound after := by
  have holds {id : Nat} {registry : Registry} (found : after.all[id]? = some registry) :
      (registry.parent = .none ∨ ∃ parent, parent < id ∧ registry.parent = .registry parent) ∧ Proper registry := by
    cases performed with
    | created parent older =>
      rw [Array.getElem?_push] at found
      split at found
      next here =>
        cases found
        exact ⟨here ▸ older, proper_empty parent⟩
      next => exact ⟨sound.parents id registry found, sound.proper id registry found⟩
    | changed other change linked proper =>
      rw [Array.getElem?_modify] at found
      split at found
      next here =>
        obtain ⟨before, held, rfl⟩ := Option.map_eq_some_iff.mp found
        exact ⟨linked before ▸ sound.parents id before held, proper before (sound.proper id before held)⟩
      next => exact ⟨sound.parents id registry found, sound.proper id registry found⟩
  exact ⟨fun _ _ found => (holds found).1, fun _ _ found => (holds found).2⟩

end Performed

theorem Reachable.sound (reachable : Reachable registries) : Sound registries := by
  induction reachable with
  | empty => exact ⟨nofun, nofun⟩
  | step _ step possible ih => exact (performed possible).sound ih

/-- However registries came to be, calls and listings go by the nearest definition in the line
of a registry's ancestors, and a step only matters to those whose line it is in. -/
theorem nearest_definition_answers {registries : Registries} {id : Nat} (reachable : Reachable registries)
    (inside : id < registries.all.size) :
    ∃ line, Line registries id line ∧ (∀ other, Line registries id other → other = line) ∧
      (∀ name arguments, registries.callFunction id name arguments =
        match nearest registries line false name with
        | some definition => definition.invoke arguments arguments.length
        | none => .error (.unknownFunction name)) ∧
      (∀ target name arguments, target ≠ .null → registries.callMethod id target name arguments =
        match nearest registries line true name with
        | some definition => definition.invoke (target :: arguments) arguments.length
        | none => .error (if (Loop.ofName? name).isSome then .fault (.loopOutsideList name) else .unknownMethod name)) ∧
      (∀ method name, (registries.listAll id).filter (fun definition => definition.name = name ∧ definition.method = method) =
        (nearest registries line method name).toList) ∧
      ∀ step : Step, step.Possible registries → (∀ ancestor ∈ line, step.changed ≠ some ancestor) →
        Line (step.perform registries) id line ∧
          ∀ method name, nearest (step.perform registries) line method name = nearest registries line method name := by
  have sound := reachable.sound
  obtain ⟨line, is⟩ := sound.line_exists inside
  refine ⟨line, is, fun other also => also.unique is, ?_, ?_, ?_, ?_⟩
  · intro name arguments
    rw [Registries.callFunction, sound.resolve_eq is]
    cases nearest registries line false name <;> rfl
  · intro target name arguments present
    rw [Registries.callMethod, sound.resolve_eq is]
    cases nearest registries line true name with
    | none =>
      dsimp only
      split <;> rfl
    | some definition => cases target <;> first | rfl | exact absurd rfl present
  · intro method name
    rw [← (sound.under_listAll is).2 method name]
    simp only [under, key, Prod.mk.injEq]
  · intro step possible apart
    have performed := performed possible
    exact ⟨performed.line_kept is, performed.nearest_kept is.within apart⟩

/-- A child without the name hands it on to its parent. -/
theorem child_asks_parent :
    let answer := Definition.ofHost "answer" "" .custom false fun _ => .ok (.int 42)
    let family := ((((Registries.empty.create .none).1).extend 0).1).register 0 answer
    Reachable family ∧ 1 < family.all.size ∧ Line family 1 [1, 0] ∧ family.callFunction 1 "answer" [] = .ok (.int 42) := by
  intro answer family
  have inside : 1 < family.all.size := by decide
  have reachable : Reachable family :=
    .step (.step (.step .empty (.create none) nofun) (.extend 0) Nat.zero_lt_one) (.register 0 answer) Nat.zero_lt_two
  have ancestors : Line family 1 [1, 0] := .child rfl rfl (.root rfl rfl)
  obtain ⟨line, _, unique, calls, _⟩ := nearest_definition_answers reachable inside
  cases unique _ ancestors
  exact ⟨reachable, inside, ancestors, calls "answer" []⟩

end Steps
end CommonExpr.Proofs.NearestDefinition
