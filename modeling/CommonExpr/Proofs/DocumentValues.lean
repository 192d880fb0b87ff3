import CommonExpr.Command.Run
import CommonExpr.Proofs.WellKeyedRuns

/-! The values that come in by the command line. A document stands for a value whose maps have, at any
depth, scalars for keys and each key once, and a name on the command line is bound to the value of a
document or to a text. -/

namespace CommonExpr.Proofs.DocumentValues
open Document MapKeys WellKeyedRuns

section Outcomes
variable {failure : Type} {first : Except failure α} {next : α → Except failure β} {value : β}

theorem bind_eq_ok : (first >>= next) = .ok value ↔ ∃ middle, first = .ok middle ∧ next middle = .ok value := by
  cases first with
  | error problem => exact ⟨nofun, nofun⟩
  | ok middle => exact ⟨fun reached => ⟨middle, rfl, reached⟩, fun ⟨_, same, reached⟩ => by cases same; exact reached⟩

end Outcomes

section Scalars
variable {value : Value}

private theorem converted_scalar {problem : Problem} {wrap : α → Value} {found : Option α}
    (scalar : ∀ content, (wrap content).isScalar) (read : orValue problem (found.map wrap) = .ok value) :
    value.isScalar := by
  cases found <;> cases read
  exact scalar _

private theorem timestampValue_scalar {text : String} (read : timestampValue text = .ok value) : value.isScalar := by
  unfold timestampValue at read
  split at read
  next =>
    split at read <;> cases read
    rfl
  next => cases read

private theorem formValue_scalar {text : String} (read : formValue text = .ok value) : value.isScalar := by
  unfold formValue at read
  dsimp only at read
  split at read
  case h_3 | h_4 => exact converted_scalar (fun _ => rfl) read
  case h_5 => exact timestampValue_scalar read
  all_goals cases read
  all_goals rfl

private theorem taggedValue_scalar {kind text : String} (read : taggedValue kind text = .ok value) :
    value.isScalar := by
  unfold taggedValue at read
  dsimp only at read
  split at read
  case h_2 =>
    split at read
    next =>
      cases read
      rfl
    next =>
      split at read <;> cases read
      rfl
  case h_3 | h_4 =>
    split at read
    next => cases read
    next => exact converted_scalar (fun _ => rfl) read
  case h_5 => exact timestampValue_scalar read
  all_goals cases read
  all_goals rfl

/-- What a scalar of a document stands for is a scalar. -/
theorem scalarValue_scalar {reading : Reading} {text : String} (read : scalarValue reading text = .ok value) :
    value.isScalar := by
  unfold scalarValue at read
  split at read
  next => exact formValue_scalar read
  next => cases read; rfl
  next => exact taggedValue_scalar read
  next => cases read

end Scalars

section Nodes

/-- Entries that can go into a map: the keys are scalars, and the values well keyed. -/
def Ready (entries : List (Value × Value)) : Prop :=
  ∀ entry ∈ entries, entry.1.isScalar ∧ WellKeyed entry.2

theorem Ready.append {first second : List (Value × Value)} (ready : Ready first) (also : Ready second) :
    Ready (first ++ second) :=
  List.forall_mem_append.mpr ⟨ready, also⟩

theorem Ready.map {entries : List (Value × Value)} (ready : Ready entries) (kind : MapKind) :
    WellKeyed (.map kind (Entries.ofList entries)) := by
  have built : ∀ before, Built before →
      Built (entries.foldl (fun built (entry : Value × Value) => Entries.insert entry.1 entry.2 built) before) := by
    induction entries with
    | nil => exact fun _ begun => begun
    | cons entry rest ih =>
      obtain ⟨here, later⟩ := List.forall_mem_cons.mp ready
      exact fun before begun => ih later _ (begun.insert here.1 here.2)
  exact (built [] .empty).map kind

mutual

private theorem toValue_wellKeyed (node : Node) {value : Value} (read : node.toValue = .ok value) :
    WellKeyed value := by
  match node with
  | .scalar reading text => exact .scalar (scalarValue_scalar read)
  | .sequence tag items =>
    rw [Node.toValue] at read
    obtain ⟨_, _, read⟩ := bind_eq_ok.mp read
    obtain ⟨values, each, read⟩ := bind_eq_ok.mp read
    cases read
    exact .list (itemValues_wellKeyed items each)
  | .mapping tag entries =>
    rw [Node.toValue] at read
    obtain ⟨_, _, read⟩ := bind_eq_ok.mp read
    obtain ⟨⟨merged, own⟩, each, read⟩ := bind_eq_ok.mp read
    cases read
    have ready := entryValues_ready entries each
    exact (ready.1.append ready.2).map .plain

private theorem itemValues_wellKeyed (items : List Node) {values : List Value}
    (read : Node.itemValues items = .ok values) :
    ∀ value ∈ values, WellKeyed value := by
  match items with
  | [] =>
    cases read
    nofun
  | item :: rest =>
    rw [Node.itemValues] at read
    obtain ⟨value, first, read⟩ := bind_eq_ok.mp read
    obtain ⟨others, later, read⟩ := bind_eq_ok.mp read
    cases read
    exact List.forall_mem_cons.mpr ⟨toValue_wellKeyed item first, itemValues_wellKeyed rest later⟩

private theorem entryValues_ready (entries : List (Node × Node)) {merged own : List (Value × Value)}
    (read : Node.entryValues entries = .ok (merged, own)) : Ready merged ∧ Ready own := by
  match entries with
  | [] =>
    cases read
    exact ⟨nofun, nofun⟩
  | (key, value) :: rest =>
    rw [Node.entryValues] at read
    split at read
    next =>
      obtain ⟨source, drawn, read⟩ := bind_eq_ok.mp read
      obtain ⟨⟨others, kept⟩, later, read⟩ := bind_eq_ok.mp read
      cases read
      have ready := entryValues_ready rest later
      exact ⟨(mergedEntries_ready value drawn).append ready.1, ready.2⟩
    next =>
      have named (name : Value) (read : (do
          if !name.isScalar then throw .content
          let content ← value.toValue
          let (merged, own) ← Node.entryValues rest
          return (merged, (name, content) :: own) : Except Problem _) = .ok (merged, own)) : Ready merged ∧ Ready own := by
        dsimp only at read
        cases scalar : name.isScalar with
        | false =>
          rw [scalar] at read
          cases read
        | true =>
          rw [scalar] at read
          obtain ⟨content, keyed, read⟩ := bind_eq_ok.mp read
          obtain ⟨⟨others, kept⟩, later, read⟩ := bind_eq_ok.mp read
          cases read
          have ready := entryValues_ready rest later
          exact ⟨ready.1, List.forall_mem_cons.mpr ⟨⟨scalar, toValue_wellKeyed value keyed⟩, ready.2⟩⟩
      dsimp only at read
      split at read
      all_goals
        obtain ⟨name, _, read⟩ := bind_eq_ok.mp read
        exact named name read

private theorem mergedEntries_ready (node : Node) {entries : List (Value × Value)}
    (read : node.mergedEntries = .ok entries) : Ready entries := by
  match node with
  | .scalar _ _ => cases read
  | .sequence _ items => exact mergedItems_ready items read
  | .mapping _ inner =>
    rw [Node.mergedEntries] at read
    obtain ⟨⟨merged, own⟩, each, read⟩ := bind_eq_ok.mp read
    cases read
    have ready := entryValues_ready inner each
    exact ready.1.append ready.2

private theorem mergedItems_ready (items : List Node) {entries : List (Value × Value)}
    (read : Node.mergedItems items = .ok entries) : Ready entries := by
  match items with
  | [] =>
    cases read
    nofun
  | .mapping _ inner :: rest =>
    rw [Node.mergedItems] at read
    obtain ⟨⟨merged, own⟩, each, read⟩ := bind_eq_ok.mp read
    obtain ⟨others, later, read⟩ := bind_eq_ok.mp read
    cases read
    have ready := entryValues_ready inner each
    exact (mergedItems_ready rest later).append (ready.1.append ready.2)
  | .scalar _ _ :: _ => cases read
  | .sequence _ _ :: _ => cases read

end

end Nodes

/-- Whatever a document stands for is well keyed. This is all that a command relies on in what it reads. -/
def ReadsWellKeyed (readDocument : Command.DocumentReader) : Prop :=
  ∀ {text value}, readDocument text = .ok value → WellKeyed value

theorem read_wellKeyed : ReadsWellKeyed Document.read := by
  intro text value read
  obtain ⟨root, _, read⟩ := bind_eq_ok.mp read
  cases root with
  | none =>
    cases read
    exact .scalar rfl
  | some root => exact toValue_wellKeyed root read

section Commands
open Command

/-- A part of a command that comes to a value. -/
def Comes (program : Outcome α) (value : α) : Prop :=
  program.run = .ok (.ok value)

theorem comes_bind {program : Outcome α} {next : α → Outcome β} {value : β} (comes : Comes (program >>= next) value) :
    ∃ middle, Comes program middle ∧ Comes (next middle) value := by
  rw [Comes, ExceptT.run_bind] at comes
  obtain ⟨outcome, ran, rest⟩ := bind_eq_ok.mp comes
  cases outcome with
  | error report => cases rest
  | ok middle => exact ⟨middle, ran, rest⟩

theorem comes_pure {value result : α} (comes : Comes (pure value) result) : result = value := by
  cases comes
  rfl

private theorem fail_never_comes {message : String} {value : α} : ¬ Comes (fail message) value := by
  intro comes
  cases comes

private theorem interrupt_never_comes {cause : Interruption} {value : α} : ¬ Comes (interrupt cause) value := by
  intro comes
  cases comes

private theorem ofList_wellBound {bound : List (String × Value)} (keyed : ∀ entry ∈ bound, WellKeyed entry.2) :
    WellBound (.ofList bound) := by
  have built : ∀ before : Bindings, WellBound before →
      WellBound (bound.foldl (fun bindings (entry : String × Value) => bindings.set entry.1 entry.2) before) := by
    induction bound with
    | nil => exact fun _ begun => begun
    | cons entry rest ih =>
      obtain ⟨here, later⟩ := List.forall_mem_cons.mp keyed
      exact fun before begun => ih later _ (begun.set here)
  exact built .empty nofun

section Bound
variable {readDocument : DocumentReader} (keyed : ReadsWellKeyed readDocument)
include keyed

private theorem fileBindings_wellKeyed {file text : String} {bound : List (String × Value)}
    (read : Comes (fileBindings readDocument file text) bound) : ∀ entry ∈ bound, WellKeyed entry.2 := by
  unfold fileBindings at read
  split at read
  next => cases read
  next =>
    cases comes_pure read
    nofun
  next kind entries found =>
    cases comes_pure read
    intro entry member
    obtain ⟨source, inside, same⟩ := List.mem_filterMap.mp member
    cases keyed found with
    | scalar scalar => cases scalar
    | map _ each =>
      split at same <;> cases same
      exact each _ inside
  next => cases read

private theorem assignment_wellKeyed {text : String} {entry : String × Value}
    (read : Comes (assignment readDocument text) entry) :
    WellKeyed entry.2 := by
  unfold assignment at read
  extract_lets characters name bound raw continued at read
  split at read
  next =>
    obtain ⟨_, failed, _⟩ := comes_bind read
    exact absurd failed fail_never_comes
  next =>
    change Comes (if raw.isEmpty then _ else _) entry at read
    split at read
    next =>
      rw [comes_pure read]
      exact .scalar rfl
    next =>
      split at read
      next found =>
        rw [comes_pure read]
        exact keyed found
      next =>
        split at read
        next => exact absurd read fail_never_comes
        next => exact absurd read interrupt_never_comes

private theorem assignments_wellKeyed {texts : List String} {bound : List (String × Value)}
    (read : Comes (texts.mapM (assignment readDocument)) bound) : ∀ entry ∈ bound, WellKeyed entry.2 := by
  induction texts generalizing bound with
  | nil =>
    cases comes_pure read
    nofun
  | cons text rest ih =>
    rw [List.mapM_cons] at read
    obtain ⟨entry, first, read⟩ := comes_bind read
    obtain ⟨others, later, read⟩ := comes_bind read
    cases comes_pure read
    exact List.forall_mem_cons.mpr ⟨assignment_wellKeyed keyed first, ih later⟩

/-- What the command line binds is well bound. -/
theorem loadBindingsWith_wellBound {file : Option (String × String)} {assignments : List String} {bindings : Bindings}
    (loaded : Comes (loadBindingsWith readDocument file assignments) bindings) : WellBound bindings := by
  unfold loadBindingsWith at loaded
  cases file with
  | none =>
    obtain ⟨fromFile, read, loaded⟩ := comes_bind loaded
    obtain ⟨assigned, later, loaded⟩ := comes_bind loaded
    cases comes_pure read
    cases comes_pure loaded
    exact ofList_wellBound (assignments_wellKeyed keyed later)
  | some pair =>
    obtain ⟨fromFile, read, loaded⟩ := comes_bind loaded
    obtain ⟨assigned, later, loaded⟩ := comes_bind loaded
    cases comes_pure loaded
    exact ofList_wellBound (List.forall_mem_append.mpr ⟨fileBindings_wellKeyed keyed read, assignments_wellKeyed keyed later⟩)

end Bound

end Commands

end CommonExpr.Proofs.DocumentValues
