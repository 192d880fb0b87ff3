import CommonExpr.Proofs.LibraryBreakdowns
import CommonExpr.Proofs.ReorderedOperators

/-! The standard functions on values whose maps have their entries in another order. All but the
one that writes a value as text come to the same, up to the order in the values that they
hand on, or fail alike. -/

namespace CommonExpr.Proofs.ReorderedLibrary
open LibraryBreakdowns MapKeys NearestDefinition ReorderedOperators ReorderedValues Value

section Implementations

/-- On arguments in another order, the implementation comes to a value in another order. -/
def Steady (implementation : List Value → Except Failure Value) : Prop :=
  ∀ arguments others, List.Forall₂ Reordered arguments others →
    Parallel Reordered (implementation arguments) (implementation others)

private theorem unary_steady {body : Value → Except Failure Value}
    (each : ∀ value other, Reordered value other → Parallel Reordered (body value) (body other)) :
    Steady (Standard.unary body) := by
  intro arguments others given
  cases given with
  | nil => exact .error _
  | cons first _ => exact each _ _ first

private theorem binary_steady {body : Value → Value → Except Failure Value}
    (each : ∀ value other argument another, Reordered value other → Reordered argument another →
      Parallel Reordered (body value argument) (body other another)) : Steady (Standard.binary body) := by
  intro arguments others given
  cases given with
  | nil => exact .error _
  | cons first rest =>
    cases rest with
    | nil => exact .error _
    | cons second _ => exact each _ _ _ _ first second

private theorem ternary_steady {body : Value → Value → Value → Except Failure Value}
    (each : ∀ value other argument another last further, Reordered value other → Reordered argument another →
      Reordered last further → Parallel Reordered (body value argument last) (body other another further)) :
    Steady (Standard.ternary body) := by
  intro arguments others given
  cases given with
  | nil => exact .error _
  | cons first rest =>
    cases rest with
    | nil => exact .error _
    | cons second rest =>
      cases rest with
      | nil => exact .error _
      | cons third _ => exact each _ _ _ _ _ _ first second third

variable {left right first second : Value}

/-- What no list and no map is taken for, and is the same for all of them. -/
theorem blind {α : Type} {body : Value → α} (reordered : Reordered left right)
    (lists : ∀ one two, body (.list one) = body (.list two))
    (maps : ∀ kind one two, body (.map kind one) = body (.map kind two)) : body right = body left := by
  cases reordered with
  | scalar _ => rfl
  | list _ _ => exact lists _ _
  | map _ _ _ _ => exact maps _ _ _

private theorem toInt_reordered (reordered : Reordered left right) : right.toInt = left.toInt := by
  refine blind reordered (fun _ _ => rfl) fun kind _ _ => ?_
  rcases kind with _ | _ | _ <;> rfl

private theorem toUnsigned_reordered (reordered : Reordered left right) : right.toUnsigned = left.toUnsigned := by
  refine blind reordered (fun _ _ => rfl) fun kind _ _ => ?_
  rcases kind with _ | _ | _ <;> rfl

private theorem toDouble_reordered (reordered : Reordered left right) : right.toDouble = left.toDouble := by
  refine blind reordered (fun _ _ => rfl) fun kind _ _ => ?_
  rcases kind with _ | _ | _ <;> rfl

private theorem hasField_reordered (target : Reordered left right) (field : Reordered first second) :
    right.hasField second = left.hasField first := by
  cases target with
  | scalar scalar =>
    cases left with
    | list _ | map _ _ => cases scalar
    | _ => rfl
  | list _ _ => rfl
  | map keyed order keys each =>
    cases field with
    | scalar scalar =>
      cases first with
      | text _ _ => exact hasKey_reordered (.scalar rfl) (.intro keyed order keys each)
      | list _ | map _ _ => cases scalar
      | _ => rfl
    | list _ _ | map _ _ _ _ => rfl

private theorem extreme_steady (function : String) (side : Ordering) : Steady (extreme function side) := by
  intro arguments others given
  cases given with
  | nil => exact .error _
  | @cons best rebest rest more reached others =>
    rw [extreme, extreme]
    induction others generalizing best rebest with
    | nil => exact .returned reached
    | @cons value other _ _ same _ ih =>
      rw [List.foldlM_cons, List.foldlM_cons, compare_reordered same reached]
      refine Parallel.bind (Parallel.before (.refl _) fun order => ?_) fun _ _ further => ih further
      split
      next => exact .returned same
      next => exact .returned reached

private theorem containment_parallel (target : Reordered left right) (item : Reordered first second) :
    Parallel Reordered (Standard.containment left first) (Standard.containment right second) := by
  cases target with
  | scalar scalar =>
    cases left with
    | text _ _ =>
      cases item with
      | scalar _ =>
        cases first with
        | text _ _ => exact .returned (.scalar rfl)
        | _ => exact .error _
      | list _ _ | map _ _ _ _ => exact .error _
    | list _ | map _ _ => cases scalar
    | _ => exact .error _
  | list sizes each =>
    rw [Standard.containment, Standard.containment, any_equal_reordered item (List.forall₂_iff_get.mpr ⟨sizes, each⟩)]
    exact .returned (.scalar rfl)
  | @map kind _ _ _ _ _ _ _ => rcases kind with _ | _ | _ <;> exact .error _

private theorem matchesPattern_reordered (text : Reordered left right) (pattern : Reordered first second) :
    right.matchesPattern second = left.matchesPattern first := by
  cases text with
  | scalar _ =>
    cases pattern with
    | scalar _ => rfl
    | list _ _ | map _ _ _ _ => cases left <;> rfl
  | list _ _ | map _ _ _ _ => rfl

private theorem onText_parallel (name : String) {body : String → Value} (plain : ∀ content, WellKeyed (body content))
    (target : Reordered left right) :
    Parallel Reordered (Standard.onText name body left) (Standard.onText name body right) := by
  cases target with
  | scalar _ =>
    cases left with
    | text _ content => exact .returned (reordered_refl (plain content))
    | _ => exact .error _
  | list _ _ | map _ _ _ _ => exact .error _

private theorem onTexts_parallel (name : String) {body : String → String → Value}
    (plain : ∀ content argument, WellKeyed (body content argument)) (target : Reordered left right)
    (argument : Reordered first second) :
    Parallel Reordered (Standard.onTexts name body left first) (Standard.onTexts name body right second) := by
  cases target with
  | scalar _ =>
    cases left with
    | text _ content =>
      cases argument with
      | scalar _ =>
        cases first with
        | text _ other => exact .returned (reordered_refl (plain content other))
        | _ => exact .error _
      | list _ _ | map _ _ _ _ => exact .error _
    | _ => exact .error _
  | list _ _ | map _ _ _ _ => exact .error _

/-- Replacing sees what is text, and turns down everything else in one way. -/
theorem replacement_parallel {third fourth : Value} (target : Reordered left right) (old : Reordered first second)
    (new : Reordered third fourth) :
    Parallel Reordered (Standard.replacement left first third) (Standard.replacement right second fourth) := by
  cases target with
  | scalar _ =>
    cases old with
    | scalar _ =>
      cases new with
      | scalar _ =>
        refine .of_eq rfl fun value came => ?_
        unfold Standard.replacement at came
        split at came <;> cases came
        exact .scalar rfl
      | list _ _ | map _ _ _ _ => cases left <;> cases first <;> exact .error _
    | list _ _ | map _ _ _ _ => cases left <;> exact .error _
  | list _ _ | map _ _ _ _ => exact .error _

private theorem wholePart_parallel (name : String) (rounded : Double → Option Int) (reordered : Reordered left right) :
    Parallel Reordered (Standard.wholePart name rounded left) (Standard.wholePart name rounded right) := by
  cases reordered with
  | scalar _ =>
    refine .of_eq rfl fun value came => ?_
    unfold Standard.wholePart at came
    split at came
    next =>
      cases came
      exact .scalar rfl
    next =>
      split at came <;> cases came
      exact .scalar rfl
    next => cases came
  | list _ _ => exact .error _
  | @map kind _ _ _ _ _ _ _ => rcases kind with _ | _ | _ <;> exact .error _

private theorem magnitude_parallel (reordered : Reordered left right) :
    Parallel Reordered (Standard.magnitude left) (Standard.magnitude right) := by
  cases reordered with
  | scalar _ =>
    cases left with
    | number _ => exact .returned (.scalar rfl)
    | _ => exact .error _
  | list _ _ => exact .error _
  | @map kind _ _ _ _ _ _ _ => rcases kind with _ | _ | _ <;> exact .error _

private theorem rounding_parallel (value : Reordered left right) (places : Reordered first second) :
    Parallel Reordered (Standard.rounding left first) (Standard.rounding right second) := by
  cases value with
  | scalar _ =>
    cases places with
    | scalar _ =>
      refine .of_eq rfl fun value came => ?_
      unfold Standard.rounding at came
      split at came
      next =>
        cases came
        exact .scalar rfl
      next =>
        split at came
        next => cases came
        next =>
          split at came <;> cases came
          exact .scalar rfl
      next => cases came
      next => cases came
      next => cases came
    | list _ _ | map _ _ _ _ =>
      cases left with
      | number number => cases number <;> exact .error _
      | _ => exact .error _
  | list _ _ => exact .error _
  | @map kind _ _ _ _ _ _ _ => rcases kind with _ | _ | _ <;> exact .error _

end Implementations

section Definitions

/-- A body that sees no difference, and whose result is taken for a scalar. -/
theorem wrapped {outcome other : Except Failure α} (same : other = outcome) (wrap : α → Value)
    (scalar : ∀ value, (wrap value).isScalar) :
    Parallel Reordered (do return wrap (← outcome)) (do return wrap (← other)) := by
  rw [same]
  exact (Parallel.refl outcome).before fun value => .returned (.scalar (scalar value))

private theorem conversions_steady :
    ∀ definition ∈ Standard.conversions, key definition ≠ ("string", false) → Steady definition.implementation := by
  simp only [Standard.conversions, List.forall_mem_cons]
  refine ⟨fun _ => ?_, fun _ => ?_, fun _ => ?_, fun written => absurd rfl written, fun _ => ?_, fun _ => ?_, List.forall_mem_nil _⟩
  · exact unary_steady fun _ _ reordered => wrapped (toInt_reordered reordered) .int fun _ => rfl
  · exact unary_steady fun _ _ reordered => wrapped (toUnsigned_reordered reordered) .int fun _ => rfl
  · exact unary_steady fun _ _ reordered => wrapped (toDouble_reordered reordered) .double fun _ => rfl
  · refine unary_steady fun value other reordered => ?_
    rw [toBool_reordered reordered]
    exact .returned (.scalar rfl)
  · refine unary_steady fun value other reordered => ?_
    rw [typeName_reordered reordered]
    exact .returned (.scalar rfl)

private theorem collections_steady : ∀ definition ∈ Standard.collections, Steady definition.implementation := by
  have sized : Steady (Standard.unary fun value => return .int (← value.sizeOf)) :=
    unary_steady fun _ _ reordered => wrapped (sizeOf_reordered reordered) (fun size : Nat => .int size) fun _ => rfl
  simp only [Standard.collections, List.forall_mem_cons]
  refine ⟨sized, sized, ?_, extreme_steady "max" .gt, extreme_steady "min" .lt, ?_, List.forall_mem_nil _⟩
  · refine binary_steady fun target other field another same reordered => ?_
    rw [hasField_reordered same reordered]
    exact .returned (.scalar rfl)
  · exact binary_steady fun _ _ _ _ target item => containment_parallel target item

private theorem texts_steady : ∀ definition ∈ Standard.texts, Steady definition.implementation := by
  have searched : Steady (Standard.binary fun text pattern => return .bool (← text.matchesPattern pattern)) :=
    binary_steady fun _ _ _ _ text pattern => wrapped (matchesPattern_reordered text pattern) .bool fun _ => rfl
  have plain (content : String) : WellKeyed (.string content) := .scalar rfl
  have decided (answer : Bool) : WellKeyed (.bool answer) := .scalar rfl
  have parts (contents : List String) : WellKeyed (.list (contents.map .string)) := by
    refine .list fun element member => ?_
    obtain ⟨content, _, rfl⟩ := List.mem_map.mp member
    exact plain content
  simp only [Standard.texts, List.forall_mem_cons]
  refine ⟨searched, searched, ?_, ?_, ?_, ?_, ?_, ?_, ?_, List.forall_mem_nil _⟩
  · exact binary_steady fun _ _ _ _ => onTexts_parallel _ fun _ _ => decided _
  · exact binary_steady fun _ _ _ _ => onTexts_parallel _ fun _ _ => decided _
  · exact unary_steady fun _ _ => onText_parallel _ fun _ => plain _
  · exact unary_steady fun _ _ => onText_parallel _ fun _ => plain _
  · exact unary_steady fun _ _ => onText_parallel _ fun _ => plain _
  · exact ternary_steady fun _ _ _ _ _ _ => replacement_parallel
  · exact binary_steady fun _ _ _ _ => onTexts_parallel _ fun _ _ => parts _

private theorem mathematics_steady : ∀ definition ∈ Standard.mathematics, Steady definition.implementation := by
  have rounded : Steady (Standard.binary Standard.rounding) := binary_steady fun _ _ _ _ => rounding_parallel
  simp only [Standard.mathematics, List.forall_mem_cons]
  refine ⟨?_, ?_, ?_, ?_, List.forall_mem_nil _⟩
  · exact unary_steady fun _ _ => magnitude_parallel
  · exact unary_steady fun _ _ => wholePart_parallel _ _
  · exact unary_steady fun _ _ => wholePart_parallel _ _
  · intro arguments others given
    cases given with
    | nil => exact rounded _ _ .nil
    | cons value rest =>
      cases rest with
      | nil => exact rounding_parallel value (.scalar rfl)
      | cons places rest => exact rounded _ _ (.cons value (.cons places rest))

private theorem standard_steady :
    ∀ definition ∈ Standard.definitions, key definition ≠ ("string", false) → Steady definition.implementation := by
  intro definition member wordless
  simp only [Standard.definitions, List.mem_append] at member
  rcases member with ((member | member) | member) | member
  · exact conversions_steady definition member wordless
  · exact collections_steady definition member
  · exact texts_steady definition member
  · exact mathematics_steady definition member

end Definitions

section Calls

/-- Where a failure is laid to the arguments, it stays alike. -/
theorem blame_akin {first second : Failure} (definition : Definition) (akin : Akin first second) :
    Akin (definition.blame first) (definition.blame second) := by
  obtain rfl | ⟨cause, other, rfl, rfl⟩ := akin
  · exact .inl rfl
  · exact .faults cause other

variable {arguments others : List Value} {target other : Value}

private theorem invoke_parallel {definition : Definition} (steady : Steady definition.implementation)
    (given : List.Forall₂ Reordered arguments others) (count : Nat) :
    Parallel Reordered (definition.invoke arguments count) (definition.invoke others count) := by
  unfold Definition.invoke
  split
  next =>
    have ended := steady _ _ given
    generalize definition.implementation arguments = one at ended ⊢
    generalize definition.implementation others = two at ended ⊢
    cases ended with
    | failed akin => exact .failed (blame_akin definition akin)
    | returned reached => exact .returned reached
  next => exact .error _

theorem callFunction_parallel {name : String} (wordless : name ≠ "string")
    (given : List.Forall₂ Reordered arguments others) :
    Parallel Reordered (standardFunctions.callFunction name arguments) (standardFunctions.callFunction name others) := by
  change Parallel Reordered (Registries.standard.callFunction 0 name arguments)
    (Registries.standard.callFunction 0 name others)
  unfold Registries.callFunction
  rcases resolve_standard false name with ⟨definition, member, ⟨rfl, _⟩, resolved⟩ | missing
  · rw [resolved, given.length_eq]
    exact invoke_parallel (standard_steady definition member fun same => wordless (congrArg Prod.fst same)) given _
  · rw [missing]
    exact .error _

/-- No method writes text. -/
theorem callMethod_parallel (name : String) (on : Reordered target other)
    (given : List.Forall₂ Reordered arguments others) :
    Parallel Reordered (standardFunctions.callMethod target name arguments)
      (standardFunctions.callMethod other name others) := by
  change Parallel Reordered (Registries.standard.callMethod 0 target name arguments)
    (Registries.standard.callMethod 0 other name others)
  unfold Registries.callMethod
  rcases resolve_standard true name with ⟨definition, member, ⟨rfl, kind⟩, resolved⟩ | missing
  · have wordless : key definition ≠ ("string", false) := fun same => by
      cases kind.symm.trans (congrArg Prod.snd same)
    have invoked : Parallel Reordered (definition.invoke (target :: arguments) arguments.length)
        (definition.invoke (other :: others) others.length) := by
      rw [given.length_eq]
      exact invoke_parallel (standard_steady definition member wordless) (.cons on given) _
    rw [resolved]
    cases on with
    | scalar _ =>
      cases target with
      | null => exact .error _
      | _ => exact invoked
    | list _ _ | map _ _ _ _ => exact invoked
  · rw [missing]
    dsimp only
    split
    next => exact .faults _ _
    next => exact .error _

end Calls

end CommonExpr.Proofs.ReorderedLibrary
