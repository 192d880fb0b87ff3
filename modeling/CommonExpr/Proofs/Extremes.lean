import CommonExpr.Proofs.DeepEquality
import CommonExpr.Proofs.OperatorAgreement

/-! The greatest and the least of some values. Each of them is compared only with the best one
of those before it, and still the winner is in order with all of them: where a value gives way
to a better one, so does every value that has not been ahead of it. -/

namespace CommonExpr.Proofs.Extremes
open NumberPlaces MapKeys DeepEquality ValueOrder OperatorAgreement

section Rounds
variable {side : Ordering} {seen : List Value} {best : Value}

/-- A value that stands at one place among others. Those before it are strictly behind it, and
those after it are not ahead of it. -/
def Leads (side : Ordering) (candidates : List Value) (best : Value) : Prop :=
  ∃ earlier later, candidates = earlier ++ best :: later ∧
    (∀ value ∈ earlier, Value.compare value best = .ok side.swap) ∧
    ∀ value ∈ later, ∃ order, Value.compare value best = .ok order ∧ order ≠ side

private theorem compare_swap {left right : Value} {order : Ordering} (compared : Value.compare left right = .ok order) :
    Value.compare right left = .ok order.swap := by
  have mirrored := compare_mirrored left right
  rw [compared] at mirrored
  generalize Value.compare right left = backward at mirrored ⊢
  cases mirrored with
  | answered => rfl

/-- Whoever was not ahead of the best one so far is strictly behind the one that overtakes it. -/
theorem behind_of_overtaken (strict : side ≠ .eq) {value next : Value} {order : Ordering} (properValue : proper value)
    (properBest : proper best) (properNext : proper next) (compared : Value.compare value best = .ok order)
    (kept : order ≠ side) (ahead : Value.compare next best = .ok side) :
    Value.compare value next = .ok side.swap := by
  cases side with
  | eq => exact absurd rfl strict
  | gt =>
    have below : order.isLE := by cases order <;> first | rfl | exact absurd rfl kept
    obtain ⟨last, answer, _, firm⟩ :=
      compare_composes value best next order .lt properValue properBest properNext compared (compare_swap ahead) below rfl
    rw [answer, firm (.inr rfl)]
    rfl
  | lt =>
    have above : order.swap.isLE := by cases order <;> first | rfl | exact absurd rfl kept
    obtain ⟨last, answer, _, firm⟩ := compare_composes next best value .lt order.swap properNext properBest properValue
      ahead (compare_swap compared) rfl above
    rw [firm (.inl rfl)] at answer
    exact compare_swap answer

/-- One more value either is taken for the best one or leaves it at its place. -/
theorem Leads.next (leads : Leads side seen best) (strict : side ≠ .eq) {value : Value} {order : Ordering}
    (properSeen : ∀ value ∈ seen, proper value) (properValue : proper value)
    (compared : Value.compare value best = .ok order) :
    Leads side (seen ++ [value]) (if order = side then value else best) := by
  obtain ⟨earlier, later, rfl, before, after⟩ := leads
  split
  next ahead =>
    subst ahead
    have overtaken {other : Value} {place : Ordering} (member : other ∈ earlier ++ best :: later)
        (placed : Value.compare other best = .ok place) (kept : place ≠ order) :
        Value.compare other value = .ok order.swap :=
      behind_of_overtaken strict (properSeen other member) (properSeen best (by simp)) properValue placed kept compared
    refine ⟨earlier ++ best :: later, [], rfl, fun other member => ?_, nofun⟩
    rcases List.mem_append.mp member with first | inside
    · exact overtaken member (before other first) (by cases order <;> first | decide | exact absurd rfl strict)
    · rcases List.mem_cons.mp inside with rfl | last
      · exact compare_swap compared
      · obtain ⟨place, placed, kept⟩ := after other last
        exact overtaken member placed kept
  next behind =>
    refine ⟨earlier, later ++ [value], by simp, before, fun other member => ?_⟩
    rcases List.mem_append.mp member with inside | new
    · exact after other inside
    · rw [List.mem_singleton.mp new]
      exact ⟨order, compared, behind⟩

/-- The round over all values that follow. -/
theorem Leads.fold (strict : side ≠ .eq) {rest : List Value} {last : Value} (leads : Leads side seen best)
    (properAll : ∀ value ∈ seen ++ rest, proper value)
    (ended : rest.foldlM (fun best value => do return if (← Value.compare value best) = side then value else best) best =
      .ok last) : Leads side (seen ++ rest) last := by
  induction rest generalizing seen best with
  | nil =>
    cases ended
    simpa using leads
  | cons value rest ih =>
    cases compared : Value.compare value best with
    | error failure =>
      rw [List.foldlM_cons, compared] at ended
      cases ended
    | ok order =>
      rw [List.foldlM_cons, compared] at ended
      have onward := leads.next strict (fun other member => properAll other (List.mem_append_left _ member))
        (properAll value (by simp)) compared
      simpa using ih onward (by simpa using properAll) ended

end Rounds

section Winners
variable {function : String} {side : Ordering} {candidates : List Value} {best : Value}

private theorem leads_of_extreme (strict : side ≠ .eq) (properAll : ∀ value ∈ candidates, proper value)
    (found : Value.extreme function side candidates = .ok best) : Leads side candidates best := by
  cases candidates with
  | nil => cases found
  | cons first rest =>
    have start : Leads side [first] first := ⟨[], [], rfl, nofun, nofun⟩
    exact start.fold strict properAll found

theorem Leads.member (leads : Leads side candidates best) : best ∈ candidates := by
  obtain ⟨earlier, later, rfl, _⟩ := leads
  simp

/-- Any other value among the candidates is in order with the winner and not ahead of it. -/
theorem Leads.compared (leads : Leads side candidates best) (strict : side ≠ .eq) {value : Value}
    (member : value ∈ candidates) (other : value ≠ best) :
    ∃ order, Value.compare value best = .ok order ∧ order ≠ side := by
  obtain ⟨earlier, later, rfl, before, after⟩ := leads
  rcases List.mem_append.mp member with first | inside
  · exact ⟨side.swap, before value first, by cases side <;> first | decide | exact absurd rfl strict⟩
  · rcases List.mem_cons.mp inside with same | last
    · exact absurd same other
    · exact after value last

/-- Two winners among the same values, in whatever order these come, are equal. -/
theorem Leads.equal {others : List Value} {winner : Value} (leads : Leads side candidates best) (strict : side ≠ .eq)
    (permuted : others.Perm candidates) (leading : Leads side others winner)
    (keyedBest : WellKeyed best) (properBest : proper best) (properWinner : proper winner) :
    winner.deepEquals best := by
  by_cases same : winner = best
  · subst same
    exact deepEquals_refl keyedBest properBest
  · obtain ⟨order, compared, kept⟩ := leads.compared strict (permuted.subset leading.member) same
    obtain ⟨back, answer, keptBack⟩ := leading.compared strict (permuted.symm.subset leads.member) (Ne.symm same)
    have swapped : back = order.swap := Except.ok.inj (answer.symm.trans (compare_swap compared))
    have level : order = .eq := by
      subst swapped
      cases order <;> cases side <;> first | rfl | contradiction
    rw [equal_iff_level winner best compared, level, properWinner, properBest]
    rfl

/-- A value that can be compared with itself is level with itself. -/
theorem compare_self_level {order : Ordering} (compared : Value.compare best best = .ok order) : order = .eq := by
  have swapped : order = order.swap := Except.ok.inj (compared.symm.trans (compare_swap compared))
  cases order <;> first | rfl | cases swapped

end Winners

/-- What it means that a value was rightly chosen: it stands at a place of its own, the values at
all other places are comparable with it, not ahead of it, and behind it if they come before it.
The same values in another order lead to an equal choice, if they come in another order at all. -/
structure Extremal (side : Ordering) (choose : List Value → Except Failure Value) (candidates : List Value)
    (best : Value) : Prop where
  leads : Leads side candidates best
  self : ∀ order, Value.compare best best = .ok order → order = .eq
  stable : (∀ value ∈ candidates, WellKeyed value) → ∀ others winner, others.Perm candidates →
    choose others = .ok winner → winner.deepEquals best

private theorem extremal_of_extreme {function : String} {side : Ordering} {candidates : List Value} {best : Value}
    (strict : side ≠ .eq) (properAll : ∀ value ∈ candidates, proper value)
    (found : Value.extreme function side candidates = .ok best) :
    Extremal side (Value.extreme function side) candidates best where
  leads := leads_of_extreme strict properAll found
  self _ := compare_self_level
  stable keyedAll others winner permuted chosen := by
    have leads := leads_of_extreme strict properAll found
    have leading := leads_of_extreme strict (fun value member => properAll value (permuted.subset member)) chosen
    exact leads.equal strict permuted leading (keyedAll best leads.member) (properAll best leads.member)
      (properAll winner (permuted.subset leading.member))

/-- The greatest and the least of values without anything that is no number are extremal. -/
theorem greatest_and_least_are_extremal (candidates : List Value) (best : Value)
    (properAll : ∀ value ∈ candidates, proper value) :
    (Value.greatest candidates = .ok best → Extremal .gt Value.greatest candidates best) ∧
      (Value.least candidates = .ok best → Extremal .lt Value.least candidates best) :=
  ⟨extremal_of_extreme (by decide) properAll, extremal_of_extreme (by decide) properAll⟩

/-- Of two lists that are level the first one is the greatest, and null is the least. Turned round,
the list with the double is the first one, and is equal to the other. -/
theorem first_of_level_lists_is_greatest :
    let one : Double := .finite false 4503599627370496 (-52) (by decide)
    let whole : Value := .list [.null, .int 1]
    let real : Value := .list [.null, .double one]
    Extremal .gt Value.greatest [.null, whole, real] whole ∧ Extremal .lt Value.least [.null, whole, real] .null ∧
      real.deepEquals whole := by
  intro one whole real
  have level : Number.compare? (.double one) (.int 1) = some .eq := by decide +kernel
  have turned : Number.compare? (.int 1) (.double one) = some .eq := by decide +kernel
  have found : Value.greatest [.null, whole, real] = .ok whole := by
    simp [Value.greatest, Value.extreme, whole, real, Value.compare, Value.compareElements, level, bind, Except.bind,
      pure, Except.pure]
  have other : Value.greatest [real, whole, .null] = .ok real := by
    simp [Value.greatest, Value.extreme, whole, real, Value.compare, Value.compareElements, turned, bind, Except.bind,
      pure, Except.pure]
  have lowest : Value.least [.null, whole, real] = .ok .null := by
    simp [Value.least, Value.extreme, whole, real, Value.compare, bind, Except.bind, pure, Except.pure]
  have extremal := (greatest_and_least_are_extremal [.null, whole, real] whole (by decide)).1 found
  have least := (greatest_and_least_are_extremal [.null, whole, real] .null (by decide)).2 lowest
  have keyed : ∀ value ∈ [.null, whole, real], WellKeyed value := by
    have listed {number : Number} : WellKeyed (.list [.null, .number number]) :=
      .list (by simpa using ⟨.scalar rfl, .scalar rfl⟩)
    simpa using ⟨.scalar rfl, listed, listed⟩
  exact ⟨extremal, least, extremal.stable keyed _ real (List.reverse_perm [.null, whole, real]) other⟩

/-- A value is chosen from itself alone without being compared, and a map cannot be. -/
theorem sole_map_chosen_but_not_comparable :
    ¬ ∀ (candidates : List Value) (best : Value), candidates ≠ [] → (∀ value ∈ candidates, proper value) →
      Value.greatest candidates = .ok best →
      ∀ value ∈ candidates, ∃ order, Value.compare value best = .ok order ∧ order ≠ .gt := by
  intro claimed
  obtain ⟨order, compared, _⟩ := claimed [.map .plain [(.string "a", .int 1)]] (.map .plain [(.string "a", .int 1)])
    (by simp) (by decide) rfl _ (List.mem_singleton.mpr rfl)
  cases compared

end CommonExpr.Proofs.Extremes
