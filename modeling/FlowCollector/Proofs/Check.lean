import FlowCollector.Settings.Check

/-!
# Checks

A check gives nothing but what is wrong, and it stops at the first thing that is. Here is when checks pass that are made
of others: one behind the other they pass if both do, and it does not matter there which comes first.

`FindsFirst` is what such a check does when it does not pass. Checks that stand one behind the other do it together, if
whatever is wrong for the first comes before whatever is wrong for the second.
-/

set_option autoImplicit false

namespace FlowCollector

/-! ## When a check passes -/

section

variable {ε ε' α β : Type} {error : ε}

theorem bind_eq_ok_iff {first : Except ε α} {next : α → Except ε β} {result : β} :
    (first >>= next) = .ok result ↔ ∃ value, first = .ok value ∧ next value = .ok result := by
  cases first <;> simp [bind, Except.bind]

theorem bind_eq_error_iff {first : Except ε α} {next : α → Except ε β} :
    (first >>= next) = .error error
      ↔ first = .error error ∨ ∃ value, first = .ok value ∧ next value = .error error := by
  cases first <;> simp [bind, Except.bind]

theorem pure_ne_error {value : α} : (pure value : Except ε α) ≠ .error error := by
  simp [pure, Except.pure]

theorem require_eq_ok_iff {condition : Bool} : require condition error = .ok () ↔ condition = true := by
  cases condition <;> simp [require]

theorem seq_eq_ok_iff {check : Except ε Unit} {later : Except ε α} {result : α} :
    (check >>= fun _ => later) = .ok result ↔ check = .ok () ∧ later = .ok result := by
  cases check <;> simp [bind, Except.bind]

theorem mapError_eq_ok_iff {change : ε → ε'} {attempt : Except ε α} {result : α} :
    attempt.mapError change = .ok result ↔ attempt = .ok result := by
  cases attempt with
  | error own =>
    constructor <;>
    · intro passed
      cases passed
  | ok value =>
    constructor
    · intro passed
      rw [Except.ok.inj passed]
    · rintro ⟨⟩
      rfl

theorem mapError_eq_error_iff {change : ε → ε'} {attempt : Except ε α} {failure : ε'} :
    attempt.mapError change = .error failure ↔ ∃ error, attempt = .error error ∧ failure = change error := by
  constructor
  · intro failed
    cases attempt with
    | error own => exact ⟨own, rfl, (Except.error.inj failed).symm⟩
    | ok value => cases failed
  · rintro ⟨own, rfl, rfl⟩
    rfl

/-- What has been checked is given as it is: a check in front of `pure value` passes if and only if the whole does. -/
theorem checked_eq_ok_iff {check : Except ε Unit} {value result : α} :
    (check >>= fun _ => pure value) = .ok result ↔ check = .ok () ∧ result = value := by
  rw [seq_eq_ok_iff]
  exact and_congr_right fun _ => ⟨fun same => (Except.ok.inj same).symm, fun same => congrArg Except.ok same.symm⟩

theorem checked_eq_error_iff {check : Except ε Unit} {value : α} :
    (check >>= fun _ => pure value) = .error error ↔ check = .error error := by
  simp only [bind_eq_error_iff, pure_ne_error, and_false, exists_false, or_false]

end

/-! ## What is wrong first -/

/-- The check passes if nothing is `Wrong`, and else it gives what is wrong first in the order of `Earlier`. -/
structure FindsFirst {ε : Type} (Earlier : ε → ε → Prop) (Wrong : ε → Prop) (check : Except ε Unit) : Prop where
  passes : check = .ok () → ∀ error, ¬ Wrong error
  first : ∀ error, check = .error error → Wrong error ∧ ∀ other, Wrong other → other = error ∨ Earlier error other

namespace FindsFirst

variable {ε ε' : Type} {Earlier : ε → ε → Prop} {Wrong Wrong' : ε → Prop} {check later : Except ε Unit}

theorem congr (finds : FindsFirst Earlier Wrong check) (same : ∀ error, Wrong error ↔ Wrong' error) :
    FindsFirst Earlier Wrong' check := by
  obtain rfl : Wrong = Wrong' := funext fun error => propext (same error)
  exact finds

theorem nothing (none : ∀ error, ¬ Wrong error) : FindsFirst Earlier Wrong (.ok ()) where
  passes _ := none
  first _ failed := by cases failed

theorem require (condition : Bool) (own : ε) :
    FindsFirst Earlier (fun error => error = own ∧ condition = false) (require condition own) := by
  cases condition with
  | true => exact nothing fun _ wrong => Bool.noConfusion wrong.2
  | false =>
    constructor
    · intro passed
      cases passed
    · intro error failed
      obtain rfl := Except.error.inj failed
      exact ⟨⟨rfl, rfl⟩, fun other wrong => .inl wrong.1⟩

/-- One check behind the other is again one that `FindsFirst`, of what is wrong for either, if what is wrong for the
first is always the earlier. -/
theorem seq (now : FindsFirst Earlier Wrong check) (behind : FindsFirst Earlier Wrong' later)
    (before : ∀ error other, Wrong error → Wrong' other → Earlier error other) :
    FindsFirst Earlier (fun error => Wrong error ∨ Wrong' error) (check >>= fun _ => later) := by
  cases check with
  | error own =>
    obtain ⟨wrong, least⟩ := now.first own rfl
    constructor
    · intro passed
      cases passed
    · intro error failed
      obtain rfl := Except.error.inj failed
      refine ⟨.inl wrong, fun other => ?_⟩
      rintro (here | there)
      · exact least other here
      · exact .inr (before _ other wrong there)
  | ok _ =>
    have none := now.passes rfl
    exact behind.congr fun error => ⟨.inr, fun wrong => wrong.resolve_left (none error)⟩

theorem mapError {Earlier' : ε' → ε' → Prop} {change : ε → ε'} (inside : FindsFirst Earlier Wrong check)
    (keeps : ∀ error other, Earlier error other → Earlier' (change error) (change other)) :
    FindsFirst Earlier' (fun error => ∃ own, Wrong own ∧ error = change own) (check.mapError change) := by
  cases check with
  | error own =>
    obtain ⟨wrong, least⟩ := inside.first own rfl
    constructor
    · intro passed
      cases passed
    · intro error failed
      obtain rfl := Except.error.inj failed
      refine ⟨⟨own, wrong, rfl⟩, ?_⟩
      rintro _ ⟨other, there, rfl⟩
      rcases least other there with rfl | less
      · exact .inl rfl
      · exact .inr (keeps own other less)
  | ok _ =>
    have none := inside.passes rfl
    exact nothing fun _ ⟨own, wrong, _⟩ => none own wrong

theorem eq_ok_iff (finds : FindsFirst Earlier Wrong check) : check = .ok () ↔ ∀ error, ¬ Wrong error := by
  refine ⟨finds.passes, fun none => ?_⟩
  cases check with
  | ok _ => rfl
  | error error => exact absurd (finds.first error rfl).1 (none error)

/-- There is no other first one, since `Earlier` holds of two different errors in one direction only. -/
theorem eq_error_iff (finds : FindsFirst Earlier Wrong check)
    (asymmetric : ∀ error other, Earlier error other → ¬ Earlier other error) {error : ε} :
    check = .error error ↔ Wrong error ∧ ∀ other, Wrong other → other = error ∨ Earlier error other := by
  refine ⟨finds.first error, fun ⟨wrong, least⟩ => ?_⟩
  cases check with
  | ok _ => exact absurd wrong (finds.passes rfl error)
  | error found =>
    obtain ⟨foundWrong, foundLeast⟩ := finds.first found rfl
    rcases least found foundWrong with rfl | less
    · rfl
    · rcases foundLeast error wrong with rfl | more
      · rfl
      · exact absurd more (asymmetric _ _ less)

end FindsFirst

end FlowCollector
