/-!
# Steps that can fail

What is known of the parts of a computation that can fail when the whole has ended well.
-/

namespace SheetQuery

variable {ε α β : Type}

/-- Of two steps in a row that end well, each has ended well. -/
theorem exists_of_bind_ok {step : Except ε α} {next : α → Except ε β} {b : β} (h : step >>= next = .ok b) :
    ∃ a, step = .ok a ∧ next a = .ok b := by
  cases step with
  | error e => nomatch h
  | ok a => exact ⟨a, rfl, h⟩

/-- Two steps in a row end well exactly when each does. -/
theorem bind_eq_ok_iff {step : Except ε α} {next : α → Except ε β} {b : β} :
    step >>= next = .ok b ↔ ∃ a, step = .ok a ∧ next a = .ok b := by
  constructor
  · exact exists_of_bind_ok
  · rintro ⟨a, rfl, h⟩
    exact h

/-- Of two steps in a row that end in an error, the first did, or it ended well and the second did. -/
theorem exists_of_bind_error {step : Except ε α} {next : α → Except ε β} {e : ε} (h : step >>= next = .error e) :
    step = .error e ∨ ∃ a, step = .ok a ∧ next a = .error e := by
  cases step with
  | error reason => exact .inl (congrArg Except.error (Except.error.inj h))
  | ok a => exact .inr ⟨a, rfl, h⟩

/-- A step whose outcome is changed ends well only if it ended well before. -/
theorem exists_of_map_ok {step : Except ε α} {f : α → β} {b : β} (h : f <$> step = .ok b) :
    ∃ a, step = .ok a ∧ f a = b := by
  cases step with
  | error e => nomatch h
  | ok a => exact ⟨a, rfl, Except.ok.inj h⟩

/-- An error that has been put another way was an error before. -/
theorem exists_of_mapError_error {ε' : Type} {step : Except ε α} {f : ε → ε'} {e : ε'} (h : step.mapError f = .error e) :
    ∃ reason, e = f reason := by
  cases step with
  | error reason => exact ⟨reason, (Except.error.inj h).symm⟩
  | ok a => nomatch h

/-- The error of a step, if it has one. -/
def error? : Except ε α → Option ε
  | .error e => some e
  | .ok _ => none

/-- A step has an error or ends well. -/
theorem error?_eq_none_iff {step : Except ε α} : error? step = none ↔ ∃ a, step = .ok a := by
  cases step <;> simp [error?]

theorem error?_eq_some_iff {step : Except ε α} {e : ε} : error? step = some e ↔ step = .error e := by
  cases step <;> simp [error?]

/-- Of two steps in a row the first one's error is told, and the second one's only if there is no other. -/
theorem error?_bind {step : Except ε α} {next : α → Except ε β} {rest : Option ε}
    (h : ∀ a, step = .ok a → error? (next a) = rest) : error? (step >>= next) = (error? step).or rest := by
  cases step with
  | error e => rfl
  | ok a => exact h a rfl

/-- A step has the same error, whatever is made of its outcome. -/
theorem error?_bind_ok (step : Except ε α) (f : α → β) : error? (step >>= fun a => .ok (f a)) = error? step := by
  cases step <;> rfl

end SheetQuery
