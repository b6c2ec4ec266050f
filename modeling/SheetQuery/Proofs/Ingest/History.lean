import SheetQuery.Ingest.Worker

/-!
# What the worker has done

The loop of the worker is taken apart into passes: in each it looks whether work is called off, runs a cycle, and waits. A
routine that is recorded keeps every one of these steps with the states before and after it, and otherwise does what it did.
What a pass can do is said once, in `Passed`; a run is passes in a row (`Ran`).
-/

namespace SheetQuery.Ingest

variable {τ : Type}

/-! ## Passes -/

/-- What a pass of the loop leads to. -/
inductive Pass where
  | finished (result : Except IngestError Unit)
  /-- Another pass, when so many cycles before it have failed in a row. -/
  | again (failures : Nat)

/-- A state that an act leads to, and its answer. -/
theorem bind_apply {σ α β : Type} {act : StateM σ α} {s s' : σ} {answer : α} (h : act s = (answer, s'))
    (next : α → StateM σ β) : (act >>= next) s = next answer s' := by
  have hrun : (act >>= next) s = next (act s).1 (act s).2 := rfl
  rw [hrun, h]

namespace Routine

/-- The end of the work in good order, as the end of a pass. -/
def leave (routine : Routine τ) : StateM τ Pass := do
  routine.tell ⟨.info, .ingestionStopped, []⟩
  return .finished (.ok ())

/-- Tells what there is to tell. -/
def announce (routine : Routine τ) : Option Log.Entry → StateM τ Unit
  | some entry => routine.tell entry
  | none => pure ()

/-- Does what the end of a cycle leads to. -/
def conclude (routine : Routine τ) : Next → StateM τ Pass
  | .stop => routine.leave
  | .giveUp failures => return .finished (.error (.retriesExhausted failures))
  | .again failures delay => do
    if ← routine.wait delay then routine.leave else return .again failures

/-- One pass of the loop, when so many cycles before it have failed in a row. -/
def pass (routine : Routine τ) (policy : Policy) (failures : Nat) : StateM τ Pass := do
  if ← routine.isTriggered then routine.leave
  else
    let result ← routine.cycle
    routine.announce (policy.announcement? failures result)
    routine.conclude (policy.next failures result)

/-- What is done after a pass. -/
def afterPass (routine : Routine τ) (policy : Policy) (fuel : Nat) : Pass → StateM τ (Option (Except IngestError Unit))
  | .finished result => return some result
  | .again failures => routine.runFrom policy fuel failures

theorem leave_bind (routine : Routine τ) (policy : Policy) (fuel : Nat) :
    routine.leave >>= routine.afterPass policy fuel = routine.stop := by
  simp only [leave, stop, bind_assoc, pure_bind, afterPass]

/-- The loop does what the end of a cycle leads to, and goes on from there. -/
theorem conclude_bind (routine : Routine τ) (policy : Policy) (fuel : Nat) (next : Next) :
    routine.conclude next >>= routine.afterPass policy fuel =
      match next with
      | .stop => routine.stop
      | .giveUp failures => pure (some (.error (.retriesExhausted failures)))
      | .again failures delay => (do
        if ← routine.wait delay then routine.stop else routine.runFrom policy fuel failures) := by
  cases next with
  | stop => exact leave_bind routine policy fuel
  | giveUp failures => rw [conclude, pure_bind, afterPass]
  | again failures delay =>
    rw [conclude, bind_assoc]
    refine bind_congr fun interrupted => ?_
    cases interrupted with
    | true => exact leave_bind routine policy fuel
    | false => simp only [Bool.false_eq_true, if_false, pure_bind, afterPass]

/-- The loop is a pass, and what is done after it. -/
theorem runFrom_succ (routine : Routine τ) (policy : Policy) (fuel failures : Nat) :
    routine.runFrom policy (fuel + 1) failures = routine.pass policy failures >>= routine.afterPass policy fuel := by
  rw [runFrom, pass, bind_assoc]
  refine bind_congr fun triggered => ?_
  cases triggered with
  | true => exact (leave_bind routine policy fuel).symm
  | false =>
    simp only [Bool.false_eq_true, if_false, bind_assoc]
    refine bind_congr fun result => ?_
    have hnext := (conclude_bind routine policy fuel (policy.next failures result)).symm
    cases policy.announcement? failures result with
    | some entry =>
      rw [announce]
      exact bind_congr fun _ => hnext
    | none =>
      rw [announce, pure_bind]
      exact hnext

/-- Where the loop stands after so many passes: the number of cycles that have failed in a row, and the state. There is no such
place if the work has ended before. -/
def after (routine : Routine τ) (policy : Policy) : Nat → τ → Option (Nat × τ)
  | 0, s => some (0, s)
  | passes + 1, s =>
    match routine.after policy passes s with
    | none => none
    | some (failures, s) =>
      match routine.pass policy failures s with
      | (.finished _, _) => none
      | (.again failures, s) => some (failures, s)

/-- The loop goes on from where it stands. -/
theorem run_add {routine : Routine τ} {policy : Policy} {passes failures : Nat} {s s' : τ}
    (h : routine.after policy passes s = some (failures, s')) (fuel : Nat) :
    routine.run policy (passes + fuel) s = routine.runFrom policy fuel failures s' := by
  induction passes generalizing failures s' fuel with
  | zero =>
    obtain ⟨rfl, rfl⟩ := Prod.mk.inj (Option.some.inj h)
    rw [Nat.zero_add]
    rfl
  | succ passes ih =>
    rw [after] at h
    cases hbefore : routine.after policy passes s with
    | none => rw [hbefore] at h; nomatch h
    | some place =>
      obtain ⟨failures₁, s₁⟩ := place
      have hrun := ih hbefore (fuel + 1)
      rw [hbefore] at h
      cases hpass : routine.pass policy failures₁ s₁ with
      | mk pass s₂ =>
        simp only [hpass] at h
        cases pass with
        | finished result => nomatch h
        | again failures₂ =>
          obtain ⟨rfl, rfl⟩ := Prod.mk.inj (Option.some.inj h)
          rw [Nat.add_right_comm, Nat.add_assoc, hrun, runFrom_succ, bind_apply hpass, afterPass]

end Routine

/-! ## Records -/

/-- What the worker does, as far as its course hangs on it. -/
inductive Step where
  | looked (triggered : Bool)
  | cycled (result : Except IngestError BuildReport)
  | waited (delay : Nat) (interrupted : Bool)

/-- A step, and where the worker stood before and after it. -/
structure Moment (τ : Type) where
  before : τ
  step : Step
  after : τ

/-- An act that is kept with those before it. -/
def record {α : Type} (step : α → Step) (act : StateM τ α) : StateM (τ × List (Moment τ)) α := fun (s, history) =>
  ((act s).1, (act s).2, history ++ [⟨s, step (act s).1, (act s).2⟩])

theorem record_apply {α : Type} {act : StateM τ α} {s s' : τ} {answer : α} (h : act s = (answer, s')) (step : α → Step)
    (history : List (Moment τ)) :
    record step act (s, history) = (answer, s', history ++ [⟨s, step answer, s'⟩]) := by
  rw [record, h]

namespace Routine

/-- The same routine, which keeps what it has done. -/
def recorded (routine : Routine τ) : Routine (τ × List (Moment τ)) where
  cycle := record .cycled routine.cycle
  isTriggered := record .looked routine.isTriggered
  wait delay := record (.waited delay) (routine.wait delay)
  tell entry := fun (s, history) => ((), (routine.tell entry s).2, history)

/-- What has been done in a run. -/
def history (routine : Routine τ) (policy : Policy) (fuel : Nat) (s : τ) : List (Moment τ) :=
  (routine.recorded.run policy fuel (s, [])).2.2

/-- What a pass can do: the steps of it, what it leads to, and the state then. -/
inductive Passed (routine : Routine τ) (policy : Policy) (failures : Nat) (s : τ) : List (Moment τ) → Pass → τ → Prop
  /-- Work has been called off. -/
  | calledOff {s₁ : τ} (look : routine.isTriggered s = (true, s₁)) :
    Passed routine policy failures s [⟨s, .looked true, s₁⟩] (.finished (.ok ()))
      (routine.tell ⟨.info, .ingestionStopped, []⟩ s₁).2
  /-- The cycle has been called off. -/
  | cancelled {s₁ s₂ s₃ : τ} {result : Except IngestError BuildReport} (look : routine.isTriggered s = (false, s₁))
    (cycle : routine.cycle s₁ = (result, s₂))
    (announced : (routine.announce (policy.announcement? failures result) s₂).2 = s₃)
    (next : policy.next failures result = .stop) :
    Passed routine policy failures s [⟨s, .looked false, s₁⟩, ⟨s₁, .cycled result, s₂⟩] (.finished (.ok ()))
      (routine.tell ⟨.info, .ingestionStopped, []⟩ s₃).2
  /-- The cycle was the last that may fail. -/
  | exhausted {s₁ s₂ s₃ : τ} {result : Except IngestError BuildReport} {count : Nat}
    (look : routine.isTriggered s = (false, s₁)) (cycle : routine.cycle s₁ = (result, s₂))
    (announced : (routine.announce (policy.announcement? failures result) s₂).2 = s₃)
    (next : policy.next failures result = .giveUp count) :
    Passed routine policy failures s [⟨s, .looked false, s₁⟩, ⟨s₁, .cycled result, s₂⟩]
      (.finished (.error (.retriesExhausted count))) s₃
  /-- Work has been called off while the worker waited. -/
  | interrupted {s₁ s₂ s₃ s₄ : τ} {result : Except IngestError BuildReport} {count delay : Nat}
    (look : routine.isTriggered s = (false, s₁)) (cycle : routine.cycle s₁ = (result, s₂))
    (announced : (routine.announce (policy.announcement? failures result) s₂).2 = s₃)
    (next : policy.next failures result = .again count delay) (wait : routine.wait delay s₃ = (true, s₄)) :
    Passed routine policy failures s
      [⟨s, .looked false, s₁⟩, ⟨s₁, .cycled result, s₂⟩, ⟨s₃, .waited delay true, s₄⟩] (.finished (.ok ()))
      (routine.tell ⟨.info, .ingestionStopped, []⟩ s₄).2
  /-- There is to be another pass. -/
  | again {s₁ s₂ s₃ s₄ : τ} {result : Except IngestError BuildReport} {count delay : Nat}
    (look : routine.isTriggered s = (false, s₁)) (cycle : routine.cycle s₁ = (result, s₂))
    (announced : (routine.announce (policy.announcement? failures result) s₂).2 = s₃)
    (next : policy.next failures result = .again count delay) (wait : routine.wait delay s₃ = (false, s₄)) :
    Passed routine policy failures s
      [⟨s, .looked false, s₁⟩, ⟨s₁, .cycled result, s₂⟩, ⟨s₃, .waited delay false, s₄⟩] (.again count) s₄

/-- Passes in a row, as many at most as `fuel`. -/
inductive Ran (routine : Routine τ) (policy : Policy) :
    Nat → Nat → τ → List (Moment τ) → Option (Except IngestError Unit) → τ → Prop
  | unfinished (failures : Nat) (s : τ) : Ran routine policy 0 failures s [] none s
  | finished {fuel failures : Nat} {s s' : τ} {moments : List (Moment τ)} {result : Except IngestError Unit}
    (pass : routine.Passed policy failures s moments (.finished result) s') :
    Ran routine policy (fuel + 1) failures s moments (some result) s'
  | again {fuel failures count : Nat} {s s' s'' : τ} {moments later : List (Moment τ)}
    {result : Option (Except IngestError Unit)} (pass : routine.Passed policy failures s moments (.again count) s')
    (rest : Ran routine policy fuel count s' later result s'') :
    Ran routine policy (fuel + 1) failures s (moments ++ later) result s''

/-! ## What is recorded -/

theorem leave_apply (routine : Routine τ) (s : τ) :
    routine.leave s = (.finished (.ok ()), (routine.tell ⟨.info, .ingestionStopped, []⟩ s).2) :=
  rfl

theorem isTriggered_recorded {routine : Routine τ} {s s₁ : τ} {triggered : Bool}
    (look : routine.isTriggered s = (triggered, s₁)) (history : List (Moment τ)) :
    routine.recorded.isTriggered (s, history) = (triggered, s₁, history ++ [⟨s, .looked triggered, s₁⟩]) :=
  record_apply look .looked history

theorem cycle_recorded {routine : Routine τ} {s s₁ : τ} {result : Except IngestError BuildReport}
    (cycle : routine.cycle s = (result, s₁)) (history : List (Moment τ)) :
    routine.recorded.cycle (s, history) = (result, s₁, history ++ [⟨s, .cycled result, s₁⟩]) :=
  record_apply cycle .cycled history

theorem wait_recorded {routine : Routine τ} {s s₁ : τ} {delay : Nat} {interrupted : Bool}
    (wait : routine.wait delay s = (interrupted, s₁)) (history : List (Moment τ)) :
    routine.recorded.wait delay (s, history) = (interrupted, s₁, history ++ [⟨s, .waited delay interrupted, s₁⟩]) :=
  record_apply wait (.waited delay) history

theorem announce_recorded (routine : Routine τ) (entry : Option Log.Entry) (s : τ) (history : List (Moment τ)) :
    routine.recorded.announce entry (s, history) = ((), (routine.announce entry s).2, history) := by
  cases entry <;> rfl

/-- A recorded pass leads to what the pass leads to, and what it keeps is what the pass has done. -/
theorem exists_passed (routine : Routine τ) (policy : Policy) (failures : Nat) (s : τ) (history : List (Moment τ)) :
    ∃ moments, routine.recorded.pass policy failures (s, history) =
        ((routine.pass policy failures s).1, (routine.pass policy failures s).2, history ++ moments) ∧
      routine.Passed policy failures s moments (routine.pass policy failures s).1 (routine.pass policy failures s).2 := by
  cases look : routine.isTriggered s with
  | mk triggered s₁ =>
  have look' := isTriggered_recorded look history
  rw [pass, bind_apply look', pass, bind_apply look]
  cases triggered with
  | true => exact ⟨_, rfl, .calledOff look⟩
  | false =>
    simp only [Bool.false_eq_true, if_false]
    cases cycle : routine.cycle s₁ with
    | mk result s₂ =>
    have cycle' := cycle_recorded cycle (history ++ [⟨s, .looked false, s₁⟩])
    cases announced : routine.announce (policy.announcement? failures result) s₂ with
    | mk told s₃ =>
    have announced' := announce_recorded routine (policy.announcement? failures result) s₂
      (history ++ [⟨s, .looked false, s₁⟩] ++ [⟨s₁, .cycled result, s₂⟩])
    have hs₃ : (routine.announce (policy.announcement? failures result) s₂).2 = s₃ := congrArg Prod.snd announced
    rw [hs₃] at announced'
    rw [bind_apply cycle', bind_apply announced', bind_apply cycle, bind_apply announced]
    cases next : policy.next failures result with
    | stop =>
      refine ⟨_, ?_, Passed.cancelled look cycle hs₃ next⟩
      rw [conclude, conclude, leave_apply, leave_apply, List.append_assoc]
      rfl
    | giveUp count =>
      refine ⟨_, ?_, Passed.exhausted look cycle hs₃ next⟩
      rw [conclude, conclude, List.append_assoc]
      rfl
    | again count delay =>
      cases wait : routine.wait delay s₃ with
      | mk interrupted s₄ =>
      have wait' := wait_recorded wait
        (history ++ [⟨s, .looked false, s₁⟩] ++ [⟨s₁, .cycled result, s₂⟩])
      rw [conclude, bind_apply wait', conclude, bind_apply wait, List.append_assoc, List.append_assoc]
      cases interrupted with
      | true => exact ⟨_, rfl, .interrupted look cycle hs₃ next wait⟩
      | false => exact ⟨_, rfl, .again look cycle hs₃ next wait⟩

/-- A recorded run has the result of the run, and what it keeps is what the run has done. -/
theorem exists_ran (routine : Routine τ) (policy : Policy) (fuel failures : Nat) (s : τ) (history : List (Moment τ)) :
    ∃ moments, routine.recorded.runFrom policy fuel failures (s, history) =
        ((routine.runFrom policy fuel failures s).1, (routine.runFrom policy fuel failures s).2, history ++ moments) ∧
      routine.Ran policy fuel failures s moments (routine.runFrom policy fuel failures s).1
        (routine.runFrom policy fuel failures s).2 := by
  induction fuel generalizing failures s history with
  | zero =>
    refine ⟨[], ?_, .unfinished failures s⟩
    rw [List.append_nil]
    rfl
  | succ fuel ih =>
    obtain ⟨moments, hpass', passed⟩ := exists_passed routine policy failures s history
    cases hpass : routine.pass policy failures s with
    | mk pass s₁ =>
    rw [hpass] at hpass' passed
    rw [runFrom_succ, runFrom_succ, bind_apply hpass, bind_apply hpass']
    cases pass with
    | finished result => exact ⟨moments, rfl, .finished passed⟩
    | again count =>
      obtain ⟨later, hlater, ran⟩ := ih count s₁ (history ++ moments)
      refine ⟨moments ++ later, ?_, .again passed ran⟩
      rw [← List.append_assoc]
      exact hlater

/-- A routine that is recorded does what it did. -/
theorem run_recorded (routine : Routine τ) (policy : Policy) (fuel : Nat) (s : τ) :
    routine.recorded.run policy fuel (s, []) =
      ((routine.run policy fuel s).1, (routine.run policy fuel s).2, routine.history policy fuel s) := by
  obtain ⟨moments, hrun, -⟩ := exists_ran routine policy fuel 0 s []
  rw [history, run, hrun, run]

/-- What has been done in a run is what the run has done. -/
theorem ran_history (routine : Routine τ) (policy : Policy) (fuel : Nat) (s : τ) :
    routine.Ran policy fuel 0 s (routine.history policy fuel s) (routine.run policy fuel s).1
      (routine.run policy fuel s).2 := by
  obtain ⟨moments, hrun, ran⟩ := exists_ran routine policy fuel 0 s []
  rw [history, run, hrun]
  exact ran

end Routine

end SheetQuery.Ingest
