import Mathlib.Algebra.Group.Nat.Defs
import Mathlib.Data.List.DropRight
import SheetQuery.Proofs.Ingest.History

/-!
# Failures in a row

The number that the worker carries from cycle to cycle is that of the last cycles in a row that have failed. It stays below
the limit of the policy as long as the worker goes on, and the work ends for it exactly when it reaches the limit.
-/

namespace SheetQuery.Ingest

variable {τ : Type}

/-! ## Outcomes -/

/-- Whether a cycle has failed. One that was called off has not. -/
def failed : Except IngestError BuildReport → Bool
  | .ok _ => false
  | .error error => !error.isCancelled

/-- Whether a cycle was called off. -/
def calledOff : Except IngestError BuildReport → Bool
  | .ok _ => false
  | .error error => error.isCancelled

/-- How many of the last outcomes in a row are failures. -/
def failuresInRow (results : List (Except IngestError BuildReport)) : Nat :=
  (results.rtakeWhile failed).length

/-- What came out, if the step is a cycle. -/
def Step.outcome? : Step → Option (Except IngestError BuildReport)
  | .cycled result => some result
  | .looked _ => none
  | .waited _ _ => none

/-- What came out of the cycles, one after the other. -/
def outcomes (history : List (Moment τ)) : List (Except IngestError BuildReport) :=
  history.filterMap (·.step.outcome?)

theorem outcomes_append (earlier later : List (Moment τ)) : outcomes (earlier ++ later) = outcomes earlier ++ outcomes later :=
  List.filterMap_append

theorem failuresInRow_concat (results : List (Except IngestError BuildReport)) (result : Except IngestError BuildReport) :
    failuresInRow (results ++ [result]) = if failed result then failuresInRow results + 1 else 0 := by
  rw [failuresInRow, List.rtakeWhile_concat]
  split
  · rw [List.length_append, List.length_singleton, failuresInRow]
  · rfl

/-- There are so many failures in a row at the end exactly if that many outcomes there are all failures. -/
theorem le_failuresInRow_iff {count : Nat} {results : List (Except IngestError BuildReport)} :
    count ≤ failuresInRow results ↔
      ∃ earlier last, results = earlier ++ last ∧ last.length = count ∧ ∀ result ∈ last, failed result = true := by
  constructor
  · intro h
    obtain ⟨earlier, hsplit⟩ := List.rtakeWhile_suffix failed results
    refine ⟨earlier ++ (results.rtakeWhile failed).take (failuresInRow results - count),
      (results.rtakeWhile failed).drop (failuresInRow results - count), ?_, ?_, fun result hresult => ?_⟩
    · rw [List.append_assoc, List.take_append_drop, hsplit]
    · rw [List.length_drop, ← failuresInRow]
      omega
    · exact List.mem_rtakeWhile_imp (List.mem_of_mem_drop hresult)
  · rintro ⟨earlier, last, rfl, rfl, hlast⟩
    induction last using List.reverseRecOn with
    | nil => exact Nat.zero_le _
    | append_singleton last result ih =>
      have hprior := ih fun other hother => hlast other (List.mem_append_left _ hother)
      rw [← List.append_assoc, failuresInRow_concat, if_pos (hlast result (by simp)), List.length_append,
        List.length_singleton]
      omega

/-! ## What the policy makes of an outcome -/

namespace Policy

/-- How many cycles in a row have failed when the work ends for it. Even if none may fail, one has to. -/
def limit (policy : Policy) : Nat :=
  max policy.maxFailures.toNat 1

/-- How long the worker waits after a cycle, if it goes on. -/
def delayAfter (policy : Policy) : Except IngestError BuildReport → Nat
  | .ok _ => policy.refreshInterval
  | .error _ => policy.retryDelay

variable {policy : Policy} {failures count delay : Nat} {result : Except IngestError BuildReport}

theorem limit_pos (policy : Policy) : 0 < policy.limit :=
  Nat.lt_of_lt_of_le Nat.zero_lt_one (Nat.le_max_right _ _)

theorem limit_lt (policy : Policy) : policy.limit < 2 ^ 32 := by
  have hmax := policy.maxFailures.toNat_lt
  rw [limit]
  omega

theorem calledOff_of_next_stop (h : policy.next failures result = .stop) : calledOff result = true := by
  cases result with
  | ok report => nomatch h
  | error error =>
    rw [calledOff]
    rw [next] at h
    split at h
    · assumption
    · split at h <;> cases h

/-- The work ends with a failure when the failures in a row reach the limit. -/
theorem next_giveUp (h : policy.next failures result = .giveUp count) (hbelow : failures < policy.limit) :
    failed result = true ∧ failures + 1 = policy.limit ∧ count = policy.limit := by
  cases result with
  | ok report => nomatch h
  | error error =>
    rw [next] at h
    split at h
    · cases h
    · rename_i hcancelled
      split at h
      · rename_i hmax
        have hlimit : failures + 1 = policy.limit := by
          rw [limit] at hbelow ⊢
          omega
        exact ⟨by rw [failed, Bool.not_eq_true _ |>.mp hcancelled, Bool.not_false], hlimit,
          (Next.giveUp.inj h).symm.trans hlimit⟩
      · cases h

/-- The worker goes on while the failures in a row are below the limit. -/
theorem next_again (h : policy.next failures result = .again count delay) :
    calledOff result = false ∧ count = (if failed result then failures + 1 else 0) ∧ count < policy.limit ∧
      delay = policy.delayAfter result := by
  cases result with
  | ok report =>
    obtain ⟨rfl, rfl⟩ := Next.again.inj h
    exact ⟨rfl, rfl, policy.limit_pos, rfl⟩
  | error error =>
    rw [next] at h
    split at h
    · nomatch h
    · rename_i hcancelled
      have hcancelled := Bool.not_eq_true _ |>.mp hcancelled
      split at h
      · nomatch h
      · rename_i hmax
        obtain ⟨rfl, rfl⟩ := Next.again.inj h
        refine ⟨hcancelled, by rw [failed, hcancelled, Bool.not_false, if_pos rfl], ?_, rfl⟩
        rw [limit]
        omega

/-- What the outcomes say of the result: the failures in a row have reached the limit if the work ended with an error, which
says so, and are below it otherwise. -/
def Tallies (policy : Policy) (results : List (Except IngestError BuildReport)) : Option (Except IngestError Unit) → Prop
  | some (.error error) => error = .retriesExhausted policy.limit ∧ failuresInRow results = policy.limit
  | some (.ok _) => failuresInRow results < policy.limit
  | none => failuresInRow results < policy.limit

/-- The work has ended for too many failures exactly when they have reached the limit. -/
theorem Tallies.exhausted_iff {results : List (Except IngestError BuildReport)} {result : Option (Except IngestError Unit)}
    (h : policy.Tallies results result) :
    result = some (.error (.retriesExhausted count)) ↔ count = policy.limit ∧ policy.limit ≤ failuresInRow results := by
  constructor
  · rintro rfl
    obtain ⟨herror, hrow⟩ := h
    exact ⟨IngestError.retriesExhausted.inj herror, Nat.le_of_eq hrow.symm⟩
  · rintro ⟨rfl, hle⟩
    match result, h with
    | none, hlt => exact absurd hle (Nat.not_le_of_gt hlt)
    | some (.ok ()), hlt => exact absurd hle (Nat.not_le_of_gt hlt)
    | some (.error error), ⟨herror, hrow⟩ => rw [herror]

end Policy

theorem not_failed_of_calledOff {result : Except IngestError BuildReport} (h : calledOff result = true) :
    failed result = false := by
  cases result with
  | ok report => rfl
  | error error =>
    rw [calledOff] at h
    rw [failed, h, Bool.not_true]

/-! ## Passes and runs -/

namespace Routine

variable {routine : Routine τ} {policy : Policy} {fuel failures : Nat} {s s' : τ} {moments : List (Moment τ)}
  {prior : List (Except IngestError BuildReport)}

/-- A pass that ends the work leaves the failures in a row below the limit, unless it ends it with an error. -/
theorem Passed.tallies {result : Except IngestError Unit}
    (passed : routine.Passed policy (failuresInRow prior) s moments (.finished result) s')
    (hbelow : failuresInRow prior < policy.limit) : policy.Tallies (prior ++ outcomes moments) (some result) := by
  cases passed with
  | calledOff look =>
    show failuresInRow (prior ++ []) < policy.limit
    rw [List.append_nil]
    exact hbelow
  | cancelled look cycle announced next =>
    have hresult := not_failed_of_calledOff (Policy.calledOff_of_next_stop next)
    show failuresInRow (prior ++ [_]) < policy.limit
    rw [failuresInRow_concat, hresult]
    exact policy.limit_pos
  | exhausted look cycle announced next =>
    obtain ⟨hresult, hlimit, rfl⟩ := Policy.next_giveUp next hbelow
    refine ⟨rfl, ?_⟩
    show failuresInRow (prior ++ [_]) = policy.limit
    rw [failuresInRow_concat, if_pos hresult, hlimit]
  | interrupted look cycle announced next wait =>
    obtain ⟨-, hcount, hlimit, -⟩ := Policy.next_again next
    show failuresInRow (prior ++ [_]) < policy.limit
    rw [failuresInRow_concat, ← hcount]
    exact hlimit

/-- After a pass that leads to another there is one outcome more, and the number that is carried on is that of the failures in
a row, which is below the limit. -/
theorem Passed.carries {count : Nat} (passed : routine.Passed policy (failuresInRow prior) s moments (.again count) s') :
    ∃ result, outcomes moments = [result] ∧ failuresInRow (prior ++ [result]) = count ∧ count < policy.limit := by
  cases passed with
  | again look cycle announced next wait =>
    obtain ⟨-, hcount, hlimit, -⟩ := Policy.next_again next
    exact ⟨_, rfl, by rw [failuresInRow_concat, hcount], hlimit⟩

/-- The number that is carried on is below the limit, whatever it was before. -/
theorem Passed.count_lt {count : Nat} (passed : routine.Passed policy failures s moments (.again count) s') :
    count < policy.limit := by
  cases passed with
  | again look cycle announced next wait => exact (Policy.next_again next).2.2.1

theorem Passed.length_outcomes_le {pass : Pass} (passed : routine.Passed policy failures s moments pass s') :
    (outcomes moments).length ≤ 1 := by
  cases passed with
  | calledOff => exact Nat.zero_le 1
  | cancelled | exhausted | interrupted | again => exact Nat.le_refl 1

/-- The result of a run is what the outcomes say, those before it included. -/
theorem Ran.tallies {result : Option (Except IngestError Unit)}
    (ran : routine.Ran policy fuel failures s moments result s') (prior : List (Except IngestError BuildReport))
    (hprior : failuresInRow prior = failures) (hbelow : failures < policy.limit) :
    policy.Tallies (prior ++ outcomes moments) result := by
  induction ran generalizing prior with
  | unfinished failures s =>
    show failuresInRow (prior ++ []) < policy.limit
    rw [List.append_nil, hprior]
    exact hbelow
  | finished passed =>
    subst hprior
    exact passed.tallies hbelow
  | again passed rest ih =>
    subst hprior
    obtain ⟨outcome, houtcome, hcount, hlimit⟩ := passed.carries
    rw [outcomes_append, houtcome, ← List.append_assoc]
    exact ih _ hcount hlimit

/-- As long as there is another outcome to come, the failures in a row are below the limit. -/
theorem Ran.failuresInRow_lt {result : Option (Except IngestError Unit)}
    (ran : routine.Ran policy fuel failures s moments result s') (prior : List (Except IngestError BuildReport))
    (hprior : failuresInRow prior = failures) (hbelow : failures < policy.limit)
    {earlier later : List (Except IngestError BuildReport)} (hsplit : outcomes moments = earlier ++ later)
    (hlater : later ≠ []) : failuresInRow (prior ++ earlier) < policy.limit := by
  have hnone (hempty : earlier = []) : failuresInRow (prior ++ earlier) < policy.limit := by
    rw [hempty, List.append_nil, hprior]
    exact hbelow
  have hpos := List.length_pos_iff.mpr hlater
  induction ran generalizing prior earlier with
  | unfinished failures s =>
    have hlength := congrArg List.length hsplit
    rw [List.length_append] at hlength
    exact absurd hlength (by simp only [outcomes, List.filterMap_nil, List.length_nil]; omega)
  | finished passed =>
    have hlength := congrArg List.length hsplit
    rw [List.length_append] at hlength
    have hle := passed.length_outcomes_le
    exact hnone (List.length_eq_zero_iff.mp (by omega))
  | again passed rest ih =>
    subst hprior
    obtain ⟨outcome, houtcome, hcount, hlimit⟩ := passed.carries
    rw [outcomes_append, houtcome, List.singleton_append] at hsplit
    cases earlier with
    | nil => exact hnone rfl
    | cons first earlier =>
      obtain ⟨rfl, hrest⟩ := List.cons.inj hsplit
      rw [List.append_cons]
      refine ih _ hcount hlimit hrest fun hempty => ?_
      rw [hempty, List.append_nil, hcount]
      exact hlimit

/-- A run that is cut off has run as many cycles as it may. -/
theorem Ran.length_outcomes (ran : routine.Ran policy fuel failures s moments none s') :
    (outcomes moments).length = fuel := by
  generalize hresult : (none : Option (Except IngestError Unit)) = result at ran
  induction ran with
  | unfinished => rfl
  | finished => nomatch hresult
  | again passed rest ih =>
    cases passed with
    | again look cycle announced next wait =>
      rw [outcomes_append, List.length_append, ih hresult, Nat.add_comm]
      rfl

/-- The number of failures that is carried on is below the limit wherever the loop stands. -/
theorem lt_limit_of_after {passes : Nat} (h : routine.after policy passes s = some (failures, s')) :
    failures < policy.limit := by
  cases passes with
  | zero =>
    obtain ⟨rfl, -⟩ := Prod.mk.inj (Option.some.inj h)
    exact policy.limit_pos
  | succ passes =>
    rw [after] at h
    cases hbefore : routine.after policy passes s with
    | none => rw [hbefore] at h; cases h
    | some place =>
      obtain ⟨failures₁, s₁⟩ := place
      obtain ⟨moments, -, passed⟩ := exists_passed routine policy failures₁ s₁ []
      rw [hbefore] at h
      cases hpass : routine.pass policy failures₁ s₁ with
      | mk pass s₂ =>
        simp only [hpass] at h passed
        cases pass with
        | finished result => cases h
        | again count =>
          obtain ⟨rfl, -⟩ := Prod.mk.inj (Option.some.inj h)
          exact passed.count_lt

end Routine

end SheetQuery.Ingest
