import Mathlib.Data.List.Chain
import SheetQuery.Ingest.Rehearsal
import SheetQuery.Proofs.Ingest.Keeping
import SheetQuery.Proofs.Ingest.Tally

/-!
# The course of the work

The worker looks, runs a cycle and waits, in this order, over and over. It heeds a signal: once that is there no cycle begins.
Apart from it only a cycle that was called off, or too many failures in a row, end the work, and the latter end it at once.
-/

namespace SheetQuery.Ingest

variable {σ τ : Type}

/-! ## The order of steps -/

/-- What can come after a step. A wait that was interrupted is the last step, as is a look that found work called off. -/
inductive Policy.Follows (policy : Policy) : Step → Step → Prop
  | cycle (result : Except IngestError BuildReport) : Follows policy (.looked false) (.cycled result)
  | wait (result : Except IngestError BuildReport) (interrupted : Bool) :
    Follows policy (.cycled result) (.waited (policy.delayAfter result) interrupted)
  | look (delay : Nat) (triggered : Bool) : Follows policy (.waited delay false) (.looked triggered)

/-- Between a cycle and the next the worker waits once, undisturbed, for the delay that the first asks for, and looks. -/
theorem Policy.between_eq {policy : Policy} {first : Except IngestError BuildReport} {second : Step}
    {between later : List Step} (chain : (.cycled first :: (between ++ second :: later)).IsChain policy.Follows)
    (hsecond : second.outcome?.isSome = true) (hbetween : ∀ step ∈ between, step.outcome? = none) :
    between = [.waited (policy.delayAfter first) false, .looked false] := by
  match between with
  | [] =>
    cases (List.isChain_cons_cons.mp chain).1 with
    | wait => nomatch hsecond
  | [waited] =>
    obtain ⟨hwait, afterWait⟩ := List.isChain_cons_cons.mp chain
    cases hwait with
    | wait =>
      cases (List.isChain_cons_cons.mp afterWait).1 with
      | look => nomatch hsecond
  | waited :: looked :: rest =>
    obtain ⟨hwait, afterWait⟩ := List.isChain_cons_cons.mp chain
    obtain ⟨hlook, afterLook⟩ := List.isChain_cons_cons.mp afterWait
    cases hwait with
    | wait =>
      cases hlook with
      | look =>
        cases rest with
        | nil =>
          cases (List.isChain_cons_cons.mp afterLook).1 with
          | cycle => rfl
        | cons next rest =>
          cases (List.isChain_cons_cons.mp afterLook).1 with
          | cycle result => nomatch hbetween (.cycled result) (by simp)

/-! ## Signals -/

/-- The worker heeds a signal: it finds work called off exactly when the signal is there, waits to the end unless it is there,
and never takes it back. -/
structure Routine.Heeds (routine : Routine τ) (signal : τ → Bool) : Prop where
  look : ∀ s, (routine.isTriggered s).1 = signal (routine.isTriggered s).2
  wait : ∀ delay s, (routine.wait delay s).1 = true → signal (routine.wait delay s).2 = true
  lasting : routine.Maintains (signal · = true)

/-- The world has a signal: looking shows it, a wait is cut short only by it, and nothing takes it back. -/
structure World.Signals (world : World σ) (signal : σ → Bool) : Prop where
  look : ∀ s, (world.isTriggered s).1 = signal (world.isTriggered s).2
  wait : ∀ delay s, (world.wait delay s).1 = true → signal (world.wait delay s).2 = true
  lasting : world.Maintains (signal · = true)

/-- Ingestion heeds the signal of its world. -/
theorem heeds_ingestion {world : World σ} {signal : σ → Bool} (h : world.Signals signal) (builders : List Builder) :
    (Routine.ingestion world builders).Heeds fun state => signal state.world where
  look state := h.look state.world
  wait delay state := h.wait delay state.world
  lasting := Routine.maintains_ingestion h.lasting builders

/-- A rehearsal that has been stopped stays so. -/
theorem signals_rehearsal (script : Script) : (Rehearsal.world script).Signals (·.stopped) where
  look _ := rfl
  wait delay rehearsal := by
    show (Rehearsal.wait script delay rehearsal).1 = true → (Rehearsal.wait script delay rehearsal).2.stopped = true
    rw [Rehearsal.wait]
    grind
  lasting.read file rehearsal hs := by
    show (Rehearsal.read script file rehearsal).2.stopped = true
    have hbegin : rehearsal.beginCycle.stopped = rehearsal.stopped := by
      rw [Rehearsal.beginCycle]
      split <;> rfl
    simp only [Rehearsal.read]
    split <;> simp [hbegin, hs]
  lasting.isTriggered _ hs := hs
  lasting.now _ hs := hs
  lasting.replace name documents rehearsal hs := by
    show (Rehearsal.replace script name documents rehearsal).2.stopped = true
    rw [Rehearsal.replace]
    split <;> exact hs
  lasting.wait delay rehearsal hs := by
    show (Rehearsal.wait script delay rehearsal).2.stopped = true
    rw [Rehearsal.wait]
    grind

namespace Routine

variable {routine : Routine τ} {policy : Policy} {fuel failures : Nat} {s s' : τ} {moments : List (Moment τ)}
  {signal : τ → Bool}

/-- The steps of a run follow each other, also upon a wait before it. -/
theorem Ran.isChain {result : Option (Except IngestError Unit)}
    (ran : routine.Ran policy fuel failures s moments result s') (delay : Nat) :
    (.waited delay false :: moments.map (·.step)).IsChain policy.Follows := by
  induction ran generalizing delay with
  | unfinished => exact .singleton _
  | finished passed =>
    cases passed with
    | calledOff => exact .cons_cons (.look _ _) (.singleton _)
    | cancelled | exhausted => exact .cons_cons (.look _ _) (.cons_cons (.cycle _) (.singleton _))
    | interrupted look cycle announced next wait =>
      obtain ⟨-, -, -, rfl⟩ := Policy.next_again next
      exact .cons_cons (.look _ _) (.cons_cons (.cycle _) (.cons_cons (.wait _ _) (.singleton _)))
  | again passed rest ih =>
    cases passed with
    | again look cycle announced next wait =>
      obtain ⟨-, -, -, rfl⟩ := Policy.next_again next
      exact .cons_cons (.look _ _) (.cons_cons (.cycle _) (.cons_cons (.wait _ _) (ih _)))

/-- A look that finds nothing shows that the signal is not there. -/
theorem Heeds.signal_of_look (heeds : routine.Heeds signal) {triggered : Bool}
    (look : routine.isTriggered s = (triggered, s')) : signal s' = triggered := by
  have hlook := heeds.look s
  rw [look] at hlook
  exact hlook.symm

/-- A signal that is there at some time in a pass is there when the next begins. -/
theorem Passed.lasting (heeds : routine.Heeds signal) {count : Nat}
    (passed : routine.Passed policy failures s moments (.again count) s') {moment : Moment τ} (hmoment : moment ∈ moments)
    (hsignal : signal moment.after = true) : signal s' = true := by
  cases passed with
  | @again s₁ s₂ s₃ _ result _ delay look cycle announced next wait =>
    have hcycle := heeds.lasting.cycle s₁
    have hannounce := heeds.lasting.announce (policy.announcement? failures result) s₂
    have hwait := heeds.lasting.wait delay s₃
    rw [cycle] at hcycle
    rw [announced] at hannounce
    rw [wait] at hwait
    rcases List.mem_cons.mp hmoment with rfl | hmoment
    · exact hwait (hannounce (hcycle hsignal))
    rcases List.mem_cons.mp hmoment with rfl | hmoment
    · exact hwait (hannounce hsignal)
    rcases List.mem_singleton.mp hmoment with rfl
    exact hsignal

/-- Once the signal is there a pass only looks. -/
theorem Passed.outcomes_of_signal (heeds : routine.Heeds signal) {pass : Pass}
    (passed : routine.Passed policy failures s moments pass s') (hsignal : signal s = true) :
    pass = .finished (.ok ()) ∧ ∀ moment ∈ moments, moment.step.outcome? = none := by
  have hlasting := heeds.lasting.isTriggered s hsignal
  cases passed with
  | calledOff look =>
    refine ⟨rfl, fun moment hmoment => ?_⟩
    rcases List.mem_singleton.mp hmoment with rfl
    rfl
  | cancelled look | exhausted look | interrupted look | again look =>
    rw [look, heeds.signal_of_look look] at hlasting
    nomatch hlasting

/-- A run that begins when the signal is there has no cycle. -/
theorem Ran.outcomes_of_signal (heeds : routine.Heeds signal) {result : Option (Except IngestError Unit)}
    (ran : routine.Ran policy fuel failures s moments result s') (hsignal : signal s = true) :
    ∀ moment ∈ moments, moment.step.outcome? = none := by
  cases ran with
  | unfinished => exact fun moment hmoment => nomatch hmoment
  | finished passed => exact (passed.outcomes_of_signal heeds hsignal).2
  | again passed rest => nomatch (passed.outcomes_of_signal heeds hsignal).1

/-- No cycle of a pass begins when the signal is there. -/
theorem Passed.signal_before_cycle (heeds : routine.Heeds signal) {pass : Pass}
    (passed : routine.Passed policy failures s moments pass s') {moment : Moment τ} (hmoment : moment ∈ moments)
    (hcycle : moment.step.outcome?.isSome = true) : signal moment.before = false := by
  cases passed with
  | calledOff look =>
    rcases List.mem_singleton.mp hmoment with rfl
    nomatch hcycle
  | cancelled look | exhausted look =>
    rcases List.mem_cons.mp hmoment with rfl | hmoment
    · nomatch hcycle
    rcases List.mem_singleton.mp hmoment with rfl
    exact heeds.signal_of_look look
  | interrupted look | again look =>
    rcases List.mem_cons.mp hmoment with rfl | hmoment
    · nomatch hcycle
    rcases List.mem_cons.mp hmoment with rfl | hmoment
    · exact heeds.signal_of_look look
    rcases List.mem_singleton.mp hmoment with rfl
    nomatch hcycle

/-- No cycle of a run begins when the signal is there. -/
theorem Ran.signal_before_cycle (heeds : routine.Heeds signal) {result : Option (Except IngestError Unit)}
    (ran : routine.Ran policy fuel failures s moments result s') {moment : Moment τ} (hmoment : moment ∈ moments)
    (hcycle : moment.step.outcome?.isSome = true) : signal moment.before = false := by
  induction ran with
  | unfinished => nomatch hmoment
  | finished passed => exact passed.signal_before_cycle heeds hmoment hcycle
  | again passed rest ih =>
    rcases List.mem_append.mp hmoment with hmoment | hmoment
    · exact passed.signal_before_cycle heeds hmoment hcycle
    · exact ih hmoment

/-- In a pass no cycle comes after a step at whose end the signal is there. -/
theorem Passed.pairwise (heeds : routine.Heeds signal) {pass : Pass}
    (passed : routine.Passed policy failures s moments pass s') :
    moments.Pairwise fun moment later => signal moment.after = true → later.step.outcome? = none := by
  cases passed with
  | calledOff look => exact List.pairwise_singleton _ _
  | cancelled look | exhausted look =>
    refine List.pairwise_pair.mpr fun hsignal => ?_
    rw [heeds.signal_of_look look] at hsignal
    nomatch hsignal
  | interrupted look | again look =>
    refine .cons (fun later hlater hsignal => ?_) (List.pairwise_pair.mpr fun _ => rfl)
    rw [heeds.signal_of_look look] at hsignal
    nomatch hsignal

/-- In a run no cycle comes after a step at whose end the signal is there. -/
theorem Ran.pairwise (heeds : routine.Heeds signal) {result : Option (Except IngestError Unit)}
    (ran : routine.Ran policy fuel failures s moments result s') :
    moments.Pairwise fun moment later => signal moment.after = true → later.step.outcome? = none := by
  induction ran with
  | unfinished => exact .nil
  | finished passed => exact passed.pairwise heeds
  | again passed rest ih =>
    refine List.pairwise_append.mpr ⟨passed.pairwise heeds, ih, fun moment hmoment later hlater hsignal => ?_⟩
    exact rest.outcomes_of_signal heeds (passed.lasting heeds hmoment hsignal) later hlater

/-! ## The end of the work -/

/-- What the last step was when the work ends: a cycle that failed if it ends with an error, and otherwise one that was called
off, unless the signal is there. -/
def EndsAt (signal : τ → Bool) (moment : Moment τ) : Except IngestError Unit → Prop
  | .error _ => ∃ outcome, moment.step = .cycled outcome ∧ failed outcome = true
  | .ok _ => signal moment.after = true ∨ ∃ outcome, moment.step = .cycled outcome ∧ calledOff outcome = true

theorem Passed.exists_last (heeds : routine.Heeds signal) {result : Except IngestError Unit}
    (passed : routine.Passed policy failures s moments (.finished result) s') (hbelow : failures < policy.limit) :
    ∃ earlier moment, moments = earlier ++ [moment] ∧ EndsAt signal moment result := by
  cases passed with
  | calledOff look => exact ⟨[], _, rfl, .inl (heeds.signal_of_look look)⟩
  | cancelled look cycle announced next =>
    exact ⟨[_], _, rfl, .inr ⟨_, rfl, Policy.calledOff_of_next_stop next⟩⟩
  | exhausted look cycle announced next => exact ⟨[_], _, rfl, _, rfl, (Policy.next_giveUp next hbelow).1⟩
  | @interrupted _ _ s₃ _ _ _ delay look cycle announced next wait =>
    have hsignal := heeds.wait delay s₃
    rw [wait] at hsignal
    exact ⟨[_, _], _, rfl, .inl (hsignal rfl)⟩

theorem Ran.exists_last (heeds : routine.Heeds signal) {result : Except IngestError Unit}
    (ran : routine.Ran policy fuel failures s moments (some result) s') (hbelow : failures < policy.limit) :
    ∃ earlier moment, moments = earlier ++ [moment] ∧ EndsAt signal moment result := by
  generalize hresult : some result = ended at ran
  induction ran with
  | unfinished => nomatch hresult
  | finished passed =>
    obtain rfl := Option.some.inj hresult
    exact passed.exists_last heeds hbelow
  | @again _ _ _ _ _ _ moments later _ passed rest ih =>
    obtain ⟨earlier, moment, rfl, hends⟩ := ih passed.count_lt hresult
    exact ⟨moments ++ earlier, moment, (List.append_assoc _ _ _).symm, hends⟩

/-! ## The course of a run -/

/-- How a run goes, of at most so many cycles. -/
structure Course (routine : Routine τ) (signal : τ → Bool) (policy : Policy) (fuel : Nat) (s : τ) : Prop where
  /-- No cycle begins when the signal is there. -/
  signal_before_cycle : ∀ moment ∈ routine.history policy fuel s, signal moment.before = true → moment.step.outcome? = none
  /-- No cycle comes after a step at whose end the signal is there. -/
  no_later_cycle : (routine.history policy fuel s).Pairwise fun moment later =>
    signal moment.after = true → later.step.outcome? = none
  /-- Between a cycle and the next there is one wait, for the delay that the outcome of the first asks for. -/
  between : ∀ earlier first between second later outcome,
    routine.history policy fuel s = earlier ++ first :: (between ++ second :: later) → first.step = .cycled outcome →
    second.step.outcome?.isSome = true → (∀ moment ∈ between, moment.step.outcome? = none) →
    between.map (·.step) = [.waited (policy.delayAfter outcome) false, .looked false]
  /-- The work ends with an error exactly when as many cycles have failed in a row as may, and the error tells how many. -/
  exhausted : ∀ failures, (routine.run policy fuel s).1 = some (.error (.retriesExhausted failures)) ↔
    failures = policy.limit ∧ ∃ earlier last, outcomes (routine.history policy fuel s) = earlier ++ last ∧
      last.length = policy.limit ∧ ∀ outcome ∈ last, failed outcome = true
  /-- There is no other error, and nothing is done after the cycle that failed last. -/
  error : ∀ error, (routine.run policy fuel s).1 = some (.error error) → error = .retriesExhausted policy.limit ∧
    ∃ earlier moment outcome, routine.history policy fuel s = earlier ++ [moment] ∧ moment.step = .cycled outcome ∧
      failed outcome = true
  /-- Fewer cycles fail in a row as long as another comes after them. -/
  failures_lt : ∀ earlier failures later, outcomes (routine.history policy fuel s) = earlier ++ failures ++ later →
    (∀ outcome ∈ failures, failed outcome = true) → later ≠ [] → failures.length < policy.limit
  /-- The work ends in good order only when the signal is there or a cycle was called off. -/
  ok : (routine.run policy fuel s).1 = some (.ok ()) → ∃ earlier moment,
    routine.history policy fuel s = earlier ++ [moment] ∧
      (signal moment.after = true ∨ ∃ outcome, moment.step = .cycled outcome ∧ calledOff outcome = true)
  /-- Wherever the loop stands, the number of failures can be told by 32 bits, also if the next cycle fails. -/
  counter_lt : ∀ passes failures s', routine.after policy passes s = some (failures, s') → failures + 1 < 2 ^ 32
  /-- The work is unfinished only when as many cycles were run as may be. -/
  unfinished : (routine.run policy fuel s).1 = none → (outcomes (routine.history policy fuel s)).length = fuel

/-- Every run of a worker that heeds a signal goes like this, whatever comes out of its cycles, whenever the signal is given and
whatever the policy is. -/
theorem course (heeds : routine.Heeds signal) (policy : Policy) (fuel : Nat) (s : τ) :
    routine.Course signal policy fuel s := by
  have ran := ran_history routine policy fuel s
  have htallies := ran.tallies [] rfl policy.limit_pos
  rw [List.nil_append] at htallies
  constructor
  case signal_before_cycle =>
    intro moment hmoment hsignal
    cases hcycle : moment.step.outcome? with
    | none => rfl
    | some outcome =>
      rw [ran.signal_before_cycle heeds hmoment (by rw [hcycle]; rfl)] at hsignal
      nomatch hsignal
  case no_later_cycle => exact ran.pairwise heeds
  case between =>
    intro earlier first between second later outcome hhistory hfirst hsecond hbetween
    have chain := (ran.isChain 0).of_cons
    rw [hhistory, List.map_append, List.map_cons, List.map_append, List.map_cons, hfirst] at chain
    refine Policy.between_eq chain.right_of_append hsecond fun step hstep => ?_
    obtain ⟨moment, hmoment, rfl⟩ := List.mem_map.mp hstep
    exact hbetween moment hmoment
  case exhausted =>
    intro failures
    rw [htallies.exhausted_iff, le_failuresInRow_iff]
  case error =>
    intro error hresult
    rw [hresult] at htallies ran
    obtain ⟨earlier, moment, hhistory, outcome, hstep, hfailed⟩ := ran.exists_last heeds policy.limit_pos
    exact ⟨htallies.1, earlier, moment, outcome, hhistory, hstep, hfailed⟩
  case failures_lt =>
    intro earlier failures later hsplit hfailures hlater
    have hrow := ran.failuresInRow_lt [] rfl policy.limit_pos hsplit hlater
    rw [List.nil_append] at hrow
    exact Nat.lt_of_le_of_lt (le_failuresInRow_iff.mpr ⟨earlier, failures, rfl, rfl, hfailures⟩) hrow
  case ok =>
    intro hresult
    rw [hresult] at ran
    exact ran.exists_last heeds policy.limit_pos
  case counter_lt =>
    intro passes failures s' hafter
    exact Nat.lt_of_le_of_lt (lt_limit_of_after hafter) policy.limit_lt
  case unfinished =>
    intro hresult
    rw [hresult] at ran
    exact ran.length_outcomes

/-- A rehearsal that has no sheets, so that each cycle fails: of two failures that may be, the second ends the work, long before
it would have been called off. -/
theorem course_withoutSheets :
    let routine := ingestion (Rehearsal.world ⟨"no such sheet", [], "refused", "12:00", none, some 60000⟩) Builder.all
    let policy : Policy := ⟨5000, 2, 60000⟩
    let start : State Rehearsal := ⟨.start [] [] .empty, .empty, []⟩
    routine.Heeds (·.world.stopped) ∧ routine.Course (·.world.stopped) policy 5 start ∧
      (routine.run policy 5 start).1 = some (.error (.retriesExhausted 2)) :=
  have heeds := heeds_ingestion (signals_rehearsal ⟨"no such sheet", [], "refused", "12:00", none, some 60000⟩) Builder.all
  ⟨heeds, course heeds ⟨5000, 2, 60000⟩ 5 ⟨.start [] [] .empty, .empty, []⟩, rfl⟩

end Routine

end SheetQuery.Ingest
