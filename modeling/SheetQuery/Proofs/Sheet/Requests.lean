import SheetQuery.Proofs.Sheet.Opening
import SheetQuery.Sheet.Client

/-!
# Records asked for one by one

A reader that is asked over and over gives records, then at most one error, and then nothing for ever, wherever the signal to
stop fires. A sheet that is read at once is what a reader gives that is never stopped, and one that is read until a signal is
what a reader gives that is told of the same signal before each request.
-/

namespace SheetQuery.Sheet

variable {α σ : Type}

namespace Records

/-! ## Requests -/

/-- The reader after a number of requests. The signal says of each request, in their order, whether it has fired by then. -/
def after (records : Records α) (fired : Nat → Bool) : Nat → Records α
  | 0 => records
  | n + 1 => ((records.after fired n).next (fired n)).2

/-- The answer to the request after a number of others. -/
def answer (records : Records α) (fired : Nat → Bool) (n : Nat) : Option (Except SheetError α) :=
  ((records.after fired n).next (fired n)).1

/-- Whether a reader answers with these records in order, then with the error, if there is one, and then with nothing for
ever. -/
def Tells (records : Records α) (fired : Nat → Bool) (told : List α) (ending : Option SheetError) : Prop :=
  ∀ n, records.answer fired n =
    match told[n]? with
    | some record => some (.ok record)
    | none => if n = told.length then ending.map .error else none

/-- What records and the error after them are, read at once. -/
def outcome (told : List α) : Option SheetError → Except SheetError (List α)
  | none => .ok told
  | some error => .error error

/-- What a check answers that is made for the time with a number. -/
def answersOf (check : StateM σ Bool) (s : σ) : Nat → Bool
  | 0 => (check s).1
  | n + 1 => answersOf check (check s).2 n

/-- What is left after the first request is asked as often as there are further requests. -/
theorem after_succ (records : Records α) (fired : Nat → Bool) (n : Nat) :
    records.after fired (n + 1) = (records.next (fired 0)).2.after (fun i => fired (i + 1)) n := by
  induction n with
  | zero => rfl
  | succ n ih => rw [after, ih, after]

theorem answer_succ (records : Records α) (fired : Nat → Bool) (n : Nat) :
    records.answer fired (n + 1) = (records.next (fired 0)).2.answer (fun i => fired (i + 1)) n := by
  rw [answer, after_succ, answer]

/-- What a reader does when it is asked: it stops, if it is told to; otherwise it comes to the end of its lines, or it reads
the next of them as a record or as an error. -/
theorem next_cases (records : Records α) (h : records.finished = false) :
    records.next true =
        (some (.error (.ofFault (.cancelled records.shape.declaration.shape (records.lines.number + 1)))),
          { records with finished := true }) ∧
      ((records.lines.toList = [] ∧ ∃ rest, records.next false = (none, { records with lines := rest, finished := true })) ∨
        ∃ line rest, records.lines.toList = (rest.number, line) :: rest.toList ∧
          records.next false =
            match line.bind fun cells => materialize records.shape records.schema cells rest.number with
            | .ok record => (some (.ok record), { records with lines := rest })
            | .error error => (some (.error error), { records with lines := rest, finished := true })) := by
  refine ⟨by simp [next, h], ?_⟩
  rcases records.lines.next_cases with ⟨rest, hnext, hnil, -⟩ | ⟨line, rest, hnext, hcons⟩
  · exact .inl ⟨hnil, rest, by simp [next, h, hnext]⟩
  · refine .inr ⟨line, rest, hcons, ?_⟩
    cases line with
    | error error => simp [next, h, hnext, Except.bind]
    | ok cells =>
      cases hrecord : materialize records.shape records.schema cells rest.number with
      | error error => simp [next, h, hnext, hrecord, Except.bind]
      | ok record => simp [next, h, hnext, hrecord, Except.bind]

/-- A reader that has finished stays so, and has nothing more to say. -/
theorem next_of_finished {records : Records α} (h : records.finished = true) (stop : Bool) :
    records.next stop = (none, records) := by
  rw [next, if_pos h]

theorem tells_of_finished {records : Records α} (h : records.finished = true) (fired : Nat → Bool) :
    records.Tells fired [] none := by
  have hafter : ∀ n, records.after fired n = records := by
    intro n
    induction n with
    | zero => rfl
    | succ n ih => rw [after, ih, next_of_finished h]
  intro n
  rw [answer, hafter, next_of_finished h]
  simp

/-- A reader that finishes at the first request has told all that there is to tell. -/
theorem tells_ending {records rest : Records α} {fired : Nat → Bool} {ending : Option SheetError}
    (h : records.next (fired 0) = (ending.map .error, rest)) (hrest : rest.finished = true) :
    records.Tells fired [] ending := by
  intro n
  cases n with
  | zero => simp [answer, after, h]
  | succ n =>
    rw [answer_succ, h]
    have hnothing := tells_of_finished hrest (fun i => fired (i + 1)) n
    simpa using hnothing

/-- A record comes before all else that there is to tell. -/
theorem tells_cons {records rest : Records α} {fired : Nat → Bool} {record : α} {told : List α} {ending : Option SheetError}
    (h : records.next (fired 0) = (some (.ok record), rest)) (hrest : rest.Tells (fun i => fired (i + 1)) told ending) :
    records.Tells fired (record :: told) ending := by
  intro n
  cases n with
  | zero => simp [answer, after, h]
  | succ n =>
    rw [answer_succ, h]
    have hothers := hrest n
    simpa using hothers

/-- After its first record a reader tells the others. -/
theorem Tells.tail {records rest : Records α} {fired : Nat → Bool} {record : α} {told : List α}
    {ending : Option SheetError} (htells : records.Tells fired (record :: told) ending)
    (h : records.next (fired 0) = (some (.ok record), rest)) : rest.Tells (fun i => fired (i + 1)) told ending := by
  intro n
  have hnext := htells (n + 1)
  rw [answer_succ, h] at hnext
  simpa using hnext

/-! ## Reading at once -/

section Check

variable (check : StateM σ Bool) (shape : Shape α) (schema : Schema) (number : Nat)

/-- At the end of the lines there is a last check. -/
theorem collectLinesUntil_nil (s : σ) :
    (collectLinesUntil check shape schema number [] s).1 =
      if (check s).1 then .error (.ofFault (.cancelled shape.declaration.shape (number + 1))) else .ok [] := by
  rw [collectLinesUntil]
  show ((if (check s).1 = true then _ else _ : StateM σ _) (check s).2).1 = _
  cases (check s).1 <;> rfl

/-- Before a line there is a check; its record comes before those of the lines after it. -/
theorem collectLinesUntil_cons (next : Nat) (line : Except SheetError RawLine)
    (lines : List (Nat × Except SheetError RawLine)) (s : σ) :
    (collectLinesUntil check shape schema number ((next, line) :: lines) s).1 =
      if (check s).1 then .error (.ofFault (.cancelled shape.declaration.shape (number + 1)))
      else match line.bind fun cells => materialize shape schema cells next with
        | .error error => .error error
        | .ok record => (record :: ·) <$> (collectLinesUntil check shape schema next lines (check s).2).1 := by
  rw [collectLinesUntil]
  show ((if (check s).1 = true then _ else _ : StateM σ _) (check s).2).1 = _
  cases (check s).1 with
  | true => rfl
  | false =>
    cases line.bind fun cells => materialize shape schema cells next with
    | error error => rfl
    | ok record =>
      simp only [Bool.false_eq_true, if_false, bind, StateT.bind]
      obtain ⟨rest, left⟩ := collectLinesUntil check shape schema next lines (check s).2
      cases rest <;> rfl

/-- A check that says to stop ends the reading before the next line, whatever the lines are. -/
theorem collectLinesUntil_of_fired (lines : List (Nat × Except SheetError RawLine)) {s : σ} (h : (check s).1 = true) :
    (collectLinesUntil check shape schema number lines s).1 =
      .error (.ofFault (.cancelled shape.declaration.shape (number + 1))) := by
  cases lines with
  | nil => rw [collectLinesUntil_nil, if_pos h]
  | cons line lines => rw [collectLinesUntil_cons, if_pos h]

/-- Lines that are read until a signal that never fires are read at once. -/
theorem collectLinesUntil_of_never (lines : List (Nat × Except SheetError RawLine)) {s : σ}
    (h : ∀ n, answersOf check s n = false) :
    (collectLinesUntil check shape schema number lines s).1 = collectLines shape schema lines := by
  induction lines generalizing number s with
  | nil =>
    have hfirst : (check s).1 = false := h 0
    rw [collectLinesUntil_nil, hfirst]
    rfl
  | cons line lines ih =>
    obtain ⟨next, line⟩ := line
    have hfirst : (check s).1 = false := h 0
    have hrest := ih next fun n => h (n + 1)
    rw [collectLinesUntil_cons, hfirst, hrest, collectLines]
    cases line with
    | error error => rfl
    | ok cells =>
      simp only [bind, Except.bind, Bool.false_eq_true, if_false]
      cases materialize shape schema cells next with
      | error error => rfl
      | ok record => cases collectLines shape schema lines <;> rfl

/-- Lines that are read until a signal end with the signal or with an error of the lines themselves. -/
theorem cancelled_or_of_collectLinesUntil {lines : List (Nat × Except SheetError RawLine)} {s : σ} {error : SheetError}
    (h : (collectLinesUntil check shape schema number lines s).1 = .error error) :
    (∃ line, error = .ofFault (.cancelled shape.declaration.shape line)) ∨
      collectLines shape schema lines = .error error := by
  induction lines generalizing number s with
  | nil =>
    rw [collectLinesUntil_nil] at h
    split at h
    · exact .inl ⟨_, (Except.error.inj h).symm⟩
    · nomatch h
  | cons line lines ih =>
    obtain ⟨next, line⟩ := line
    rw [collectLinesUntil_cons] at h
    split at h
    · exact .inl ⟨_, (Except.error.inj h).symm⟩
    · rw [collectLines]
      cases line with
      | error cause => exact .inr h
      | ok cells =>
        simp only [bind, Except.bind] at h ⊢
        cases hrecord : materialize shape schema cells next with
        | error cause =>
          rw [hrecord] at h
          exact .inr h
        | ok record =>
          rw [hrecord] at h
          cases hrest : (collectLinesUntil check shape schema next lines (check s).2).1 with
          | ok records =>
            rw [hrest] at h
            nomatch h
          | error cause =>
            rw [hrest] at h
            obtain rfl := Except.error.inj h
            exact (ih next hrest).imp_right fun hlines => by rw [hlines]

end Check

/-- Whether a reader tells these records and this ending, and whoever makes a check with the same answers as the signal reads
the same at once. -/
def Agrees (records : Records α) (fired : Nat → Bool) (told : List α) (ending : Option SheetError) : Prop :=
  records.Tells fired told ending ∧
    ∀ {σ : Type} (check : StateM σ Bool) (s : σ), (∀ n, answersOf check s n = fired n) →
      (collectLinesUntil check records.shape records.schema records.lines.number records.lines.toList s).1 =
        outcome told ending

/-- The error of a reader that is told to stop. -/
def stopped (records : Records α) : SheetError :=
  .ofFault (.cancelled records.shape.declaration.shape (records.lines.number + 1))

theorem agrees_of_fired {records : Records α} (h : records.finished = false) {fired : Nat → Bool} (hfired : fired 0 = true) :
    records.Agrees fired [] (some records.stopped) := by
  obtain ⟨hstop, -⟩ := records.next_cases h
  refine ⟨tells_ending (by rw [hfired]; exact hstop) rfl, fun check s hs => ?_⟩
  exact collectLinesUntil_of_fired check _ _ _ _ ((hs 0).trans hfired)

/-- Whatever the signal does, a reader tells something, and whoever makes a check with the same answers reads it at once. -/
theorem exists_agrees (records : Records α) (fired : Nat → Bool) (h : records.finished = false) :
    ∃ told ending, records.Agrees fired told ending := by
  -- By induction on the lines that are left: every request that is answered by a record takes one of them.
  induction hlist : records.lines.toList generalizing records fired with
  | nil =>
    obtain ⟨-, hnext⟩ := records.next_cases h
    cases hfired : fired 0 with
    | true => exact ⟨[], _, agrees_of_fired h hfired⟩
    | false =>
      rcases hnext with ⟨-, rest, hend⟩ | ⟨line, rest, hcons, -⟩
      · refine ⟨[], none, tells_ending (by rw [hfired]; exact hend) rfl, fun check s hs => ?_⟩
        have hcheck : (check s).1 = false := (hs 0).trans hfired
        rw [hlist, collectLinesUntil_nil, hcheck]
        rfl
      · rw [hlist] at hcons
        nomatch hcons
  | cons first lines ih =>
    obtain ⟨-, hnext⟩ := records.next_cases h
    cases hfired : fired 0 with
    | true => exact ⟨[], _, agrees_of_fired h hfired⟩
    | false =>
      rcases hnext with ⟨hnil, -⟩ | ⟨line, rest, hcons, hline⟩
      · rw [hlist] at hnil
        nomatch hnil
      · obtain ⟨rfl, rfl⟩ := List.cons.inj (hlist.symm.trans hcons)
        cases hrecord : line.bind fun cells => materialize records.shape records.schema cells rest.number with
        | error error =>
          rw [hrecord] at hline
          refine ⟨[], some error, tells_ending (by rw [hfired]; exact hline) rfl, fun check s hs => ?_⟩
          have hcheck : (check s).1 = false := (hs 0).trans hfired
          rw [hlist, collectLinesUntil_cons, hcheck, hrecord]
          rfl
        | ok record =>
          rw [hrecord] at hline
          obtain ⟨told, ending, htells, hcollect⟩ := ih { records with lines := rest } (fun n => fired (n + 1)) h rfl
          refine ⟨record :: told, ending, tells_cons (by rw [hfired]; exact hline) htells, fun check s hs => ?_⟩
          have hcheck : (check s).1 = false := (hs 0).trans hfired
          have hrest := hcollect check (check s).2 fun n => hs (n + 1)
          rw [hlist, collectLinesUntil_cons, hcheck, hrecord]
          simp only [Bool.false_eq_true, if_false, hrest]
          cases ending <;> rfl

/-! ## A signal that fires -/

/-- A signal that never fires. -/
def never (_ : Nat) : Bool :=
  false

/-- A signal that fires before the request that comes after a number of others, and has fired from then on. -/
def firesAt (k n : Nat) : Bool :=
  decide (k ≤ n)

/-- A reader that is told to stop before a request has told the records of the requests before it, as if it were not told to, and
it stops after the line of the last of them. -/
theorem tells_firesAt {records : Records α} {told : List α} {ending : Option SheetError} (h : records.finished = false)
    (htells : records.Tells never told ending) {k : Nat} (hk : k ≤ told.length) :
    ∃ number, (records.lines.number :: records.lines.toList.map Prod.fst)[k]? = some number ∧
      records.Tells (firesAt k) (told.take k)
        (some (.ofFault (.cancelled records.shape.declaration.shape (number + 1)))) := by
  induction k generalizing records told with
  | zero => exact ⟨records.lines.number, rfl, (agrees_of_fired h rfl).1⟩
  | succ k ih =>
    cases told with
    | nil => nomatch hk
    | cons record told =>
      have hfirst : (records.next false).1 = some (.ok record) := htells 0
      rcases (records.next_cases h).2 with ⟨-, rest, hend⟩ | ⟨line, rest, hcons, hline⟩
      · rw [hend] at hfirst
        nomatch hfirst
      · cases hrecord : line.bind fun cells => materialize records.shape records.schema cells rest.number with
        | error error =>
          rw [hline, hrecord] at hfirst
          nomatch hfirst
        | ok read =>
          rw [hrecord] at hline
          rw [hline] at hfirst
          obtain rfl : read = record := Except.ok.inj (Option.some.inj hfirst)
          obtain ⟨number, hnumber, hstopped⟩ :=
            @ih { records with lines := rest } told h (htells.tail hline) (Nat.le_of_succ_le_succ hk)
          refine ⟨number, ?_, ?_⟩
          · rw [hcons, List.map_cons, List.getElem?_cons_succ]
            exact hnumber
          · have hshift : (fun n => firesAt (k + 1) (n + 1)) = firesAt k := by
              funext n
              simp [firesAt]
            exact tells_cons hline (hshift ▸ hstopped)

end Records

/-! ## Sheets -/

section Sheets

open Records Text

/-- Before a sheet is opened there is a check. -/
theorem decodeUntil_eq {registry : Registry} (hv : registry.Valid) (check : StateM σ Bool) (shape : Shape α)
    (bytes : List UInt8) (s : σ) :
    (decodeUntil check shape bytes registry s).1.1 =
      if (check s).1 then .error (.ofFault (.cancelled shape.declaration.shape 1))
      else (start shape bytes .empty).1.bind fun records =>
        (collectLinesUntil check shape records.schema records.lines.number records.lines.toList (check s).2).1 := by
  have hstart := start_eq hv shape bytes
  rw [← start_eq Registry.valid_empty] at hstart
  rw [decodeUntil]
  show ((if (check s).1 = true then _ else _ : StateM σ (Except SheetError (List α) × Registry)) (check s).2).1.1 = _
  cases (check s).1 with
  | true => rfl
  | false =>
    rw [← hstart]
    simp only [Bool.false_eq_true, if_false]
    cases start shape bytes registry with
    | mk opened registry => cases opened <;> rfl

/-- The shapes that have been prepared before make no difference to the records of a sheet, nor to how often is checked. -/
theorem decodeUntil_transparent {registry : Registry} (hv : registry.Valid) (check : StateM σ Bool) (shape : Shape α)
    (bytes : List UInt8) (s : σ) :
    (decodeUntil check shape bytes registry s).1.1 = (decodeUntil check shape bytes .empty s).1.1 ∧
      (decodeUntil check shape bytes registry s).2 = (decodeUntil check shape bytes .empty s).2 := by
  refine ⟨by rw [decodeUntil_eq hv, decodeUntil_eq Registry.valid_empty], ?_⟩
  have hstart : (start shape bytes registry).1 = (start shape bytes .empty).1 := by
    rw [start_eq hv, start_eq Registry.valid_empty]
  rw [decodeUntil, decodeUntil]
  show ((if (check s).1 = true then _ else _ : StateM σ (Except SheetError (List α) × Registry)) (check s).2).2 =
    ((if (check s).1 = true then _ else _ : StateM σ (Except SheetError (List α) × Registry)) (check s).2).2
  cases (check s).1 with
  | true => rfl
  | false =>
    simp only [Bool.false_eq_true, if_false]
    revert hstart
    obtain ⟨opened, left⟩ := start shape bytes .empty
    obtain ⟨opened', left'⟩ := start shape bytes registry
    rintro rfl
    cases opened' <;> rfl

/-- A sheet that is read until a signal is refused because of the signal, or as it is when it is read at once. -/
theorem cancelled_or_of_decodeUntil {check : StateM σ Bool} {shape : Shape α} {bytes : List UInt8} {s : σ}
    {error : SheetError} (h : (decodeUntil check shape bytes .empty s).1.1 = .error error) :
    (∃ line, error = .ofFault (.cancelled shape.declaration.shape line)) ∨
      (decodeAll shape bytes .empty).1 = .error error := by
  rw [decodeUntil_eq Registry.valid_empty] at h
  split at h
  · exact .inl ⟨_, (Except.error.inj h).symm⟩
  · rw [decodeAll_eq Registry.valid_empty]
    cases hopened : (start shape bytes .empty).1 with
    | error cause =>
      rw [hopened] at h
      exact .inr h
    | ok records =>
      rw [hopened] at h
      obtain ⟨body, prepared, header, rfl, opened⟩ := exists_opened Registry.valid_empty hopened
      refine (cancelled_or_of_collectLinesUntil _ _ _ _ h).imp_right fun hlines => ?_
      rw [Except.bind, collect, opened.unfinished, opened.shape_eq, hlines]
      rfl

/-- A sheet is read the same in three ways: record by record, at once, and at once until a signal. If it cannot be opened, it is
refused for the same reason in all of them. If it can, the requests give records, then at most one error, and then nothing for
ever; and this is what is read at once, where no signal fires. If the signal fires between two requests, those before it give
the same records as ever, the first after it gives an error behind the line of the last of these records (the first line that
is not blank being the header), and all others give nothing. Where the signal has fired before the sheet is opened, the sheet is
refused before its first line, whatever it is. -/
theorem reading_agrees (shape : Shape α) (bytes : List UInt8) {asking reading checking : Registry} (hasking : asking.Valid)
    (hreading : reading.Valid) (hchecking : checking.Valid) :
    (∀ error, (start shape bytes asking).1 = .error error →
        (decodeAll shape bytes reading).1 = .error error ∧
        ∀ {σ : Type} (check : StateM σ Bool) (s : σ), (∀ n, answersOf check s n = false) →
          (decodeUntil check shape bytes checking s).1.1 = .error error) ∧
      (∀ records, (start shape bytes asking).1 = .ok records → ∃ told ending,
        records.Tells never told ending ∧
        (decodeAll shape bytes reading).1 = outcome told ending ∧
        (∀ {σ : Type} (check : StateM σ Bool) (s : σ), (∀ n, answersOf check s n = false) →
          (decodeUntil check shape bytes checking s).1.1 = outcome told ending) ∧
        ∀ k ≤ told.length, ∃ line, (Lines.ofBytes bytes.tail).toList[k]? = some line ∧
          records.Tells (firesAt k) (told.take k)
            (some ⟨.cancelled shape.declaration.shape (line.1 + 1), some (line.1 + 1)⟩)) ∧
      ∀ {σ : Type} (check : StateM σ Bool) (s : σ), (check s).1 = true →
        (decodeUntil check shape bytes checking s).1.1 = .error ⟨.cancelled shape.declaration.shape 1, some 1⟩ := by
  have hopen : (start shape bytes asking).1 = (start shape bytes .empty).1 := by
    rw [start_eq hasking, start_eq Registry.valid_empty]
  refine ⟨fun error herror => ⟨?_, fun check s hs => ?_⟩, fun records hrecords => ?_, fun check s hs => ?_⟩
  · rw [decodeAll_eq hreading, ← hopen, herror]
    rfl
  · have hcheck : (check s).1 = false := hs 0
    rw [decodeUntil_eq hchecking, hcheck, ← hopen, herror]
    rfl
  · obtain ⟨body, prepared, header, rfl, hopened⟩ := exists_opened hasking hrecords
    obtain ⟨told, ending, htells, hcollect⟩ := exists_agrees records never hopened.unfinished
    have hcheck : ∀ {σ : Type} (check : StateM σ Bool) (s : σ), (∀ n, answersOf check s n = false) →
        (collectLinesUntil check shape records.schema records.lines.number records.lines.toList s).1 =
          outcome told ending := by
      intro σ check s hs
      rw [← hcollect check s hs, hopened.shape_eq]
    refine ⟨told, ending, htells, ?_, fun check s hs => ?_, fun k hk => ?_⟩
    · have hnever : ∀ n, answersOf (pure false : StateM Unit Bool) () n = false := by
        intro n
        induction n with
        | zero => rfl
        | succ n ih => exact ih
      rw [decodeAll_eq hreading, ← hopen, hrecords, Except.bind, Records.collect, hopened.unfinished, hopened.shape_eq,
        ← hcheck (pure false) () hnever, collectLinesUntil_of_never _ _ _ _ _ hnever]
      rfl
    · have hfirst : (check s).1 = false := hs 0
      rw [decodeUntil_eq hchecking, hfirst, ← hopen, hrecords]
      exact hcheck check (check s).2 fun n => hs (n + 1)
    · obtain ⟨number, hnumber, hstopped⟩ := tells_firesAt hopened.unfinished htells hk
      rw [hopened.shape_eq] at hstopped
      have hread : (((records.lines.number, .ok header) :: records.lines.toList).map Prod.fst)[k]? = some number := hnumber
      rw [← hopened.lines_eq, List.getElem?_map, Option.map_eq_some_iff] at hread
      obtain ⟨line, hline, rfl⟩ := hread
      exact ⟨line, hline, hstopped⟩
  · rw [decodeUntil_eq hchecking, hs]
    rfl

/-- A sheet of two images, with a blank line between them: a reader that is told to stop behind both of them stops before the
fifth line. Bytes without a marker are refused, and so are they where the signal has fired before. -/
theorem reading_agrees_images :
    (∃ records, (start ImageSetMapping.shape
            (encodeUtf8 "#image_set_id^image_id^image_type\n1^2^Small\n\n3^4^Large^\r\n\n") .empty).1 = .ok records ∧
        records.Tells never [⟨1, 2, .small⟩, ⟨3, 4, .large⟩] none ∧
        records.Tells (firesAt 2) [⟨1, 2, .small⟩, ⟨3, 4, .large⟩] (some ⟨.cancelled "ImageSetMapping" 5, some 5⟩)) ∧
      (decodeAll ImageSetMapping.shape [] .empty).1 = .error (.ofFault .missingHeader) ∧
      (decodeUntil (pure true : StateM Unit Bool) ImageSetMapping.shape [] .empty ()).1.1 =
        .error ⟨.cancelled "ImageSetMapping" 1, some 1⟩ := by
  have hvalid := Registry.valid_empty
  obtain ⟨-, hopened, -⟩ := reading_agrees ImageSetMapping.shape
    (encodeUtf8 "#image_set_id^image_id^image_type\n1^2^Small\n\n3^4^Large^\r\n\n") hvalid hvalid hvalid
  obtain ⟨hrefused, -, hfired⟩ := reading_agrees ImageSetMapping.shape [] hvalid hvalid hvalid
  have hread : (decodeAll ImageSetMapping.shape
      (encodeUtf8 "#image_set_id^image_id^image_type\n1^2^Small\n\n3^4^Large^\r\n\n") .empty).1 =
    .ok [⟨1, 2, .small⟩, ⟨3, 4, .large⟩] := by decide +kernel
  have hlines : ((Lines.ofBytes (encodeUtf8 "#image_set_id^image_id^image_type\n1^2^Small\n\n3^4^Large^\r\n\n").tail).toList.map
      Prod.fst)[2]? = some 4 := by decide +kernel
  refine ⟨?_, (hrefused _ rfl).1, hfired (pure true) () rfl⟩
  rw [decodeAll_eq hvalid] at hread
  obtain ⟨records, hrecords, -⟩ := exists_of_bind_ok hread
  obtain ⟨told, ending, htells, hat, -, hstopped⟩ := hopened records hrecords
  rw [decodeAll_eq hvalid, hread] at hat
  cases ending with
  | some error => nomatch hat
  | none =>
    obtain rfl := Except.ok.inj hat
    obtain ⟨line, hline, hsecond⟩ := hstopped 2 (Nat.le_refl 2)
    rw [List.getElem?_map, hline] at hlines
    have hnumber : line.1 = 4 := Option.some.inj hlines
    rw [hnumber] at hsecond
    exact ⟨records, hrecords, htells, hsecond⟩

end Sheets

end SheetQuery.Sheet
