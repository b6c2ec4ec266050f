import SheetQuery.Proofs.Outcome
import SheetQuery.Query.Control

/-!
# What control parameters say together

Control parameters do not look at each other. Whether one is valid lies in its name and its value, and what it says goes into
the fields of its name alone: lists grow, and of single values the last one counts. So reading many of them tells the first
that is not valid, or else gives for each name what the values of that name say, in their order (`readFrom_eq`).
-/

namespace SheetQuery.Query.Control

/-! ## One parameter -/

/-- A size of a page: a positive number, cut to the largest size. -/
def readLimit? (value : String) : Option UInt64 :=
  (readCount? value).bind fun n => if n = 0 then none else some (min n maxLimit)

/-- Whether a control parameter is valid by itself. -/
def isValid (name value : String) : Bool :=
  match name with
  | "start" => (readCount? value).isSome
  | "limit" => (readLimit? value).isSome
  | "show" | "hide" | "has" | "sort" => true
  | "timing" => (readFlag? value).isSome
  | _ => false

/-- What is told of a control parameter that is not valid: a name that takes values has a wrong one, any other is unknown. -/
def fault (name value : String) : QueryError :=
  if name ∈ ["start", "limit", "timing"] then .invalidControl name value else .unknownControl name

/-- What the control parameters say when each name is given some more values. -/
def after (control : Control) (values : String → List String) : Control where
  start := ((values "start").filterMap readCount?).getLastD control.start
  limit := ((values "limit").filterMap readLimit?).getLastD control.limit
  included := control.included ++ (values "show").flatMap entries
  excluded := control.excluded ++ (values "hide").flatMap entries
  sort := control.sort ++ ((values "sort").flatMap entries).map SortKey.read
  existing := control.existing ++ (values "has").flatMap entries
  timing := ((values "timing").filterMap readFlag?).getLastD control.timing

/-- No values change nothing. -/
@[simp] theorem after_nil (control : Control) : control.after (fun _ => []) = control := by
  simp [after]

/-- Values that are given one after the other are given together. -/
theorem after_after (control : Control) (values more : String → List String) :
    (control.after values).after more = control.after fun name => values name ++ more name := by
  simp [after, List.getLastD_eq_getLast?, List.getLast?_append]

/-- One value of a name. -/
def single (name value other : String) : List String :=
  if other = name then [value] else []

/-- A control parameter is refused if it is not valid, and else its name is given its value. -/
theorem set_eq (control : Control) (name value : String) :
    control.set name value =
      if isValid name value then .ok (control.after (single name value)) else .error (fault name value) := by
  unfold set
  split
  · cases h : readCount? value <;> simp [isValid, fault, after, single, h]
  · cases h : readCount? value with
    | none => simp [isValid, readLimit?, fault, h]
    | some n => by_cases hn : n = 0 <;> simp [isValid, readLimit?, fault, after, single, h, hn]
  · simp [isValid, after, single]
  · simp [isValid, after, single]
  · simp [isValid, after, single]
  · simp [isValid, after, single]
  · cases h : readFlag? value <;> simp [isValid, fault, after, single, h]
  · rename_i hstart hlimit _ _ _ _ htiming
    simpa [isValid, fault] using And.intro hstart ⟨hlimit, htiming⟩

/-! ## Many parameters -/

/-- A control parameter is one whose key has the mark before its name. -/
theorem name?_eq_some_iff {param name : String} : name? param = some name ↔ param = "c:" ++ name := by
  have hmark : ("c:" ++ name).toList = 'c' :: ':' :: name.toList := by simp
  unfold name?
  split
  · rename_i rest hparam
    rw [← String.toList_inj, hmark, hparam, Option.some.injEq, ← String.toList_inj, String.toList_ofList]
    simp
  · rename_i hother
    refine iff_of_false (fun h => nomatch h) ?_
    rintro rfl
    exact hother _ hmark

theorem name?_eq_none_iff {param : String} : name? param = none ↔ ∀ name, param ≠ "c:" ++ name := by
  simp only [Option.eq_none_iff_forall_ne_some, ne_eq, name?_eq_some_iff]

/-- The values that control parameters give to a name, in their order. -/
def valuesOf (params : List (String × String)) (name : String) : List String :=
  (params.filter fun param => name? param.1 == some name).map Prod.snd

/-- What is wrong with a parameter, if it is a control parameter that is not valid. -/
def fault? (param : String × String) : Option QueryError :=
  match name? param.1 with
  | some name => if isValid name param.2 then none else some (fault name param.2)
  | none => none

/-- Other parameters give no name a value. -/
theorem valuesOf_cons_of_none {key value : String} (h : name? key = none) (params : List (String × String)) :
    valuesOf ((key, value) :: params) = valuesOf params := by
  funext name
  simp [valuesOf, h]

/-- A control parameter gives its name one value, before all those that come later. -/
theorem valuesOf_cons_of_some {key value name : String} (h : name? key = some name) (params : List (String × String)) :
    valuesOf ((key, value) :: params) = fun other => single name value other ++ valuesOf params other := by
  funext other
  by_cases ho : other = name
  · simp [valuesOf, single, h, ho]
  · simp [valuesOf, single, h, ho, Ne.symm ho]

/-- Control parameters tell the first that is not valid, and else give each name all of its values. -/
theorem readFrom_eq (control : Control) (params : List (String × String)) :
    readFrom control params =
      match params.findSome? fault? with
      | some e => .error e
      | none => .ok (control.after (valuesOf params)) := by
  induction params generalizing control with
  | nil =>
    have hvalues : valuesOf [] = fun _ => [] := rfl
    simp [readFrom, hvalues]
  | cons param params ih =>
    obtain ⟨key, value⟩ := param
    rw [readFrom]
    cases hname : name? key with
    | none =>
      have hfault : fault? (key, value) = none := by simp [fault?, hname]
      simp only [List.findSome?_cons, hfault, valuesOf_cons_of_none hname]
      exact ih control
    | some name =>
      dsimp only
      rw [set_eq]
      by_cases hvalid : isValid name value
      · have hfault : fault? (key, value) = none := by simp [fault?, hname, hvalid]
        simp only [List.findSome?_cons, hfault, valuesOf_cons_of_some hname, hvalid, if_true]
        rw [ih, after_after]
      · have hfault : fault? (key, value) = some (fault name value) := by simp [fault?, hname, hvalid]
        simp [hfault, hvalid]

/-- The error of a request's control parameters is that of the first one that is not valid. -/
theorem error?_read (params : List (String × String)) : error? (read params) = params.findSome? fault? := by
  rw [read, readFrom_eq]
  cases params.findSome? fault? <;> rfl

/-- What is read of valid control parameters. -/
theorem read_eq_ok_iff {params : List (String × String)} {control : Control} :
    read params = .ok control ↔ params.findSome? fault? = none ∧ default.after (valuesOf params) = control := by
  rw [read, readFrom_eq]
  cases params.findSome? fault? <;> simp

/-- In valid parameters every value is valid for its name. -/
theorem isValid_of_mem_valuesOf {params : List (String × String)} (h : params.findSome? fault? = none) {name value : String}
    (hvalue : value ∈ valuesOf params name) : isValid name value = true := by
  obtain ⟨param, hparam, rfl⟩ := List.mem_map.1 hvalue
  obtain ⟨hparam, hname⟩ := List.mem_filter.1 hparam
  have hfault := List.findSome?_eq_none_iff.1 h param hparam
  rw [fault?, eq_of_beq hname] at hfault
  simpa using hfault

/-- A size that is read of a value is positive and not above the largest. -/
theorem readLimit?_bounds {value : String} {n : UInt64} (h : readLimit? value = some n) : 1 ≤ n ∧ n ≤ maxLimit := by
  obtain ⟨m, -, h⟩ := Option.bind_eq_some_iff.1 h
  split at h
  · nomatch h
  · rename_i hm
    obtain rfl := Option.some.inj h
    refine ⟨Std.le_min_iff.2 ⟨?_, by decide⟩, Std.min_le_right⟩
    have hpos : 0 < m := UInt64.pos_iff_ne_zero.2 hm
    rw [UInt64.lt_iff_toNat_lt] at hpos
    exact UInt64.le_iff_toNat_le.2 hpos

/-- Every page has room, and none for more than the largest size. -/
theorem limit_bounds {params : List (String × String)} {control : Control} (h : read params = .ok control) :
    1 ≤ control.limit ∧ control.limit ≤ maxLimit := by
  obtain ⟨-, rfl⟩ := read_eq_ok_iff.1 h
  rcases List.mem_cons.1 (@List.getLastD_mem_cons _ ((valuesOf params "limit").filterMap readLimit?) default.limit) with
    hd | hread
  · have hbounds : 1 ≤ default.limit ∧ default.limit ≤ maxLimit := by decide
    rw [after]
    dsimp only
    rwa [hd]
  · obtain ⟨value, -, hvalue⟩ := List.mem_filterMap.1 hread
    exact readLimit?_bounds hvalue

end SheetQuery.Query.Control
