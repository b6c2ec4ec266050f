import Mathlib.Data.List.Induction
import SheetQuery.Proofs.Decimal.Integer
import SheetQuery.Proofs.Query.Control
import SheetQuery.Proofs.Text.Blank

/-!
# Single values of a request

Which number and which truth value the value of a control parameter stands for, said without the functions that read it
(`CountText`, `FlagText`), and when a control parameter is valid by itself (`Control.Valid`). Of the parameters that give one
value the last one counts: it says where a page begins, how large it is and whether the time is told.
-/

namespace SheetQuery.Query

open Decimal Text

/-! ## White space -/

/-- Whether a text is another with nothing but white space around it. -/
def Padded (text inner : List Char) : Prop :=
  ∃ before after, (∀ c ∈ before, isBlank c = true) ∧ (∀ c ∈ after, isBlank c = true) ∧ text = before ++ inner ++ after

/-- The rest of a text is white space around what is left of it. -/
theorem padded_dropEnds (text : List Char) : Padded text (dropEnds isBlank text) :=
  exists_append_dropEnds text

/-- White space around a text is taken off. -/
theorem Padded.dropEnds_eq {text inner : List Char} (h : Padded text inner) : dropEnds isBlank text = dropEnds isBlank inner := by
  obtain ⟨before, after, hbefore, hafter, rfl⟩ := h
  exact dropEnds_append_of_forall hbefore hafter inner

/-! ## Numbers and truth values -/

/-- Which number a value stands for: digits, perhaps behind a plus sign, with white space around them, up to 64 bits. -/
def CountText (value : String) (n : Nat) : Prop :=
  ∃ inner, Padded value.toList inner ∧ IntegerText inner n ∧ inner.head? ≠ some '-' ∧ n < UInt64.size

/-- Which truth value a value stands for, with white space around it: nothing at all means yes. -/
inductive FlagText (value : String) : Bool → Prop where
  | yes {word : List Char} (padded : Padded value.toList word)
    (written : word = [] ∨ word = ['1'] ∨ word.map Char.toLower = ['t', 'r', 'u', 'e']) : FlagText value true
  | no {word : List Char} (padded : Padded value.toList word)
    (written : word = ['0'] ∨ word.map Char.toLower = ['f', 'a', 'l', 's', 'e']) : FlagText value false

/-- Whether a control parameter is valid by itself: a list may be anything, a size of a page must not be zero, and other names
are not known. -/
inductive Control.Valid (name value : String) : Prop where
  | start {n : Nat} (named : name = "start") (count : CountText value n)
  | limit {n : Nat} (named : name = "limit") (count : CountText value n) (positive : 0 < n)
  | list (named : name ∈ ["show", "hide", "has", "sort"])
  | timing {flag : Bool} (named : name = "timing") (text : FlagText value flag)

/-- An integer has no white space in it. -/
theorem isBlank_of_integerText {text : List Char} {i : Int} (h : IntegerText text i) : ∀ c ∈ text, isBlank c = false := by
  cases h with
  | unsigned hdigits => exact fun c hc => isBlank_of_isDigit (hdigits.digits c hc)
  | plus hdigits => exact List.forall_mem_cons.2 ⟨rfl, fun c hc => isBlank_of_isDigit (hdigits.digits c hc)⟩
  | minus hdigits => exact List.forall_mem_cons.2 ⟨rfl, fun c hc => isBlank_of_isDigit (hdigits.digits c hc)⟩

/-- A minus sign is not read where there is no sign. -/
theorem head?_of_readInteger {text : List Char} {i : Int} (h : readInteger .u64 text = .ok i) : text.head? ≠ some '-' := by
  obtain _ | ⟨c, rest⟩ := text
  · exact fun hhead => nomatch hhead
  · rintro hhead
    obtain rfl := Option.some.inj hhead
    cases rest <;> nomatch h

theorem readCount?_eq_some_iff {value : String} {n : UInt64} : Control.readCount? value = some n ↔ CountText value n.toNat := by
  rw [Control.readCount?, trim, String.toList_ofList]
  constructor
  · intro h
    split at h
    · rename_i i hread
      obtain rfl := Option.some.inj h
      have hvalue := toNat_ofNat rfl (holds_of_readInteger hread)
      refine ⟨_, padded_dropEnds value.toList, ?_, head?_of_readInteger hread, UInt64.toNat_lt_size _⟩
      rw [hvalue]
      exact integerText_of_readInteger hread
    · exact absurd h.symm (Option.some_ne_none _)
  · rintro ⟨inner, hpadded, htext, hhead, hlt⟩
    have hholds : IntWidth.u64.holds n.toNat = true := by
      rw [IntWidth.holds_iff]
      simp only [IntWidth.least, IntWidth.greatest, UInt64.size] at hlt ⊢
      omega
    rw [hpadded.dropEnds_eq, dropEnds_of_forall (isBlank_of_integerText htext),
      readInteger_of_integerText htext hholds fun h => absurd h hhead]
    simp

/-- A letter in upper case is no white space either. -/
theorem isBlank_of_toLower {c : Char} (h : isBlank c.toLower = false) : isBlank c = false := by
  by_cases hupper : c.val ≥ 'A'.val ∧ c.val ≤ 'Z'.val
  · have hbounds : 65 ≤ c.toNat ∧ c.toNat ≤ 90 := by
      simpa [UInt32.le_iff_toNat_le] using hupper
    simp only [isBlank, Bool.or_eq_false_iff, Bool.and_eq_false_iff, decide_eq_false_iff_not, beq_eq_false_iff_ne]
    omega
  · have hsame : c.toLower = c := dif_neg hupper
    rwa [hsame] at h

/-- A word is what is left of a value that has it, in whatever case, with white space around it. -/
theorem Padded.word_eq {text word lower : List Char} (h : Padded text word) (hword : word.map Char.toLower = lower)
    (hlower : lower.any isBlank = false) : dropEnds isBlank text = word := by
  rw [h.dropEnds_eq, dropEnds_of_forall]
  intro c hc
  have hmem : c.toLower ∈ lower := hword ▸ List.mem_map_of_mem hc
  exact isBlank_of_toLower (Bool.eq_false_iff.2 (List.any_eq_false.1 hlower _ hmem))

/-- Which truth value is read lies in what is left of a value without the white space around it. -/
theorem readFlag?_eq {value : String} {word : List Char} (h : dropEnds isBlank value.toList = word) :
    Control.readFlag? value =
      if word = [] ∨ word = ['1'] then some true
      else if word = ['0'] then some false
      else if word.map Char.toLower = ['t', 'r', 'u', 'e'] then some true
      else if word.map Char.toLower = ['f', 'a', 'l', 's', 'e'] then some false
      else none := by
  have hword : ∀ other : String, trim value = other ↔ word = other.toList := by
    intro other
    rw [trim, h, ← String.toList_inj, String.toList_ofList]
  have htext : (trim value).toList = word := by rw [trim, h, String.toList_ofList]
  simp only [Control.readFlag?, hword, htext, lowerAscii, Bool.or_eq_true, decide_eq_true_eq]
  rfl

theorem flagText_of_readFlag? {value : String} {flag : Bool} (h : Control.readFlag? value = some flag) : FlagText value flag := by
  have hpadded := padded_dropEnds value.toList
  rw [readFlag?_eq rfl] at h
  split at h
  · rename_i hyes
    obtain rfl := Option.some.inj h
    exact .yes hpadded (hyes.imp id .inl)
  split at h
  · rename_i hno
    obtain rfl := Option.some.inj h
    exact .no hpadded (.inl hno)
  split at h
  · rename_i hyes
    obtain rfl := Option.some.inj h
    exact .yes hpadded (.inr (.inr hyes))
  split at h
  · rename_i hno
    obtain rfl := Option.some.inj h
    exact .no hpadded (.inr hno)
  · exact absurd h.symm (Option.some_ne_none _)

/-- A value stands for a truth value exactly if it is read as that one. -/
theorem readFlag?_eq_some_iff {value : String} {flag : Bool} : Control.readFlag? value = some flag ↔ FlagText value flag := by
  refine ⟨flagText_of_readFlag?, ?_⟩
  rintro (@⟨word, hvalue, rfl | rfl | hyes⟩ | @⟨word, hvalue, rfl | hno⟩)
  · rw [readFlag?_eq (hvalue.word_eq rfl rfl)]
    rfl
  · rw [readFlag?_eq (hvalue.word_eq rfl rfl)]
    rfl
  · have hone : ¬(word = [] ∨ word = ['1']) := by rintro (rfl | rfl) <;> exact absurd hyes (by decide)
    have hzero : word ≠ ['0'] := by
      rintro rfl
      exact absurd hyes (by decide)
    rw [readFlag?_eq (hvalue.word_eq hyes rfl), if_neg hone, if_neg hzero]
    exact if_pos hyes
  · rw [readFlag?_eq (hvalue.word_eq rfl rfl)]
    rfl
  · have hone : ¬(word = [] ∨ word = ['1']) := by rintro (rfl | rfl) <;> exact absurd hno (by decide)
    have hzero : word ≠ ['0'] := by
      rintro rfl
      exact absurd hno (by decide)
    have htrue : word.map Char.toLower ≠ ['t', 'r', 'u', 'e'] := by
      rw [hno]
      decide
    rw [readFlag?_eq (hvalue.word_eq hno rfl), if_neg hone, if_neg hzero, if_neg htrue]
    exact if_pos hno

/-- A value stands for a number exactly if it is read as that number. -/
theorem countText_iff {value : String} {n : Nat} : CountText value n ↔ ∃ m, Control.readCount? value = some m ∧ m.toNat = n := by
  constructor
  · intro h
    have hlt : n < UInt64.size := h.choose_spec.2.2.2
    have hn : (UInt64.ofNat n).toNat = n := UInt64.toNat_ofNat_of_lt' hlt
    exact ⟨UInt64.ofNat n, readCount?_eq_some_iff.2 (by rwa [hn]), hn⟩
  · rintro ⟨m, hread, rfl⟩
    exact readCount?_eq_some_iff.1 hread

/-- A control parameter passes exactly if it is valid by itself. -/
theorem isValid_iff {name value : String} : Control.isValid name value = true ↔ Control.Valid name value := by
  unfold Control.isValid
  split
  · rw [Option.isSome_iff_exists]
    constructor
    · rintro ⟨n, hread⟩
      exact .start rfl (readCount?_eq_some_iff.1 hread)
    · rintro (⟨-, count⟩ | ⟨named, -, -⟩ | named | ⟨named, -⟩)
      · exact (countText_iff.1 count).imp fun m hm => hm.1
      all_goals exact absurd named (by decide)
  · rw [Option.isSome_iff_exists]
    constructor
    · rintro ⟨n, hread⟩
      obtain ⟨m, hcount, hread⟩ := Option.bind_eq_some_iff.1 hread
      split at hread
      · nomatch hread
      · rename_i hne
        exact .limit rfl (readCount?_eq_some_iff.1 hcount) (UInt64.pos_iff_ne_zero.2 hne)
    · rintro (⟨named, -⟩ | ⟨-, count, positive⟩ | named | ⟨named, -⟩)
      case limit =>
        obtain ⟨m, hread, rfl⟩ := countText_iff.1 count
        exact ⟨_, Option.bind_eq_some_iff.2 ⟨m, hread, if_neg (by rintro rfl; exact absurd positive (by decide))⟩⟩
      all_goals exact absurd named (by decide)
  case h_7 =>
    rw [Option.isSome_iff_exists]
    constructor
    · rintro ⟨flag, hread⟩
      exact .timing rfl (readFlag?_eq_some_iff.1 hread)
    · rintro (⟨named, -⟩ | ⟨named, -, -⟩ | named | ⟨-, text⟩)
      case timing => exact ⟨_, readFlag?_eq_some_iff.2 text⟩
      all_goals exact absurd named (by decide)
  case h_8 hstart hlimit hshow hhide hhas hsort htiming =>
    refine iff_of_false (by decide) ?_
    rintro (⟨named, -⟩ | ⟨named, -, -⟩ | named | ⟨named, -⟩)
    · exact hstart named
    · exact hlimit named
    · simp_all
    · exact htiming named
  -- A list of whatever kind is valid.
  all_goals exact iff_of_true rfl (.list (by decide))

/-! ## Single values -/

/-- The value of the last parameter with a key. -/
def lastValue? (params : List (String × String)) (key : String) : Option String :=
  ((params.filter fun param => param.1 = key).getLast?).map Prod.snd

/-- How many documents a request asks to be left out: what its last parameter about it says, and else none. -/
inductive AsksStart (params : List (String × String)) : Nat → Prop where
  | given {value : String} {n : Nat} (last : lastValue? params "c:start" = some value) (count : CountText value n) :
    AsksStart params n
  | unset (last : lastValue? params "c:start" = none) : AsksStart params 0

/-- How many documents a request asks for at most: what its last parameter about it says, but not more than the largest page,
and else the size of the usual one. -/
inductive AsksLimit (params : List (String × String)) : Nat → Prop where
  | given {value : String} {n : Nat} (last : lastValue? params "c:limit" = some value) (count : CountText value n) :
    AsksLimit params (min n 10000)
  | unset (last : lastValue? params "c:limit" = none) : AsksLimit params 100

/-- Whether a request asks for the time: what its last parameter about it says, and else not. -/
inductive AsksTiming (params : List (String × String)) : Bool → Prop where
  | given {value : String} {flag : Bool} (last : lastValue? params "c:timing" = some value) (text : FlagText value flag) :
    AsksTiming params flag
  | unset (last : lastValue? params "c:timing" = none) : AsksTiming params false

/-- When every value is read, the last of those that are read is that of the last value. -/
theorem getLast?_filterMap {α β : Type} {f : α → Option β} {xs : List α} (h : ∀ x ∈ xs, f x ≠ none) :
    (xs.filterMap f).getLast? = xs.getLast?.bind f := by
  induction xs using List.reverseRecOn with
  | nil => rfl
  | append_singleton xs x ih =>
    obtain ⟨y, hy⟩ := Option.ne_none_iff_exists'.1 (h x (by simp))
    simp [hy]

/-- The last value of a control parameter is that of the last parameter with its key. -/
theorem getLast?_valuesOf {key : String} (name : String) (hkey : key = "c:" ++ name) (params : List (String × String)) :
    (Control.valuesOf params name).getLast? = lastValue? params key := by
  have hsame : (fun param : String × String => Control.name? param.1 == some name) = fun param => decide (param.1 = key) := by
    funext param
    rw [Bool.eq_iff_iff, beq_iff_eq, decide_eq_true_iff, Control.name?_eq_some_iff, hkey]
  rw [Control.valuesOf, hsame, List.getLast?_map, lastValue?]

/-- A size is cut to the largest page. -/
theorem toNat_min_maxLimit (n : UInt64) : (min n Control.maxLimit).toNat = min n.toNat 10000 := by
  have hcut : min n Control.maxLimit = if n ≤ Control.maxLimit then n else Control.maxLimit := rfl
  have hlargest : Control.maxLimit.toNat = 10000 := rfl
  rw [hcut]
  split
  · rename_i hle
    rw [UInt64.le_iff_toNat_le] at hle
    omega
  · rename_i hle
    rw [UInt64.le_iff_toNat_le] at hle
    omega

section Read

variable {params : List (String × String)} {control : Control}

/-- The last value of a control parameter that is read is valid. -/
theorem isValid_of_lastValue (h : Control.read params = .ok control) {key value : String} (name : String)
    (hkey : key = "c:" ++ name) (hlast : lastValue? params key = some value) : Control.isValid name value = true := by
  rw [← getLast?_valuesOf name hkey] at hlast
  exact Control.isValid_of_mem_valuesOf (Control.read_eq_ok_iff.1 h).1 (List.mem_of_getLast? hlast)

/-- What is read as one value is what the last value says. -/
theorem getLastD_of_read (h : Control.read params = .ok control) {β : Type} {f : String → Option β} {key : String}
    (name : String) (hkey : key = "c:" ++ name) (hread : ∀ value, Control.isValid name value = true → f value ≠ none)
    (fallback : β) :
    ((Control.valuesOf params name).filterMap f).getLastD fallback = ((lastValue? params key).bind f).getD fallback := by
  rw [List.getLastD_eq_getLast?, getLast?_filterMap fun value hvalue => hread value (Control.isValid_of_mem_valuesOf (Control.read_eq_ok_iff.1 h).1 hvalue),
    getLast?_valuesOf name hkey]

theorem asksStart_of_read (h : Control.read params = .ok control) : AsksStart params control.start.toNat := by
  have hstart : control.start = ((lastValue? params "c:start").bind Control.readCount?).getD 0 := by
    obtain ⟨-, rfl⟩ := Control.read_eq_ok_iff.1 h
    exact getLastD_of_read h "start" rfl (fun value hvalid => Option.isSome_iff_ne_none.1 hvalid) 0
  rw [hstart]
  cases hlast : lastValue? params "c:start" with
  | none => exact .unset hlast
  | some value =>
    obtain ⟨n, hn⟩ := Option.isSome_iff_exists.1 (isValid_of_lastValue h "start" rfl hlast)
    rw [Option.bind_some, hn]
    exact .given hlast (readCount?_eq_some_iff.1 hn)

theorem asksLimit_of_read (h : Control.read params = .ok control) : AsksLimit params control.limit.toNat := by
  have hlimit : control.limit = ((lastValue? params "c:limit").bind Control.readLimit?).getD 100 := by
    obtain ⟨-, rfl⟩ := Control.read_eq_ok_iff.1 h
    exact getLastD_of_read h "limit" rfl (fun value hvalid => Option.isSome_iff_ne_none.1 hvalid) 100
  rw [hlimit]
  cases hlast : lastValue? params "c:limit" with
  | none => exact .unset hlast
  | some value =>
    obtain ⟨size, hsize⟩ := Option.isSome_iff_exists.1 (isValid_of_lastValue h "limit" rfl hlast)
    obtain ⟨n, hn, hpage⟩ := Option.bind_eq_some_iff.1 hsize
    split at hpage
    · nomatch hpage
    rw [Option.bind_some, hsize, Option.getD_some, ← Option.some.inj hpage, toNat_min_maxLimit]
    exact .given hlast (readCount?_eq_some_iff.1 hn)

theorem asksTiming_of_read (h : Control.read params = .ok control) : AsksTiming params control.timing := by
  have htiming : control.timing = ((lastValue? params "c:timing").bind Control.readFlag?).getD false := by
    obtain ⟨-, rfl⟩ := Control.read_eq_ok_iff.1 h
    exact getLastD_of_read h "timing" rfl (fun value hvalid => Option.isSome_iff_ne_none.1 hvalid) false
  rw [htiming]
  cases hlast : lastValue? params "c:timing" with
  | none => exact .unset hlast
  | some value =>
    obtain ⟨flag, hflag⟩ := Option.isSome_iff_exists.1 (isValid_of_lastValue h "timing" rfl hlast)
    rw [Option.bind_some, hflag]
    exact .given hlast (readFlag?_eq_some_iff.1 hflag)

end Read

end SheetQuery.Query
