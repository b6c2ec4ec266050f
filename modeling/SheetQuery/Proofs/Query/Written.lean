import SheetQuery.Proofs.Query.Coverage
import SheetQuery.Proofs.Text.Split

/-!
# Filters written out

The comparisons that can be read from the value of a filter are those that can be written, and each is written in one way. So
writing comparisons with commas between them and reading them again gives the same comparisons, whatever else stands between
the commas that says nothing (`tokens_written`).
-/

namespace SheetQuery.Query

/-! ## Operands -/

/-- Whether a text is an operand of a comparison when no comma is in the way. -/
structure Operator.Takes (operator : Operator) (operand : List Char) : Prop where
  nonempty : operand ≠ []
  /-- An operand of an equality that began with a sigil would be read as another comparison. -/
  plain : operator = .eq → ∀ c, operand.head? = some c → Operator.ofSigil? c = none
  /-- The anchor belongs to the pattern, and is no pattern by itself. -/
  anchored : operator = .regexAnchored → ∃ pattern, pattern ≠ [] ∧ operand = '^' :: pattern

/-- Whether a comparison can be written in a filter. -/
structure Token.Writable (token : Token) : Prop where
  takes : token.operator.Takes token.operand.toList
  unseparated : ',' ∉ token.operand.toList

/-- The text of a comparison. -/
def Token.text (token : Token) : List Char :=
  writePiece (token.operator, token.operand.toList)

/-- Whether a piece says nothing: it is empty, or a sigil and nothing else. -/
def IsSilent (piece : List Char) : Prop :=
  piece = [] ∨ ∃ c, piece = [c] ∧ (Operator.ofSigil? c).isSome = true

/-- Whether pieces are comparisons of a field in their order, each written out, and between them what says nothing. -/
inductive WrittenAs (field : String) : List Token → List (List Char) → Prop
  | nil : WrittenAs field [] []
  | comparison {token : Token} {tokens : List Token} {pieces : List (List Char)} (ofField : token.field = field)
    (writable : token.Writable) (rest : WrittenAs field tokens pieces) :
    WrittenAs field (token :: tokens) (token.text :: pieces)
  | silence {piece : List Char} {tokens : List Token} {pieces : List (List Char)} (silent : IsSilent piece)
    (rest : WrittenAs field tokens pieces) : WrittenAs field tokens (piece :: pieces)

/-! ## One piece -/

/-- A character selects the comparison before which it is written, and the anchor selects the anchored pattern. -/
theorem ofSigil?_eq_some_iff {c : Char} {operator : Operator} :
    Operator.ofSigil? c = some operator ↔ operator.sigil = [c] ∨ operator = .regexAnchored ∧ c = '^' := by
  cases operator <;> grind [Operator.ofSigil?, Operator.sigil]

/-- A piece that is read as a comparison is that comparison written out. -/
theorem written_of_readPiece {piece : List Char} {operator : Operator} {operand : List Char}
    (h : readPiece piece = some (operator, operand)) :
    operator.Takes operand ∧ piece = writePiece (operator, operand) := by
  cases piece with
  | nil => cases h
  | cons c rest =>
    rw [readPiece] at h
    cases hsigil : Operator.ofSigil? c with
    | none =>
      rw [hsigil] at h
      obtain ⟨rfl, rfl⟩ := Prod.mk.inj (Option.some.inj h)
      refine ⟨⟨List.cons_ne_nil _ _, fun _ first hfirst => ?_, fun heq => absurd heq (by decide)⟩, rfl⟩
      rwa [← Option.some.inj hfirst]
    | some selected =>
      rw [hsigil] at h
      dsimp only at h
      split at h
      · cases h
      · rename_i hrest
        rw [List.isEmpty_iff] at hrest
        split at h
        · rename_i hanchored
          obtain ⟨rfl, rfl⟩ := Prod.mk.inj (Option.some.inj h)
          subst hanchored
          obtain hother | ⟨-, rfl⟩ := ofSigil?_eq_some_iff.1 hsigil
          · cases hother
          · exact ⟨⟨List.cons_ne_nil _ _, fun heq => absurd heq (by decide), fun _ => ⟨rest, hrest, rfl⟩⟩, rfl⟩
        · rename_i hanchored
          obtain ⟨rfl, rfl⟩ := Prod.mk.inj (Option.some.inj h)
          have hwritten := (ofSigil?_eq_some_iff.1 hsigil).resolve_right fun hother => hanchored hother.1
          refine ⟨⟨hrest, fun heq => ?_, fun heq => absurd heq hanchored⟩, ?_⟩
          · subst heq
            cases hwritten
          · rw [writePiece, hwritten]
            rfl

/-- A comparison that is written out is read as it is. -/
theorem readPiece_writePiece {operator : Operator} {operand : List Char} (takes : operator.Takes operand) :
    readPiece (writePiece (operator, operand)) = some (operator, operand) := by
  have hselected : ∀ c, operator.sigil = [c] → readPiece (writePiece (operator, operand)) = some (operator, operand) := by
    intro c hc
    have hother : operator ≠ .regexAnchored := fun heq => by rw [heq] at hc; cases hc
    rw [writePiece, hc]
    simp [readPiece, ofSigil?_eq_some_iff.2 (.inl hc), takes.nonempty, hother]
  cases operator with
  | eq =>
    obtain ⟨c, rest, rfl⟩ := List.exists_cons_of_ne_nil takes.nonempty
    simp [writePiece, Operator.sigil, readPiece, takes.plain rfl c rfl]
  | regexAnchored =>
    obtain ⟨pattern, hpattern, rfl⟩ := takes.anchored rfl
    simp [writePiece, Operator.sigil, readPiece, Operator.ofSigil?, hpattern]
  | ne | lt | lte | gt | gte | regexContains => exact hselected _ rfl

/-- A comparison has its sigil and its operand, and nothing that separates it from others. -/
theorem comma_not_mem_text {token : Token} (h : token.Writable) : ',' ∉ token.text := by
  have hsigil : ',' ∉ token.operator.sigil := by cases token.operator <;> decide
  rw [Token.text, writePiece, List.mem_append, not_or]
  exact ⟨hsigil, h.unseparated⟩

/-- What says nothing separates nothing. -/
theorem comma_not_mem_of_isSilent {piece : List Char} (h : IsSilent piece) : ',' ∉ piece := by
  rcases h with rfl | ⟨c, rfl, hsigil⟩
  · exact List.not_mem_nil
  · intro hmem
    rw [← List.mem_singleton.1 hmem] at hsigil
    nomatch hsigil

/-! ## Values -/

/-- The comparisons that pieces make. -/
def tokensOf (field : String) (pieces : List (List Char)) : List Token :=
  (pieces.filterMap readPiece).map fun (operator, operand) => ⟨field, operator, String.ofList operand⟩

theorem tokens_eq (field value : String) : tokens field value = tokensOf field (Text.splitOn ',' value.toList) :=
  rfl

theorem tokensOf_cons_of_none {piece : List Char} (h : readPiece piece = none) (field : String) (pieces : List (List Char)) :
    tokensOf field (piece :: pieces) = tokensOf field pieces := by
  rw [tokensOf, List.filterMap_cons_none h, tokensOf]

theorem tokensOf_cons_of_some {piece operand : List Char} {operator : Operator}
    (h : readPiece piece = some (operator, operand)) (field : String) (pieces : List (List Char)) :
    tokensOf field (piece :: pieces) = ⟨field, operator, String.ofList operand⟩ :: tokensOf field pieces := by
  rw [tokensOf, List.filterMap_cons_some h, List.map_cons, tokensOf]

/-- Pieces without commas are comparisons written out, among pieces that say nothing. -/
theorem writtenAs_tokensOf (field : String) {pieces : List (List Char)} (h : ∀ piece ∈ pieces, ',' ∉ piece) :
    WrittenAs field (tokensOf field pieces) pieces := by
  induction pieces with
  | nil => exact .nil
  | cons piece pieces ih =>
    obtain ⟨hpiece, hpieces⟩ := List.forall_mem_cons.1 h
    have rest := ih hpieces
    cases hread : readPiece piece with
    | none =>
      rw [tokensOf_cons_of_none hread]
      exact .silence (readPiece_eq_none_iff.1 hread) rest
    | some comparison =>
      obtain ⟨operator, operand⟩ := comparison
      obtain ⟨takes, rfl⟩ := written_of_readPiece hread
      have htext : Token.text ⟨field, operator, String.ofList operand⟩ = writePiece (operator, operand) := by
        rw [Token.text, String.toList_ofList]
      rw [tokensOf_cons_of_some hread, ← htext]
      refine .comparison rfl ⟨by rwa [String.toList_ofList], ?_⟩ rest
      rw [String.toList_ofList]
      exact fun hmem => hpiece (List.mem_append_right _ hmem)

variable {field : String} {written : List Token} {pieces : List (List Char)}

/-- Comparisons that are written out are the comparisons that the pieces make. -/
theorem WrittenAs.tokensOf_eq (h : WrittenAs field written pieces) : tokensOf field pieces = written := by
  induction h with
  | nil => rfl
  | @comparison token _ _ ofField writable _ ih =>
    have hread : readPiece token.text = some (token.operator, token.operand.toList) :=
      readPiece_writePiece writable.takes
    rw [tokensOf_cons_of_some hread, ih, String.ofList_toList, ← ofField]
  | silence silent _ ih => rw [tokensOf_cons_of_none (readPiece_eq_none_iff.2 silent), ih]

/-- Every comparison that is written out is one of the field, and can be written. -/
theorem WrittenAs.writable (h : WrittenAs field written pieces) : ∀ token ∈ written, token.field = field ∧ token.Writable := by
  induction h with
  | nil => exact fun token htoken => nomatch htoken
  | comparison ofField writable _ ih => exact List.forall_mem_cons.2 ⟨⟨ofField, writable⟩, ih⟩
  | silence _ _ ih => exact ih

/-- No piece has a comma. -/
theorem WrittenAs.comma_not_mem (h : WrittenAs field written pieces) : ∀ piece ∈ pieces, ',' ∉ piece := by
  induction h with
  | nil => exact fun piece hpiece => nomatch hpiece
  | comparison _ writable _ ih => exact List.forall_mem_cons.2 ⟨comma_not_mem_text writable, ih⟩
  | silence silent _ ih => exact List.forall_mem_cons.2 ⟨comma_not_mem_of_isSilent silent, ih⟩

/-- Pieces that are joined by commas are read one by one. -/
theorem WrittenAs.tokens_joinWith (h : WrittenAs field written pieces) :
    tokens field (String.ofList (Text.joinWith ',' pieces)) = written := by
  rw [tokens_eq, String.toList_ofList]
  cases pieces with
  | nil => exact h.tokensOf_eq
  | cons piece pieces => rw [Text.splitOn_joinWith (List.cons_ne_nil _ _) h.comma_not_mem, h.tokensOf_eq]

/-- Comparisons that can be written are written one after the other. -/
theorem writtenAs_map_text (h : ∀ token ∈ written, token.field = field ∧ token.Writable) :
    WrittenAs field written (written.map Token.text) := by
  induction written with
  | nil => exact .nil
  | cons token written ih =>
    obtain ⟨htoken, hwritten⟩ := List.forall_mem_cons.1 h
    exact .comparison htoken.1 htoken.2 (ih hwritten)

/-- Only comparisons that can be written are read from a value. Written out with commas between them, in any order and among
pieces that say nothing, they are read again as they are; so a value says the same as its comparisons written out. -/
theorem tokens_written (field : String) :
    (∀ value, ∀ token ∈ tokens field value, token.field = field ∧ token.Writable) ∧
      (∀ written pieces, WrittenAs field written pieces →
        tokens field (String.ofList (Text.joinWith ',' pieces)) = written) ∧
      ∀ value, tokens field (String.ofList (Text.joinWith ',' ((tokens field value).map Token.text))) =
        tokens field value := by
  have hwritten : ∀ value, WrittenAs field (tokens field value) (Text.splitOn ',' value.toList) := fun value =>
    writtenAs_tokensOf field fun piece hpiece => (Text.not_mem_of_mem_splitOn hpiece).1
  refine ⟨fun value => (hwritten value).writable, fun written pieces h => h.tokens_joinWith, fun value => ?_⟩
  exact (writtenAs_map_text (hwritten value).writable).tokens_joinWith

/-- An operand that begins with a sigil, and an anchored pattern, among two sigils and an empty piece. -/
theorem tokens_written_name :
    let written : List Token := [⟨"name", .ne, "!O"⟩, ⟨"name", .regexAnchored, "^O"⟩]
    WrittenAs "name" written ["!!O".toList, ['>'], [], "^O".toList, ['^']] ∧ tokens "name" "!!O,>,,^O,^" = written := by
  intro written
  have hfirst : Token.Writable ⟨"name", .ne, "!O"⟩ :=
    ⟨⟨by decide, fun heq => (nomatch heq), fun heq => (nomatch heq)⟩, by decide⟩
  have hsecond : Token.Writable ⟨"name", .regexAnchored, "^O"⟩ :=
    ⟨⟨by decide, fun heq => (nomatch heq), fun _ => ⟨['O'], by decide, by decide⟩⟩, by decide⟩
  have h : WrittenAs "name" written ["!!O".toList, ['>'], [], "^O".toList, ['^']] :=
    .comparison rfl hfirst (.silence (.inr ⟨'>', rfl, rfl⟩) (.silence (.inl rfl) (.comparison rfl hsecond
      (.silence (.inr ⟨'^', rfl, rfl⟩) .nil))))
  have htext : "!!O,>,,^O,^" =
      String.ofList (Text.joinWith ',' ["!!O".toList, ['>'], [], "^O".toList, ['^']]) := by decide +kernel
  rw [htext]
  exact ⟨h, (tokens_written "name").2.1 _ _ h⟩

end SheetQuery.Query
