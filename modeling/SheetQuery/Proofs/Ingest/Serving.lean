import SheetQuery.Proofs.Ingest.Refresh
import SheetQuery.Proofs.Query.Compile
import SheetQuery.Proofs.Query.Operand
import SheetQuery.Proofs.Query.Written
import SheetQuery.Proofs.Sorting
import SheetQuery.Proofs.Store.Paging

/-!
# Answers from what was ingested

Builders that are not called off, and whose documents are all taken, leave in the store what each of them makes of the data. A
request is read into comparisons with the integers that it names, and those hold of the documents of the records that they
hold of. So a request for a range of factions is answered with the documents of the records in that range, in the order in
which they were built (`factions_served`).
-/

namespace SheetQuery.Ingest

open Decimal Query Sheet

variable {σ : Type}

/-! ## Building -/

/-- Nothing is in the way of work while a property of the world holds: it is not called off, every collection is taken, and
neither changes that. -/
structure World.Unhindered (world : World σ) (p : σ → Prop) : Prop where
  untriggered : ∀ w, p w → (world.isTriggered w).1 = false
  isTriggered : Keeps p world.isTriggered
  taken : ∀ name documents w, p w → (world.replace name documents w).1 = .ok ()
  replace : ∀ name documents, Keeps p (world.replace name documents)

/-- What builders make of data: the collections that can be built, with their documents. -/
def made (data : ClientData) (builders : List Builder) : List (String × List Json) :=
  builders.filterMap fun builder => (builder.build data).toOption.map fun documents => (builder.collection, documents)

theorem made_cons_ok {data : ClientData} {builder : Builder} {documents : List Json}
    (build : builder.build data = .ok documents) (builders : List Builder) :
    made data (builder :: builders) = (builder.collection, documents) :: made data builders := by
  rw [made, made, List.filterMap_cons, build]
  rfl

theorem made_cons_error {data : ClientData} {builder : Builder} {error : IngestError}
    (build : builder.build data = .error error) (builders : List Builder) :
    made data (builder :: builders) = made data builders := by
  rw [made, made, List.filterMap_cons, build]
  rfl

/-- What is made of data is made by one of the builders. -/
theorem exists_builder_of_mem_made {data : ClientData} {builders : List Builder} {entry : String × List Json}
    (h : entry ∈ made data builders) : ∃ builder ∈ builders, builder.collection = entry.1 := by
  obtain ⟨builder, hbuilder, hmade⟩ := List.mem_filterMap.1 h
  obtain ⟨_, -, rfl⟩ := Option.map_eq_some_iff.1 hmade
  exact ⟨builder, hbuilder, rfl⟩

/-- Builders that nothing is in the way of have all run, and all that they make was taken. -/
theorem Built.unhindered {world : World σ} {p : σ → Prop} (h : world.Unhindered p) {data : ClientData}
    {builders : List Builder} {s s' : State σ} {put : List (String × List Json)} {result : Except IngestError BuildReport}
    (built : Built world data builders s put result s') (hs : p s.world) :
    put = made data builders ∧ ∃ report, result = .ok report := by
  have hlook {w w' : σ} {triggered : Bool} (look : world.isTriggered w = (triggered, w')) (hw : p w) :
      triggered = false ∧ p w' := by
    have huntriggered := h.untriggered w hw
    have hkept := h.isTriggered w hw
    rw [look] at huntriggered hkept
    exact ⟨huntriggered, hkept⟩
  induction built with
  | finished => exact ⟨rfl, _, rfl⟩
  | calledOff look => nomatch (hlook look hs).1
  | @taken builder _ _ _ _ _ documents _ _ look build replace rest ih =>
    have hkept := h.replace builder.collection documents _ (hlook look hs).2
    rw [replace] at hkept
    obtain ⟨rfl, report, rfl⟩ := ih hkept
    exact ⟨(made_cons_ok build _).symm, _, rfl⟩
  | unbuilt look build rest ih =>
    obtain ⟨rfl, report, rfl⟩ := ih (hlook look hs).2
    exact ⟨(made_cons_error build _).symm, _, rfl⟩
  | @refused builder _ _ _ _ _ documents _ _ _ look build replace rest ih =>
    have htaken := h.taken builder.collection documents _ (hlook look hs).2
    rw [replace] at htaken
    nomatch htaken

/-- Of builders of different collections each puts its documents in the place of its own. -/
theorem replaced_made {builders : List Builder} (hnodup : (builders.map (·.collection)).Nodup) {data : ClientData}
    {builder : Builder} (hbuilder : builder ∈ builders) {documents : List Json} (build : builder.build data = .ok documents)
    (collections : String → Option (List Json)) :
    replaced collections (made data builders) builder.collection = some documents := by
  induction builders generalizing collections with
  | nil => nomatch hbuilder
  | cons first builders ih =>
    rw [List.map_cons, List.nodup_cons] at hnodup
    rcases List.mem_cons.1 hbuilder with rfl | hbuilder
    · have hothers : ∀ entry ∈ made data builders, entry.1 ≠ builder.collection := by
        intro entry hentry heq
        obtain ⟨other, hother, hcollection⟩ := exists_builder_of_mem_made hentry
        exact hnodup.1 (List.mem_map.2 ⟨other, hother, hcollection.trans heq⟩)
      rw [made_cons_ok build, replaced_cons, replaced_of_notMem hothers, Function.update_self]
    · cases hfirst : first.build data with
      | error error =>
        rw [made_cons_error hfirst]
        exact ih hnodup.2 hbuilder collections
      | ok others =>
        rw [made_cons_ok hfirst, replaced_cons]
        exact ih hnodup.2 hbuilder _

/-- Builders that nothing is in the way of leave in the store what each of them makes. -/
theorem find?_of_runBuilders {world : World σ} {store : σ → Store} (sound : world.Sound fun w => (store w).find?)
    {p : σ → Prop} (unhindered : world.Unhindered p) {s : State σ} (hs : p s.world) (data : ClientData)
    {builders : List Builder} (hnodup : (builders.map (·.collection)).Nodup) :
    ∃ report s', (runBuilders world data builders).run s = (.ok report, s') ∧
      ∀ builder ∈ builders, ∀ documents, builder.build data = .ok documents →
        (store s'.world).find? builder.collection = some documents := by
  obtain ⟨put, result, s', hrun, built⟩ := exists_built world data builders s
  obtain ⟨rfl, report, rfl⟩ := built.unhindered unhindered hs
  refine ⟨report, s', hrun, ?_⟩
  intro builder hbuilder documents build
  have hcollections : (store s'.world).find? = replaced (store s.world).find? (made data builders) :=
    built.collections sound
  rw [hcollections]
  exact replaced_made hnodup hbuilder build _

/-! ## Requests for a range -/

/-- The value of a parameter that asks for the integers from one to before another. -/
def rangeText (a b : UInt32) : String :=
  "]" ++ toString a.toNat ++ ",<" ++ toString b.toNat

/-- The comparisons with the numbers of factions from one to before another. -/
def rangeClauses (a b : UInt32) : List Clause :=
  [⟨"faction_id", .gte, .ofUInt32 a⟩, ⟨"faction_id", .lt, .ofUInt32 b⟩]

/-- What those comparisons are to a store: neither is with a pattern. -/
def rangeConditions (a b : UInt32) : List Store.Condition :=
  (rangeClauses a b).map (⟨·, none⟩)

/-- The plan for the factions with the numbers from one to before another. -/
def factionRange (a b : UInt32) : Plan :=
  ⟨"faction", rangeClauses a b, [], ⟨[], []⟩, [], 0, 100, none, false⟩

/-- The digits of a number have no comma. -/
theorem comma_not_mem_toString (n : Nat) : ',' ∉ (toString n).toList := by
  intro h
  have hdigits : (toString n).toList = Nat.toDigits 10 n := Nat.toList_repr
  rw [hdigits] at h
  exact absurd (isDigit_of_mem_toDigits h) (by decide)

theorem toString_ne_nil (n : Nat) : (toString n).toList ≠ [] := by
  have hdigits : (toString n).toList = Nat.toDigits 10 n := Nat.toList_repr
  rw [hdigits]
  exact Nat.toDigits_ne_nil

/-- A comparison with a number by its order can be written. -/
theorem writable_toString {operator : Operator} (hrange : operator.isRange = true) (field : String) (n : UInt32) :
    Token.Writable ⟨field, operator, toString n.toNat⟩ := by
  refine ⟨⟨toString_ne_nil n.toNat, fun heq => ?_, fun heq => ?_⟩, comma_not_mem_toString n.toNat⟩
  · subst heq
    cases hrange
  · subst heq
    cases hrange

/-- A range has two tokens. -/
theorem tokens_rangeText (field : String) (a b : UInt32) :
    tokens field (rangeText a b) = [⟨field, .gte, toString a.toNat⟩, ⟨field, .lt, toString b.toNat⟩] := by
  let gte : Token := ⟨field, .gte, toString a.toNat⟩
  let lt : Token := ⟨field, .lt, toString b.toNat⟩
  have htext : rangeText a b = String.ofList (Text.joinWith ',' [gte.text, lt.text]) := by
    rw [rangeText, ← String.toList_inj]
    simp [gte, lt, Token.text, writePiece, Operator.sigil, Text.joinWith]
  have written : WrittenAs field [gte, lt] [gte.text, lt.text] :=
    .comparison rfl (writable_toString rfl field a) (.comparison rfl (writable_toString rfl field b) .nil)
  rw [htext]
  exact written.tokens_joinWith

/-- The operand of a comparison with a number of a faction becomes that number. -/
theorem clauseOf_factionId {operator : Operator} (hplain : operator.isRegex = false) (n : UInt32) :
    ClauseOf Catalog.faction ⟨"faction_id", operator, toString n.toNat⟩ ⟨"faction_id", operator, .ofUInt32 n⟩ := by
  have hdeclares : Catalog.faction.Declares "faction_id" ⟨"faction_id", .integer⟩ := by
    unfold Collection.Declares
    decide
  have hundotted : '.' ∉ "faction_id".toList := by decide
  have hlt := n.toNat_lt
  have fits : FitsInteger (n.toNat : Int) := ⟨by omega, by omega⟩
  exact ⟨rfl, rfl, _, hdeclares, .whole hplain hundotted (denotes_toString fits)⟩

/-- A request for a range of factions is compiled to comparisons with its bounds. -/
theorem compile_factionRange (a b : UInt32) :
    compile Catalog.builtin "faction" [("faction_id", rangeText a b)] = .ok (factionRange a b) := by
  have hunreserved : Control.isReserved "faction_id" = false := rfl
  have htokens : filterTokens [("faction_id", rangeText a b)] =
      [⟨"faction_id", .gte, toString a.toNat⟩, ⟨"faction_id", .lt, toString b.toNat⟩] := by
    simp [filterTokens, hunreserved, tokens_rangeText]
  have hfilters : typedClauses Catalog.faction (filterTokens [("faction_id", rangeText a b)]) =
      .ok (rangeClauses a b) := by
    rw [htokens, typedClauses_eq_ok_iff]
    exact .cons (clauseOf_factionId rfl a) (.cons (clauseOf_factionId rfl b) .nil)
  have hcollection : Catalog.builtin.require "faction" = .ok Catalog.faction := rfl
  have hcontrol : Control.read [("faction_id", rangeText a b)] = .ok Control.default := rfl
  exact compile_eq hcollection hcontrol rfl hfilters

/-! ## Answers -/

/-- What stands at the number of the document of a faction. -/
theorem lookup_factionDocument (f : Faction) :
    (Builder.factionDocument f).lookup "faction_id" = some (.ofUInt32 f.id) :=
  rfl

/-- The document of a faction has no member that the store would have added. -/
theorem apply_factionDocument (f : Faction) :
    Projection.apply ⟨[], []⟩ (Builder.factionDocument f) = Builder.factionDocument f :=
  rfl

/-- What a condition on the number of a faction is about. -/
theorem holds_factionDocument (operator : Operator) (operand : Json) (f : Faction) :
    Store.Condition.holds ⟨⟨"faction_id", operator, operand⟩, none⟩ (Builder.factionDocument f) =
      Store.Condition.holdsAt ⟨⟨"faction_id", operator, operand⟩, none⟩ (some (.ofUInt32 f.id)) := by
  rw [Store.Condition.holds, ← lookup_factionDocument f]

/-- The comparisons of a range hold of a document when they hold of the number of its faction. -/
theorem accepts_factionRange (a b : UInt32) (f : Faction) :
    Store.accepts [] (rangeConditions a b) (Builder.factionDocument f) = decide (a ≤ f.id ∧ f.id < b) := by
  have hgte : Store.Condition.holdsAt ⟨⟨"faction_id", .gte, .ofUInt32 a⟩, none⟩ (some (.ofUInt32 f.id)) =
      (compare (f.id.toNat : Int) a.toNat).isGE := rfl
  have hlt : Store.Condition.holdsAt ⟨⟨"faction_id", .lt, .ofUInt32 b⟩, none⟩ (some (.ofUInt32 f.id)) =
      (compare (f.id.toNat : Int) b.toNat).isLT := rfl
  rw [Bool.eq_iff_iff]
  simp [Store.accepts, rangeConditions, rangeClauses, holds_factionDocument, hgte, hlt, Int.isGE_compare,
    Int.compare_eq_lt, UInt32.le_iff_toNat_le, UInt32.lt_iff_toNat_lt]

/-- A store with the documents of some factions answers a request for a range with those of the factions in the range, up to
the hundredth. -/
theorem run_factionRange [PatternEngine] {store : Store} {factions : List Faction}
    (hfind : store.find? "faction" = some (factions.map Builder.factionDocument)) (a b : UInt32) :
    store.run (factionRange a b) =
      .ok (((factions.filter fun f => a ≤ f.id ∧ f.id < b).map Builder.factionDocument).take 100) := by
  have hconditions : Store.Condition.ofClauses (factionRange a b).filters = .ok (rangeConditions a b) := rfl
  have haccepts : Store.accepts [] (rangeConditions a b) ∘ Builder.factionDocument =
      fun f => decide (a ≤ f.id ∧ f.id < b) := funext (accepts_factionRange a b)
  have hshown : Projection.apply ⟨[], []⟩ ∘ Builder.factionDocument = Builder.factionDocument :=
    funext apply_factionDocument
  have hselect : Store.select (factionRange a b) (rangeConditions a b) (factions.map Builder.factionDocument) =
      (factions.filter fun f => a ≤ f.id ∧ f.id < b).map Builder.factionDocument := by
    have hunsorted : ∀ documents, SortKey.sort [] documents = documents := stableSort_of_ties fun _ _ => rfl
    rw [Store.select, factionRange, hunsorted, List.filter_map, haccepts, List.map_map, hshown]
  rw [Store.run_eq (factionRange a b) hfind hconditions, hselect]
  rfl

/-- Nothing is in the way of a rehearsal that refuses no collection, until it is called off. -/
theorem unhindered_rehearsal {script : Script} (h : script.refused = []) :
    (Rehearsal.world script).Unhindered (·.stopped = false) where
  untriggered _ hstopped := hstopped
  isTriggered _ hstopped := hstopped
  taken name documents rehearsal _ := by
    simp [Rehearsal.world, Rehearsal.replace, h]
  replace name documents rehearsal hstopped := by
    simpa [Rehearsal.world, Rehearsal.replace, h] using hstopped

/-- What was ingested can be queried. When nothing is in the way of the builders, the store answers a request for the factions
with the numbers from one to before another with the documents of the records in that range, in ascending order, records with
one number in the order of the sheet, up to the hundredth. -/
theorem factions_served [PatternEngine] {world : World σ} {store : σ → Store} (sound : world.Sound fun w => (store w).find?)
    {p : σ → Prop} (unhindered : world.Unhindered p) {s : State σ} (hs : p s.world) {data : ClientData}
    {records : List Faction} (hrecords : data.factions = some records) (a b : UInt32) :
    ∃ report s' plan found,
      (runBuilders world data Builder.all).run s = (.ok report, s') ∧
      compile Catalog.builtin "faction" [("faction_id", "]" ++ toString a.toNat ++ ",<" ++ toString b.toNat)] = .ok plan ∧
      StablySorted (·.id) (records.filter fun f => a ≤ f.id ∧ f.id < b) found ∧
      (store s'.world).run plan = .ok ((found.map Builder.factionDocument).take 100) := by
  have hnodup : (Builder.all.map (·.collection)).Nodup := by decide
  obtain ⟨report, s', hrun, hstored⟩ := find?_of_runBuilders sound unhindered hs data hnodup
  let sorted := stableSort (fun a b : Faction => a.id < b.id) records
  have build : Builder.faction.build data = .ok (sorted.map Builder.factionDocument) := by
    rw [Builder.faction]
    dsimp only
    rw [ClientData.requireFactions, hrecords]
    rfl
  have hfind := hstored Builder.faction (by simp [Builder.all]) _ build
  exact ⟨report, s', factionRange a b, _, hrun, compile_factionRange a b,
    (stablySorted_stableSort _ records).filter _, run_factionRange hfind a b⟩

/-- A faction of which only the number and the tag matter. -/
def tagged (id : UInt32) (tag : String) : Faction :=
  ⟨id, 10, none, none, 0, tag, true⟩

/-- Two factions with the number three are found in the order of the sheet; those on either side of the range are not. -/
theorem factions_served_twins :
    let world := Rehearsal.world ⟨"no such sheet", [], "refused", "12:00", none, none⟩
    let s : State Rehearsal := ⟨.start [] [] .empty, .empty, []⟩
    let data : ClientData :=
      ⟨none, none, some [tagged 9 "NC", tagged 3 "VS", tagged 1 "TR", tagged 3 "NS"], none, none⟩
    world.Sound (·.store.find?) ∧ world.Unhindered (·.stopped = false) ∧ s.world.stopped = false ∧
      ∃ report s' plan, (runBuilders world data Builder.all).run s = (.ok report, s') ∧
        compile Catalog.builtin "faction" [("faction_id", "]3,<9")] = .ok plan ∧
        s'.world.store.run plan = .ok [Builder.factionDocument (tagged 3 "VS"), Builder.factionDocument (tagged 3 "NS")] := by
  intro world s data
  have sound : world.Sound (·.store.find?) := sound_rehearsal _
  have unhindered : world.Unhindered (·.stopped = false) := unhindered_rehearsal rfl
  have hrecords : data.factions = some [tagged 9 "NC", tagged 3 "VS", tagged 1 "TR", tagged 3 "NS"] := rfl
  refine ⟨sound, unhindered, rfl, ?_⟩
  obtain ⟨report, s', plan, found, hrun, hplan, hsorted, hanswer⟩ :=
    factions_served sound unhindered (s := s) rfl hrecords 3 9
  have hrange : ([tagged 9 "NC", tagged 3 "VS", tagged 1 "TR", tagged 3 "NS"].filter fun f => 3 ≤ f.id ∧ f.id < 9) =
      [tagged 3 "VS", tagged 3 "NS"] := by decide
  rw [hrange] at hsorted
  -- All that is found has the number three, so its order is the order of the sheet.
  have hthree : ∀ f ∈ [tagged 3 "VS", tagged 3 "NS"], f.id = 3 := by decide
  have hfound : found = [tagged 3 "VS", tagged 3 "NS"] := by
    calc found = found.filter fun f => f.id = 3 :=
          (List.filter_eq_self.2 fun f hf => decide_eq_true (hthree f (hsorted.perm.mem_iff.1 hf))).symm
      _ = [tagged 3 "VS", tagged 3 "NS"].filter fun f => f.id = 3 := hsorted.stable 3
      _ = [tagged 3 "VS", tagged 3 "NS"] := by decide
  exact ⟨report, s', plan, hrun, hplan, by rw [hanswer, hfound]; rfl⟩

end SheetQuery.Ingest
