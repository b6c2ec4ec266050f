import SheetQuery.Proofs.Query.Showing
import SheetQuery.Proofs.Store.Trimming

/-!
# The member of the store in answers

A store adds a member of its own to every document, which no one asked for. It is taken out of the documents of a page when
they are projected, and out of the links that are attached to them. The documents that a link leads to are attached as they
are stored, so an answer has the member exactly where one of these has it (`storeIdField_of_run`).
-/

namespace SheetQuery

open Query

namespace Json

/-! ## Members of changed documents -/

/-- The items of the array under a key, none if there is no array. -/
def itemsAt (key : String) (document : Json) : List Json :=
  match document.get? key with
  | some (.arr items) => items
  | _ => []

theorem get?_dropMember_self {document : Json} (h : Distinct document) (key : String) :
    (document.dropMember key).get? key = none := by
  rw [← lookupKeys_singleton]
  exact lookupKeys_removeKeys_self h

theorem get?_setMember_of_ne {key other : String} (hne : key ≠ other) (document value : Json) :
    (document.setMember key value).get? other = document.get? other := by
  cases document with
  | obj members =>
    rw [setMember, get?, get?, Members.get?_insert, if_neg hne]
  | _ => rfl

theorem itemsAt_setMember {document : Json} (hobj : document.isObj = true) (key : String) (items : List Json) :
    (document.setMember key (.arr items)).itemsAt key = items := by
  obtain ⟨members, rfl⟩ := exists_of_isObj hobj
  rw [itemsAt, setMember, get?, Members.get?_insert, if_pos rfl]

/-- In what is no object there are no items, though an array has been set there. -/
theorem itemsAt_setMember_eq_nil {document : Json} (hobj : document.isObj = false) (key other : String) (value : Json) :
    (document.setMember key value).itemsAt other = [] := by
  cases document with
  | obj members => nomatch hobj
  | _ => rfl

end Json

namespace Query

open Json

/-- A projected document does not have the member of the store. -/
theorem Projection.get?_storeIdField_apply {document : Json} (h : Distinct document) (projection : Projection) :
    (projection.apply document).get? storeIdField = none := by
  rw [← lookupKeys_singleton]
  exact lookupKeys_apply_eq_none ⟨storeIdField, List.mem_cons_self, by decide⟩ h

namespace Enrichment

/-- Whether a stored document has the key of a link, so that the link leads to it. -/
def leadsTo (enrichment : Enrichment) (link group : Json) : Bool :=
  sameKey (group.get? enrichment.foreignField) (enrichment.keyOf link)

/-- What is found among the attachments of a document has been attached to it. -/
theorem exists_link_of_mem {enrichment : Enrichment} {links nested : List Json} {document link : Json}
    (h : link ∈ (enrichment.apply links nested document).itemsAt enrichment.output) :
    ∃ stored ∈ links, enrichment.isLink (enrichment.keyOf document) stored = true ∧
      link = enrichment.attachedLink nested stored := by
  rw [Enrichment.apply] at h
  cases hobj : document.isObj with
  | false =>
    rw [itemsAt_setMember_eq_nil hobj] at h
    nomatch h
  | true =>
    rw [itemsAt_setMember hobj] at h
    obtain ⟨stored, hstored, rfl⟩ := List.mem_map.1 h
    obtain ⟨hmem, hlink⟩ := List.mem_filter.1 hstored
    exact ⟨stored, hmem, hlink, rfl⟩

/-- What has an index is an object. -/
theorem isObj_of_isLink {key link : Json} (h : fireGroup.isLink key link = true) : link.isObj = true := by
  have hmissing : sameKey none fireGroup.indexJson = false := by decide
  rw [isLink, Bool.and_eq_true] at h
  cases link with
  | obj members => rfl
  | _ => nomatch hmissing.symm.trans h.2

/-- A link that is attached does not have the member of the store, and has the documents that it leads to as they are
stored. -/
theorem attachedLink_bare {link : Json} (h : Distinct link) (hobj : link.isObj = true) (nested : List Json) :
    (fireGroup.attachedLink nested link).get? storeIdField = none ∧
      (fireGroup.attachedLink nested link).itemsAt fireGroup.nestedOutput =
        nested.filter (fireGroup.leadsTo (fireGroup.attachedLink nested link)) := by
  have hdropped : (link.dropMember storeIdField).isObj = true := by
    obtain ⟨members, rfl⟩ := exists_of_isObj hobj
    rfl
  have hkey : fireGroup.keyOf (fireGroup.attachedLink nested link) = fireGroup.keyOf (link.dropMember storeIdField) := by
    rw [keyOf, attachedLink, get?_setMember_of_ne (by decide)]
    rfl
  constructor
  · rw [attachedLink, get?_setMember_of_ne (by decide)]
    exact get?_dropMember_self h storeIdField
  · have hleads : fireGroup.leadsTo (fireGroup.attachedLink nested link) =
        fireGroup.leadsTo (link.dropMember storeIdField) := by
      funext group
      rw [leadsTo, leadsTo, hkey]
    rw [hleads, attachedLink, itemsAt_setMember hdropped]
    rfl

end Enrichment

end Query

namespace Store

variable {store : Store} {plan : Plan}

/-- Every document of an answer is a stored document as the plan shows it, with what is attached to it. -/
theorem exists_stored_of_run [PatternEngine] {documents : List Json} (h : store.run plan = .ok documents) {document : Json}
    (hdocument : document ∈ documents) :
    ∃ stored ∈ store.documents plan.collection,
      (plan.enrichment = none ∧ document = plan.projection.apply stored) ∨
        ∃ enrichment, plan.enrichment = some enrichment ∧
          document = enrichment.apply (store.documents enrichment.source) (store.documents enrichment.nestedSource)
            (plan.projection.apply stored) := by
  obtain ⟨collection, conditions, hfind, -, rfl⟩ := exists_eq_of_run h
  have hstored : ∀ shown ∈ page plan (select plan conditions collection),
      ∃ stored ∈ store.documents plan.collection, plan.projection.apply stored = shown := by
    intro shown hshown
    obtain ⟨stored, hmem, rfl⟩ := List.mem_map.1 ((stableSort_perm _ _).mem_iff.1 (mem_of_mem_page hshown))
    rw [Store.documents, hfind]
    exact ⟨stored, (List.mem_filter.1 hmem).1, rfl⟩
  rw [attach] at hdocument
  cases henrichment : plan.enrichment with
  | none =>
    rw [henrichment] at hdocument
    obtain ⟨stored, hmem, rfl⟩ := hstored document hdocument
    exact ⟨stored, hmem, .inl ⟨rfl, rfl⟩⟩
  | some enrichment =>
    rw [henrichment] at hdocument
    obtain ⟨shown, hshown, rfl⟩ := List.mem_map.1 hdocument
    obtain ⟨stored, hmem, rfl⟩ := hstored shown hshown
    exact ⟨stored, hmem, .inr ⟨enrichment, rfl, rfl⟩⟩

/-- No document of an answer has the member of the store, and no link that is attached to one. The documents that a link leads
to are those that are stored with its key, as they are stored: none of them has the member exactly if it is stored with none
of them. -/
theorem storeIdField_of_run [PatternEngine] {catalog : Catalog} {name : String} {params : List (String × String)}
    (h : compile catalog name params = .ok plan) (hstore : store.Distinct) {documents : List Json}
    (hrun : store.run plan = .ok documents) :
    ∀ document ∈ documents, document.get? storeIdField = none ∧
      ∀ enrichment, plan.enrichment = some enrichment → ∀ link ∈ document.itemsAt enrichment.output,
        link.get? storeIdField = none ∧
        link.itemsAt enrichment.nestedOutput =
          (store.documents enrichment.nestedSource).filter (enrichment.leadsTo link) ∧
        ((∀ group ∈ link.itemsAt enrichment.nestedOutput, group.get? storeIdField = none) ↔
          ∀ group ∈ store.documents enrichment.nestedSource, enrichment.leadsTo link group = true →
            group.get? storeIdField = none) := by
  intro document hdocument
  obtain ⟨stored, hstored, ⟨hnone, rfl⟩ | ⟨enrichment, hsome, rfl⟩⟩ := exists_stored_of_run hrun hdocument
  · refine ⟨Projection.get?_storeIdField_apply (hstore.of_documents _ stored hstored) _, fun enrichment hsome => ?_⟩
    nomatch hnone.symm.trans hsome
  · obtain rfl := enrichment_of_compile h hsome
    constructor
    · rw [Enrichment.apply, Json.get?_setMember_of_ne (by decide)]
      exact Projection.get?_storeIdField_apply (hstore.of_documents _ stored hstored) _
    · intro enrichment hsome' link hlink
      obtain rfl := enrichment_of_compile h hsome'
      obtain ⟨kept, hkept, hislink, rfl⟩ := Enrichment.exists_link_of_mem hlink
      obtain ⟨hid, hgroups⟩ := Enrichment.attachedLink_bare (hstore.of_documents _ kept hkept)
        (Enrichment.isObj_of_isLink hislink) (store.documents Enrichment.fireGroup.nestedSource)
      refine ⟨hid, hgroups, ?_⟩
      rw [hgroups]
      simp only [List.mem_filter, and_imp]

/-- A group of fire modes and a link to one of them, each with the member of the store. -/
def identified : Store :=
  (empty.insert "fire_group" [.obj [(storeIdField, .ofNat 1), ("fire_group_id", .ofNat 7)]]).insert
    "fire_group_to_fire_mode"
    [.obj [(storeIdField, .ofNat 2), ("fire_group_id", .ofNat 7), ("fire_mode_id", .ofNat 70),
      ("fire_mode_index", .ofNat 0)]]

theorem distinct_identified : identified.Distinct := by
  have hflat : ∀ entry ∈ identified.collections, ∀ document ∈ entry.2, document.isFlat = true := by decide +kernel
  exact fun entry hentry document hdocument => Json.distinct_of_isFlat (hflat entry hentry document hdocument)

/-- The first page of all groups of fire modes. -/
def fireGroupPlan : Plan :=
  ⟨"fire_group", [], [], .whole, [], 0, 100, some .fireGroup, false⟩

/-- A request for groups of fire modes that says nothing else is compiled to their first page. -/
theorem compile_fireGroupPlan : compile Catalog.builtin "fire_group" [] = .ok fireGroupPlan := by
  have hcollection : (Catalog.builtin.require "fire_group").toOption = some Catalog.fireGroup := by decide
  have hcontrol : (Control.read []).toOption = some Control.default := rfl
  exact compile_unfiltered hcollection hcontrol (by decide) rfl

/-- The link as it is attached to the group. -/
def identifiedLink : Json :=
  Enrichment.fireGroup.attachedLink (identified.documents "fire_group") (.obj [(storeIdField, .ofNat 2),
    ("fire_group_id", .ofNat 7), ("fire_mode_id", .ofNat 70), ("fire_mode_index", .ofNat 0)])

/-- The group with its link. -/
def identifiedGroup : Json :=
  .obj [("fire_group_id", .ofNat 7), (Enrichment.fireGroup.output, .arr [identifiedLink])]

/-- The group has lost the member of the store, and so has its link. -/
theorem storeIdField_of_run_identified :
    identified.run fireGroupPlan = .ok [identifiedGroup] ∧ identifiedGroup.get? storeIdField = none ∧
      identifiedLink ∈ identifiedGroup.itemsAt Enrichment.fireGroup.output ∧
      identifiedLink.get? storeIdField = none := by
  have hrun : identified.run fireGroupPlan = .ok [identifiedGroup] := rfl
  have hlink : identifiedLink ∈ identifiedGroup.itemsAt Enrichment.fireGroup.output := List.mem_cons_self
  obtain ⟨hbare, hlinks⟩ := storeIdField_of_run compile_fireGroupPlan distinct_identified hrun _ List.mem_cons_self
  exact ⟨hrun, hbare, hlink, (hlinks .fireGroup rfl identifiedLink hlink).1⟩

/-- The group that the link leads to has kept it. -/
theorem storeIdField_exposed :
    ∃ plan documents, compile Catalog.builtin "fire_group" [] = .ok plan ∧ identified.run plan = .ok documents ∧
      ∃ document ∈ documents, ∃ link ∈ document.itemsAt Enrichment.fireGroup.output,
        ∃ group ∈ link.itemsAt Enrichment.fireGroup.nestedOutput, group.get? storeIdField = some (.ofNat 1) := by
  have hrun : identified.run fireGroupPlan = .ok [identifiedGroup] := rfl
  have hlink : identifiedLink ∈ identifiedGroup.itemsAt Enrichment.fireGroup.output := List.mem_cons_self
  have hgroup : .obj [(storeIdField, .ofNat 1), ("fire_group_id", .ofNat 7)] ∈
      identifiedLink.itemsAt Enrichment.fireGroup.nestedOutput := List.mem_cons_self
  exact ⟨_, _, compile_fireGroupPlan, hrun, _, List.mem_cons_self, _, hlink, _, hgroup, rfl⟩

end Store

end SheetQuery
