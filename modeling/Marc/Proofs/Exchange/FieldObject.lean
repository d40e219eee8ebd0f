import Marc.Exchange.Record
import Marc.Proofs.Json.Decoding
import Marc.Proofs.Json.RoundTrip

/-!
# Fields as JSON objects

Which record `from_json` makes of a list of field objects. The members of an object stand in any
order and among others with unknown names; each of them may be missing, and a list of subfields or a
direct value may be null. A `Field.Draft` says what the members of one object hold.

* `Field.Draft.decode_of_writtenAs`: an object is decoded by way of the draft that it was written
  from.
* `Field.Draft.ofDraft_eq`: **which drafts make a field, which field they make, and what the others
  fail with.** A bad tag comes before a direct value beside subfields.
* `Record.ofText_fieldObjects`: **a list of field objects makes a record exactly when each of its
  objects makes a field**, and fails with the first that makes none.
-/

namespace Marc

open Json (Problem Slot Stages Complete decodeString_text decodeChar_char decodeList_forall₂
  decodeItems_forall₂ decodeRecord_stages ite_mem_eq_self ite_mem_eq_of_lookup)

/-! ## Parts of a field -/

namespace Subfield

/-- The members hold the part: both of its members, once each. -/
structure HeldBy (part : Subfield) (members : List (String × Json)) : Prop where
  once : ∀ name ∈ ["tag", "content"], (members.map Prod.fst).count name ≤ 1
  code : members.lookup "tag" = some (Json.char part.code)
  value : members.lookup "content" = some (Json.text part.value)

/-- The part as an object with its members, or as the array of the two. -/
inductive WrittenAs (part : Subfield) : Json → Prop where
  | object {members : List (String × Json)} (h : part.HeldBy members) :
      WrittenAs part (Json.record members)
  | array : WrittenAs part (Json.list [Json.char part.code, Json.text part.value])

/-- What is read of the part once the members with these names have come. -/
def draftAfter (part : Subfield) (names : List String) : Draft where
  code := if "tag" ∈ names then some part.code else none
  value := if "content" ∈ names then some part.value else none

variable {ε : Type} {part : Subfield} {members : List (String × Json)}

theorem HeldBy.stages (h : part.HeldBy members) :
    Stages (slots : List (Slot ε Draft)) (members.lookup ·) part.draftAfter where
  isFilled slot hslot names hnames := by
    simp only [slots, List.mem_cons, List.not_mem_nil, or_false] at hslot
    rcases hslot with rfl | rfl <;> simp [draftAfter, hnames]
  fill slot hslot names json hjson := by
    simp only [slots, List.mem_cons, List.not_mem_nil, or_false] at hslot
    rcases hslot with rfl | rfl
    · obtain rfl := Option.some.inj (h.code.symm.trans hjson)
      simp [draftAfter, decodeChar_char, bind, Except.bind, pure, Except.pure]
    · obtain rfl := Option.some.inj (h.value.symm.trans hjson)
      simp [draftAfter, decodeString_text, bind, Except.bind, pure, Except.pure]
  other names name hname := by
    simp only [slots, List.map_cons, List.map_nil, List.mem_cons, List.not_mem_nil, or_false,
      not_or] at hname
    simp [draftAfter, Ne.symm hname.1, Ne.symm hname.2]

theorem HeldBy.draftAfter_names (h : part.HeldBy members) :
    part.draftAfter (members.map Prod.fst) = ⟨some part.code, some part.value⟩ :=
  congrArg₂ Draft.mk (ite_mem_eq_of_lookup (some part.code) h.code)
    (ite_mem_eq_of_lookup (some part.value) h.value)

theorem decode_of_writtenAs {json : Json} (h : part.WrittenAs json) :
    (decode json : Except (Problem ε) Subfield) = .ok part := by
  cases h with
  | array =>
    unfold decode Json.decodeRecord Json.list
    simp only [slots, Json.fillItems, decodeChar_char]
    rfl
  | @object members h =>
    refine (decodeRecord_stages h.stages (fun slot hslot => h.once slot.name ?_) ofDraft).trans ?_
    · simpa [slots] using List.mem_map_of_mem (f := Slot.name) hslot
    · rw [h.draftAfter_names]
      rfl

/-- A list of parts as a member: missing, null, or a list. -/
inductive ListWrittenAs : Option (Option (List Subfield)) → Option Json → Prop where
  | missing : ListWrittenAs none none
  | null : ListWrittenAs (some none) (some .null)
  | list {parts : List Subfield} {items : List Json} (h : List.Forall₂ WrittenAs parts items) :
      ListWrittenAs (some (some parts)) (some (Json.list items))

theorem ListWrittenAs.eq_none {parts? : Option (Option (List Subfield))}
    (h : ListWrittenAs parts? none) : parts? = none := by
  cases h
  rfl

theorem ListWrittenAs.decode_eq (ε : Type) {parts? : Option (Option (List Subfield))} {json : Json}
    (h : ListWrittenAs parts? (some json)) :
    ∃ parts, parts? = some parts ∧
      (Json.decodeOption (Json.decodeList decode) json :
        Except (Problem ε) (Option (List Subfield))) = .ok parts := by
  cases h with
  | null => exact ⟨none, rfl, rfl⟩
  | @list parts items h =>
    refine ⟨some parts, rfl, ?_⟩
    show (Json.decodeList decode (Json.list items)).map some = _
    rw [decodeList_forall₂ (h.imp fun _ _ => decode_of_writtenAs)]
    rfl

end Subfield

/-! ## Objects and drafts -/

namespace Field.Draft

/-- A text that may be null. -/
def nullable (value : Option String) : Json := (value.map Json.text).getD .null

/-- The members hold the draft, each of its members once and no other known one. -/
structure HeldBy (draft : Draft) (members : List (String × Json)) : Prop where
  once : ∀ name ∈ ["fieldTag", "marcTag", "ind1", "ind2", "subfields", "content"],
    (members.map Prod.fst).count name ≤ 1
  systemTag : members.lookup "fieldTag" = draft.systemTag.map Json.text
  tag : members.lookup "marcTag" = draft.tag.map Json.text
  indicator1 : members.lookup "ind1" = draft.indicator1.map Json.text
  indicator2 : members.lookup "ind2" = draft.indicator2.map Json.text
  subfields : Subfield.ListWrittenAs draft.subfields (members.lookup "subfields")
  content : members.lookup "content" = draft.content.map nullable

/-- The draft as an object with its members. -/
inductive WrittenAs (draft : Draft) : Json → Prop where
  | object {members : List (String × Json)} (h : draft.HeldBy members) :
      WrittenAs draft (Json.record members)

/-- What is read of the draft once the members with these names have come. -/
def after (draft : Draft) (names : List String) : Draft where
  systemTag := if "fieldTag" ∈ names then draft.systemTag else none
  tag := if "marcTag" ∈ names then draft.tag else none
  indicator1 := if "ind1" ∈ names then draft.indicator1 else none
  indicator2 := if "ind2" ∈ names then draft.indicator2 else none
  subfields := if "subfields" ∈ names then draft.subfields else none
  content := if "content" ∈ names then draft.content else none

variable {draft : Draft} {members : List (String × Json)}

theorem decode_nullable {ε : Type} (value : Option String) :
    (Json.decodeOption Json.decodeString (nullable value) :
      Except (Problem ε) (Option String)) = .ok value := by
  cases value <;> rfl

theorem HeldBy.stages (h : draft.HeldBy members) :
    Stages slots (members.lookup ·) draft.after where
  isFilled slot hslot names hnames := by
    simp only [slots, List.mem_cons, List.not_mem_nil, or_false] at hslot
    rcases hslot with rfl | rfl | rfl | rfl | rfl | rfl <;> simp [after, hnames]
  fill slot hslot names json hjson := by
    simp only [slots, List.mem_cons, List.not_mem_nil, or_false] at hslot
    rcases hslot with rfl | rfl | rfl | rfl | rfl | rfl
    · obtain ⟨s, hs, rfl⟩ := Option.map_eq_some_iff.mp (h.systemTag.symm.trans hjson)
      simp [after, hs, decodeString_text, bind, Except.bind, pure, Except.pure]
    · obtain ⟨s, hs, rfl⟩ := Option.map_eq_some_iff.mp (h.tag.symm.trans hjson)
      simp [after, hs, decodeString_text, bind, Except.bind, pure, Except.pure]
    · obtain ⟨s, hs, rfl⟩ := Option.map_eq_some_iff.mp (h.indicator1.symm.trans hjson)
      simp [after, hs, decodeString_text, bind, Except.bind, pure, Except.pure]
    · obtain ⟨s, hs, rfl⟩ := Option.map_eq_some_iff.mp (h.indicator2.symm.trans hjson)
      simp [after, hs, decodeString_text, bind, Except.bind, pure, Except.pure]
    · obtain ⟨parts, hparts, hdecode⟩ :=
        (show Subfield.ListWrittenAs _ (some json) from hjson ▸ h.subfields).decode_eq Fault
      simp [after, hparts, hdecode, bind, Except.bind, pure, Except.pure]
    · obtain ⟨value, hvalue, rfl⟩ := Option.map_eq_some_iff.mp (h.content.symm.trans hjson)
      simp [after, hvalue, decode_nullable, bind, Except.bind, pure, Except.pure]
  other names name hname := by
    simp only [slots, List.map_cons, List.map_nil, List.mem_cons, List.not_mem_nil, or_false,
      not_or] at hname
    obtain ⟨h1, h2, h3, h4, h5, h6⟩ := hname
    simp [after, Ne.symm h1, Ne.symm h2, Ne.symm h3, Ne.symm h4, Ne.symm h5, Ne.symm h6]

theorem HeldBy.after_names (h : draft.HeldBy members) :
    draft.after (members.map Prod.fst) = draft := by
  have hsubfields : members.lookup "subfields" = none → draft.subfields = none :=
    fun hnone => Subfield.ListWrittenAs.eq_none (hnone ▸ h.subfields)
  unfold after
  rw [ite_mem_eq_of_lookup _ h.systemTag, ite_mem_eq_of_lookup _ h.tag,
    ite_mem_eq_of_lookup _ h.indicator1, ite_mem_eq_of_lookup _ h.indicator2,
    ite_mem_eq_self hsubfields, ite_mem_eq_of_lookup _ h.content]

/-- **An object is decoded by way of the draft that it was written from**, whatever the order of
its members and whatever other members it has. -/
theorem decode_of_writtenAs {json : Json} (h : draft.WrittenAs json) :
    decode json = ofDraft draft := by
  obtain ⟨h⟩ := h
  refine (decodeRecord_stages h.stages (fun slot hslot => h.once slot.name ?_) ofDraft).trans ?_
  · simpa [slots] using List.mem_map_of_mem (f := Slot.name) hslot
  · rw [h.after_names]

/-! ## The field of a draft -/

/-- The tag is neither empty nor three characters long. -/
def Mistagged (draft : Draft) : Prop :=
  (draft.tag.getD "").length ≠ 0 ∧ (draft.tag.getD "").length ≠ 3

/-- A direct value stands beside subfields, and neither is empty. -/
def Mixed (draft : Draft) : Prop :=
  draft.content.join.getD "" ≠ "" ∧ draft.subfields.join.getD [] ≠ []

instance : DecidablePred Mistagged := fun _ => inferInstanceAs (Decidable (_ ∧ _))

instance : DecidablePred Mixed := fun _ => inferInstanceAs (Decidable (_ ∧ _))

/-- Why the draft makes no field: its tag, or else its content. -/
def fault (draft : Draft) : Fault :=
  if draft.Mistagged then .tagWidth (draft.tag.getD "")
  else
    .mixedContent (draft.tag.getD "") (draft.content.join.getD "")
      (draft.subfields.join.getD []).length

/-- The content of the draft: a direct value that is not empty, or else the list of subfields,
or else an empty direct value. -/
def made (draft : Draft) : Content :=
  if draft.content.join.getD "" ≠ "" then .direct (draft.content.join.getD "")
  else
    match draft.subfields.join with
    | some parts => .subfields parts
    | none => .direct ""

/-- The field that the draft makes when it makes one. -/
def field (draft : Draft) : Field where
  systemTag := draft.systemTag.getD ""
  tag := draft.tag.getD ""
  indicator1 := (draft.indicator1.getD "").toList.headD ' '
  indicator2 := (draft.indicator2.getD "").toList.headD ' '
  content := draft.made

theorem filter_ne_empty (value : Option String) :
    value.filter (· ≠ "") = if value.getD "" ≠ "" then some (value.getD "") else none := by
  cases value with
  | none => rfl
  | some v => simp [Option.filter_some]

/-- **A draft makes its field, or fails**: with its tag, or else with its content. -/
theorem ofDraft_eq (draft : Draft) :
    ofDraft draft =
      if draft.Mistagged ∨ draft.Mixed then .error (.refused draft.fault) else .ok draft.field := by
  unfold ofDraft ofParts
  by_cases htag : draft.Mistagged
  · rw [if_neg (by simpa [Mistagged] using htag), if_pos (.inl htag), fault, if_pos htag]
  rw [if_pos (by simpa [Mistagged, or_iff_not_imp_left] using htag), contentOf, filter_ne_empty]
  by_cases hvalue : draft.content.join.getD "" ≠ ""
  · rw [if_pos hvalue]
    by_cases hparts : draft.subfields.join.getD [] = []
    · rw [if_neg (by simp [htag, Mixed, hparts])]
      simp [hparts, Except.map, field, made, hvalue, indicatorOf, isControl, Content.direct?]
    · rw [if_pos (.inr ⟨hvalue, hparts⟩)]
      simp [hparts, Except.map, fault, htag]
  · -- whether a list of subfields is there decides between two kinds of emptiness
    rw [if_neg hvalue, if_neg (by simp [htag, Mixed, hvalue])]
    cases hparts : draft.subfields.join <;>
      simp [hparts, Except.map, field, made, hvalue, indicatorOf, isControl, Content.direct?]

end Field.Draft

namespace Record

open Marc.Field (Draft)

variable {text : String} {items : List Json} {drafts : List Draft}

/-- The fields of the objects, in order, or the fault of the first object that makes none. -/
theorem ofText_of_writtenAs (hread : Json.read text.toList = (Json.list items, none))
    (hitems : List.Forall₂ Draft.WrittenAs drafts items) :
    ofText text =
      match drafts.find? (fun draft => draft.Mistagged ∨ draft.Mixed) with
      | none => .ok (drafts.map Draft.field)
      | some draft => .error (.refused draft.fault) := by
  have hdecode : decode (Json.list items) = _ :=
    (Json.decodeList_list _ _).trans <| decodeItems_forall₂ <| hitems.imp fun draft item h =>
      (Draft.decode_of_writtenAs h).trans (Draft.ofDraft_eq draft)
  rw [ofText, Json.decodeText, hread, hdecode]
  cases drafts.find? (fun draft => draft.Mistagged ∨ draft.Mixed) <;> rfl

/-- **A list of field objects makes a record exactly when each of its objects makes a field**: the
tag is empty or three characters long, and no direct value stands beside subfields. The record has
these fields, in order; otherwise the first object that makes no field is what it fails with. -/
theorem ofText_fieldObjects (hread : Json.read text.toList = (Json.list items, none))
    (hitems : List.Forall₂ Draft.WrittenAs drafts items) :
    ((∃ problem, ofText text = .error problem) ↔
      ∃ draft ∈ drafts, draft.Mistagged ∨ draft.Mixed) ∧
    ofText text =
      match drafts.find? (fun draft => draft.Mistagged ∨ draft.Mixed) with
      | none => .ok (drafts.map Draft.field)
      | some draft => .error (.refused draft.fault) := by
  refine ⟨?_, ofText_of_writtenAs hread hitems⟩
  rw [ofText_of_writtenAs hread hitems]
  cases hfind : drafts.find? (fun draft => draft.Mistagged ∨ draft.Mixed) with
  | none =>
    have hgood := List.find?_eq_none.mp hfind
    refine iff_of_false (fun ⟨_, h⟩ => nomatch h) fun ⟨draft, hd, hfaulty⟩ => ?_
    exact hgood draft hd (by simpa using hfaulty)
  | some draft =>
    have hfaulty := List.find?_some hfind
    exact iff_of_true ⟨_, rfl⟩ ⟨draft, List.mem_of_find?_eq_some hfind, by simpa using hfaulty⟩

/-- A title with its members out of order, an unknown one between them, and an empty direct value
that gives way to the subfields. -/
def titleObject : Json :=
  Json.record
    [("subfields", Json.list [Json.record [("content", Json.text "Tales"), ("tag", Json.char 'a')]]),
     ("x", Json.list [Json.int 1]), ("marcTag", Json.text "245"), ("ind1", Json.text "10"),
     ("content", Json.text "")]

def titleDraft : Draft :=
  ⟨none, some "245", some "10", none, some (some [⟨'a', "Tales"⟩]), some (some "")⟩

/-- An object with a tag of two characters and mixed content. -/
def mixedObject : Json :=
  Json.record
    [("marcTag", Json.text "24"), ("content", Json.text "v"),
     ("subfields", Json.list [Json.list [Json.char 'a', Json.text "w"]])]

def mixedDraft : Draft := ⟨none, some "24", none, none, some (some [⟨'a', "w"⟩]), some (some "v")⟩

theorem titleDraft_writtenAs : titleDraft.WrittenAs titleObject :=
  .object ⟨by decide, rfl, rfl, rfl, rfl, .list (.cons (.object ⟨by decide, rfl, rfl⟩) .nil), rfl⟩

theorem mixedDraft_writtenAs : mixedDraft.WrittenAs mixedObject :=
  .object ⟨by decide, rfl, rfl, rfl, rfl, .list (.cons .array .nil), rfl⟩

theorem complete_titleObject : Complete titleObject := by
  have hpart : Complete
      (Json.record [("content", Json.text "Tales"), ("tag", Json.char 'a')]) :=
    .record (by simp [Json.char, Complete.text])
  have hunknown : Complete (Json.list [Json.int 1]) := .list (by simp [Complete.int])
  have hparts : Complete
      (Json.list [Json.record [("content", Json.text "Tales"), ("tag", Json.char 'a')]]) :=
    .list (by simp [hpart])
  exact .record (by simp [hparts, hunknown, Complete.text])

theorem complete_mixedObject : Complete mixedObject := by
  have hpart : Complete (Json.list [Json.char 'a', Json.text "w"]) :=
    .list (by simp [Json.char, Complete.text])
  have hparts : Complete (Json.list [Json.list [Json.char 'a', Json.text "w"]]) :=
    .list (by simp [hpart])
  exact .record (by simp [hparts, Complete.text])

/-- The bad tag of a second object is reported, and its mixed content is not. -/
theorem ofText_fieldObjects_titleObject :
    Json.read (Json.list [titleObject, mixedObject]).print.toList =
        (Json.list [titleObject, mixedObject], none) ∧
      List.Forall₂ Draft.WrittenAs [titleDraft, mixedDraft] [titleObject, mixedObject] ∧
      ofText (Json.list [titleObject]).print =
        .ok [⟨"", "245", '1', ' ', .subfields [⟨'a', "Tales"⟩]⟩] ∧
      ofText (Json.list [titleObject, mixedObject]).print = .error (.refused (.tagWidth "24")) := by
  have hone : Complete (Json.list [titleObject]) := .list (by simp [complete_titleObject])
  have htwo : Complete (Json.list [titleObject, mixedObject]) :=
    .list (by simp [complete_titleObject, complete_mixedObject])
  have hitems : List.Forall₂ Draft.WrittenAs [titleDraft, mixedDraft] [titleObject, mixedObject] :=
    .cons titleDraft_writtenAs (.cons mixedDraft_writtenAs .nil)
  exact ⟨Json.read_print htwo, hitems,
    (ofText_fieldObjects (Json.read_print hone) (.cons titleDraft_writtenAs .nil)).2,
    (ofText_fieldObjects (Json.read_print htwo) hitems).2⟩

end Record

end Marc
