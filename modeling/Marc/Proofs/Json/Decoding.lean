import Marc.Json.Decoder
import Mathlib.Data.List.Forall2

/-!
# Laws of decoders

What a decoder of items says about a decoder of lists, and what a record that was decoded went
through.

* `decodeItems_forall₂`: **a list of items fails with its first faulty item**, and is decoded to the
  values of its items when there is none.
* `decodeList_eq_ok`: every item of a decoded list is a decoded item.
* `decodeRecord_stages`: **the members of an object fill a draft in any order.**
* `decodeRecord_eq_ok`: a decoded record was completed from a draft.
-/

namespace Marc.Json

variable {ε α δ : Type}

theorem bind_eq_ok {β : Type} {step : Except ε α} {next : α → Except ε β} {value : β} :
    step >>= next = .ok value ↔ ∃ first, step = .ok first ∧ next first = .ok value := by
  cases step with
  | error fault => exact ⟨fun h => (nomatch h), fun ⟨_, h, _⟩ => (nomatch h)⟩
  | ok first =>
    constructor
    · exact fun h => ⟨first, rfl, h⟩
    · rintro ⟨_, hfirst, h⟩
      obtain rfl := Except.ok.inj hfirst
      exact h

theorem map_eq_ok {β : Type} {step : Except ε α} {f : α → β} {value : β} :
    step.map f = .ok value ↔ ∃ first, step = .ok first ∧ f first = value := by
  cases step with
  | error fault => exact ⟨fun h => (nomatch h), fun ⟨_, h, _⟩ => (nomatch h)⟩
  | ok first =>
    constructor
    · exact fun h => ⟨first, rfl, Except.ok.inj h⟩
    · rintro ⟨_, hfirst, rfl⟩
      obtain rfl := Except.ok.inj hfirst
      rfl

theorem eq_ok_of_toOption {step : Except ε α} {value : α} (h : step.toOption = some value) :
    step = .ok value := by
  cases step with
  | error fault => exact nomatch h
  | ok first =>
    obtain rfl := Option.some.inj h
    rfl

theorem decodeString_text (s : String) :
    (decodeString (text s) : Except (Problem ε) String) = .ok s := rfl

theorem decodeChar_char (c : Char) : (decodeChar (char c) : Except (Problem ε) Char) = .ok c := by
  unfold char text decodeChar
  simp only [String.toList_singleton]

theorem decodeInt32_int (n : Int32) :
    (decodeInt32 (int n.toInt) : Except (Problem ε) Int32) = .ok n := by
  have hlow : -2147483648 ≤ n.toInt := n.le_toInt
  have hhigh : n.toInt ≤ 2147483647 := n.toInt_le
  unfold int decodeInt32
  simp only
  rw [if_pos ⟨hlow, hhigh⟩, Int32.ofInt_toInt]

/-- **A list of items fails with its first faulty item.** The items stand for entries, each of which
is faulty with a problem or has a value. -/
theorem decodeItems_forall₂ {β : Type} {decode : Json → Except (Problem ε) α} {IsFaulty : β → Prop}
    [DecidablePred IsFaulty] {problem : β → Problem ε} {value : β → α} {entries : List β}
    {items : List Json}
    (h : List.Forall₂ (fun entry item => decode item =
      if IsFaulty entry then .error (problem entry) else .ok (value entry)) entries items) :
    decodeItems decode items =
      match entries.find? (IsFaulty ·) with
      | none => .ok (entries.map value)
      | some entry => .error (problem entry) := by
  induction h with
  | nil => rfl
  | @cons entry item entries items hitem _ ih =>
    rw [decodeItems, hitem, List.find?_cons]
    by_cases hentry : IsFaulty entry
    · simp only [hentry, if_true, decide_true]
    · simp only [hentry, if_false, decide_false]
      rw [ih]
      cases entries.find? (IsFaulty ·) <;> rfl

theorem decodeList_list (decode : Json → Except (Problem ε) α) (items : List Json) :
    decodeList decode (list items) = decodeItems decode items := by
  unfold list decodeList
  simp only
  cases decodeItems decode items <;> rfl

/-- A list is decoded to the values of its items, when each item has one. -/
theorem decodeList_forall₂ {decode : Json → Except (Problem ε) α} {values : List α}
    {items : List Json}
    (h : List.Forall₂ (fun value item => decode item = .ok value) values items) :
    decodeList decode (list items) = .ok values := by
  have hgood : List.Forall₂ (fun value item => decode item =
      if False then .error .shape else .ok value) values items :=
    h.imp fun _ _ hvalue => hvalue.trans (if_neg not_false).symm
  have hnone : values.find? (fun _ => False) = none := List.find?_eq_none.mpr (by simp)
  rw [decodeList_list, decodeItems_forall₂ hgood, hnone, List.map_id']

theorem decodeItems_eq_ok {decode : Json → Except (Problem ε) α} :
    ∀ {items : List Json} {values : List α}, decodeItems decode items = .ok values →
      ∀ value ∈ values, ∃ item ∈ items, decode item = .ok value
  | [], _, h, value, hv => by
    obtain rfl := Except.ok.inj h
    exact absurd hv List.not_mem_nil
  | item :: items, values, h, value, hv => by
    unfold decodeItems at h
    split at h
    · exact nomatch h
    · rename_i first hfirst
      obtain ⟨more, hmore, rfl⟩ := map_eq_ok.mp h
      rcases List.mem_cons.mp hv with rfl | hv
      · exact ⟨item, List.mem_cons_self, hfirst⟩
      · obtain ⟨later, hlater, heq⟩ := decodeItems_eq_ok hmore value hv
        exact ⟨later, List.mem_cons_of_mem _ hlater, heq⟩

/-- Every item of a decoded list is a decoded item. -/
theorem decodeList_eq_ok {decode : Json → Except (Problem ε) α} {json : Json} {values : List α}
    (h : decodeList decode json = .ok values) :
    ∀ value ∈ values, ∃ item, decode item = .ok value := by
  unfold decodeList at h
  split at h
  · split at h
    · exact nomatch h
    · rename_i decoded hdecoded
      obtain ⟨_, -, rfl⟩ := map_eq_ok.mp h
      intro value hv
      obtain ⟨item, -, heq⟩ := decodeItems_eq_ok hdecoded value hv
      exact ⟨item, heq⟩
  · exact nomatch h

/-- A member with a slot that is still empty goes into the draft. -/
theorem fillMembers_cons {slots : List (Slot ε δ)} {slot : Slot ε δ} {name : String} {json : Json}
    {draft next : δ} (hfind : slots.find? (fun slot => slot.name == name) = some slot)
    (hempty : slot.isFilled draft = false) (hfill : slot.fill json draft = .ok next)
    (members : List (Option String × Json)) :
    fillMembers slots ((some name, json) :: members) draft = fillMembers slots members next := by
  rw [fillMembers, hfind]
  simp only
  rw [hempty, hfill]
  rfl

/-- An object whose members fill a draft is what the draft is completed to. -/
theorem decodeRecord_object {slots : List (Slot ε δ)} {empty draft : δ}
    {members : List (Option String × Json)} (h : fillMembers slots members empty = .ok draft)
    (finish : δ → Except (Problem ε) α) :
    decodeRecord slots empty finish (.object members none) = finish draft := by
  unfold decodeRecord
  simp only
  rw [h]
  rfl

/-! ## Members in any order -/

/-- Drafts after some of the members, told by the names of these. A slot is empty until its name
has come, and what stands under its name takes the draft one stage on; a name without a slot
changes nothing. -/
structure Stages (slots : List (Slot ε δ)) (value? : String → Option Json)
    (stage : List String → δ) : Prop where
  isFilled : ∀ slot ∈ slots, ∀ names, slot.name ∉ names → slot.isFilled (stage names) = false
  fill : ∀ slot ∈ slots, ∀ names json, value? slot.name = some json →
    slot.fill json (stage names) = .ok (stage (names ++ [slot.name]))
  other : ∀ names name, name ∉ slots.map Slot.name → stage (names ++ [name]) = stage names

theorem lookup_eq_none_of_not_mem {name : String} {members : List (String × Json)}
    (h : name ∉ members.map Prod.fst) : members.lookup name = none := by
  rw [List.lookup_eq_none_iff]
  intro member hm
  simpa using fun heq : name = member.1 => h (List.mem_map.mpr ⟨member, hm, heq.symm⟩)

/-- A value that is there when its name is, is there once all members have come. -/
theorem ite_mem_eq_self {name : String} {members : List (String × Json)} {value : Option α}
    (h : members.lookup name = none → value = none) :
    (if name ∈ members.map Prod.fst then value else none) = value := by
  split
  · rfl
  · rename_i hname
    exact (h (lookup_eq_none_of_not_mem hname)).symm

theorem ite_mem_eq_of_lookup {name : String} {members : List (String × Json)} {toJson : α → Json}
    (value : Option α) (h : members.lookup name = value.map toJson) :
    (if name ∈ members.map Prod.fst then value else none) = value :=
  ite_mem_eq_self fun hnone => Option.map_eq_none_iff.mp (h.symm.trans hnone)

/-- A name that stands once has not come before, and is looked up there. -/
theorem lookup_eq_some_of_count {name : String} {json : Json} {before after : List (String × Json)}
    (h : ((before ++ (name, json) :: after).map Prod.fst).count name ≤ 1) :
    name ∉ before.map Prod.fst ∧ (before ++ (name, json) :: after).lookup name = some json := by
  have hbefore : name ∉ before.map Prod.fst := by
    rw [List.map_append, List.count_append, List.map_cons, List.count_cons_self] at h
    exact List.count_eq_zero.mp (by omega)
  refine ⟨hbefore, ?_⟩
  rw [List.lookup_append, lookup_eq_none_of_not_mem hbefore, List.lookup_cons_self, Option.none_or]

/-- **Members fill a draft in any order**, with others between them, when none of the known names
stands twice. -/
theorem decodeRecord_stages {slots : List (Slot ε δ)} {stage : List String → δ}
    {members : List (String × Json)} (h : Stages slots (members.lookup ·) stage)
    (hone : ∀ slot ∈ slots, (members.map Prod.fst).count slot.name ≤ 1)
    (finish : δ → Except (Problem ε) α) :
    decodeRecord slots (stage []) finish (record members) =
      finish (stage (members.map Prod.fst)) := by
  have hfill : ∀ after before : List (String × Json), members = before ++ after →
      fillMembers slots (after.map fun member => (some member.1, member.2))
        (stage (before.map Prod.fst)) = .ok (stage (members.map Prod.fst)) := by
    intro after
    induction after with
    | nil =>
      rintro before rfl
      rw [List.append_nil]
      rfl
    | cons member after ih =>
      obtain ⟨name, json⟩ := member
      intro before hm
      have hnext := ih (before ++ [(name, json)]) (by rw [hm, List.append_assoc]; rfl)
      rw [List.map_append, List.map_singleton] at hnext
      rw [List.map_cons]
      cases hfind : slots.find? fun slot => slot.name == name with
      | none =>
        have hother : name ∉ slots.map Slot.name := by
          simpa [List.find?_eq_none] using hfind
        rw [fillMembers, hfind, ← h.other _ _ hother]
        exact hnext
      | some slot =>
        have hslot : slot ∈ slots := List.mem_of_find?_eq_some hfind
        obtain rfl : slot.name = name := by simpa using List.find?_some hfind
        obtain ⟨hnot, hvalue⟩ := lookup_eq_some_of_count (hm ▸ hone slot hslot)
        rw [← hm] at hvalue
        rw [fillMembers_cons hfind (h.isFilled slot hslot _ hnot) (h.fill slot hslot _ json hvalue)]
        exact hnext
  exact decodeRecord_object (hfill members [] rfl) finish

/-- A decoded record was completed from a draft. -/
theorem decodeRecord_eq_ok {slots : List (Slot ε δ)} {empty : δ}
    {finish : δ → Except (Problem ε) α} {json : Json} {value : α}
    (h : decodeRecord slots empty finish json = .ok value) :
    ∃ draft, finish draft = .ok value := by
  unfold decodeRecord at h
  split at h
  · obtain ⟨draft, -, h⟩ := bind_eq_ok.mp h
    obtain ⟨_, -, h⟩ := bind_eq_ok.mp h
    exact ⟨draft, h⟩
  · obtain ⟨draft, -, h⟩ := bind_eq_ok.mp h
    obtain ⟨_, -, h⟩ := bind_eq_ok.mp h
    exact ⟨draft, h⟩
  · exact nomatch h

end Marc.Json
