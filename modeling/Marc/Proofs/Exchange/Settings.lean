import Marc.Exchange.Settings
import Marc.Proofs.Json.Decoding
import Marc.Proofs.Json.RoundTrip

/-!
# Reading specs and settings from their texts

Every spec (`FieldSpec`) and all settings (`ExtractionConfig`) are read as they were written. An
object need not hold all settings: `Settings.Draft.HeldBy` says which of them its members hold, in
any order and among others with unknown names, and each of the others is the standard one.

* `Spec.ofText_toText_eq`: a spec is read as it was written.
* `Settings.Draft.decode_of_heldBy`: **an object gives the settings that it holds**, and standard
  ones for the rest.
* `Settings.draftOf_heldBy`: written settings hold all of them.
* `Settings.specs_and_settings_read`: the laws together.
-/

namespace Marc

open Json (Complete Stages named decodeString_text decodeChar_char decodeInt32_int
  decodeList_forall₂ decodeRecord_stages ite_mem_eq_of_lookup)

/-! ## Specs -/

namespace Spec

theorem decode_toJson (spec : Spec) : decode (toJson spec) = .ok spec := by
  have hcodes : (Json.decodeList Json.decodeChar (Json.list (spec.codes.map Json.char)) :
      Except (Json.Problem Empty) (List Char)) = .ok spec.codes :=
    decodeList_forall₂ <| List.forall₂_map_right_iff.mpr <|
      List.forall₂_same.mpr fun code _ => decodeChar_char code
  have hfill : Json.fillMembers slots (named
      [("tag", Json.text spec.tag), ("codes", Json.list (spec.codes.map Json.char))]) ⟨none, none⟩ =
        .ok ⟨some spec.tag, some spec.codes⟩ := by
    simp [named, Json.fillMembers, slots, decodeString_text, hcodes, bind, Except.bind, pure,
      Except.pure]
  exact (Json.decodeRecord_object hfill ofDraft).trans (ofDraft_eq_ok.mpr ⟨rfl, rfl⟩)

theorem complete_toJson (spec : Spec) : Complete (toJson spec) := by
  refine .record fun member hmember => ?_
  simp only [List.mem_cons, List.not_mem_nil, or_false] at hmember
  rcases hmember with rfl | rfl
  · exact .text _
  · refine .list fun item hitem => ?_
    obtain ⟨code, -, rfl⟩ := List.mem_map.mp hitem
    exact .text _

/-- A spec is read as it was written. -/
theorem ofText_toText_eq (spec : Spec) : ofText spec.toText = .ok spec :=
  (Json.decodeText_print decode spec.complete_toJson).trans spec.decode_toJson

end Spec

/-! ## Settings -/

namespace Settings

/-- A latest year, or null for no limit. -/
def limitJson (limit : Option Int32) : Json :=
  match limit with
  | some year => Json.int year.toInt
  | none => .null

theorem decode_limitJson {ε : Type} (limit : Option Int32) :
    (Json.decodeOption Json.decodeInt32 (limitJson limit) :
      Except (Json.Problem ε) (Option Int32)) = .ok limit := by
  cases limit with
  | none => rfl
  | some year =>
    show (Json.decodeInt32 (Json.int year.toInt)).map some = _
    rw [decodeInt32_int]
    rfl

namespace Draft

/-- The members hold the draft: each of its settings once, and no other one. -/
structure HeldBy (draft : Draft) (members : List (String × Json)) : Prop where
  once : ∀ name ∈ ["year_tolerance", "min_year", "max_year", "trim_values", "dissertation_marker"],
    (members.map Prod.fst).count name ≤ 1
  yearTolerance : members.lookup "year_tolerance" =
    draft.yearTolerance.map fun years => Json.int years.toInt
  minYear : members.lookup "min_year" = draft.minYear.map fun year => Json.int year.toInt
  maxYear : members.lookup "max_year" = draft.maxYear.map limitJson
  trimValues : members.lookup "trim_values" = draft.trimValues.map Json.bool
  dissertationMarker : members.lookup "dissertation_marker" =
    draft.dissertationMarker.map Json.text

/-- What is read of the draft once the members with these names have come. -/
def after (draft : Draft) (names : List String) : Draft where
  yearTolerance := if "year_tolerance" ∈ names then draft.yearTolerance else none
  minYear := if "min_year" ∈ names then draft.minYear else none
  maxYear := if "max_year" ∈ names then draft.maxYear else none
  trimValues := if "trim_values" ∈ names then draft.trimValues else none
  dissertationMarker := if "dissertation_marker" ∈ names then draft.dissertationMarker else none

variable {draft : Draft} {members : List (String × Json)}

theorem HeldBy.stages (h : draft.HeldBy members) :
    Stages slots (members.lookup ·) draft.after where
  isFilled slot hslot names hnames := by
    simp only [slots, List.mem_cons, List.not_mem_nil, or_false] at hslot
    rcases hslot with rfl | rfl | rfl | rfl | rfl <;> simp [after, hnames]
  fill slot hslot names json hjson := by
    simp only [slots, List.mem_cons, List.not_mem_nil, or_false] at hslot
    rcases hslot with rfl | rfl | rfl | rfl | rfl
    · obtain ⟨years, hyears, rfl⟩ := Option.map_eq_some_iff.mp (h.yearTolerance.symm.trans hjson)
      simp [after, hyears, decodeInt32_int, bind, Except.bind, pure, Except.pure]
    · obtain ⟨year, hyear, rfl⟩ := Option.map_eq_some_iff.mp (h.minYear.symm.trans hjson)
      simp [after, hyear, decodeInt32_int, bind, Except.bind, pure, Except.pure]
    · obtain ⟨limit, hlimit, rfl⟩ := Option.map_eq_some_iff.mp (h.maxYear.symm.trans hjson)
      simp [after, hlimit, decode_limitJson, bind, Except.bind, pure, Except.pure]
    · obtain ⟨trims, htrims, rfl⟩ := Option.map_eq_some_iff.mp (h.trimValues.symm.trans hjson)
      simp [after, htrims, Json.decodeBool, bind, Except.bind, pure, Except.pure]
    · obtain ⟨marker, hmarker, rfl⟩ :=
        Option.map_eq_some_iff.mp (h.dissertationMarker.symm.trans hjson)
      simp [after, hmarker, decodeString_text, bind, Except.bind, pure, Except.pure]
  other names name hname := by
    simp only [slots, List.map_cons, List.map_nil, List.mem_cons, List.not_mem_nil, or_false,
      not_or] at hname
    obtain ⟨h1, h2, h3, h4, h5⟩ := hname
    simp [after, Ne.symm h1, Ne.symm h2, Ne.symm h3, Ne.symm h4, Ne.symm h5]

theorem HeldBy.after_names (h : draft.HeldBy members) :
    draft.after (members.map Prod.fst) = draft := by
  unfold after
  rw [ite_mem_eq_of_lookup _ h.yearTolerance, ite_mem_eq_of_lookup _ h.minYear,
    ite_mem_eq_of_lookup _ h.maxYear, ite_mem_eq_of_lookup _ h.trimValues,
    ite_mem_eq_of_lookup _ h.dissertationMarker]

/-- **An object gives the settings that it holds**, whatever the order of its members and whatever
other members it has, and standard ones for the rest. -/
theorem decode_of_heldBy (h : draft.HeldBy members) :
    decode (Json.record members) = .ok (ofDraft draft) := by
  refine (decodeRecord_stages h.stages (fun slot hslot => h.once slot.name ?_) _).trans ?_
  · simpa [slots] using List.mem_map_of_mem (f := Json.Slot.name) hslot
  · rw [h.after_names]

end Draft

/-- What is read of settings that were written. -/
def draftOf (settings : Settings) : Draft where
  yearTolerance := some settings.yearTolerance
  minYear := some settings.minYear
  maxYear := some settings.maxYear
  trimValues := some settings.trimValues
  dissertationMarker := some settings.dissertationMarker

/-- Written settings hold all of them. -/
theorem draftOf_heldBy (settings : Settings) :
    ∃ members, toJson settings = Json.record members ∧ (draftOf settings).HeldBy members := by
  obtain ⟨yearTolerance, minYear, maxYear, trimValues, marker⟩ := settings
  cases maxYear <;> exact ⟨_, rfl, by simp, rfl, rfl, rfl, rfl, rfl⟩

theorem decode_toJson (settings : Settings) : decode (toJson settings) = .ok settings := by
  obtain ⟨members, hmembers, hheld⟩ := draftOf_heldBy settings
  rw [hmembers, Draft.decode_of_heldBy hheld]
  rfl

theorem complete_int32 (n : Int32) : Complete (Json.int n.toInt) := by
  have hlow : -2147483648 ≤ n.toInt := n.le_toInt
  have hhigh : n.toInt ≤ 2147483647 := n.toInt_le
  exact .int (by omega)

theorem complete_toJson (settings : Settings) : Complete (toJson settings) := by
  obtain ⟨yearTolerance, minYear, maxYear, trimValues, marker⟩ := settings
  refine .record fun member hmember => ?_
  simp only [List.mem_cons, List.not_mem_nil, or_false] at hmember
  rcases hmember with rfl | rfl | rfl | rfl | rfl
  · exact complete_int32 _
  · exact complete_int32 _
  · cases maxYear with
    | none => exact .null
    | some year => exact complete_int32 year
  · exact .bool _
  · exact .text _

/-- **Specs and settings are read as they were written**, and a text with an object gives the
settings that it holds, the marker as it is written, and standard ones for the rest. -/
theorem specs_and_settings_read :
    (∀ spec : Spec, Spec.ofText spec.toText = .ok spec) ∧
    (∀ settings : Settings, ofText settings.toText = .ok settings) ∧
    ∀ (text : String) (members : List (String × Json)) (draft : Draft),
      Json.read text.toList = (Json.record members, none) → draft.HeldBy members →
      ofText text = .ok
        { yearTolerance := draft.yearTolerance.getD standard.yearTolerance
          minYear := draft.minYear.getD standard.minYear
          maxYear := draft.maxYear.getD standard.maxYear
          trimValues := draft.trimValues.getD standard.trimValues
          dissertationMarker := draft.dissertationMarker.getD standard.dissertationMarker } := by
  refine ⟨Spec.ofText_toText_eq, fun settings => ?_, fun text members draft hread hheld => ?_⟩
  · exact (Json.decodeText_print decode settings.complete_toJson).trans settings.decode_toJson
  · exact Json.decodeText_eq_ok.mpr
      ⟨hread ▸ Draft.decode_of_heldBy hheld, congrArg Prod.snd hread⟩

/-- Three of the settings, out of order and around an unknown one: a marker with quotes, no limit,
and the least tolerance that there is. -/
def yaleMembers : List (String × Json) :=
  [("dissertation_marker", Json.text "\"Yale\" Univ"), ("x", Json.list [Json.text "min_year"]),
   ("max_year", .null), ("year_tolerance", Json.int (-2147483648))]

def yaleDraft : Draft := ⟨some (-2147483648), none, some none, none, some "\"Yale\" Univ"⟩

theorem specs_and_settings_read_yale :
    Json.read (Json.record yaleMembers).print.toList = (Json.record yaleMembers, none) ∧
      yaleDraft.HeldBy yaleMembers ∧
      ofText (Json.record yaleMembers).print =
        .ok ⟨-2147483648, 500, none, true, "\"Yale\" Univ"⟩ := by
  have hunknown : Complete (Json.list [Json.text "min_year"]) := .list (by simp [Complete.text])
  have hcomplete : Complete (Json.record yaleMembers) :=
    .record (by simp [yaleMembers, hunknown, Complete.text, Complete.null, Complete.int])
  have hread := Json.read_print hcomplete
  have hheld : yaleDraft.HeldBy yaleMembers := ⟨by decide, rfl, rfl, rfl, rfl, rfl⟩
  exact ⟨hread, hheld, specs_and_settings_read.2.2 _ _ _ hread hheld⟩

end Settings

end Marc
