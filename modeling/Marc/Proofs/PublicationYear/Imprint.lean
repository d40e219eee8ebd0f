import Marc.Proofs.Distinct
import Marc.Proofs.Extraction.Alone
import Marc.Proofs.Text.Basic
import Marc.Proofs.Text.Stripping
import Marc.PublicationYear

/-!
# The year of the imprint

Where field 008 gives no year, the date under 260$c does (`year_from_260`). It is written for
readers, with marks and brackets and words around the year, in digits of any script. The index looks
for four digits in a row in the first of these dates, after its punctuation was taken off and white
space was cut off. Nothing that goes that way is a digit, so the four digits can be looked for in
the string as it stands.

Results:
* `fourDigits?_eq_some_iff`: which four digits in a row are found.
* `fourDigits?_append_left`, `fourDigits?_append_right`: what holds no digit, before or behind, does
  not matter; so `fourDigits?_trimmed_unpunctuated`: **neither stripping nor trimming does**.
* `strings_extractText`: the strings that extraction yields for 260$c, and their order.
* `yearOf260?_eq_some_iff`: **the year of the imprint**, by the string as it stands.
* `publication_year_decided`: how the year of publication is found between field 008, the imprint
  and the plausible years.
-/

namespace Marc

open Text

/-! ## Four digits in a row -/

section FourDigits

variable {text run front back : List Char} {c : Char}

/-- Four decimal digits of any script. -/
def IsFourDigits (run : List Char) : Prop := run.length = 4 ∧ ∀ c ∈ run, isDecimalDigit c = true

instance : DecidablePred IsFourDigits := fun _ => inferInstanceAs (Decidable (_ ∧ _))

/-- The run stands somewhere in the text, and at no place before it four digits begin. -/
def FirstRun (text run : List Char) : Prop :=
  ∃ n, (text.drop n).take 4 = run ∧ IsFourDigits run ∧
    ∀ i < n, ¬ IsFourDigits ((text.drop i).take 4)

theorem fourDigits?_cons (c : Char) (rest : List Char) :
    fourDigits? (c :: rest) =
      if IsFourDigits ((c :: rest).take 4) then some ((c :: rest).take 4)
      else fourDigits? rest := by
  rcases rest with _ | ⟨b, _ | ⟨d, _ | ⟨e, rest⟩⟩⟩
  · rfl
  · rfl
  · rfl
  · simp [fourDigits?, IsFourDigits, List.all_cons]

theorem isFourDigits_nil : ¬ IsFourDigits [] := by
  rintro ⟨hlen, -⟩
  exact absurd hlen (by decide)

theorem firstRun_cons (c : Char) (rest : List Char) :
    FirstRun (c :: rest) run ↔
      if IsFourDigits ((c :: rest).take 4) then (c :: rest).take 4 = run else FirstRun rest run := by
  unfold FirstRun
  split
  · rename_i hfour
    constructor
    · rintro ⟨n, hrun, -, hnone⟩
      cases n with
      | zero => exact hrun
      | succ n => exact absurd hfour (hnone 0 n.succ_pos)
    · rintro rfl
      exact ⟨0, rfl, hfour, fun i hi => absurd hi (Nat.not_lt_zero i)⟩
  · rename_i hfour
    constructor
    · rintro ⟨n, hrun, hdigits, hnone⟩
      cases n with
      | zero => exact absurd (hrun ▸ hdigits) hfour
      | succ n => exact ⟨n, hrun, hdigits, fun i hi => hnone (i + 1) (Nat.succ_lt_succ hi)⟩
    · rintro ⟨n, hrun, hdigits, hnone⟩
      refine ⟨n + 1, hrun, hdigits, fun i hi => ?_⟩
      cases i with
      | zero => exact hfour
      | succ i => exact hnone i (Nat.lt_of_succ_lt_succ hi)

/-- **The first four digits in a row** are those that stand foremost. -/
theorem fourDigits?_eq_some_iff : ∀ {text : List Char},
    fourDigits? text = some run ↔ FirstRun text run
  | [] => by
    refine iff_of_false (by simp [fourDigits?]) ?_
    rintro ⟨n, rfl, hdigits, -⟩
    rw [List.drop_nil] at hdigits
    exact isFourDigits_nil hdigits
  | c :: rest => by
    rw [fourDigits?_cons, firstRun_cons]
    split
    · exact Option.some_inj
    · exact fourDigits?_eq_some_iff

/-! ## What stands around -/

theorem fourDigits?_append_left (h : ∀ c ∈ front, isDecimalDigit c = false) (text : List Char) :
    fourDigits? (front ++ text) = fourDigits? text := by
  induction front with
  | nil => rfl
  | cons c front ih =>
    rw [List.forall_mem_cons] at h
    have hfour : ¬ IsFourDigits ((c :: (front ++ text)).take 4) := fun hd =>
      absurd (hd.2 c (by simp)) (by simp [h.1])
    rw [List.cons_append, fourDigits?_cons, if_neg hfour, ih h.2]

/-- Four digits do not reach into what holds none. -/
theorem isFourDigits_take_append (h : ∀ c ∈ back, isDecimalDigit c = false)
    (hd : IsFourDigits ((text ++ back).take 4)) : 4 ≤ text.length := by
  by_contra hshort
  obtain ⟨hlen, hdigits⟩ := hd
  rw [List.take_append] at hlen hdigits
  cases back with
  | nil =>
    simp only [List.take_nil, List.append_nil, List.length_take] at hlen
    omega
  | cons d rest =>
    -- the text is too short for four, so the first character behind it is one of them
    obtain ⟨k, hk⟩ := Nat.exists_eq_succ_of_ne_zero (show 4 - text.length ≠ 0 by omega)
    have hmem : d ∈ text.take 4 ++ (d :: rest).take (4 - text.length) := by
      rw [hk, List.take_succ_cons]
      exact List.mem_append_right _ List.mem_cons_self
    exact absurd (hdigits d hmem) (by simp [h d List.mem_cons_self])

theorem fourDigits?_append_right (h : ∀ c ∈ back, isDecimalDigit c = false) :
    ∀ text : List Char, fourDigits? (text ++ back) = fourDigits? text
  | [] => by
    have hnone := fourDigits?_append_left h []
    rwa [List.append_nil] at hnone
  | c :: rest => by
    rw [List.cons_append, fourDigits?_cons, fourDigits?_cons, fourDigits?_append_right h rest,
      ← List.cons_append]
    by_cases hlong : 4 ≤ (c :: rest).length
    · rw [List.take_append_of_le_length hlong]
    · have hboth : ¬ IsFourDigits (((c :: rest) ++ back).take 4) := fun hd =>
        hlong (isFourDigits_take_append h hd)
      have hself : ¬ IsFourDigits ((c :: rest).take 4) := fun hd => by
        have hlen := hd.1
        rw [List.length_take] at hlen
        omega
      rw [if_neg hboth, if_neg hself]

theorem fourDigits?_trim (text : List Char) : fourDigits? (trim text) = fourDigits? text := by
  obtain ⟨before, after, heq, hb, ha⟩ := exists_trim_append text
  conv => rhs; rw [heq]
  rw [fourDigits?_append_left fun c hc => not_isDecimalDigit_of_isBlank (hb c hc),
    fourDigits?_append_right fun c hc => not_isDecimalDigit_of_isBlank (ha c hc)]

theorem not_isDecimalDigit_of_isMark (h : isMark c = true) : isDecimalDigit c = false := by
  simp only [isMark, isSeparator, isBracket, Bool.or_eq_true, beq_iff_eq] at h
  rcases h with ((rfl | ((rfl | rfl) | rfl) | rfl) | rfl) | rfl | rfl <;> decide

/-- Stripping takes marks off, and no mark is a digit. -/
theorem fourDigits?_stripPunctuation (text : List Char) :
    fourDigits? (stripPunctuation text) = fourDigits? text := by
  obtain ⟨opening, closing, trailer, hcut⟩ := exists_cut_stripPunctuation text
  have hmarks : ∀ c ∈ opening ++ closing ++ trailer, isDecimalDigit c = false := fun c hc =>
    not_isDecimalDigit_of_isMark (hcut.isMark hc)
  rw [List.append_assoc, List.forall_mem_append] at hmarks
  conv => rhs; rw [hcut.eq]
  rw [List.append_assoc, List.append_assoc, fourDigits?_append_left hmarks.1,
    fourDigits?_append_right hmarks.2]

end FourDigits

/-! ## The strings of the imprint -/

/-- The spec of the date in the imprint. -/
def imprintDate : Spec := ⟨"260", ['c']⟩

/-- The strings in subfield 260$c: those of the fields with the tag in the order of the record, and
then those of the fields that are linked with them. -/
def imprintDates (record : Record) : List String :=
  (record.withTag "260" ++ Extraction.linkedFields record imprintDate).flatMap fun field =>
    field.valuesFor 'c'

theorem strings_extractText (record : Record) :
    (extractText record "260c").flatMap Value.strings =
      (imprintDates record).filter fun s => s ≠ "" := by
  have hcompile : Spec.compile "260c" = [imprintDate] := by decide
  unfold extractText imprintDates
  rw [hcompile, Extraction.extract_singleton_eq_selectAll rfl, Extraction.strings_selectAll,
    List.filter_flatMap]
  exact List.flatMap_congr fun field _ => Extraction.map_value_selection field "260" 'c'

/-! ## The year -/

/-- The year is that of the imprint: the first four digits in a row, all of them of ASCII, in the
first string that has something left when its punctuation is taken off. The string is taken as it
stands. -/
def IsImprintYear (record : Record) (year : Int) : Prop :=
  ∃ s run, (imprintDates record).find? (fun s => unpunctuated s ≠ "") = some s ∧
    FirstRun s.toList run ∧ (∀ c ∈ run, c.isDigit = true) ∧ year = digitsValue run

theorem head?_parts (record : Record) :
    (Flattening.parts.apply (extractText record "260c")).head? =
      ((imprintDates record).find? fun s => unpunctuated s ≠ "").map
        fun s => trimmed (unpunctuated s) := by
  have hcandidates : Flattening.parts.candidates (extractText record "260c") =
      ((imprintDates record).filter fun s => s ≠ "").map unpunctuated := by
    rw [← strings_extractText]
    rfl
  -- of an empty string nothing is left, so it need not be passed over before
  have hleft : ∀ s : String, (s ≠ "" ∧ unpunctuated s ≠ "") ↔ unpunctuated s ≠ "" := fun s =>
    and_iff_right_of_imp fun hne hempty => hne (by rw [hempty]; rfl)
  unfold Flattening.apply
  rw [hcandidates, Distinct.head?_addAll, List.find?_map, List.find?_filter, Option.map_map]
  simp only [Function.comp_def, decide_eq_true_eq, hleft]

/-- Neither stripping nor trimming changes which digits are found. -/
theorem fourDigits?_trimmed_unpunctuated (s : String) :
    fourDigits? (trimmed (unpunctuated s)).toList = fourDigits? s.toList := by
  rw [toList_trimmed, fourDigits?_trim, toList_unpunctuated, fourDigits?_stripPunctuation]

theorem yearOf260?_eq_some_iff {record : Record} {year : Int} :
    yearOf260? record = some year ↔ IsImprintYear record year := by
  unfold yearOf260? IsImprintYear
  rw [head?_parts]
  cases (imprintDates record).find? fun s => unpunctuated s ≠ "" with
  | none => simp
  | some s =>
    rw [Option.map_some, Option.bind_some, fourDigits?_trimmed_unpunctuated,
      Option.map_eq_some_iff]
    simp only [Option.bind_eq_some_iff, fourDigits?_eq_some_iff, readNat_eq_some]
    constructor
    · rintro ⟨n, ⟨run, hrun, -, hdigits, rfl⟩, rfl⟩
      exact ⟨s, run, rfl, hrun, hdigits, rfl⟩
    · rintro ⟨t, run, ht, hrun, hdigits, rfl⟩
      obtain rfl := Option.some.inj ht
      refine ⟨_, ⟨run, hrun, ?_, hdigits, rfl⟩, rfl⟩
      rintro rfl
      obtain ⟨n, -, hfour, -⟩ := hrun
      exact isFourDigits_nil hfour

theorem IsImprintYear.bounds {record : Record} {year : Int} (h : IsImprintYear record year) :
    0 ≤ year ∧ year ≤ 9999 := by
  obtain ⟨s, run, -, ⟨-, -, ⟨hlen, -⟩, -⟩, hdigits, rfl⟩ := h
  have hvalue := digitsValue_lt hdigits
  rw [hlen] at hvalue
  omega

/-! ## The year of publication -/

theorem publicationYear?_eq_some_iff {record : Record} {settings : Settings} {year : Int} :
    publicationYear? record settings = some year ↔
      candidateYear? record settings.yearTolerance.toInt = some year ∧
        settings.minYear.toInt ≤ year ∧ ∀ latest ∈ settings.maxYear, year ≤ latest.toInt := by
  unfold publicationYear?
  rw [Option.filter_eq_some_iff, Settings.accepts_iff]

theorem candidateYear?_eq_some_iff {record : Record} {tolerance year : Int} :
    candidateYear? record tolerance = some year ↔
      yearOf008? (record.directText "008") tolerance = some year ∨
        yearOf008? (record.directText "008") tolerance = none ∧ yearOf260? record = some year :=
  Option.or_eq_some_iff

/-- **How the year of publication is found.** It is the year of field 008 or, where that gives none,
the year of the imprint; and it is given if it is plausible. So the range of plausible years does
not change which year it is, and a year of field 008 outside of the range is not made up for by the
imprint. The year of the imprint is read off the strings that extraction yields for 260$c, in their
order: those of the fields with the tag, and then those of the linked fields, which point back. -/
theorem publication_year_decided (record : Record) (settings : Settings) :
    (∀ year, publicationYear? record settings = some year ↔
      (yearOf008? (record.directText "008") settings.yearTolerance.toInt = some year ∨
        yearOf008? (record.directText "008") settings.yearTolerance.toInt = none ∧
          yearOf260? record = some year) ∧
      settings.minYear.toInt ≤ year ∧ ∀ latest ∈ settings.maxYear, year ≤ latest.toInt) ∧
    (∀ (other : Settings) (year year' : Int), other.yearTolerance = settings.yearTolerance →
      publicationYear? record settings = some year →
      publicationYear? record other = some year' → year' = year) ∧
    (∀ year, yearOf008? (record.directText "008") settings.yearTolerance.toInt = some year →
      ¬ (settings.minYear.toInt ≤ year ∧ ∀ latest ∈ settings.maxYear, year ≤ latest.toInt) →
      publicationYear? record settings = none) ∧
    (∀ year, yearOf260? record = some year ↔ IsImprintYear record year) ∧
    (∀ year, yearOf260? record = some year → 0 ≤ year ∧ year ≤ 9999) ∧
    (∀ s, fourDigits? (trimmed (unpunctuated s)).toList = fourDigits? s.toList) ∧
    (extractText record "260c").flatMap Value.strings =
      (imprintDates record).filter (fun s => s ≠ "") ∧
    ∀ field ∈ Extraction.linkedFields record imprintDate,
      field ∈ record ∧ field.pointsAt "260" = true ∧
        (field.tag = Linkage.vernacularTag ∨
          ∃ origin ∈ record.withTag "260", Extraction.namedTag? origin = some field.tag) := by
  refine ⟨fun year => ?_, fun other year year' htolerance hyear hyear' => ?_,
    fun year hyear hrange => ?_, fun year => yearOf260?_eq_some_iff,
    fun year hyear => (yearOf260?_eq_some_iff.mp hyear).bounds, fourDigits?_trimmed_unpunctuated,
    strings_extractText record, fun field hfield => Extraction.mem_linkedFields hfield⟩
  · rw [publicationYear?_eq_some_iff, candidateYear?_eq_some_iff]
  · obtain ⟨hcandidate, -⟩ := publicationYear?_eq_some_iff.mp hyear
    obtain ⟨hcandidate', -⟩ := publicationYear?_eq_some_iff.mp hyear'
    rw [htolerance, hcandidate] at hcandidate'
    exact (Option.some.inj hcandidate').symm
  · have hcandidate := candidateYear?_eq_some_iff.mpr (.inl hyear)
    rw [Option.eq_none_iff_forall_ne_some]
    intro other hother
    obtain ⟨hcandidate', hrange'⟩ := publicationYear?_eq_some_iff.mp hother
    rw [hcandidate] at hcandidate'
    obtain rfl := Option.some.inj hcandidate'
    exact hrange hrange'

/-- The imprint has nothing but a mark under its date, and the date stands in the linked field, with
brackets around and digits of another kind in front. -/
def linkedImprint : Record :=
  [.control "008" "760629n19749999",
   (Field.empty "260" ' ' ' ').withSubfields [⟨'6', "880-01"⟩, ⟨'a', "Tokyo :"⟩, ⟨'c', " /"⟩],
   (Field.empty "880" ' ' ' ').withSubfields [⟨'6', "260-01/$1"⟩, ⟨'c', "[昭和５９ i.e. 1984]."⟩]]

/-- Field 008 gives a year before all plausible ones, and the imprint a plausible year. -/
def earlyDate : Record :=
  [.control "008" "760629s0300    ",
   (Field.empty "260" ' ' ' ').withSubfields [⟨'c', "c1998."⟩]]

theorem publication_year_decided_linkedImprint :
    imprintDates linkedImprint = [" /", "[昭和５９ i.e. 1984]."] ∧
      publicationYear? linkedImprint .standard = some 1984 ∧
      IsImprintYear linkedImprint 1984 ∧
      (∀ year, publicationYear? linkedImprint { Settings.standard with maxYear := some 2000 } =
        some year → year = 1984) ∧
      yearOf260? earlyDate = some 1998 ∧ publicationYear? earlyDate .standard = none := by
  have hyear : publicationYear? linkedImprint .standard = some 1984 := by decide
  obtain ⟨hfound, hsame, -, himprint, -⟩ := publication_year_decided linkedImprint .standard
  obtain ⟨-, -, hearly, -⟩ := publication_year_decided earlyDate .standard
  obtain ⟨hunknown | ⟨-, hsecond⟩, -⟩ := (hfound 1984).mp hyear
  · exact absurd hunknown (by decide)
  · exact ⟨by decide, hyear, (himprint 1984).mp hsecond,
      fun year hother => hsame _ 1984 year rfl hyear hother, by decide,
      hearly 300 (by decide) (by decide)⟩

end Marc
