import Marc.Proofs.ControlNumber
import Marc.Proofs.Distinct
import Marc.Proofs.Extraction.Alone
import Marc.Proofs.Flattening.Entries
import Marc.Proofs.Text.Surroundings

/-!
# The control numbers of a record

The numbers of a record (`oclc_numbers`) are cleaned after the strings that they stand in have been
flattened, which trims these strings and leaves out equal ones. For numbers that are written as they
should be, none of this shows: the strings can be read one by one.

Results:
* `clean_of_isWritten`: of a number that is written as it should be, cleaning leaves the digits.
* `ofRecord_eq`: the numbers of a record without the lists in between.
* `ofRecord_of_wellNumbered`: **the numbers of a record** are the digits of its fields 001 and 035,
  in their order.
-/

namespace Marc.ControlNumber

open Text

variable {text run mark : List Char} {s : String} {c : Char} {record : Record}

/-! ## Numbers as they are written -/

/-- The text is the number, behind a mark or none, with white space around. -/
def IsWritten (text run : List Char) : Prop :=
  ∃ before mark after, text = before ++ (mark ++ run ++ after) ∧ before.all isBlank = true ∧
    (mark = [] ∨ mark ∈ marks) ∧ run ≠ [] ∧ run.all Char.isDigit = true ∧ after.all isBlank = true

/-- The first run of digits. -/
def firstDigits (text : List Char) : List Char :=
  (text.dropWhile fun c => !c.isDigit).takeWhile Char.isDigit

/-- The number that the string stands for: its digits, and nothing for a vendor's number. -/
def number? (s : String) : Option String :=
  if vendorMark <+: s.toList then none else some (String.ofList (firstDigits s.toList))

theorem not_isDigit_of_not_isDecimalDigit (h : isDecimalDigit c = false) : c.isDigit = false :=
  Bool.eq_false_iff.mpr fun hd => by simp [isDecimalDigit_of_isDigit hd] at h

theorem not_isDigit_of_isBlank (h : isBlank c = true) : c.isDigit = false :=
  not_isDigit_of_not_isDecimalDigit (not_isDecimalDigit_of_isBlank h)

theorem not_isDigit_of_mem_mark (h : mark = [] ∨ mark ∈ marks) (hc : c ∈ mark) :
    c.isDigit = false := by
  rcases h with rfl | hm
  · exact absurd hc List.not_mem_nil
  · exact not_isDigit_of_not_isDecimalDigit (not_isDecimalDigit_of_mem_mark mark hm c hc)

theorem IsWritten.ne_nil (h : IsWritten text run) : run ≠ [] := by
  obtain ⟨-, -, -, -, -, -, hne, -, -⟩ := h
  exact hne

theorem IsWritten.firstDigits_eq (h : IsWritten text run) : firstDigits text = run := by
  obtain ⟨before, mark, after, rfl, hb, hm, hne, hd, ha⟩ := h
  rw [List.all_eq_true] at hb hd ha
  have hfront : ∀ c ∈ before ++ mark, (!c.isDigit) = true := by
    intro c hc
    rcases List.mem_append.mp hc with hc | hc
    · simp [not_isDigit_of_isBlank (hb c hc)]
    · simp [not_isDigit_of_mem_mark hm hc]
  have hrun : (run ++ after).dropWhile (fun c => !c.isDigit) = run ++ after := by
    obtain ⟨c, tail, rfl⟩ := List.exists_cons_of_ne_nil hne
    exact List.dropWhile_cons_of_neg (by simp [hd c List.mem_cons_self])
  have hafter : after.takeWhile Char.isDigit = [] := by
    cases after with
    | nil => rfl
    | cons c after =>
      exact List.takeWhile_cons_of_neg (by simp [not_isDigit_of_isBlank (ha c List.mem_cons_self)])
  have hassoc : before ++ (mark ++ run ++ after) = (before ++ mark) ++ (run ++ after) := by simp
  unfold firstDigits
  rw [hassoc, List.dropWhile_append_of_pos hfront, hrun, List.takeWhile_append_of_pos hd, hafter,
    List.append_nil]

theorem IsWritten.not_vendor (h : IsWritten text run) : ¬ vendorMark <+: text := by
  intro hstart
  have hs : 's' ∈ text := hstart.subset (by decide)
  obtain ⟨before, mark, after, rfl, hb, hm, -, hd, ha⟩ := h
  rw [List.all_eq_true] at hb hd ha
  have hmarks : ∀ mark ∈ marks, 's' ∉ mark := by decide
  simp only [List.mem_append] at hs
  rcases hs with hs | (hs | hs) | hs
  · exact absurd (hb 's' hs) (by decide)
  · rcases hm with rfl | hm
    · exact List.not_mem_nil hs
    · exact hmarks mark hm hs
  · exact absurd (hd 's' hs) (by decide)
  · exact absurd (ha 's' hs) (by decide)

/-- Of a number that is written as it should be, trimming leaves the digits and the mark, if there
is one. -/
theorem IsWritten.trim_eq (h : IsWritten text run) :
    ∃ mark, trim text = mark ++ run ∧ (mark = [] ∨ mark ∈ marks) ∧
      DigitFirst run ∧ ¬ Marked run := by
  obtain ⟨before, mark, after, rfl, hb, hm, hne, hd, ha⟩ := h
  rw [List.all_eq_true] at hb hd ha
  have hdecimal : ∀ c ∈ run, isDecimalDigit c = true :=
    fun c hc => isDecimalDigit_of_isDigit (hd c hc)
  have hvisible : ∀ c ∈ mark ++ run, isBlank c = false := by
    intro c hc
    rcases List.mem_append.mp hc with hc | hc
    · rcases hm with rfl | hm
      · exact absurd hc List.not_mem_nil
      · exact not_isBlank_of_mem_mark mark hm c hc
    · exact not_isBlank_of_isDecimalDigit (hdecimal c hc)
  have hsolid : Solid (mark ++ run) :=
    ⟨List.append_ne_nil_of_right_ne_nil mark hne, fun c hc => hvisible c (List.mem_of_mem_head? hc),
      fun c hc => hvisible c (List.mem_of_mem_getLast? hc)⟩
  refine ⟨mark, trim_between_blanks hsolid hb ha, hm, ?_, ?_⟩
  · obtain ⟨c, tail, rfl⟩ := List.exists_cons_of_ne_nil hne
    exact digitFirst_cons.mpr (hdecimal c List.mem_cons_self)
  · rintro ⟨other, hother, d, -, hheld⟩
    obtain ⟨c, tail, rfl⟩ := List.exists_cons_of_ne_nil (mark_ne_nil other hother)
    have hc := hdecimal c (hheld.subset (by simp))
    rw [not_isDecimalDigit_of_mem_mark _ hother c List.mem_cons_self] at hc
    exact absurd hc Bool.false_ne_true

/-- Of a number that is written as it should be, cleaning leaves the digits. -/
theorem clean_of_isWritten (h : IsWritten s.toList run) : clean s = String.ofList run := by
  rw [← String.toList_inj, toList_clean h.not_vendor, String.toList_ofList]
  obtain ⟨mark, htrim, hm, hd, hp⟩ := h.trim_eq
  have hself : unmark run = run := unmark_eq_self_iff.mpr hp
  rw [htrim]
  rcases hm with rfl | hm
  · exact hself
  · rw [unmark_mark_append_digit hm hd, hself]

/-! ## Trimming before cleaning -/

theorem vendor_trim (h : vendorMark <+: text) : vendorMark <+: trim text := by
  obtain ⟨tail, rfl⟩ := h
  have htrim : trim (vendorMark ++ tail) = vendorMark ++ dropEndWhile isBlank tail := by
    show trim ('s' :: 's' :: 'j' :: tail) = _
    rw [trim_cons_of_not_blank (by decide), dropEndWhile_cons_of_neg (by decide),
      dropEndWhile_cons_of_neg (by decide)]
    rfl
  rw [htrim]
  exact List.prefix_append vendorMark _

theorem IsWritten.trim (h : IsWritten text run) : IsWritten (trim text) run := by
  obtain ⟨mark, htrim, hm, -, -⟩ := h.trim_eq
  obtain ⟨-, -, -, -, -, -, hne, hd, -⟩ := h
  exact ⟨[], mark, [], by simp [htrim], rfl, hm, hne, hd, rfl⟩

theorem trimmed_clean (s : String) : trimmed (clean s) = clean s := by
  by_cases hs : vendorMark <+: s.toList
  · rw [clean_of_vendor hs]
    rfl
  · rw [← String.toList_inj, toList_trimmed, toList_clean hs, unmark_trim, trim_trim]

/-! ## The numbers of a record -/

/-- The cleaned string, unless nothing is left of it. -/
def cleaned? (s : String) : Option String := if clean s = "" then none else some (clean s)

theorem entries_map_clean : ∀ strings : List String,
    Distinct.entries (strings.map clean) = strings.filterMap cleaned?
  | [] => rfl
  | s :: strings => by
    have hrest := entries_map_clean strings
    rw [List.map_cons]
    by_cases hs : clean s = ""
    · have hnone : cleaned? s = none := if_pos hs
      rw [List.filterMap_cons_none hnone, ← hrest, hs]
      rfl
    · have hsome : cleaned? s = some (clean s) := if_neg hs
      rw [List.filterMap_cons_some hsome, Distinct.entries_cons hs, hrest, trimmed_clean]

/-- The numbers of a record without the lists in between: of the strings in field 001 and of the
extracted ones, trimmed, those that cleaning leaves something of. -/
theorem ofRecord_eq (record : Record) :
    ofRecord record = ((record.directText "001" ::
      Distinct.entries ((extractText record "035a:035z").flatMap Value.strings)).filterMap
        cleaned?).eraseDups := by
  unfold ofRecord
  rw [← List.map_cons, Distinct.addAll_nil_left, entries_map_clean, Flattening.apply_raw,
    ← List.singleton_append, List.filterMap_append, Distinct.eraseDups_append_filterMap,
    ← List.filterMap_append]
  rfl

/-- The strings that hold control numbers, in their order: the direct value of field 001, then the
subfields 035$a, then the subfields 035$z. -/
def numberStrings (record : Record) : List String :=
  (record.directValues "001" ++ ((record.withTag "035").flatMap fun field => field.valuesFor 'a') ++
    (record.withTag "035").flatMap fun field => field.valuesFor 'z').filter fun s => s ≠ ""

/-- The record has one field 001 at most, its control numbers are written as they should be or are
vendors' numbers, and its fields 035 are not linked. -/
structure WellNumbered (record : Record) : Prop where
  single : (record.withTag "001").length ≤ 1
  written : ∀ s ∈ numberStrings record, vendorMark <+: s.toList ∨ ∃ run, IsWritten s.toList run
  unlinked : Extraction.Unlinked record "035"

theorem number?_of_isWritten (h : IsWritten s.toList run) :
    number? s = some (String.ofList run) := by
  unfold number?
  rw [if_neg h.not_vendor, h.firstDigits_eq]

theorem cleaned?_eq_number? (h : vendorMark <+: s.toList ∨ ∃ run, IsWritten s.toList run) :
    cleaned? s = number? s := by
  unfold cleaned?
  rcases h with hv | ⟨run, hrun⟩
  · rw [clean_of_vendor hv, if_pos rfl]
    exact (if_pos hv).symm
  · have hne : String.ofList run ≠ "" := by
      rw [ne_eq, ← String.toList_eq_nil_iff, String.toList_ofList]
      exact hrun.ne_nil
    rw [clean_of_isWritten hrun, number?_of_isWritten hrun, if_neg hne]

theorem cleaned?_trimmed (h : vendorMark <+: s.toList ∨ ∃ run, IsWritten s.toList run) :
    cleaned? (trimmed s) = number? s := by
  rcases h with hv | ⟨run, hrun⟩
  · have htrimmed : vendorMark <+: (trimmed s).toList := by
      rw [toList_trimmed]
      exact vendor_trim hv
    rw [cleaned?_eq_number? (.inl htrimmed)]
    unfold number?
    rw [if_pos hv, if_pos htrimmed]
  · have htrimmed : IsWritten (trimmed s).toList run := by
      rw [toList_trimmed]
      exact hrun.trim
    rw [cleaned?_eq_number? (.inr ⟨run, htrimmed⟩), number?_of_isWritten htrimmed,
      number?_of_isWritten hrun]

/-- Without links, the extracted strings are those of the fields 035. -/
theorem strings_extractText_unlinked (h : Extraction.Unlinked record "035") :
    (extractText record "035a:035z").flatMap Value.strings =
      (((record.withTag "035").flatMap fun field => field.valuesFor 'a') ++
        (record.withTag "035").flatMap fun field => field.valuesFor 'z').filter fun s => s ≠ "" := by
  have hcompile : Spec.compile "035a:035z" = [⟨"035", ['a']⟩, ⟨"035", ['z']⟩] := by decide
  have hextract : extract record [⟨"035", ['a']⟩, ⟨"035", ['z']⟩] =
      Extraction.ownValues record ⟨"035", ['a']⟩ ++ Extraction.ownValues record ⟨"035", ['z']⟩ := by
    rw [Extraction.extract_of_unlinked (by decide) (by simpa using h)]
    simp
  have hown : ∀ code : Char, (Extraction.ownValues record ⟨"035", [code]⟩).flatMap Value.strings =
      ((record.withTag "035").flatMap fun field => field.valuesFor code).filter fun s => s ≠ "" := by
    intro code
    unfold Extraction.ownValues
    rw [Extraction.strings_selectAll, List.filter_flatMap]
    exact List.flatMap_congr fun field _ => Extraction.map_value_selection field "035" code
  unfold extractText
  rw [hcompile, hextract, List.flatMap_append, hown, hown, List.filter_append]

theorem numberStrings_eq (h : Extraction.Unlinked record "035") :
    numberStrings record = ((record.directValues "001").filter fun s => s ≠ "") ++
      (extractText record "035a:035z").flatMap Value.strings := by
  unfold numberStrings
  rw [strings_extractText_unlinked h, List.append_assoc, List.filter_append]

/-- Of field 001, if there is one at most, the direct value is cleaned. -/
theorem filterMap_directText (h : WellNumbered record) :
    [record.directText "001"].filterMap cleaned? =
      ((record.directValues "001").filter fun s => s ≠ "").filterMap number? := by
  have hnone : cleaned? "" = none := by decide
  have hlength : (record.directValues "001").length ≤ 1 :=
    Nat.le_trans (List.length_filterMap_le _ _) h.single
  have hwritten : ∀ s ∈ record.directValues "001", s ≠ "" →
      vendorMark <+: s.toList ∨ ∃ run, IsWritten s.toList run := by
    intro s hs hne
    refine h.written s (List.mem_filter.mpr ⟨?_, by simpa using hne⟩)
    exact List.mem_append_left _ (List.mem_append_left _ hs)
  unfold Record.directText
  generalize record.directValues "001" = values at hlength hwritten
  rcases values with _ | ⟨s, _ | ⟨next, values⟩⟩
  · exact List.filterMap_cons_none hnone
  · rw [String.intercalate_singleton]
    by_cases hs : s = ""
    · subst hs
      exact List.filterMap_cons_none hnone
    · rw [List.filter_cons_of_pos (by simpa using hs)]
      refine List.filterMap_congr fun t ht => ?_
      obtain rfl := List.mem_singleton.mp ht
      exact cleaned?_eq_number? (hwritten t List.mem_cons_self hs)
  · simp at hlength

/-- Of strings that are not empty, the entries are cleaned. -/
theorem filterMap_entries {strings : List String} (hne : ∀ s ∈ strings, s ≠ "")
    (h : ∀ s ∈ strings, vendorMark <+: s.toList ∨ ∃ run, IsWritten s.toList run) :
    (Distinct.entries strings).filterMap cleaned? = strings.filterMap number? := by
  have hself : strings.filter (fun s => s ≠ "") = strings :=
    List.filter_eq_self.mpr fun s hs => by simpa using hne s hs
  unfold Distinct.entries
  rw [hself, List.filterMap_map]
  refine List.filterMap_congr fun s hs => ?_
  rw [Function.comp_apply]
  exact cleaned?_trimmed (h s hs)

/-- **The numbers of a record** are the digits of its field 001, of its subfields 035$a and of its
subfields 035$z, in this order and that of the record, without those that came before. Vendors'
numbers count for nothing. -/
theorem ofRecord_of_wellNumbered (h : WellNumbered record) :
    ofRecord record = ((numberStrings record).filterMap number?).eraseDups ∧
      ∀ (s : String) (run : List Char), IsWritten s.toList run →
        number? s = some (String.ofList run) := by
  refine ⟨?_, fun s run hrun => number?_of_isWritten hrun⟩
  have hstrings := numberStrings_eq h.unlinked
  have hne : ∀ s ∈ (extractText record "035a:035z").flatMap Value.strings, s ≠ "" := by
    intro s hs
    rw [strings_extractText_unlinked h.unlinked] at hs
    simpa using List.of_mem_filter hs
  have hwritten : ∀ s ∈ (extractText record "035a:035z").flatMap Value.strings,
      vendorMark <+: s.toList ∨ ∃ run, IsWritten s.toList run := by
    intro s hs
    refine h.written s ?_
    rw [hstrings]
    exact List.mem_append_right _ hs
  rw [ofRecord_eq, ← List.singleton_append, List.filterMap_append, filterMap_directText h,
    filterMap_entries hne hwritten, ← List.filterMap_append, hstrings]

/-- A number in field 001 and twice in field 035, under other marks, with a cancelled number between
and a vendor's number in a later field. -/
def numberedTwice : Record :=
  [.control "001" "ocm12345 ",
   (Field.empty "035" ' ' ' ').withSubfields [⟨'a', "(OCoLC)12345"⟩, ⟨'z', "(OCoLC)999"⟩],
   (Field.empty "035" ' ' ' ').withSubfields
     [⟨'a', "ssj0001"⟩, ⟨'a', ""⟩, ⟨'a', "\u3000on0777"⟩, ⟨'z', "12345"⟩],
   (Field.empty "880" ' ' ' ').withSubfields [⟨'6', "245-01/$1"⟩, ⟨'a', "題名"⟩]]

theorem ofRecord_of_wellNumbered_twice :
    WellNumbered numberedTwice ∧ ofRecord numberedTwice = ["12345", "0777", "999"] := by
  have hwritten : ∀ s ∈ numberStrings numberedTwice,
      vendorMark <+: s.toList ∨ ∃ run, IsWritten s.toList run := by
    have hstrings : numberStrings numberedTwice = ["ocm12345 ", "(OCoLC)12345", "ssj0001",
        "\u3000on0777", "(OCoLC)999", "12345"] := by decide
    rw [hstrings]
    simp only [List.mem_cons, List.not_mem_nil, or_false]
    rintro s (rfl | rfl | rfl | rfl | rfl | rfl)
    · exact .inr ⟨"12345".toList, [], "ocm".toList, [' '], by decide⟩
    · exact .inr ⟨"12345".toList, [], "(OCoLC)".toList, [], by decide⟩
    · exact .inl (by decide)
    · exact .inr ⟨"0777".toList, ['\u3000'], "on".toList, [], by decide⟩
    · exact .inr ⟨"999".toList, [], "(OCoLC)".toList, [], by decide⟩
    · exact .inr ⟨"12345".toList, [], [], [], by decide⟩
  have hnumbered : WellNumbered numberedTwice := ⟨by decide, hwritten, ⟨by decide, by decide⟩⟩
  refine ⟨hnumbered, ?_⟩
  rw [(ofRecord_of_wellNumbered hnumbered).1]
  decide

end Marc.ControlNumber
