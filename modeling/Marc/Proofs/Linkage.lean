import Marc.Linkage
import Marc.Proofs.Spec

/-!
# Linkages and their texts

A linkage (`LinkageInfo`) is written as a tag, a hyphen, and segments with slashes between them
(`written`): first the number, then any segments, among them the script and the mark of direction.
The first hyphen is the only separator that has to be there; further hyphens belong to the segments,
and slashes in front of it to the tag.

The segments after the number are read one after the other, and each of them changes what was read
so far. What comes out does not depend on how the marks of direction stand among the others.

Results:
* `foldl_withSegment`: **what a run over segments leaves of a linkage**: the script is kept, or else
  the first segment that can be one (`scriptAmong`), and the direction is turned if the mark is
  there.
* `parse?_written`: a written linkage is read as it was.
* `exists_written`: every text with a hyphen is a written linkage.
* `parse?_inverse`: the laws together.
-/

namespace Marc

theorem takeWhile_append_hyphen {head : List Char} (h : '-' ∉ head) (tail : List Char) :
    (head ++ '-' :: tail).takeWhile (· != '-') = head := by
  have hne : ∀ c ∈ head, (c != '-') = true := fun c hc => by
    simpa using ne_of_mem_of_not_mem hc h
  rw [List.takeWhile_append_of_pos hne]
  simp

theorem dropWhile_append_hyphen {head : List Char} (h : '-' ∉ head) (tail : List Char) :
    (head ++ '-' :: tail).dropWhile (· != '-') = '-' :: tail := by
  have hne : ∀ c ∈ head, (c != '-') = true := fun c hc => by
    simpa using ne_of_mem_of_not_mem hc h
  rw [List.dropWhile_append_of_pos hne]
  simp

namespace Linkage

variable {s tag occurrence segment : String} {segments others : List String}

/-! ## Segments -/

/-- The first segment that is neither empty nor the mark of direction; empty when there is none. -/
def scriptAmong (segments : List String) : String :=
  (segments.find? fun segment => segment != "" && segment != "r").getD ""

theorem scriptAmong_cons_of_mem (h : segment = "" ∨ segment = "r") (segments : List String) :
    scriptAmong (segment :: segments) = scriptAmong segments := by
  unfold scriptAmong
  rw [List.find?_cons_of_neg (by rcases h with rfl | rfl <;> decide)]

theorem scriptAmong_cons_of_ne (hempty : segment ≠ "") (hmark : segment ≠ "r")
    (segments : List String) : scriptAmong (segment :: segments) = segment := by
  unfold scriptAmong
  rw [List.find?_cons_of_pos (by simp [hempty, hmark])]
  rfl

/-- The marks of direction do not matter for the script. -/
theorem scriptAmong_filter (segments : List String) :
    scriptAmong (segments.filter (· ≠ "r")) = scriptAmong segments := by
  unfold scriptAmong
  rw [List.find?_filter]
  congr 2
  funext segment
  by_cases hmark : segment = "r" <;> by_cases hempty : segment = "" <;> simp [hmark, hempty]

theorem withSegment_mark (link : Linkage) :
    link.withSegment "r".toList = { link with isReverse := true } := rfl

theorem withSegment_of_ne (h : segment ≠ "r") (link : Linkage) :
    link.withSegment segment.toList =
      { link with script := if link.script = "" then segment else link.script } := by
  have hmark : segment.toList ≠ reverseMark := fun e => h (String.toList_inj.mp e)
  unfold withSegment
  rw [if_neg hmark, String.ofList_toList]
  split <;> rfl

/-- **What a run over segments leaves of a linkage.** By induction on the segments, with any linkage
to begin with: a segment can be the script only as long as there is none. -/
theorem foldl_withSegment (segments : List String) (link : Linkage) :
    (segments.map String.toList).foldl withSegment link =
      { link with
        script := if link.script = "" then scriptAmong segments else link.script
        isReverse := link.isReverse || decide ("r" ∈ segments) } := by
  induction segments generalizing link with
  | nil =>
    obtain ⟨tag, occurrence, script, isReverse⟩ := link
    by_cases h : script = "" <;> simp [scriptAmong, h]
  | cons segment segments ih =>
    rw [List.map_cons, List.foldl_cons]
    by_cases hmark : segment = "r"
    · subst hmark
      rw [withSegment_mark, ih, scriptAmong_cons_of_mem (.inr rfl)]
      simp
    · rw [withSegment_of_ne hmark, ih]
      by_cases hscript : link.script = ""
      · by_cases hempty : segment = ""
        · simp [hscript, hempty, scriptAmong_cons_of_mem]
        · simp [hscript, hempty, scriptAmong_cons_of_ne hempty hmark, Ne.symm hmark]
      · simp [hscript, Ne.symm hmark]

/-! ## Texts -/

/-- The text of a tag, a number and further segments. -/
def written (tag occurrence : String) (segments : List String) : String :=
  tag ++ "-" ++ "/".intercalate (occurrence :: segments)

/-- The parts of a text can be told apart. -/
structure Separable (tag occurrence : String) (segments : List String) : Prop where
  tag : '-' ∉ tag.toList
  occurrence : '/' ∉ occurrence.toList
  segments : ∀ segment ∈ segments, '/' ∉ segment.toList

theorem toList_written (tag occurrence : String) (segments : List String) :
    (written tag occurrence segments).toList =
      tag.toList ++ '-' :: ['/'].intercalate (occurrence.toList :: segments.map String.toList) := by
  unfold written
  rw [String.toList_append, String.toList_append, String.toList_intercalate, List.append_assoc,
    List.map_cons]
  rfl

/-- **A written linkage is read as it was.** -/
theorem parse?_written (h : Separable tag occurrence segments) :
    parse? (written tag occurrence segments) =
      some { tag, occurrence, script := scriptAmong segments
             isReverse := decide ("r" ∈ segments) } := by
  have hsplit : (['/'].intercalate (occurrence.toList :: segments.map String.toList)).splitOn '/' =
      occurrence.toList :: segments.map String.toList := by
    refine List.splitOn_intercalate '/' (fun part hpart => ?_) (List.cons_ne_nil _ _)
    rcases List.mem_cons.mp hpart with rfl | hpart
    · exact h.occurrence
    · obtain ⟨segment, hsegment, rfl⟩ := List.mem_map.mp hpart
      exact h.segments segment hsegment
  unfold parse? ofChars?
  rw [toList_written, takeWhile_append_hyphen h.tag, dropWhile_append_hyphen h.tag]
  simp only [hsplit, List.tail_cons, List.headD_cons, foldl_withSegment, String.ofList_toList,
    if_true, Bool.false_or]

/-- Marks of direction may be moved and repeated. -/
theorem Separable.of_filter_eq (h : Separable tag occurrence segments)
    (hsame : others.filter (· ≠ "r") = segments.filter (· ≠ "r")) :
    Separable tag occurrence others where
  tag := h.tag
  occurrence := h.occurrence
  segments segment hsegment := by
    by_cases hmark : segment = "r"
    · subst hmark
      decide
    · have hm : segment ∈ segments.filter (· ≠ "r") :=
        hsame ▸ List.mem_filter.mpr ⟨hsegment, by simpa using hmark⟩
      exact h.segments segment (List.mem_filter.mp hm).1

/-- **Every text with a hyphen is a written linkage.** -/
theorem exists_written (h : '-' ∈ s.toList) :
    ∃ tag occurrence segments, Separable tag occurrence segments ∧
      written tag occurrence segments = s := by
  obtain ⟨head, tail, hs, hhead⟩ := List.eq_append_cons_of_mem h
  cases hparts : tail.splitOn '/' with
  | nil => exact absurd hparts (List.splitOn_ne_nil '/' tail)
  | cons first parts =>
    have hslash : ∀ part ∈ first :: parts, '/' ∉ part := fun part hpart =>
      Spec.not_mem_of_mem_splitOn (hparts ▸ hpart)
    refine ⟨String.ofList head, String.ofList first, parts.map String.ofList, ⟨?_, ?_, ?_⟩, ?_⟩
    · rwa [String.toList_ofList]
    · rw [String.toList_ofList]
      exact hslash first List.mem_cons_self
    · intro segment hsegment
      obtain ⟨part, hpart, rfl⟩ := List.mem_map.mp hsegment
      rw [String.toList_ofList]
      exact hslash part (List.mem_cons_of_mem _ hpart)
    · have hjoin : ['/'].intercalate (first :: parts) = tail :=
        hparts ▸ List.intercalate_splitOn '/'
      rw [← String.toList_inj, toList_written, hs]
      simp only [String.toList_ofList, List.map_map, Function.comp_def, List.map_id', hjoin]

/-! ## The laws together -/

/-- **Parsing undoes writing.** A linkage is read with the tag and the number that it was written
with, with the first segment that can be a script, and with the direction turned exactly when the
mark of direction is a segment, wherever it stands and however often. These are all texts with a
hyphen, and the others are no linkages. -/
theorem parse?_inverse :
    (∀ tag occurrence segments, Separable tag occurrence segments →
      parse? (written tag occurrence segments) =
        some { tag, occurrence, script := scriptAmong segments
               isReverse := decide ("r" ∈ segments) } ∧
      ∀ others : List String, others.filter (· ≠ "r") = segments.filter (· ≠ "r") →
        ("r" ∈ others ↔ "r" ∈ segments) →
        parse? (written tag occurrence others) = parse? (written tag occurrence segments)) ∧
    (∀ s : String, '-' ∈ s.toList →
      ∃ tag occurrence segments, Separable tag occurrence segments ∧
        written tag occurrence segments = s) ∧
    ∀ s, parse? s = none ↔ '-' ∉ s.toList := by
  refine ⟨fun tag occurrence segments h => ⟨parse?_written h, fun others hsame hmark => ?_⟩,
    fun s h => exists_written h, fun s => parse?_eq_none_iff⟩
  have hscript : scriptAmong others = scriptAmong segments := by
    rw [← scriptAmong_filter others, hsame, scriptAmong_filter]
  rw [parse?_written h, parse?_written (h.of_filter_eq hsame), hscript, decide_eq_decide.mpr hmark]

/-- Separators where they belong to a part, segments that are empty, and the mark of direction in
front of the script and behind it. -/
theorem parse?_inverse_hebrew :
    Separable "24/5" "0-1" ["", "(2", "r", "$1", "r"] ∧
      parse? "24/5-0-1//(2/r/$1/r" = some ⟨"24/5", "0-1", "(2", true⟩ ∧
      parse? "24/5-0-1/r//(2/$1" = some ⟨"24/5", "0-1", "(2", true⟩ ∧
      '-' ∈ "24/5-0-1".toList ∧
      ∃ tag occurrence segments, Separable tag occurrence segments ∧
        written tag occurrence segments = "24/5-0-1" := by
  have hsep : Separable "24/5" "0-1" ["", "(2", "r", "$1", "r"] :=
    ⟨by decide, by decide, by decide⟩
  obtain ⟨hwritten, hexists, -⟩ := parse?_inverse
  obtain ⟨hparse, hmoved⟩ := hwritten _ _ _ hsep
  have hplaces := hmoved ["r", "", "(2", "$1"] (by decide) (by decide)
  exact ⟨hsep, hparse, hplaces.trans hparse, by decide, hexists _ (by decide)⟩

end Linkage

end Marc
