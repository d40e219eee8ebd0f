import Marc.Proofs.Extraction.Vernacular

/-!
# One list of specs after another

Specs that are taken in one call of `extract` share the set of settled tags, and the second pass
waits for all of them. Two lists of specs stay out of each other's way when no tag is asked for with
codes on both sides (`TagsApart`).

Results:
* `take_andThen`, `foldl_take_andThen`: **the frame of the first pass.** A spec, and a run of specs,
  pass on what others have collected and settled, as long as their own tags are not among it.
* `firstPass_append`, `remaining_append`: both passes over two lists are those over each of them.
* `extractText_colon`: **specs compose.** Two spec strings joined by a colon yield what each yields,
  the first passes before the second passes.
-/

namespace Marc.Extraction

variable {record : Record} {spec : Spec} {a b : List Spec}

/-! ## The frame of the first pass -/

/-- The state `later` reached after `before`: the values follow each other, the settled tags are
put together. -/
def Progress.andThen (before later : Progress) : Progress :=
  ⟨before.values ++ later.values, later.settled ++ before.settled⟩

theorem andThen_start (before : Progress) : before.andThen .start = before := by
  simp [Progress.andThen, Progress.start]

/-- A spec passes on what others did, if they did not settle its tag. -/
theorem take_andThen {before : Progress}
    (h : spec.isDirect = false → spec.tag ∉ before.settled) (later : Progress) :
    (before.andThen later).take record spec = before.andThen (later.take record spec) := by
  cases hd : spec.isDirect with
  | true =>
    unfold Progress.take Progress.andThen
    rw [if_pos hd, if_pos hd, List.append_assoc]
  | false =>
    -- of the state, only the test for the settled tag is read
    have hs : spec.tag ∉ (before.andThen later).settled ↔ spec.tag ∉ later.settled := by
      simp [Progress.andThen, h hd]
    rw [take_of_codes hd, take_of_codes hd]
    by_cases hn : spec.tag ∉ later.settled ∧ Settles record spec
    · rw [if_pos hn, if_pos ⟨hs.mpr hn.1, hn.2⟩]
      simp [Progress.andThen]
    · rw [if_neg hn, if_neg fun hn' => hn ⟨hs.mp hn'.1, hn'.2⟩]
      simp [Progress.andThen]

/-- A run of specs passes on what others did, if they settled none of its tags. -/
theorem foldl_take_andThen {before : Progress} : ∀ (specs : List Spec),
    (∀ spec ∈ specs, spec.isDirect = false → spec.tag ∉ before.settled) →
    ∀ later : Progress, specs.foldl (Progress.take record) (before.andThen later) =
      before.andThen (specs.foldl (Progress.take record) later)
  | [], _, _ => rfl
  | spec :: specs, h, later => by
    rw [List.foldl_cons, List.foldl_cons, take_andThen (h spec List.mem_cons_self)]
    exact foldl_take_andThen specs (fun other ho => h other (List.mem_cons_of_mem _ ho)) _

/-! ## Two lists of specs -/

/-- No tag is asked for with codes in both lists. -/
def TagsApart (a b : List Spec) : Prop :=
  ∀ x ∈ a, ∀ y ∈ b, x.isDirect = false → y.isDirect = false → x.tag ≠ y.tag

instance (a b : List Spec) : Decidable (TagsApart a b) :=
  inferInstanceAs (Decidable (∀ x ∈ a, _))

theorem TagsApart.symm (h : TagsApart a b) : TagsApart b a :=
  fun y hy x hx hcy hcx => (h x hx y hy hcx hcy).symm

/-- What one list settles is not asked for in the other. -/
theorem TagsApart.not_mem_settled (h : TagsApart a b) (hm : spec ∈ b)
    (hc : spec.isDirect = false) : spec.tag ∉ (firstPass record a).settled := by
  rw [(reached_firstPass record a).settled]
  rintro ⟨other, ho, ht, hs⟩
  exact h other ho spec hm hs.1 hc ht

/-- **The first pass over two lists** is that over the first list and then that over the second. -/
theorem firstPass_append (h : TagsApart a b) :
    firstPass record (a ++ b) = (firstPass record a).andThen (firstPass record b) := by
  have hb : b.foldl (Progress.take record) ((firstPass record a).andThen .start) =
      (firstPass record a).andThen (firstPass record b) :=
    foldl_take_andThen b (fun _ hm => h.not_mem_settled hm) .start
  rw [andThen_start] at hb
  unfold firstPass at hb ⊢
  rw [List.foldl_append, hb]

/-- **The second pass over two lists** is that over each list by itself. -/
theorem remaining_append (h : TagsApart a b) :
    (firstPass record (a ++ b)).remaining record (a ++ b) =
      (firstPass record a).remaining record a ++ (firstPass record b).remaining record b := by
  have ha : ∀ spec ∈ a, ((firstPass record a).andThen (firstPass record b)).leavesOpen spec =
      (firstPass record a).leavesOpen spec := fun spec hm =>
    leavesOpen_congr fun hc => by simp [Progress.andThen, h.symm.not_mem_settled hm hc]
  have hb : ∀ spec ∈ b, ((firstPass record a).andThen (firstPass record b)).leavesOpen spec =
      (firstPass record b).leavesOpen spec := fun spec hm =>
    leavesOpen_congr fun hc => by simp [Progress.andThen, h.not_mem_settled hm hc]
  rw [firstPass_append h]
  unfold Progress.remaining
  rw [List.filter_append, List.flatMap_append, List.filter_congr ha, List.filter_congr hb]

theorem extract_append (h : TagsApart a b) (record : Record) :
    extract record (a ++ b) =
      (firstPass record a).values ++ (firstPass record b).values ++
        ((firstPass record a).remaining record a ++ (firstPass record b).remaining record b) := by
  unfold extract
  rw [remaining_append h, firstPass_append h]
  rfl

/-- **Specs compose.** The specs of two strings joined by a colon are those of the first string and
then those of the second. If no tag is asked for with codes in both, they select what each string
selects: first what the first pass yields for each, then what the second pass yields for each. -/
theorem extractText_colon (s t : String) :
    Spec.compile (s ++ ":" ++ t) = Spec.compile s ++ Spec.compile t ∧
      (TagsApart (Spec.compile s) (Spec.compile t) → ∀ record,
        extractText record (s ++ ":" ++ t) =
            (firstPass record (Spec.compile s)).values ++
              (firstPass record (Spec.compile t)).values ++
              ((firstPass record (Spec.compile s)).remaining record (Spec.compile s) ++
                (firstPass record (Spec.compile t)).remaining record (Spec.compile t)) ∧
          (extractText record (s ++ ":" ++ t)).Perm
            (extractText record s ++ extractText record t)) := by
  refine ⟨Spec.compile_colon s t, fun h record => ?_⟩
  unfold extractText
  rw [Spec.compile_colon, extract_append h]
  refine ⟨rfl, ?_⟩
  unfold extract
  rw [List.append_assoc, List.append_assoc]
  exact (List.perm_append_comm_assoc _ _ _).append_left _

/-- The title is asked for on both sides, but on one of them without codes. Where the strings meet,
the tokens are too short for a tag. -/
theorem extractText_colon_nameAndTitle :
    TagsApart (Spec.compile "245a:x") (Spec.compile "10:700ad:008:245") ∧
      (extractText nameAndTitle ("245a:x" ++ ":" ++ "10:700ad:008:245")).Perm
        (extractText nameAndTitle "245a:x" ++ extractText nameAndTitle "10:700ad:008:245") := by
  have h : TagsApart (Spec.compile "245a:x") (Spec.compile "10:700ad:008:245") := by decide
  exact ⟨h, ((extractText_colon "245a:x" "10:700ad:008:245").2 h nameAndTitle).2⟩

end Marc.Extraction
