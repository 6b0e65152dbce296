/-
  ListenerReview/Proofs/Rules/Reading.lean
  ========================================
  **What a rule text says** — the categories are the headings of its lines, and a line
  of terms belongs to the nearest heading above it.

  The reader goes through the lines once and keeps the index of the open category.
  Here the same set is described without any state: the names are the headings in
  order of first appearance, and the terms of a name are what the lines under it add,
  where each line looks back to the headings of the lines above it (`termsUnder`).  The
  invariant `Gathered` says that the reader has what the lines so far describe, so the
  views of the set that it ends with are those of the description (`names_ofText`,
  `termsOf_ofText`).

  From this follows how texts are joined: with a heading at the start of the second
  text, no line looks back beyond it, and the joined text describes what normalizing
  makes of the categories of both (`ofText_join`).
-/
import ListenerReview.Proofs.Rules.Ordered

namespace ListenerReview.RuleSet

/-! ### Headings -/

theorem isNameChar_iff (c : Char) :
    isNameChar c = true ↔
      ('a' ≤ c ∧ c ≤ 'z') ∨ ('A' ≤ c ∧ c ≤ 'Z') ∨ ('0' ≤ c ∧ c ≤ '9') ∨ c = '_' := by
  delta isNameChar Char.isAlphanum Char.isAlpha Char.isUpper Char.isLower Char.isDigit
  simp only [Bool.or_eq_true, Bool.and_eq_true, decide_eq_true_eq, beq_iff_eq, Char.le_def,
    ge_iff_le]
  tauto

/-- A line opens a category exactly when it is a word in brackets. -/
theorem header?_eq_some_iff (line name : List Char) :
    header? line = some name ↔
      line = '[' :: name ++ [']'] ∧ name ≠ [] ∧ ∀ c ∈ name, isNameChar c = true := by
  constructor
  · intro h
    unfold header? at h
    split at h
    · next rest =>
      dsimp only at h
      split at h
      · next hword =>
        cases h
        simp only [Bool.and_eq_true, decide_eq_true_eq, Bool.not_eq_true',
          List.isEmpty_eq_false_iff, List.all_eq_true] at hword
        obtain ⟨⟨hlast, hne⟩, hall⟩ := hword
        obtain ⟨word, rfl⟩ := List.getLast?_eq_some_iff.mp hlast
        rw [List.dropLast_concat] at hne hall ⊢
        exact ⟨rfl, hne, hall⟩
      · cases h
    · cases h
  · rintro ⟨rfl, hne, hall⟩
    simp [header?, hne, List.all_eq_true.mpr hall]

/-- The lower-case name in a line that opens a category. -/
def heading? (line : List Char) : Option String :=
  (header? line).map fun name => Text.lowerString (String.ofList name)

theorem heading?_of_header {line name : List Char} (h : header? line = some name) :
    heading? line = some (Text.lowerString (String.ofList name)) := by
  rw [heading?, h, Option.map_some]

/-- The lower-case names in the lines that open categories, in order. -/
def headings (lines : List (List Char)) : List String := lines.filterMap heading?

theorem headings_append (lines more : List (List Char)) :
    headings (lines ++ more) = headings lines ++ headings more :=
  List.filterMap_append

/-! ### Terms -/

/-- The comma-separated fragments of a line, trimmed and without the blank ones. -/
def fragments (line : List Char) : List String :=
  (((line.splitOn ',').map Text.trim).filter (!·.isEmpty)).map String.ofList

theorem usable_splitOn (line : List Char) :
    usable ((line.splitOn ',').map String.ofList) = fragments line := by
  rw [usable, fragments, List.map_map, List.map_congr_left (g := String.ofList ∘ Text.trim)
    fun t _ => by rw [Function.comp, String.toList_ofList]; rfl, ← List.map_map, List.filter_map]
  congr 2
  funext t
  cases t <;> simp

/-- What a line that stands under other lines adds to the category of the given name: its fragments,
    if it is no heading and the nearest heading above has that name. -/
def addedBy (above : List (List Char)) (name : String) (line : List Char) : List String :=
  if heading? line = none ∧ (headings above).getLast? = some name then fragments line else []

/-- What the lines add to the category of the given name. -/
def termsUnder (lines : List (List Char)) (name : String) : List String :=
  (lines.mapIdx fun i line => addedBy (lines.take i) name line).flatten

theorem termsUnder_append (lines more : List (List Char)) (name : String) :
    termsUnder (lines ++ more) name =
      termsUnder lines name ++
        (more.mapIdx fun i line => addedBy (lines ++ more.take i) name line).flatten := by
  rw [termsUnder, List.mapIdx_append, List.flatten_append, termsUnder]
  congr 2
  · rw [List.mapIdx_eq_mapIdx_iff]
    intro i hi
    rw [List.take_append_of_le_length (Nat.le_of_lt hi)]
  · rw [List.mapIdx_eq_mapIdx_iff]
    intro i _
    rw [Nat.add_comm, List.take_length_add_append]

theorem termsUnder_concat (lines : List (List Char)) (line : List Char) (name : String) :
    termsUnder (lines ++ [line]) name = termsUnder lines name ++ addedBy lines name line := by
  rw [termsUnder_append]
  simp

/-- A heading adds no terms. -/
theorem addedBy_heading {line : List Char} {heading : String} (h : heading? line = some heading)
    (above : List (List Char)) (name : String) : addedBy above name line = [] := by
  rw [addedBy, h, if_neg]
  rintro ⟨hnone, -⟩
  cases hnone

/-! ### Reading line by line -/

/-- The reader has the set that the lines so far describe, and holds the index of their last
    heading. -/
structure Gathered (lines : List (List Char)) (reading : Reading) : Prop where
  normal : reading.rules.Normal
  names_eq : reading.rules.names = (headings lines).eraseDups
  termsOf_eq : ∀ name, reading.rules.termsOf name = termsUnder lines name
  opened : ∀ index, reading.current = some index →
    ∃ name, reading.rules.names[index]? = some name ∧ (headings lines).getLast? = some name
  unopened : reading.current = none → headings lines = []

theorem gathered_nil : Gathered [] ⟨empty, none⟩ where
  normal := normal_empty
  names_eq := rfl
  termsOf_eq _ := rfl
  opened _ h := by cases h
  unopened _ := rfl

variable {lines : List (List Char)} {reading : Reading}

theorem Gathered.takeHeading (h : Gathered lines reading) {line name : List Char}
    (hheader : header? line = some name) : Gathered (lines ++ [line]) (reading.takeLine line) := by
  have hheading := heading?_of_header hheader
  have hheadings : headings (lines ++ [line]) =
      headings lines ++ [Text.lowerString (String.ofList name)] := by
    rw [headings_append, headings, headings, List.filterMap_cons, hheading]
    rfl
  have htake : reading.takeLine line =
      ⟨(reading.rules.openCategory (String.ofList name)).1,
        some (reading.rules.openCategory (String.ofList name)).2⟩ := by
    rw [Reading.takeLine, hheader]
  rw [htake]
  constructor
  · exact normal_openCategory h.normal _
  · rw [names_openCategory, h.names_eq, hheadings, eraseDups_concat]
    simp only [List.mem_eraseDups]
  · intro other
    rw [termsOf_openCategory, h.termsOf_eq, termsUnder_concat, addedBy_heading hheading,
      List.append_nil]
  · rintro index ⟨⟩
    exact ⟨_, getElem?_openCategory _ _, by rw [hheadings, List.getLast?_concat]⟩
  · intro hnone
    cases hnone

/-- A line that is no heading goes to the category of the last one, if there is one. -/
theorem Gathered.takeTerms (h : Gathered lines reading) {line : List Char}
    (hheader : header? line = none) : Gathered (lines ++ [line]) (reading.takeLine line) := by
  have hheading : heading? line = none := by rw [heading?, hheader, Option.map_none]
  have hheadings : headings (lines ++ [line]) = headings lines := by
    rw [headings_append, headings, headings, List.filterMap_cons, hheading]
    exact List.append_nil _
  cases hcurrent : reading.current with
  | none =>
    have htake : reading.takeLine line = reading := by
      rw [Reading.takeLine, hheader, hcurrent]
    rw [htake]
    refine ⟨h.normal, hheadings ▸ h.names_eq, ?_, hheadings ▸ h.opened, hheadings ▸ h.unopened⟩
    intro name
    rw [h.termsOf_eq, termsUnder_concat, addedBy, h.unopened hcurrent]
    simp
  | some index =>
    obtain ⟨name, hname, hlast⟩ := h.opened index hcurrent
    have htake : reading.takeLine line =
        ⟨reading.rules.pushTerms index ((line.splitOn ',').map String.ofList), some index⟩ := by
      rw [Reading.takeLine, hheader, hcurrent]
    rw [htake]
    constructor
    · exact normal_pushTerms h.normal _ _
    · rw [names_pushTerms, hheadings]
      exact h.names_eq
    · intro other
      rw [termsOf_pushTerms h.normal.distinct hname, h.termsOf_eq, termsUnder_concat, addedBy,
        usable_splitOn, hlast]
      simp only [hheading, true_and, Option.some.injEq, eq_comm]
    · rintro index ⟨⟩
      rw [names_pushTerms, hheadings]
      exact ⟨name, hname, hlast⟩
    · intro hnone
      cases hnone

theorem Gathered.takeLine (h : Gathered lines reading) (line : List Char) :
    Gathered (lines ++ [line]) (reading.takeLine line) := by
  cases hheader : header? line with
  | some name => exact h.takeHeading hheader
  | none => exact h.takeTerms hheader

theorem gathered_foldl (lines : List (List Char)) :
    Gathered lines (lines.foldl Reading.takeLine ⟨empty, none⟩) := by
  induction lines using List.reverseRecOn with
  | nil => exact gathered_nil
  | append_singleton lines line ih =>
    rw [List.foldl_append]
    exact ih.takeLine line

theorem names_ofText (text : String) :
    (ofText text).names = (headings (ruleLines text.toList)).eraseDups :=
  (gathered_foldl _).names_eq

theorem termsOf_ofText (text : String) (name : String) :
    (ofText text).termsOf name = termsUnder (ruleLines text.toList) name :=
  (gathered_foldl _).termsOf_eq name

/-- **What a rule text says.**  Of the lines between line feeds, trimmed and without the blank ones,
    those that are a word of ASCII letters, digits and underscores in brackets are headings.  The
    categories are the lower-case forms of their words, each once, in order of first appearance;
    and the terms of a category are, in the order of the text, the trimmed and not blank
    comma-separated fragments of all other lines whose nearest heading above has that name. -/
theorem ofText_describes (text : String) :
    let lines := ((text.toList.splitOn '\n').map Text.trim).filter (!·.isEmpty)
    ofText text = ⟨(headings lines).eraseDups.map fun name => ⟨name, termsUnder lines name⟩⟩ ∧
      ∀ line name : List Char, header? line = some name ↔
        line = '[' :: name ++ [']'] ∧ name ≠ [] ∧ ∀ c ∈ name,
          ('a' ≤ c ∧ c ≤ 'z') ∨ ('A' ≤ c ∧ c ≤ 'Z') ∨ ('0' ≤ c ∧ c ≤ '9') ∨ c = '_' := by
  intro lines
  constructor
  · have hcategories := categories_eq (normal_ofText text).distinct
    rw [names_ofText] at hcategories
    simp only [termsOf_ofText] at hcategories
    exact congrArg RuleSet.mk hcategories
  · intro line name
    rw [header?_eq_some_iff]
    simp only [isNameChar_iff]

/-- Above the first heading a line adds nothing; a heading comes again in other letters; and
    brackets around what is no word make a line of terms. -/
example :
    let lines := ["lost".toList, "[Red]".toList, "a, ,b".toList, "[]".toList, "[RED]".toList,
      "c".toList]
    headings lines = ["red", "red"] ∧ termsUnder lines "red" = ["a", "b", "[]", "c"] := by
  decide +kernel

/-! ### Joining texts -/

theorem ruleLines_append (text more : List Char) :
    ruleLines (text ++ '\n' :: more) = ruleLines text ++ ruleLines more := by
  rw [ruleLines, Text.pieces, List.splitOn, List.splitOnP_append_cons _ _ (by simp),
    List.map_append, List.filter_append]
  rfl

/-- Under a heading of their own, lines do not look back to the lines above it. -/
theorem termsUnder_append_heading (lines : List (List Char)) {first : List Char} {heading : String}
    (h : heading? first = some heading) (rest : List (List Char)) (name : String) :
    termsUnder (lines ++ first :: rest) name =
      termsUnder lines name ++ termsUnder (first :: rest) name := by
  rw [termsUnder_append, termsUnder.eq_def (first :: rest)]
  congr 2
  rw [List.mapIdx_eq_mapIdx_iff]
  intro i hi
  cases i with
  | zero => rw [List.getElem_cons_zero, addedBy_heading h, addedBy_heading h]
  | succ i =>
    have hsome : headings ((first :: rest).take (i + 1)) = heading :: headings (rest.take i) := by
      rw [List.take_succ_cons, headings, List.filterMap_cons, h]
      rfl
    rw [addedBy, addedBy, headings_append, List.getLast?_append, hsome, List.getLast?_cons,
      Option.some_or]

/-- **Joining texts is merging what they say.**  When the first line of the second text that is not
    blank is a heading, the joined text has the rules that normalizing makes of the categories of
    the first text followed by those of the second. -/
theorem ofText_join (text more : String)
    (h : ∀ line ∈ (ruleLines more.toList).head?, (header? line).isSome) :
    ofText (text ++ "\n" ++ more) =
      normalized ⟨(ofText text).categories ++ (ofText more).categories⟩ := by
  have hlines : ruleLines (text ++ "\n" ++ more).toList =
      ruleLines text.toList ++ ruleLines more.toList := by
    rw [← ruleLines_append]
    simp
  have hnormal (c : Category) (hc : c ∈ (ofText text).categories ++ (ofText more).categories) :
      Text.lowerString c.name = c.name ∧ ∀ t ∈ c.terms, IsTerm t := by
    rcases List.mem_append.mp hc with hc | hc
    · exact ⟨(normal_ofText text).lower _ (List.mem_map_of_mem hc), (normal_ofText text).terms c hc⟩
    · exact ⟨(normal_ofText more).lower _ (List.mem_map_of_mem hc), (normal_ofText more).terms c hc⟩
  apply eq_of_views (normal_ofText _).distinct
  · rw [names_normalized_of_lower fun c hc => (hnormal c hc).1, names_append, names_ofText,
      names_ofText, names_ofText, hlines, headings_append, eraseDups_append_eraseDups]
  · intro name
    rw [termsOf_normalized_of_terms (fun c hc => (hnormal c hc).1) fun c hc => (hnormal c hc).2,
      termsOf_append, termsOf_ofText, termsOf_ofText, termsOf_ofText, hlines]
    cases hmore : ruleLines more.toList with
    | nil =>
      rw [List.append_nil]
      exact (List.append_nil _).symm
    | cons first rest =>
      obtain ⟨word, hword⟩ := Option.isSome_iff_exists.mp (h first (by rw [hmore]; rfl))
      exact termsUnder_append_heading _ (heading?_of_header hword) rest name

/-- The second text opens a category of the first again, between new ones. -/
theorem ofText_join_reopened :
    let text := "lost\n[red]\na, b\n[blue]"
    let more := " \n [Green]\n[RED]\nc,\n[blue]\nd"
    (∀ line ∈ (ruleLines more.toList).head?, (header? line).isSome = true) ∧
      ofText (text ++ "\n" ++ more) =
        normalized ⟨(ofText text).categories ++ (ofText more).categories⟩ ∧
      ofText (text ++ "\n" ++ more) =
        ⟨[⟨"red", ["a", "b", "c"]⟩, ⟨"blue", ["d"]⟩, ⟨"green", []⟩]⟩ := by
  have h : ∀ line ∈ (ruleLines " \n [Green]\n[RED]\nc,\n[blue]\nd".toList).head?,
      (header? line).isSome := by decide +kernel
  exact ⟨h, ofText_join _ _ h, by decide +kernel⟩

end ListenerReview.RuleSet
