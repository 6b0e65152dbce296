/-
  ListenerReview/Proofs/Layout/Requests.lean
  ==========================================
  **What a formatter answers after any requests.**

  A formatter is asked for layouts and told to forget, in any order.  Beside it we
  keep the sources that it did not find in its cache since it was last told to
  forget, in the order of the requests (`Formatter.Work`): what was asked and how it
  was answered, and nothing of how the cache works.

  The invariant is `Work.Sound`: the cache remembers only what the formatter would
  work out again, and the order of its keys is the end of those sources, as long as
  there is room.  So the text of an answer is a function of the source and the
  settings, and whether it comes from the cache can be told from the earlier answers
  alone (`Formatter.answer_after`).
-/
import ListenerReview.Proofs.Layout.Queue
import ListenerReview.Proofs.Layout.Transparent

namespace ListenerReview.Formatter

/-! ### One answer -/

/-- How a source is answered: it is empty, over the ceiling, in the cache, or laid out anew. -/
theorem format_cases (formatter : Formatter) (source : String) :
    (source = "" ∧ formatter.format source = (⟨"", false, false⟩, formatter)) ∨
    (source ≠ "" ∧ formatter.ceiling < Text.units16 source.toList ∧
      formatter.format source = (⟨source, true, false⟩, formatter)) ∨
    (source ≠ "" ∧ Text.units16 source.toList ≤ formatter.ceiling ∧
      ∃ layout, formatter.cache.entries[source]? = some layout ∧
        formatter.format source = (⟨layout, false, true⟩,
          { formatter with cache := (formatter.cache.get source).2 })) ∨
    (source ≠ "" ∧ Text.units16 source.toList ≤ formatter.ceiling ∧
      formatter.cache.entries[source]? = none ∧
      formatter.format source =
        (⟨Layout.reformatString formatter.indentUnit source, false, false⟩,
          { formatter with
            cache := (formatter.cache.get source).2.insert source
              (Layout.reformatString formatter.indentUnit source) })) := by
  by_cases hempty : source = ""
  · subst hempty
    exact Or.inl ⟨rfl, format_empty formatter⟩
  · have hisEmpty : ¬ source.isEmpty = true := by simpa using hempty
    by_cases hover : formatter.ceiling < Text.units16 source.toList
    · refine Or.inr (Or.inl ⟨hempty, hover, ?_⟩)
      rw [format, if_neg hisEmpty, if_pos ((exceeds_iff _ _).mpr hover)]
    · have hfits : ¬ exceeds formatter.ceiling source = true :=
        fun hexceeds => hover ((exceeds_iff _ _).mp hexceeds)
      have hle : Text.units16 source.toList ≤ formatter.ceiling := Nat.le_of_not_lt hover
      have hfirst := FormatCache.get_fst formatter.cache source
      rcases hget : formatter.cache.get source with ⟨_ | layout, cache⟩
      · rw [hget] at hfirst
        refine Or.inr (Or.inr (Or.inr ⟨hempty, hle, hfirst.symm, ?_⟩))
        rw [format, if_neg hisEmpty, if_neg hfits, hget]
      · rw [hget] at hfirst
        refine Or.inr (Or.inr (Or.inl ⟨hempty, hle, layout, hfirst.symm, ?_⟩))
        rw [format, if_neg hisEmpty, if_neg hfits, hget]

/-- Whether a source is looked for in the cache and not found there, told from the answer. -/
def misses (formatter : Formatter) (source : String) : Bool :=
  let answer := (formatter.format source).1
  source ≠ "" && !answer.skippedForSize && !answer.cacheHit

theorem capacity_format (formatter : Formatter) (source : String) :
    (formatter.format source).2.cache.capacity = formatter.cache.capacity := by
  obtain ⟨-, -, hget⟩ := FormatCache.get_keeps formatter.cache source
  rcases format_cases formatter source with ⟨-, hformat⟩ | ⟨-, -, hformat⟩ |
    ⟨-, -, layout, -, hformat⟩ | ⟨-, -, -, hformat⟩
  · rw [hformat]
  · rw [hformat]
  · rw [hformat]
    exact hget
  · rw [hformat]
    exact (FormatCache.capacity_insert _ _ _).trans hget

theorem queued_format {formatter : Formatter} (h : formatter.cache.Queued) (source : String) :
    (formatter.format source).2.cache.Queued := by
  have hget := FormatCache.queued_get h source
  rcases format_cases formatter source with ⟨-, hformat⟩ | ⟨-, -, hformat⟩ |
    ⟨-, -, layout, -, hformat⟩ | ⟨-, -, -, hformat⟩
  · rw [hformat]
    exact h
  · rw [hformat]
    exact h
  · rw [hformat]
    exact hget
  · rw [hformat]
    exact FormatCache.queued_insert hget source _

/-! ### Requests -/

/-- What a formatter may be asked to do: to answer with a layout and how it came about, to answer
    with the layout alone, or to forget its layouts. -/
inductive Request where
  | format (source : String)
  | formatText (source : String)
  | clear

/-- A formatter at work, and the sources that it missed since it last forgot its layouts. -/
structure Work where
  formatter : Formatter
  missed : List String

namespace Work

/-- The sources missed when one more is asked for. -/
def missedWith (work : Work) (source : String) : List String :=
  if work.formatter.misses source then work.missed ++ [source] else work.missed

def step (work : Work) : Request → Work
  | .format source => ⟨(work.formatter.format source).2, work.missedWith source⟩
  | .formatText source => ⟨(work.formatter.formatText source).2, work.missedWith source⟩
  | .clear => ⟨work.formatter.clear, []⟩

/-- A new formatter after requests. -/
def after (unit : String) (capacity ceiling : Nat) (requests : List Request) : Work :=
  requests.foldl step ⟨new unit capacity ceiling, []⟩

/-! ### The invariant -/

/-- What a formatter with the given settings holds while it works. -/
structure Sound (unit : String) (capacity ceiling : Nat) (work : Work) : Prop where
  unit_eq : work.formatter.indentUnit = unit
  capacity_eq : work.formatter.cache.capacity = capacity
  ceiling_eq : work.formatter.ceiling = ceiling
  faithful : work.formatter.Faithful
  queued : work.formatter.cache.Queued
  order_eq : work.formatter.cache.order = work.missed.rtake capacity

variable {unit : String} {capacity ceiling : Nat} {work : Work}

theorem sound_new (unit : String) (capacity ceiling : Nat) :
    Sound unit capacity ceiling ⟨new unit capacity ceiling, []⟩ where
  unit_eq := rfl
  capacity_eq := rfl
  ceiling_eq := rfl
  faithful := faithful_new unit capacity ceiling
  queued := FormatCache.queued_empty capacity
  order_eq := by simp [new, FormatCache.empty]

/-- A source has an entry exactly when it is one of the last misses. -/
theorem entry_iff (h : Sound unit capacity ceiling work) (source : String) :
    (∃ layout, work.formatter.cache.entries[source]? = some layout) ↔
      source ∈ work.missed.rtake capacity := by
  rw [← h.order_eq, ← h.queued.contains_iff, FormatCache.contains,
    Std.HashMap.contains_eq_isSome_getElem?, Option.isSome_iff_exists]

/-- The order of the keys after one answer: a hit moves nothing, and a miss is the newest key. -/
theorem order_format (h : Sound unit capacity ceiling work) (source : String) :
    (work.formatter.format source).2.cache.order =
      (work.missedWith source).rtake capacity := by
  obtain ⟨-, horder, hcapacity⟩ := FormatCache.get_keeps work.formatter.cache source
  have hget := FormatCache.queued_get h.queued source
  rcases format_cases work.formatter source with ⟨rfl, hformat⟩ | ⟨-, -, hformat⟩ |
    ⟨-, -, layout, -, hformat⟩ | ⟨hne, -, habsent, hformat⟩
  -- empty sources and those over the ceiling change nothing
  · simp [missedWith, misses, hformat, h.order_eq]
  · simp [missedWith, misses, hformat, h.order_eq]
  -- a hit
  · simp [missedWith, misses, hformat, horder, h.order_eq]
  -- a miss, whose key is not among the last ones yet
  · have hmissed : work.missedWith source = work.missed ++ [source] := by
      simp [missedWith, misses, hformat, hne]
    have hnew : source ∉ (work.formatter.cache.get source).2.order := by
      rw [horder, h.order_eq, ← entry_iff h]
      rintro ⟨layout, hlayout⟩
      rw [habsent] at hlayout
      cases hlayout
    rw [hformat, hmissed]
    refine (FormatCache.order_insert hget source _).trans ?_
    rw [if_neg hnew, horder, hcapacity, h.order_eq, h.capacity_eq]
    exact rtake_concat_rtake work.missed source capacity

/-- One answer keeps the invariant. -/
theorem sound_format (h : Sound unit capacity ceiling work) (source : String) :
    Sound unit capacity ceiling ⟨(work.formatter.format source).2, work.missedWith source⟩ where
  unit_eq := (format_keeps work.formatter source).1.trans h.unit_eq
  capacity_eq := (capacity_format work.formatter source).trans h.capacity_eq
  ceiling_eq := (format_keeps work.formatter source).2.trans h.ceiling_eq
  faithful := faithful_format h.faithful source
  queued := queued_format h.queued source
  order_eq := order_format h source

theorem sound_clear (h : Sound unit capacity ceiling work) :
    Sound unit capacity ceiling ⟨work.formatter.clear, []⟩ where
  unit_eq := h.unit_eq
  capacity_eq := h.capacity_eq
  ceiling_eq := h.ceiling_eq
  faithful := faithful_clearCache work.formatter
  queued := FormatCache.queued_clear work.formatter.cache
  order_eq := by simp [Formatter.clear, FormatCache.clear]

theorem sound_step (h : Sound unit capacity ceiling work) (request : Request) :
    Sound unit capacity ceiling (work.step request) := by
  cases request with
  | format source => exact sound_format h source
  | formatText source => exact sound_format h source
  | clear => exact sound_clear h

theorem sound_foldl (h : Sound unit capacity ceiling work) (requests : List Request) :
    Sound unit capacity ceiling (requests.foldl step work) := by
  induction requests generalizing work with
  | nil => exact h
  | cons request requests ih => exact ih (sound_step h request)

end Work

/-! ### Answers -/

/-- Under the invariant, an answer comes from the cache exactly when the source was missed and
    fewer misses than there is room for came after. -/
theorem cacheHit_iff {unit : String} {capacity ceiling : Nat} {work : Work}
    (h : work.Sound unit capacity ceiling) (source : String) :
    (work.formatter.format source).1.cacheHit = true ↔
      source ≠ "" ∧ Text.units16 source.toList ≤ ceiling ∧
        ∃ older newer, work.missed = older ++ source :: newer ∧ source ∉ newer ∧
          newer.length < capacity := by
  rw [← mem_rtake_iff, ← Work.entry_iff h]
  rcases format_cases work.formatter source with ⟨hempty, hformat⟩ | ⟨-, hover, hformat⟩ |
    ⟨hne, hfits, layout, hlayout, hformat⟩ | ⟨-, -, habsent, hformat⟩
  · subst hempty
    rw [hformat]
    simp
  · rw [h.ceiling_eq] at hover
    rw [hformat]
    constructor
    · intro hfalse
      cases hfalse
    · rintro ⟨-, hfits, -⟩
      omega
  · rw [h.ceiling_eq] at hfits
    rw [hformat]
    exact ⟨fun _ => ⟨hne, hfits, layout, hlayout⟩, fun _ => rfl⟩
  · simp [hformat, habsent]

/-- **A formatter with a cache answers as one without, and its hits are those of a queue.**  After
    any requests, a source gets its layout, or itself if it is empty or over the ceiling; it is
    left as it is for its size exactly when it is over the ceiling; and it is found in the cache
    exactly when it was missed since the layouts were last forgotten and fewer misses than there
    is room for came after its last one.  Empty sources and sources over the ceiling change
    nothing, and asking for the text alone changes what asking for the whole answer does. -/
theorem answer_after (unit : String) (capacity ceiling : Nat) (requests : List Request)
    (source : String) :
    let work := Work.after unit capacity ceiling requests
    let answer := (work.formatter.format source).1
    answer.text = (if source = "" ∨ ceiling < Text.units16 source.toList then source
        else Layout.reformatString unit source) ∧
      (answer.skippedForSize = true ↔ source ≠ "" ∧ ceiling < Text.units16 source.toList) ∧
      (answer.cacheHit = true ↔
        source ≠ "" ∧ Text.units16 source.toList ≤ ceiling ∧
          ∃ older newer, work.missed = older ++ source :: newer ∧ source ∉ newer ∧
            newer.length < capacity) ∧
      (source = "" ∨ ceiling < Text.units16 source.toList →
        (work.formatter.format source).2 = work.formatter) ∧
      work.formatter.formatText source = (answer.text, (work.formatter.format source).2) := by
  intro work answer
  have h : work.Sound unit capacity ceiling :=
    Work.sound_foldl (Work.sound_new unit capacity ceiling) requests
  refine ⟨?_, ?_, cacheHit_iff h source, ?_, rfl⟩
  · have htext := format_text h.faithful source
    rw [h.unit_eq, h.ceiling_eq, textOf] at htext
    refine htext.trans ?_
    by_cases hempty : source = ""
    · subst hempty
      simp [Text.units16, reformatString_empty]
    · simp [hempty]
  · have hskipped := format_skipped work.formatter source
    rw [h.ceiling_eq] at hskipped
    rw [show answer.skippedForSize = _ from hskipped, decide_eq_true_eq]
    constructor
    · intro hover
      refine ⟨?_, hover⟩
      rintro rfl
      simp [Text.units16] at hover
    · exact And.right
  · rintro hpassed
    rcases format_cases work.formatter source with ⟨-, hformat⟩ | ⟨-, -, hformat⟩ |
      ⟨hne, hfits, -⟩ | ⟨hne, hfits, -⟩
    · rw [hformat]
    · rw [hformat]
    · rw [h.ceiling_eq] at hfits
      rcases hpassed with hempty | hover
      · exact absurd hempty hne
      · omega
    · rw [h.ceiling_eq] at hfits
      rcases hpassed with hempty | hover
      · exact absurd hempty hne
      · omega

end ListenerReview.Formatter
