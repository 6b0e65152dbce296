/-
  ListenerReview/Proofs/Listener/Payload.lean
  ===========================================
  **Payloads are deleted leftmost first, each as long as possible.**

  A payload is an encoded opening brace, any characters but closing braces, an encoded
  closing brace, and blanks (`IsPayload`).  `Deletes` says what deleting payloads from
  left to right leaves of a text, without saying how they are found: no payload starts
  before the one that is taken, none that starts with it is longer, and the search goes
  on right after it.

  The search looks at one place at a time.  `length?_sound` and `length?_longest` say
  that it measures the longest payload that starts there; a shorter one cannot have
  more blanks after it, as an encoded brace ends blanks.  Places that start no payload
  are passed over, and what starts later is not hidden by them (`Deletes.cons`), so the
  search gives what `Deletes` asks for (`deletes_strip`) and nothing else does
  (`Deletes.eq_strip`).
-/
import ListenerReview.Listener

namespace ListenerReview

namespace Payload

/-- A payload, with blanks after it. -/
def IsPayload (m : List Char) : Prop :=
  ∃ inner blanks, m = opening ++ inner ++ closing ++ blanks ∧ '}' ∉ inner ∧
    Text.allBlank blanks = true

/-- What is left of a text when payloads are deleted from left to right, each from the first place
    where one starts and as long as one can be. -/
inductive Deletes : List Char → List Char → Prop where
  | done {s : List Char} (none : ∀ earlier m later, s = earlier ++ m ++ later → ¬ IsPayload m) :
      Deletes s s
  | next {before m after left : List Char} (payload : IsPayload m)
      (leftmost : ∀ earlier other later, before ++ m ++ after = earlier ++ other ++ later →
        IsPayload other → before.length ≤ earlier.length)
      (longest : ∀ other later, m ++ after = other ++ later → IsPayload other →
        other.length ≤ m.length)
      (rest : Deletes after left) :
      Deletes (before ++ m ++ after) (before ++ left)

/-! ### The last occurrence of a pattern -/

theorem exists_of_lastIndex? {pattern s : List Char} {i : Nat}
    (h : lastIndex? pattern s = some i) :
    ∃ before after, s = before ++ pattern ++ after ∧ before.length = i := by
  induction s generalizing i with
  | nil => simp [lastIndex?] at h
  | cons c s ih =>
    rw [lastIndex?] at h
    cases hrest : lastIndex? pattern s with
    | some j =>
      rw [hrest] at h
      obtain ⟨before, after, hs, hlength⟩ := ih hrest
      refine ⟨c :: before, after, by simp [hs], ?_⟩
      simpa [hlength] using h
    | none =>
      simp only [hrest, Option.ite_none_right_eq_some, Option.some.injEq] at h
      obtain ⟨hstarts, hzero⟩ := h
      obtain ⟨after, hafter⟩ := List.isPrefixOf_iff_prefix.mp hstarts
      exact ⟨[], after, by simp [hafter], hzero⟩

/-- No occurrence starts after the last one. -/
theorem le_lastIndex? {pattern : List Char} (hpattern : pattern ≠ []) (before after : List Char) :
    ∃ i, lastIndex? pattern (before ++ pattern ++ after) = some i ∧ before.length ≤ i := by
  induction before with
  | nil =>
    obtain ⟨p, ps, rfl⟩ := List.exists_cons_of_ne_nil hpattern
    have hstarts : (p :: ps).isPrefixOf (p :: (ps ++ after)) = true := by simp
    simp only [List.nil_append, List.cons_append, lastIndex?]
    cases lastIndex? (p :: ps) (ps ++ after) with
    | some i => exact ⟨i + 1, rfl, Nat.zero_le _⟩
    | none => exact ⟨0, by simp, Nat.le_refl 0⟩
  | cons c before ih =>
    obtain ⟨i, hi, hle⟩ := ih
    refine ⟨i + 1, ?_, by simpa using hle⟩
    simp only [List.cons_append, lastIndex?, hi]

/-! ### The payload at one place -/

theorem length_pos_of_isPayload {m : List Char} (h : IsPayload m) : 0 < m.length := by
  obtain ⟨inner, blanks, rfl, -, -⟩ := h
  simp [opening]

theorem length?_opening (t : List Char) :
    length? (opening ++ t) = (lastIndex? closing (t.takeWhile (· ≠ '}'))).map fun i =>
      opening.length + (i + closing.length) +
        ((t.drop (i + closing.length)).takeWhile Text.isBlank).length := by
  simp [length?]

/-- What is measured is a payload. -/
theorem length?_sound {s : List Char} {n : Nat} (h : length? s = some n) :
    ∃ m after, s = m ++ after ∧ IsPayload m ∧ m.length = n := by
  by_cases hopen : opening.isPrefixOf s = true
  · obtain ⟨t, rfl⟩ := List.isPrefixOf_iff_prefix.mp hopen
    rw [length?_opening, Option.map_eq_some_iff] at h
    obtain ⟨i, hi, rfl⟩ := h
    obtain ⟨inner, more, htake, rfl⟩ := exists_of_lastIndex? hi
    obtain ⟨rest, ht⟩ : ∃ rest, t = inner ++ closing ++ rest := by
      refine ⟨more ++ t.dropWhile (· ≠ '}'), ?_⟩
      rw [← List.append_assoc, ← htake, List.takeWhile_append_dropWhile]
    have hinner : '}' ∉ inner := by
      intro hmem
      have hall := List.all_takeWhile (p := (· ≠ '}')) (l := t)
      rw [htake] at hall
      simpa using List.all_eq_true.mp hall '}' (by simp [hmem])
    refine ⟨opening ++ inner ++ closing ++ rest.takeWhile Text.isBlank,
      rest.dropWhile Text.isBlank, ?_, ⟨inner, _, rfl, hinner, List.all_takeWhile⟩, ?_⟩
    · simp [ht, List.append_assoc]
    · simp [ht]
      omega
  · rw [length?_eq_none (Bool.not_eq_true _ ▸ hopen)] at h
    cases h

/-- Between an encoded closing brace and a later one there are not only blanks. -/
theorem length_le_of_later_closing {inner blanks after inner' after' : List Char}
    (hblanks : Text.allBlank blanks = true)
    (h : inner ++ closing ++ blanks ++ after = inner' ++ closing ++ after')
    (hlater : inner.length < inner'.length) :
    inner.length + closing.length + blanks.length ≤ inner'.length := by
  refine Nat.le_of_not_lt fun hshort => ?_
  obtain ⟨k, hk⟩ := Nat.exists_eq_add_of_lt hlater
  have hplace : ('7' :: 'D' :: blanks)[k]? = some '%' := by
    have hlater' :
        (inner ++ '%' :: ('7' :: 'D' :: blanks ++ after))[inner'.length]? = some '%' := by
      have htext : inner ++ '%' :: ('7' :: 'D' :: blanks ++ after) =
          inner' ++ '%' :: ('7' :: 'D' :: after') := by simpa [closing] using h
      rw [htext]
      simp
    have hinside : k < ('7' :: 'D' :: blanks).length := by
      simp only [closing, List.length_cons, List.length_nil] at hshort ⊢
      omega
    rw [hk, List.getElem?_append_right (by omega)] at hlater'
    rw [← hlater', show inner.length + k + 1 - inner.length = k + 1 by omega,
      List.getElem?_cons_succ, List.getElem?_append_left hinside]
  have hmem : '%' ∈ '7' :: 'D' :: blanks := List.mem_of_getElem? hplace
  have hblank : Text.isBlank '%' = true := by
    simp only [List.mem_cons, Char.reduceEq, false_or] at hmem
    exact List.all_eq_true.mp hblanks _ hmem
  exact absurd hblank (by decide)

/-- What is measured is as long as any payload at the place. -/
theorem length?_longest {m : List Char} (h : IsPayload m) (after : List Char) :
    ∃ n, length? (m ++ after) = some n ∧ m.length ≤ n := by
  obtain ⟨inner, blanks, rfl, hinner, hblanks⟩ := h
  have htext : opening ++ inner ++ closing ++ blanks ++ after =
      opening ++ (inner ++ closing ++ blanks ++ after) := by simp
  have htake : (inner ++ closing ++ blanks ++ after).takeWhile (· ≠ '}') =
      inner ++ closing ++ (blanks ++ after.takeWhile (· ≠ '}')) := by
    have hno : ∀ c ∈ inner ++ closing ++ blanks, decide (c ≠ '}') = true := by
      intro c hc
      rw [decide_eq_true_eq]
      rintro rfl
      rcases List.mem_append.mp hc with hc | hc
      · rcases List.mem_append.mp hc with hc | hc
        · exact hinner hc
        · exact absurd hc (by decide)
      · exact absurd (List.all_eq_true.mp hblanks _ hc) (by decide)
    rw [List.takeWhile_append_of_pos hno, List.append_assoc (inner ++ closing)]
  obtain ⟨i, hi, hle⟩ := le_lastIndex? (by decide : closing ≠ []) inner
    (blanks ++ after.takeWhile (· ≠ '}'))
  refine ⟨_, by rw [htext, length?_opening, htake, hi]; rfl, ?_⟩
  simp only [List.length_append]
  rcases Nat.eq_or_lt_of_le hle with rfl | hlater
  · have hdrop : (inner ++ closing ++ blanks ++ after).drop (inner.length + closing.length) =
        blanks ++ after := by
      rw [List.append_assoc (inner ++ closing)]
      exact List.drop_left' (by simp)
    have hspan : (blanks ++ after).takeWhile Text.isBlank =
        blanks ++ after.takeWhile Text.isBlank :=
      List.takeWhile_append_of_pos (List.all_eq_true.mp hblanks)
    rw [hdrop, hspan, List.length_append]
    omega
  · obtain ⟨inner', after', hsplit, rfl⟩ := exists_of_lastIndex? hi
    have hlength := length_le_of_later_closing hblanks
      (by simpa only [List.append_assoc] using hsplit) hlater
    omega

/-! ### The search -/

theorem stripAfter_eq_drop (n : Nat) (s : List Char) : stripAfter n s = strip (s.drop n) := by
  induction s generalizing n with
  | nil => cases n <;> simp [strip, stripAfter]
  | cons c s ih =>
    cases n with
    | zero => rfl
    | succ n => simpa [stripAfter] using ih n

theorem strip_of_none {c : Char} {s : List Char} (h : length? (c :: s) = none) :
    strip (c :: s) = c :: strip s := by
  simp [strip, stripAfter, h]

theorem strip_of_payload {m after : List Char} (hm : IsPayload m)
    (hlength : length? (m ++ after) = some m.length) : strip (m ++ after) = strip after := by
  obtain ⟨c, m, rfl⟩ := List.exists_cons_of_length_pos (length_pos_of_isPayload hm)
  rw [List.cons_append] at hlength ⊢
  rw [strip, stripAfter, hlength]
  simp [stripAfter_eq_drop]

/-- Places that start no payload are passed over. -/
theorem strip_append {before : List Char} (rest : List Char)
    (h : ∀ earlier c later, before = earlier ++ c :: later →
      length? (c :: later ++ rest) = none) : strip (before ++ rest) = before ++ strip rest := by
  induction before with
  | nil => rfl
  | cons c before ih =>
    have hplace : length? (c :: (before ++ rest)) = none := h [] c before rfl
    have hbefore : strip (before ++ rest) = before ++ strip rest :=
      ih fun earlier d later hsplit => h (c :: earlier) d later (by simp [hsplit])
    rw [List.cons_append, strip_of_none hplace, hbefore, List.cons_append]

/-- Where nothing is measured, no payload starts. -/
theorem not_isPayload_of_none {s m later : List Char} (h : length? s = none) (hs : s = m ++ later) :
    ¬ IsPayload m := by
  intro hm
  obtain ⟨n, hn, -⟩ := length?_longest hm later
  rw [← hs, h] at hn
  cases hn

/-- Where no payload starts, nothing is measured. -/
theorem length?_eq_none_of_not {s : List Char} (h : ∀ m later, s = m ++ later → ¬ IsPayload m) :
    length? s = none := by
  cases hlength : length? s with
  | none => rfl
  | some n =>
    obtain ⟨m, later, hs, hm, -⟩ := length?_sound hlength
    exact absurd hm (h m later hs)

/-- The longest payload at a place is measured. -/
theorem length?_of_longest {m after : List Char} (hm : IsPayload m)
    (hlongest : ∀ other later, m ++ after = other ++ later → IsPayload other →
      other.length ≤ m.length) : length? (m ++ after) = some m.length := by
  obtain ⟨n, hn, hle⟩ := length?_longest hm after
  obtain ⟨other, later, hs, hother, rfl⟩ := length?_sound hn
  rw [hn, Nat.le_antisymm (hlongest other later hs hother) hle]

/-- Nothing but what the search finds is left. -/
theorem Deletes.eq_strip {s left : List Char} (h : Deletes s left) : left = strip s := by
  induction h with
  | @done s hnone =>
    have hstrip : strip (s ++ []) = s ++ strip [] := by
      apply strip_append
      intro earlier c later hs
      rw [List.append_nil]
      exact length?_eq_none_of_not fun m after hsplit =>
        hnone earlier m after (by rw [hs, hsplit, List.append_assoc])
    simpa [strip, stripAfter] using hstrip.symm
  | @next before m after left hm hleftmost hlongest hrest ih =>
    have hbefore : strip (before ++ (m ++ after)) = before ++ strip (m ++ after) := by
      apply strip_append
      intro earlier c later hs
      refine length?_eq_none_of_not fun other rest hsplit hother => ?_
      have hle := hleftmost earlier other rest (by rw [hs]; simp [← hsplit]) hother
      rw [hs, List.length_append, List.length_cons] at hle
      omega
    rw [List.append_assoc, hbefore, strip_of_payload hm (length?_of_longest hm hlongest), ih]

/-- A place that starts no payload hides none that starts later. -/
theorem Deletes.cons {c : Char} {s left : List Char} (hplace : length? (c :: s) = none)
    (h : Deletes s left) : Deletes (c :: s) (c :: left) := by
  cases h with
  | done hnone =>
    refine .done fun earlier m later hs => ?_
    cases earlier with
    | nil => exact not_isPayload_of_none hplace hs
    | cons d earlier => exact hnone earlier m later (List.cons.inj hs).2
  | @next before m after left hm hleftmost hlongest hrest =>
    change Deletes (c :: before ++ m ++ after) (c :: before ++ left)
    refine .next hm ?_ hlongest hrest
    intro earlier other later hs hother
    cases earlier with
    | nil => exact absurd hother (not_isPayload_of_none hplace hs)
    | cons d earlier =>
      exact Nat.succ_le_succ (hleftmost earlier other later (List.cons.inj hs).2 hother)

/-- The search deletes payloads leftmost first, each as long as possible. -/
theorem deletes_strip (s : List Char) : Deletes s (strip s) := by
  cases hs : s with
  | nil =>
    refine .done fun earlier m later hnil hm => ?_
    obtain ⟨hbefore, -⟩ := List.append_eq_nil_iff.mp hnil.symm
    obtain ⟨-, rfl⟩ := List.append_eq_nil_iff.mp hbefore
    exact absurd (length_pos_of_isPayload hm) (Nat.lt_irrefl 0)
  | cons c rest =>
    cases hplace : length? (c :: rest) with
    | none =>
      rw [strip_of_none hplace]
      exact (deletes_strip rest).cons hplace
    | some n =>
      obtain ⟨m, after, hsplit, hm, rfl⟩ := length?_sound hplace
      have hshorter : after.length < s.length := by
        have hpos := length_pos_of_isPayload hm
        have hlength := congrArg List.length hsplit
        rw [← hs, List.length_append] at hlength
        omega
      rw [hsplit] at hplace ⊢
      rw [strip_of_payload hm hplace]
      change Deletes ([] ++ m ++ after) ([] ++ strip after)
      refine .next hm (fun _ _ _ _ _ => Nat.zero_le _) ?_ (deletes_strip after)
      intro other later hother hpayload
      obtain ⟨n, hn, hle⟩ := length?_longest hpayload later
      rw [← hother, hplace] at hn
      rwa [← Option.some.inj hn] at hle
termination_by s.length
decreasing_by all_goals simp_all

end Payload

/-! ### Blank ends -/

namespace Text

theorem length_trim_le (s : List Char) : (trim s).length ≤ s.length := by
  obtain ⟨before, after, -, -, hs⟩ := exists_blank_ends s
  have hlength := congrArg List.length hs
  simp only [List.length_append] at hlength
  omega

/-- A text that trimming leaves alone does not start with a blank. -/
theorem isBlank_head_of_trim {s : List Char} (h : trim s = s) {c : Char} (hc : s.head? = some c) :
    isBlank c = false := by
  obtain ⟨rest, rfl⟩ := List.head?_eq_some_iff.mp hc
  cases hblank : isBlank c with
  | false => rfl
  | true =>
    have htrim : trim ([c] ++ rest) = trim rest :=
      trim_blank_append (by simp [allBlank, hblank]) rest
    have hle := length_trim_le rest
    rw [← htrim, List.singleton_append, h, List.length_cons] at hle
    omega

/-- A text that trimming leaves alone does not end with a blank. -/
theorem isBlank_last_of_trim {s : List Char} (h : trim s = s) {c : Char}
    (hc : s.getLast? = some c) : isBlank c = false := by
  obtain ⟨start, rfl⟩ := List.getLast?_eq_some_iff.mp hc
  cases hblank : isBlank c with
  | false => rfl
  | true =>
    have htrim : trim (start ++ [c]) = trim start :=
      trim_append_of_blank start (by simp [allBlank, hblank])
    have hle := length_trim_le start
    rw [← htrim, h, List.length_append, List.length_singleton] at hle
    omega

end Text

/-! ### Descriptions of frames -/

namespace Listener

theorem windowText_eq (l : Listener) :
    l.windowText =
      if Text.allBlank (Payload.strip l.rawWindowText) then directFrame
      else String.ofList (Text.trim (Payload.strip l.rawWindowText)) := by
  simp only [windowText, List.isEmpty_iff, Text.trim_eq_nil_iff]

theorem windowText_ne_empty (l : Listener) : l.windowText ≠ "" := by
  rw [windowText_eq]
  split
  · decide
  · next hvisible =>
    intro hempty
    rw [← Text.trim_eq_nil_iff] at hvisible
    exact hvisible (by simpa using congrArg String.toList hempty)

theorem trim_windowText (l : Listener) : Text.trim l.windowText.toList = l.windowText.toList := by
  rw [windowText_eq]
  split
  · decide
  · rw [String.toList_ofList, Text.trim_trim]

/-- **Payloads are deleted leftmost first, each as long as possible.**  What is left of a text is
    what remains when the payloads are deleted from left to right: none starts before the one that
    is taken, none at its place is longer, and the next is looked for right after it.  So the
    description of a frame is never empty and has no blank at either end, and it is the stand-in
    for a frame that needs none when only blanks are left. -/
theorem windowText_deletes :
    (∀ s left, Payload.Deletes s left ↔ left = Payload.strip s) ∧
      ∀ l : Listener,
        l.windowText ≠ "" ∧
          (∀ c, l.windowText.toList.head? = some c → Text.isBlank c = false) ∧
          (∀ c, l.windowText.toList.getLast? = some c → Text.isBlank c = false) ∧
          let left := Payload.strip l.rawWindowText
          l.windowText =
            if Text.allBlank left then "direct" else String.ofList (Text.trim left) := by
  refine ⟨?_, ?_⟩
  · intro s left
    constructor
    · exact Payload.Deletes.eq_strip
    · rintro rfl
      exact Payload.deletes_strip s
  · intro l
    refine ⟨windowText_ne_empty l, ?_, ?_, windowText_eq l⟩
    · intro c hc
      exact Text.isBlank_head_of_trim (trim_windowText l) hc
    · intro c hc
      exact Text.isBlank_last_of_trim (trim_windowText l) hc

end Listener

end ListenerReview
