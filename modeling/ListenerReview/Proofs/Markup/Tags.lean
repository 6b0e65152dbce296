/-
  ListenerReview/Proofs/Markup/Tags.lean
  ======================================
  **Reading a text with tags** — what stands between angle brackets is a tag, and
  every other character is a character of the text.

  `tokens?` reads a text strictly: it fails on a bracket that is not the delimiter of
  a tag.  Texts are read piece by piece (`tokens?_append`), and a text that is put
  before or after others is read on its own (`tokensFrom_append_tag`).  `dropTags`
  deletes everything from an opening bracket through the next closing one.

  An escaped text has no brackets and no quotation marks, and each of its ampersands
  starts a reference, so it is read as characters alone wherever it stands.
-/
import ListenerReview.Markup.Escape

namespace ListenerReview.Markup

/-! ### Tokens -/

/-- What a text is made of: characters, and tags with what stands between their brackets. -/
inductive Token where
  | char (c : Char)
  | tag (content : List Char)
deriving DecidableEq, Repr

def Token.text : Token → List Char
  | .char c => [c]
  | .tag content => '<' :: (content ++ ['>'])

def isBracket (c : Char) : Bool := c == '<' || c == '>'

/-- The characters of a literal are found by unification, and only they are evaluated. -/
theorem isBracket_literal {s : String} (chars : List Char) (hs : s = String.ofList chars)
    (h : chars.all (!isBracket ·) = true) : ∀ c ∈ s.toList, isBracket c = false := by
  subst hs
  rw [String.toList_ofList]
  simpa using h

/-- Reads a character, given the content of the open tag in reverse: what is open afterwards, and
    the tokens that are complete. A bracket that delimits no tag is not read. -/
def readChar : Option (List Char) → Char → Option (Option (List Char) × List Token)
  | none, c =>
    if c = '<' then some (some [], []) else if c = '>' then none else some (none, [.char c])
  | some content, c =>
    if c = '>' then some (none, [.tag content.reverse])
    else if c = '<' then none
    else some (some (c :: content), [])

/-- The tokens of the rest of a text, given the content of the open tag in reverse. -/
def tokensFrom : Option (List Char) → List Char → Option (List Token)
  | none, [] => some []
  | some _, [] => none
  | state, c :: s =>
    (readChar state c).bind fun read => (tokensFrom read.1 s).map (read.2 ++ ·)

/-- The tokens of a text, if its brackets are those of tags. -/
def tokens? (s : List Char) : Option (List Token) := tokensFrom none s

def tagsOf (toks : List Token) : List (List Char) :=
  toks.filterMap fun
    | .tag content => some content
    | .char _ => none

def charsOf (toks : List Token) : List Char :=
  toks.filterMap fun
    | .tag _ => none
    | .char c => some c

theorem tagsOf_append (a b : List Token) : tagsOf (a ++ b) = tagsOf a ++ tagsOf b :=
  List.filterMap_append

theorem charsOf_append (a b : List Token) : charsOf (a ++ b) = charsOf a ++ charsOf b :=
  List.filterMap_append

theorem tagsOf_map_char (s : List Char) : tagsOf (s.map .char) = [] := by
  simp [tagsOf, List.filterMap_map]

theorem charsOf_map_char (s : List Char) : charsOf (s.map .char) = s := by
  induction s with
  | nil => rfl
  | cons c s ih =>
    rw [List.map_cons, ← List.singleton_append, charsOf_append, ih]
    rfl

/-! ### Reading piece by piece -/

/-- What reading one character can do: outside a tag it opens one or stands for itself, and inside
    one it closes the tag or belongs to its content. -/
theorem readChar_cases {state next : Option (List Char)} {c : Char} {out : List Token}
    (h : readChar state c = some (next, out)) :
    (state = none ∧ c = '<' ∧ next = some [] ∧ out = []) ∨
    (state = none ∧ c ≠ '<' ∧ next = none ∧ out = [.char c]) ∨
    (∃ content, state = some content ∧ c = '>' ∧ next = none ∧ out = [.tag content.reverse]) ∨
    (∃ content, state = some content ∧ c ≠ '>' ∧ next = some (c :: content) ∧ out = []) := by
  cases state with
  | none =>
    by_cases hopen : c = '<'
    · rw [readChar, if_pos hopen] at h
      cases h
      exact Or.inl ⟨rfl, hopen, rfl, rfl⟩
    · by_cases hclose : c = '>'
      · rw [readChar, if_neg hopen, if_pos hclose] at h
        cases h
      · rw [readChar, if_neg hopen, if_neg hclose] at h
        cases h
        exact Or.inr (Or.inl ⟨rfl, hopen, rfl, rfl⟩)
  | some content =>
    by_cases hclose : c = '>'
    · rw [readChar, if_pos hclose] at h
      cases h
      exact Or.inr (Or.inr (Or.inl ⟨content, rfl, hclose, rfl, rfl⟩))
    · by_cases hopen : c = '<'
      · rw [readChar, if_neg hclose, if_pos hopen] at h
        cases h
      · rw [readChar, if_neg hclose, if_neg hopen] at h
        cases h
        exact Or.inr (Or.inr (Or.inr ⟨content, rfl, hclose, rfl, rfl⟩))

theorem tokensFrom_nil {state : Option (List Char)} {toks : List Token}
    (h : tokensFrom state [] = some toks) : state = none ∧ toks = [] := by
  cases state with
  | none =>
    simp only [tokensFrom, Option.some.injEq] at h
    exact ⟨rfl, h.symm⟩
  | some content => simp [tokensFrom] at h

theorem tokensFrom_of_read {state next : Option (List Char)} {c : Char} {out : List Token}
    (h : readChar state c = some (next, out)) (s : List Char) :
    tokensFrom state (c :: s) = (tokensFrom next s).map (out ++ ·) := by
  simp [tokensFrom, h]

theorem tokensFrom_cons {state : Option (List Char)} {c : Char} {s : List Char}
    {toks : List Token} (h : tokensFrom state (c :: s) = some toks) :
    ∃ next out rest, readChar state c = some (next, out) ∧ tokensFrom next s = some rest ∧
      toks = out ++ rest := by
  simp only [tokensFrom, Option.bind_eq_some_iff, Option.map_eq_some_iff, Prod.exists] at h
  obtain ⟨next, out, hread, rest, hrest, rfl⟩ := h
  exact ⟨next, out, rest, hread, hrest, rfl⟩

theorem tokensFrom_append {state : Option (List Char)} {s t : List Char} {a b : List Token}
    (hs : tokensFrom state s = some a) (ht : tokens? t = some b) :
    tokensFrom state (s ++ t) = some (a ++ b) := by
  induction s generalizing state a with
  | nil =>
    obtain ⟨rfl, rfl⟩ := tokensFrom_nil hs
    exact ht
  | cons c s ih =>
    obtain ⟨next, out, rest, hread, hrest, rfl⟩ := tokensFrom_cons hs
    rw [List.cons_append, tokensFrom_of_read hread, ih hrest, List.append_assoc]
    rfl

theorem tokens?_append {s t : List Char} {a b : List Token} (hs : tokens? s = some a)
    (ht : tokens? t = some b) : tokens? (s ++ t) = some (a ++ b) :=
  tokensFrom_append hs ht

/-- What stands before an opening bracket is read on its own. -/
theorem tokensFrom_append_tag {state : Option (List Char)} {s rest : List Char} {toks : List Token}
    (h : tokensFrom state (s ++ '<' :: rest) = some toks) :
    ∃ a b, tokensFrom state s = some a ∧ tokens? ('<' :: rest) = some b ∧ toks = a ++ b := by
  induction s generalizing state toks with
  | nil =>
    cases state with
    | none => exact ⟨[], toks, rfl, h, rfl⟩
    | some content => simp [tokensFrom, readChar] at h
  | cons c s ih =>
    obtain ⟨next, out, read, hread, hnext, rfl⟩ := tokensFrom_cons h
    obtain ⟨a, b, ha, hb, rfl⟩ := ih hnext
    refine ⟨out ++ a, b, ?_, hb, (List.append_assoc out a b).symm⟩
    rw [tokensFrom_of_read hread, ha]
    rfl

theorem readChar_none {c : Char} (h : isBracket c = false) :
    readChar none c = some (none, [.char c]) := by
  simp only [isBracket, Bool.or_eq_false_iff, beq_eq_false_iff_ne] at h
  rw [readChar, if_neg h.1, if_neg h.2]

theorem readChar_some {c : Char} (h : isBracket c = false) (content : List Char) :
    readChar (some content) c = some (some (c :: content), []) := by
  simp only [isBracket, Bool.or_eq_false_iff, beq_eq_false_iff_ne] at h
  rw [readChar, if_neg h.2, if_neg h.1]

theorem tokens?_chars {s : List Char} (h : ∀ c ∈ s, isBracket c = false) :
    tokens? s = some (s.map .char) := by
  induction s with
  | nil => rfl
  | cons c s ih =>
    have hs := ih fun d hd => h d (List.mem_cons_of_mem _ hd)
    rw [tokens?] at hs ⊢
    rw [tokensFrom_of_read (readChar_none (h c List.mem_cons_self)), hs]
    rfl

/-- A tag that is open takes in characters up to its closing bracket. -/
theorem tokensFrom_close {content : List Char} (h : ∀ c ∈ content, isBracket c = false)
    (before rest : List Char) :
    tokensFrom (some before) (content ++ '>' :: rest) =
      (tokens? rest).map (.tag (before.reverse ++ content) :: ·) := by
  induction content generalizing before with
  | nil => simp [tokensFrom, readChar, tokens?]
  | cons c content ih =>
    have hread := readChar_some (h c List.mem_cons_self) before
    rw [List.cons_append, tokensFrom_of_read hread,
      ih fun d hd => h d (List.mem_cons_of_mem _ hd)]
    simp [Function.comp_def]

theorem tokens?_tag {content : List Char} (h : ∀ c ∈ content, isBracket c = false)
    (rest : List Char) :
    tokens? ('<' :: (content ++ '>' :: rest)) = (tokens? rest).map (.tag content :: ·) := by
  have hread : readChar none '<' = some (some [], []) := rfl
  rw [tokens?, tokensFrom_of_read hread, tokensFrom_close h]
  simp [Function.comp_def]

theorem tokens?_flatMap {α : Type} {f : α → List Char} {g : α → List Token} {xs : List α}
    (h : ∀ x ∈ xs, tokens? (f x) = some (g x)) :
    tokens? (xs.flatMap f) = some (xs.flatMap g) := by
  induction xs with
  | nil => rfl
  | cons x xs ih =>
    rw [List.flatMap_cons, List.flatMap_cons]
    exact tokens?_append (h x List.mem_cons_self) (ih fun y hy => h y (List.mem_cons_of_mem _ hy))

/-- The part of an open tag that is read already. -/
def pending : Option (List Char) → List Char
  | none => []
  | some content => '<' :: content.reverse

theorem pending_of_read {state next : Option (List Char)} {c : Char} {out : List Token}
    (h : readChar state c = some (next, out)) :
    pending state ++ [c] = out.flatMap Token.text ++ pending next := by
  rcases readChar_cases h with ⟨rfl, rfl, rfl, rfl⟩ | ⟨rfl, -, rfl, rfl⟩ |
    ⟨content, rfl, rfl, rfl, rfl⟩ | ⟨content, rfl, -, rfl, rfl⟩
  · rfl
  · rfl
  · simp [pending, Token.text]
  · simp [pending]

-- What is read of a text, with the open tag put back before it, is the text again.
theorem pending_append {state : Option (List Char)} {s : List Char} {toks : List Token}
    (h : tokensFrom state s = some toks) : pending state ++ s = toks.flatMap Token.text := by
  induction s generalizing state toks with
  | nil =>
    obtain ⟨rfl, rfl⟩ := tokensFrom_nil h
    rfl
  | cons c s ih =>
    obtain ⟨next, out, rest, hread, hrest, rfl⟩ := tokensFrom_cons h
    rw [List.append_cons, pending_of_read hread, List.append_assoc, ih hrest, List.flatMap_append]

/-- A text is what its tokens are read from. -/
theorem eq_of_tokens? {s : List Char} {toks : List Token} (h : tokens? s = some toks) :
    s = toks.flatMap Token.text :=
  pending_append h

/-! ### Deleting tags -/

/-- The rest of a text without its tags, given whether it begins inside a tag. -/
def dropTagsFrom : Bool → List Char → List Char
  | _, [] => []
  | false, c :: s => if c = '<' then dropTagsFrom true s else c :: dropTagsFrom false s
  | true, c :: s => if c = '>' then dropTagsFrom false s else dropTagsFrom true s

/-- The text without its tags: everything from an opening bracket through the next closing one is
    deleted. -/
def dropTags (s : List Char) : List Char := dropTagsFrom false s

theorem dropTagsFrom_of_read {state next : Option (List Char)} {c : Char} {out : List Token}
    (h : readChar state c = some (next, out)) (s : List Char) :
    dropTagsFrom state.isSome (c :: s) = charsOf out ++ dropTagsFrom next.isSome s := by
  rcases readChar_cases h with ⟨rfl, rfl, rfl, rfl⟩ | ⟨rfl, hopen, rfl, rfl⟩ |
    ⟨content, rfl, rfl, rfl, rfl⟩ | ⟨content, rfl, hclose, rfl, rfl⟩
  · rfl
  · simp [dropTagsFrom, hopen, charsOf]
  · rfl
  · simp [dropTagsFrom, hclose, charsOf]

theorem dropTagsFrom_eq {state : Option (List Char)} {s : List Char} {toks : List Token}
    (h : tokensFrom state s = some toks) : dropTagsFrom state.isSome s = charsOf toks := by
  induction s generalizing state toks with
  | nil =>
    obtain ⟨rfl, rfl⟩ := tokensFrom_nil h
    rfl
  | cons c s ih =>
    obtain ⟨next, out, rest, hread, hrest, rfl⟩ := tokensFrom_cons h
    rw [dropTagsFrom_of_read hread, ih hrest, charsOf_append]

theorem dropTags_eq {s : List Char} {toks : List Token} (h : tokens? s = some toks) :
    dropTags s = charsOf toks :=
  dropTagsFrom_eq h

/-! ### Escaped text -/

/-- Whether a character could end a tag, a quoted attribute or the text around it. -/
def isSpecial (c : Char) : Bool := c == '<' || c == '>' || c == '"' || c == '\''

/-- The references that stand for special characters. -/
def references : List (List Char) :=
  ["&amp;".toList, "&lt;".toList, "&gt;".toList, "&quot;".toList, "&#39;".toList]

/-- Every ampersand of a text starts a reference. -/
def AmpersandsEscaped (s : List Char) : Prop :=
  ∀ before after, s = before ++ '&' :: after → ∃ r ∈ references, r <+: '&' :: after

theorem ampersandsEscaped_of_not_mem {s : List Char} (h : '&' ∉ s) : AmpersandsEscaped s := by
  intro before after heq
  apply absurd _ h
  rw [heq]
  exact List.mem_append_right _ List.mem_cons_self

theorem ampersandsEscaped_reference {rest : List Char} (hmem : '&' :: rest ∈ references)
    (h : '&' ∉ rest) : AmpersandsEscaped ('&' :: rest) := by
  intro before after heq
  cases before with
  | nil =>
    rw [List.nil_append] at heq
    exact ⟨'&' :: rest, hmem, heq ▸ List.prefix_refl _⟩
  | cons c before =>
    rw [List.cons_append, List.cons.injEq] at heq
    apply absurd _ h
    rw [heq.2]
    exact List.mem_append_right _ List.mem_cons_self

theorem AmpersandsEscaped.append {s t : List Char} (hs : AmpersandsEscaped s)
    (ht : AmpersandsEscaped t) : AmpersandsEscaped (s ++ t) := by
  intro before after heq
  rcases List.append_eq_append_iff.mp heq with ⟨gap, -, hgap⟩ | ⟨gap, hgap, hrest⟩
  · exact ht gap after hgap
  · cases gap with
    | nil => exact ht [] after hrest.symm
    | cons c gap =>
      rw [List.cons_append, List.cons.injEq] at hrest
      obtain ⟨rfl, rfl⟩ := hrest
      obtain ⟨r, hr, hprefix⟩ := hs before gap hgap
      exact ⟨r, hr, hprefix.trans ⟨t, rfl⟩⟩

/-- A character that is escaped becomes a reference; any other is not special. -/
theorem escapeChar_cases (c : Char) :
    (∃ rest, escapeChar c = '&' :: rest ∧ '&' :: rest ∈ references ∧ '&' ∉ rest ∧
      rest.all (!isSpecial ·) = true) ∨
    (escapeChar c = [c] ∧ c ≠ '&' ∧ isSpecial c = false) := by
  unfold escapeChar
  split
  · exact Or.inl ⟨"amp;".toList, by decide⟩
  · exact Or.inl ⟨"lt;".toList, by decide⟩
  · exact Or.inl ⟨"gt;".toList, by decide⟩
  · exact Or.inl ⟨"quot;".toList, by decide⟩
  · exact Or.inl ⟨"#39;".toList, by decide⟩
  · next hamp hlt hgt hquot hapos =>
    refine Or.inr ⟨rfl, hamp, ?_⟩
    simp only [isSpecial, Bool.or_eq_false_iff, beq_eq_false_iff_ne]
    exact ⟨⟨⟨hlt, hgt⟩, hquot⟩, hapos⟩

theorem isSpecial_escape {s : List Char} {c : Char} (h : c ∈ escape s) : isSpecial c = false := by
  obtain ⟨d, -, hc⟩ := List.mem_flatMap.mp h
  rcases escapeChar_cases d with ⟨rest, heq, -, -, hrest⟩ | ⟨heq, -, hd⟩
  · rw [heq] at hc
    rcases List.mem_cons.mp hc with rfl | hc
    · decide
    · simpa using List.all_eq_true.mp hrest c hc
  · rw [heq, List.mem_singleton] at hc
    rw [hc]
    exact hd

theorem ampersandsEscaped_escape (s : List Char) : AmpersandsEscaped (escape s) := by
  induction s with
  | nil => exact ampersandsEscaped_of_not_mem (by simp [escape])
  | cons c s ih =>
    rw [escape_cons]
    refine AmpersandsEscaped.append ?_ ih
    rcases escapeChar_cases c with ⟨rest, heq, hmem, hrest, -⟩ | ⟨heq, hne, -⟩
    · rw [heq]
      exact ampersandsEscaped_reference hmem hrest
    · rw [heq]
      exact ampersandsEscaped_of_not_mem (by simpa using Ne.symm hne)

theorem isBracket_of_not_isSpecial {c : Char} (h : isSpecial c = false) : isBracket c = false := by
  simp only [isSpecial, Bool.or_eq_false_iff] at h
  simp [isBracket, h.1.1.1, h.1.1.2]

theorem tokens?_escape (s : List Char) : tokens? (escape s) = some ((escape s).map .char) :=
  tokens?_chars fun _ hc => isBracket_of_not_isSpecial (isSpecial_escape hc)

end ListenerReview.Markup
