/-
  ListenerReview/Proofs/Json/Written.lean
  =======================================
  **Values in JSON, written and read** — how readers take written strings, arrays and
  objects, in whatever style they are set.

  A reader reads some bytes as a value (`Reads`) when it takes exactly them off the
  front of any input in which they end: what follows is no part of a number.  This is
  composed along the text of a value: the elements of an array are read one by one
  (`reads_elements`), and the members of an object take a draft from one state to the
  next (`Takes`, `reads_object`).  Spaces between the parts are passed over, so that one
  proof serves the compact text and the one with a line per item.
-/
import ListenerReview.Json.Shape
import ListenerReview.Proofs.Json.Strings

namespace ListenerReview.Json

theorem utf8_ascii {c : Char} (h : c.toNat < 0x80) (s : List Char) :
    utf8 (c :: s) = byte c :: utf8 s := by
  rw [utf8_cons, utf8EncodeChar_ascii h]
  rfl

/-! ### Spaces -/

/-- A text of JSON spaces. -/
def IsGap (gap : List Char) : Prop := ∀ b ∈ utf8 gap, isSpace b = true

/-- A style that sets a text with JSON spaces. -/
structure Style.Spaced (style : Style) : Prop where
  gap : ∀ depth, IsGap (style.gap depth)
  colonGap : IsGap style.colonGap

theorem isGap_nil : IsGap [] := by simp [IsGap]

theorem spaced_compact : Style.compact.Spaced := ⟨fun _ => isGap_nil, isGap_nil⟩

theorem isGap_newline (depth : Nat) : IsGap (newline depth) := by
  have hspaces (n : Nat) : utf8 (List.replicate n ' ') = List.replicate n (byte ' ') := by
    induction n with
    | zero => rfl
    | succ n ih => rw [List.replicate_succ, utf8_ascii (by decide), ih]; rfl
  intro b hb
  rw [newline, utf8_ascii (by decide), hspaces] at hb
  rcases List.mem_cons.mp hb with rfl | hb
  · decide
  · rw [(List.mem_replicate.mp hb).2]
    decide

theorem spaced_pretty : Style.pretty.Spaced where
  gap := isGap_newline
  colonGap := by
    intro b hb
    rw [List.mem_singleton.mp hb]
    decide

theorem skipSpace_gap {gap : List Char} (h : IsGap gap) (input : Input) :
    skipSpace (utf8 gap ++ input) = skipSpace input := List.dropWhile_append_of_pos h

theorem skipSpace_cons {b : UInt8} (h : isSpace b = false) (rest : Input) :
    skipSpace (b :: rest) = b :: rest := List.dropWhile_cons_of_neg (by simp [h])

/-- A reader that passes over spaces before its value. -/
def Skips {α : Type} (read : Reader α) : Prop :=
  ∀ gap, IsGap gap → ∀ input, read (utf8 gap ++ input) = read input

theorem skips_readString : Skips readString := by
  intro gap h input
  rw [readString, readString, skipSpace_gap h]

theorem skips_readNatural (bits : Nat) : Skips (readNatural bits) := by
  intro gap h input
  rw [readNatural, readNatural, skipSpace_gap h]

theorem skips_elements {α : Type} (read : Reader α) : Skips (elements read) := by
  intro gap h input
  rw [elements, elements, skipSpace_gap h]

/-! ### Readers of written values -/

/-- What may follow a value: nothing, a space, or a sign that separates values or closes what holds
    them. -/
def Ends (rest : Input) : Prop :=
  ∀ b, rest.head? = some b →
    isSpace b = true ∨ b = byte ',' ∨ b = byte ']' ∨ b = byte '}'

theorem ends_gap {gap : List Char} (h : IsGap gap) {rest : Input} (hrest : Ends rest) :
    Ends (utf8 gap ++ rest) := by
  intro b hb
  cases hgap : utf8 gap with
  | nil =>
    rw [hgap] at hb
    exact hrest b hb
  | cons d more =>
    rw [hgap] at hb
    cases hb
    exact Or.inl (h b (by rw [hgap]; exact List.mem_cons_self))

/-- A reader takes some bytes off the front as a value, whatever they are followed by. -/
def Reads {α : Type} (read : Reader α) (bytes : Input) (a : α) : Prop :=
  ∀ rest, Ends rest → read (bytes ++ rest) = .ok (a, rest)

theorem Reads.gap {α : Type} {read : Reader α} {bytes : Input} {a : α} (h : Reads read bytes a)
    (hskips : Skips read) {gap : List Char} (hgap : IsGap gap) :
    Reads read (utf8 gap ++ bytes) a := by
  intro rest hrest
  rw [List.append_assoc, hskips gap hgap]
  exact h rest hrest

/-- The first byte of a value: neither a space nor the end of an array. -/
def Starts (bytes : Input) : Prop :=
  ∃ b more, bytes = b :: more ∧ isSpace b = false ∧ b ≠ byte ']'

theorem readAll_of_reads {α : Type} {read : Reader α} {bytes : Input} {a : α}
    (h : Reads read bytes a) : readAll read bytes = .ok a := by
  have hread : read bytes = .ok (a, []) := by
    have hwhole := h [] (by simp [Ends])
    rwa [List.append_nil] at hwhole
  rw [readAll, hread]
  rfl

theorem utf8_stringText (s : List Char) :
    utf8 (stringText s) = byte '"' :: (utf8 (s.flatMap charText) ++ [byte '"']) := by
  rw [stringText, List.cons_append, utf8_ascii (by decide), utf8_append]
  rfl

theorem reads_string (style : Style) (depth : Nat) (s : String) :
    Reads readString (utf8 ((Json.string s).text style depth)) s := by
  intro rest _
  rw [text, utf8_stringText, List.cons_append, List.append_assoc, readString,
    skipSpace_cons (by decide)]
  simp only [↓reduceIte]
  exact readText_written s rest

theorem starts_string (style : Style) (depth : Nat) (s : String) :
    Starts (utf8 ((Json.string s).text style depth)) := by
  rw [text, utf8_stringText]
  exact ⟨byte '"', _, rfl, by decide, by decide⟩

/-! ### Arrays -/

section Arrays

variable {α : Type} {style : Style} {depth : Nat} {read : Reader α} {write : α → Json}

theorem ends_itemsText (hstyle : style.Spaced) (items : List Json) (rest : Input) :
    Ends (utf8 (itemsText style depth items) ++ rest) := by
  cases items with
  | nil =>
    rw [itemsText, utf8_append, List.append_assoc]
    apply ends_gap (hstyle.gap depth)
    intro b hb
    cases hb
    exact Or.inr (Or.inr (Or.inl rfl))
  | cons item items =>
    rw [itemsText, List.append_assoc, List.cons_append, utf8_ascii (by decide)]
    intro b hb
    cases hb
    exact Or.inr (Or.inl rfl)

theorem endArray_close {gap : List Char} (h : IsGap gap) (rest : Input) :
    endArray (utf8 gap ++ byte ']' :: rest) = .ok rest := by
  rw [endArray, skipSpace_gap h, skipSpace_cons (by decide)]
  simp

theorem nextElement_close {gap : List Char} (h : IsGap gap) (first : Bool) (rest : Input) :
    nextElement first (utf8 gap ++ byte ']' :: rest) = .ok none := by
  rw [nextElement, skipSpace_gap h, skipSpace_cons (by decide)]
  simp

theorem nextElement_first {gap : List Char} (h : IsGap gap) {bytes : Input}
    (hstart : Starts bytes) (rest : Input) :
    nextElement true (utf8 gap ++ (bytes ++ rest)) = .ok (some (bytes ++ rest)) := by
  obtain ⟨b, more, rfl, hspace, hclose⟩ := hstart
  rw [nextElement, skipSpace_gap h, List.cons_append, skipSpace_cons hspace]
  simp [hclose]

theorem nextElement_next {gap : List Char} (h : IsGap gap) {bytes : Input}
    (hstart : Starts bytes) (rest : Input) :
    nextElement false (byte ',' :: (utf8 gap ++ (bytes ++ rest))) =
      .ok (some (bytes ++ rest)) := by
  obtain ⟨b, more, rfl, hspace, hclose⟩ := hstart
  rw [nextElement, skipSpace_cons (by decide)]
  have hcomma : byte ',' ≠ byte ']' := by decide
  simp only [hcomma, Bool.false_eq_true, ↓reduceIte]
  rw [skipSpace_gap h, List.cons_append, skipSpace_cons hspace]
  simp [hclose]

/-- The items after the first are read, as long as the bound allows for them. -/
theorem elementsFrom_itemsText (hstyle : style.Spaced) {as : List α}
    (hread : ∀ a ∈ as, Reads read (utf8 ((write a).text style (depth + 1))) a)
    (hstart : ∀ a ∈ as, Starts (utf8 ((write a).text style (depth + 1))))
    {bound : Input} (hbound : as.length < bound.length) (gathered : List α) (rest : Input) :
    elementsFrom read bound false gathered
        (utf8 (itemsText style depth (as.map write)) ++ rest) =
      .ok (gathered.reverse ++ as, rest) := by
  induction as generalizing bound gathered with
  | nil =>
    obtain ⟨b, bound, rfl⟩ := List.exists_cons_of_length_pos hbound
    have hend : utf8 (itemsText style depth []) ++ rest =
        utf8 (style.gap depth) ++ byte ']' :: rest := by
      rw [itemsText, utf8_append, List.append_assoc]
      rfl
    rw [List.map_nil, elementsFrom, hend, nextElement_close (hstyle.gap depth)]
    simp only [endArray_close (hstyle.gap depth), List.append_nil]
    rfl
  | cons a as ih =>
    obtain ⟨b, bound, rfl⟩ :=
      List.exists_cons_of_length_pos (Nat.lt_of_le_of_lt (Nat.zero_le _) hbound)
    have hitem : utf8 (itemsText style depth ((a :: as).map write)) ++ rest =
        byte ',' :: (utf8 (style.gap (depth + 1)) ++ (utf8 ((write a).text style (depth + 1)) ++
          (utf8 (itemsText style depth (as.map write)) ++ rest))) := by
      rw [List.map_cons, itemsText, List.append_assoc, List.cons_append, utf8_ascii (by decide),
        utf8_append, utf8_append]
      simp only [List.cons_append, List.append_assoc]
    rw [elementsFrom, hitem,
      nextElement_next (hstyle.gap _) (hstart a List.mem_cons_self)]
    simp only [hread a List.mem_cons_self _ (ends_itemsText hstyle _ rest)]
    rw [ih (fun d hd => hread d (List.mem_cons_of_mem a hd))
      (fun d hd => hstart d (List.mem_cons_of_mem a hd)) (by simpa using hbound),
      List.reverse_cons, List.append_assoc]
    rfl

theorem length_lt_itemsText (style : Style) (depth : Nat) (items : List Json) :
    items.length < (utf8 (itemsText style depth items)).length := by
  induction items with
  | nil =>
    rw [itemsText, utf8_append, utf8_ascii (by decide)]
    simp
  | cons item items ih =>
    rw [itemsText, List.append_assoc, List.cons_append, utf8_ascii (by decide), utf8_append,
      utf8_append]
    simp only [List.length_cons, List.length_append]
    omega

/-- All items are read from the first one on. It uses up one byte of the bound. -/
theorem elementsFrom_first (hstyle : style.Spaced) {a : α} {as : List α}
    (hread : ∀ d ∈ a :: as, Reads read (utf8 ((write d).text style (depth + 1))) d)
    (hstart : ∀ d ∈ a :: as, Starts (utf8 ((write d).text style (depth + 1))))
    {bound : Input} (hbound : (a :: as).length < bound.length) (rest : Input) :
    elementsFrom read bound true []
        (utf8 (style.gap (depth + 1)) ++ (utf8 ((write a).text style (depth + 1)) ++
          (utf8 (itemsText style depth (as.map write)) ++ rest))) =
      .ok (a :: as, rest) := by
  obtain ⟨b, bound, rfl⟩ :=
    List.exists_cons_of_length_pos (Nat.lt_of_le_of_lt (Nat.zero_le _) hbound)
  rw [elementsFrom, nextElement_first (hstyle.gap _) (hstart a List.mem_cons_self)]
  simp only [hread a List.mem_cons_self _ (ends_itemsText hstyle _ rest)]
  exact elementsFrom_itemsText hstyle (fun d hd => hread d (List.mem_cons_of_mem a hd))
    (fun d hd => hstart d (List.mem_cons_of_mem a hd)) (by simpa using hbound) [a] rest

/-- **A written array is read element by element.** -/
theorem reads_elements (hstyle : style.Spaced) {as : List α}
    (hread : ∀ a ∈ as, Reads read (utf8 ((write a).text style (depth + 1))) a)
    (hstart : ∀ a ∈ as, Starts (utf8 ((write a).text style (depth + 1)))) :
    Reads (elements read) (utf8 ((Json.array (as.map write)).text style depth)) as := by
  intro rest _
  cases as with
  | nil =>
    have hempty : utf8 ((Json.array ([].map write)).text style depth) ++ rest =
        byte '[' :: byte ']' :: rest := by
      rw [List.map_nil, text]
      rfl
    have hclose := nextElement_close isGap_nil true rest
    have hend := endArray_close isGap_nil rest
    rw [utf8_nil, List.nil_append] at hclose hend
    rw [hempty, elements, skipSpace_cons (by decide)]
    simp only [↓reduceIte, elementsFrom, hclose, hend]
    rfl
  | cons a as =>
    -- every item takes a byte, so the bytes of the array are bound enough
    have harray : utf8 ((Json.array ((a :: as).map write)).text style depth) ++ rest =
        byte '[' :: (utf8 (style.gap (depth + 1)) ++ (utf8 ((write a).text style (depth + 1)) ++
          (utf8 (itemsText style depth (as.map write)) ++ rest))) := by
      rw [List.map_cons, text, List.append_assoc, List.cons_append, utf8_ascii (by decide),
        utf8_append, utf8_append]
      simp only [List.cons_append, List.append_assoc]
    rw [harray, elements, skipSpace_cons (by decide)]
    simp only [↓reduceIte]
    apply elementsFrom_first hstyle hread hstart
    obtain ⟨first, more, hfirst, -, -⟩ := hstart a List.mem_cons_self
    have hitems := length_lt_itemsText style depth (as.map write)
    simp only [hfirst, List.length_cons, List.length_append, List.length_map] at hitems ⊢
    omega

end Arrays

/-! ### Objects -/

section Objects

variable {σ α : Type} {style : Style} {depth : Nat}

theorem ends_membersText (hstyle : style.Spaced) (members : List (String × Json))
    (rest : Input) : Ends (utf8 (membersText style depth members) ++ rest) := by
  cases members with
  | nil =>
    rw [membersText, utf8_append, List.append_assoc]
    apply ends_gap (hstyle.gap depth)
    intro b hb
    cases hb
    exact Or.inr (Or.inr (Or.inr rfl))
  | cons member members =>
    rw [membersText, List.append_assoc, List.append_assoc, List.append_assoc, List.cons_append,
      utf8_ascii (by decide)]
    intro b hb
    cases hb
    exact Or.inr (Or.inl rfl)

/-- The bytes of a member from its colon on. -/
def memberBytes (style : Style) (depth : Nat) (value : Json) : Input :=
  byte ':' :: (utf8 style.colonGap ++ utf8 (value.text style (depth + 1)))

/-- Reading members takes a state to another one, name by name. -/
inductive Takes (style : Style) (depth : Nat) (read : String → σ → Reader σ) :
    σ → List (String × Json) → σ → Prop
  | nil {state : σ} : Takes style depth read state [] state
  | cons {name : String} {value : Json} {members : List (String × Json)} {state next last : σ}
      (member : Reads (read name state) (memberBytes style depth value) next)
      (more : Takes style depth read next members last) :
      Takes style depth read state ((name, value) :: members) last

theorem nextName_close {gap : List Char} (h : IsGap gap) (first : Bool) (rest : Input) :
    nextName first (utf8 gap ++ byte '}' :: rest) = .ok none := by
  rw [nextName, skipSpace_gap h, skipSpace_cons (by decide)]
  simp

theorem endObject_close {gap : List Char} (h : IsGap gap) (rest : Input) :
    endObject (utf8 gap ++ byte '}' :: rest) = .ok rest := by
  rw [endObject, skipSpace_gap h, skipSpace_cons (by decide)]
  simp

/-- What stands before a member: a comma, unless it is the first one, and a gap. -/
def lead (style : Style) (depth : Nat) (first : Bool) : Input :=
  if first then utf8 (style.gap (depth + 1)) else byte ',' :: utf8 (style.gap (depth + 1))

theorem nextName_lead (hstyle : style.Spaced) (first : Bool) (rest : Input) :
    nextName first (lead style depth first ++ byte '"' :: rest) = .ok (some rest) := by
  cases first with
  | true =>
    rw [lead, if_pos rfl, nextName, skipSpace_gap (hstyle.gap _), skipSpace_cons (by decide)]
    have hclose : byte '"' ≠ byte '}' := by decide
    simp [hclose]
  | false =>
    have hclose : byte ',' ≠ byte '}' := by decide
    rw [lead, if_neg (by decide), List.cons_append, nextName, skipSpace_cons (by decide)]
    simp only [hclose, Bool.false_eq_true, ↓reduceIte]
    rw [skipSpace_gap (hstyle.gap _), skipSpace_cons (by decide)]
    simp

/-- A member is read into the state, first or not. -/
theorem membersFrom_member (hstyle : style.Spaced) {read : String → σ → Reader σ} {name : String}
    {value : Json} {state next : σ}
    (h : Reads (read name state) (memberBytes style depth value) next) {b : UInt8} {bound : Input}
    {first : Bool} {rest : Input} (hrest : Ends rest) :
    membersFrom read (b :: bound) first state
        (lead style depth first ++ (utf8 (stringText name.toList) ++
          (memberBytes style depth value ++ rest))) =
      membersFrom read bound false next rest := by
  rw [membersFrom, utf8_stringText, List.cons_append, nextName_lead hstyle, List.append_assoc]
  simp only [List.singleton_append, readText_written, h rest hrest]

theorem utf8_membersText (style : Style) (depth : Nat) (name : String) (value : Json)
    (members : List (String × Json)) (rest : Input) :
    utf8 (membersText style depth ((name, value) :: members)) ++ rest =
      lead style depth false ++ (utf8 (stringText name.toList) ++
        (memberBytes style depth value ++ (utf8 (membersText style depth members) ++ rest))) := by
  rw [membersText]
  simp (disch := decide) only [utf8_append, utf8_ascii, lead, memberBytes, Bool.false_eq_true,
    ↓reduceIte, List.cons_append, List.append_assoc]

theorem utf8_object (style : Style) (depth : Nat) (name : String) (value : Json)
    (members : List (String × Json)) (rest : Input) :
    utf8 ((Json.object ((name, value) :: members)).text style depth) ++ rest =
      byte '{' :: (lead style depth true ++ (utf8 (stringText name.toList) ++
        (memberBytes style depth value ++ (utf8 (membersText style depth members) ++ rest)))) := by
  rw [text]
  simp (disch := decide) only [utf8_append, utf8_ascii, lead, memberBytes, ↓reduceIte,
    List.cons_append, List.append_assoc]

theorem starts_object (style : Style) (depth : Nat) (members : List (String × Json)) :
    Starts (utf8 ((Json.object members).text style depth)) := by
  rcases members with _ | ⟨⟨name, value⟩, members⟩
  · exact ⟨byte '{', _, rfl, by decide, by decide⟩
  · have hobject := utf8_object style depth name value members []
    rw [List.append_nil] at hobject
    exact ⟨byte '{', _, hobject, by decide, by decide⟩

theorem membersFrom_membersText (hstyle : style.Spaced) {read : String → σ → Reader σ}
    {state last : σ} {members : List (String × Json)}
    (h : Takes style depth read state members last) {bound : Input}
    (hbound : members.length < bound.length) (rest : Input) :
    membersFrom read bound false state (utf8 (membersText style depth members) ++ rest) =
      .ok (last, utf8 (style.gap depth) ++ byte '}' :: rest) := by
  induction h generalizing bound with
  | nil =>
    obtain ⟨b, bound, rfl⟩ := List.exists_cons_of_length_pos hbound
    have hend : utf8 (membersText style depth []) ++ rest =
        utf8 (style.gap depth) ++ byte '}' :: rest := by
      rw [membersText, utf8_append, List.append_assoc]
      rfl
    rw [membersFrom, hend, nextName_close (hstyle.gap depth)]
  | cons hmember _ ih =>
    obtain ⟨b, bound, rfl⟩ :=
      List.exists_cons_of_length_pos (Nat.lt_of_le_of_lt (Nat.zero_le _) hbound)
    rw [utf8_membersText, membersFrom_member hstyle hmember (ends_membersText hstyle _ rest)]
    exact ih (by simpa using hbound)

theorem length_lt_membersText (style : Style) (depth : Nat) (members : List (String × Json)) :
    members.length < (utf8 (membersText style depth members)).length := by
  induction members with
  | nil =>
    rw [membersText, utf8_append, utf8_ascii (by decide)]
    simp
  | cons member members ih =>
    have hmember := utf8_membersText style depth member.1 member.2 members []
    rw [List.append_nil, List.append_nil] at hmember
    rw [hmember]
    simp only [memberBytes, List.length_cons, List.length_append]
    omega

/-- All members are read from the first one on. It uses up one byte of the bound. -/
theorem membersFrom_first (hstyle : style.Spaced) {read : String → σ → Reader σ}
    {state last : σ} {name : String} {value : Json} {members : List (String × Json)}
    (h : Takes style depth read state ((name, value) :: members) last) {bound : Input}
    (hbound : members.length + 1 < bound.length) (rest : Input) :
    membersFrom read bound true state
        (lead style depth true ++ (utf8 (stringText name.toList) ++
          (memberBytes style depth value ++ (utf8 (membersText style depth members) ++ rest)))) =
      .ok (last, utf8 (style.gap depth) ++ byte '}' :: rest) := by
  obtain ⟨b, bound, rfl⟩ :=
    List.exists_cons_of_length_pos (Nat.lt_of_le_of_lt (Nat.zero_le _) hbound)
  cases h with
  | cons hmember hmore =>
    rw [membersFrom_member hstyle hmember (ends_membersText hstyle _ rest)]
    exact membersFrom_membersText hstyle hmore (by simpa using hbound) rest

/-- **A written object is read member by member into a record.** -/
theorem reads_object (hstyle : style.Spaced) {shape : Shape σ α} {name : String} {value : Json}
    {members : List (String × Json)} {draft : σ} {a : α}
    (h : Takes style depth shape.readMember shape.empty ((name, value) :: members) draft)
    (hfinish : shape.finish draft = .ok a) :
    Reads shape.read (utf8 ((Json.object ((name, value) :: members)).text style depth)) a := by
  intro rest _
  have hbrace : byte '{' ≠ byte '[' := by decide
  have hmembers := length_lt_membersText style depth members
  rw [utf8_object, Shape.read, skipSpace_cons (by decide)]
  simp only [hbrace, ↓reduceIte]
  rw [Shape.readObject, membersFrom_first hstyle h]
  · simp only [hfinish, endObject_close (hstyle.gap depth)]
    rfl
  · simp only [memberBytes, List.length_cons, List.length_append] at hmembers ⊢
    omega

/-- A member is read by the reader that its shape has for it, and its value put into the draft. -/
theorem reads_member {β : Type} (hstyle : style.Spaced) {shape : Shape σ α} {name : String}
    {member : Member σ} {draft : σ} {value : Json} {read : Reader β} {b : β} (put : β → σ)
    (hfind : shape.members.find? (·.name == name) = some member)
    (hopen : member.filled draft = false)
    (hread : member.read draft = fun input => (read input).map fun r => (put r.1, r.2))
    (hskips : Skips read) (h : Reads read (utf8 (value.text style (depth + 1))) b) :
    Reads (shape.readMember name draft) (memberBytes style depth value) (put b) := by
  intro rest hrest
  rw [Shape.readMember, hfind]
  simp only [hopen, hread, Bool.false_eq_true, ↓reduceIte]
  rw [memberBytes, List.cons_append, colon, skipSpace_cons (by decide)]
  simp only [↓reduceIte, h.gap hskips hstyle.colonGap rest hrest]
  rfl

end Objects

end ListenerReview.Json
