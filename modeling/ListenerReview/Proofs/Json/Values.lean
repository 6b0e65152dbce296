/-
  ListenerReview/Proofs/Json/Values.lean
  ======================================
  **Values of any form in JSON, written and read** — the reader of values of any form
  takes a written value as it was, in whatever style it is set, if its numbers are
  natural and fit into 64 bits.

  The reader is bounded by the bytes of the value, one for each level of nesting, so
  the induction is on the bound: what an array or an object holds is written with fewer
  bytes than the whole (`length_item_lt`, `length_member_lt`).  Elements and members are
  taken as in `Written.lean`, where the readers of the parts are parameters.
-/
import ListenerReview.Proofs.Json.Numbers

namespace ListenerReview.Json

/-- A value whose numbers are natural and fit into 64 bits. -/
inductive Fits : Json → Prop
  | null : Fits .null
  | bool (b : Bool) : Fits (.bool b)
  | ofNat {n : Nat} (small : n ≤ significandLimit) : Fits (.ofNat n)
  | string (s : String) : Fits (.string s)
  | array {items : List Json} (all : ∀ item ∈ items, Fits item) : Fits (.array items)
  | object {members : List (String × Json)} (all : ∀ member ∈ members, Fits member.2) :
      Fits (.object members)

theorem fits_ofNat {n : Nat} (h : n < Nat.pow 2 64) : (ofNat n).Fits :=
  .ofNat (Nat.le_sub_one_of_lt h)

variable {style : Style} {depth : Nat}

/-! ### First bytes -/

theorem exists_array_eq (style : Style) (depth : Nat) (items : List Json) :
    ∃ more, utf8 ((Json.array items).text style depth) = byte '[' :: more := by
  cases items with
  | nil => exact ⟨_, rfl⟩
  | cons item items =>
    rw [text, List.append_assoc, List.cons_append, utf8_ascii (by decide)]
    exact ⟨_, rfl⟩

theorem Fits.starts {value : Json} (h : value.Fits) (style : Style) (depth : Nat) :
    Starts (utf8 (value.text style depth)) := by
  cases h with
  | null => exact ⟨byte 'n', _, rfl, by decide, by decide⟩
  | bool b => cases b <;> exact ⟨_, _, rfl, by decide, by decide⟩
  | @ofNat n =>
    obtain ⟨b, more, hmore, hdigit⟩ := starts_number n
    rw [utf8_ofNat]
    exact ⟨b, more, hmore, isSpace_of_isDigit hdigit, ne_of_isDigit hdigit (by decide)⟩
  | string s => exact starts_string style depth s
  | @array items =>
    obtain ⟨more, hmore⟩ := exists_array_eq style depth items
    exact ⟨byte '[', more, hmore, by decide, by decide⟩
  | object => exact starts_object style depth _

/-! ### Lengths of texts -/

theorem length_item_lt {item : Json} {items : List Json} (h : item ∈ items) :
    (utf8 (item.text style (depth + 1))).length <
      (utf8 (itemsText style depth items)).length := by
  induction items with
  | nil => cases h
  | cons first items ih =>
    rw [itemsText, List.append_assoc, List.cons_append, utf8_ascii (by decide), utf8_append,
      utf8_append, List.length_cons, List.length_append, List.length_append]
    rcases List.mem_cons.mp h with rfl | hmem
    · omega
    · have hlt := ih hmem
      omega

/-- An array is as long as its items with the comma before the first one. -/
theorem length_array (item : Json) (items : List Json) :
    (utf8 ((Json.array (item :: items)).text style depth)).length =
      (utf8 (itemsText style depth (item :: items))).length := by
  rw [text, itemsText]
  simp (disch := decide) only [utf8_append, utf8_ascii, List.cons_append, List.length_cons]

theorem length_member_lt {member : String × Json} {members : List (String × Json)}
    (h : member ∈ members) :
    (utf8 (member.2.text style (depth + 1))).length <
      (utf8 (membersText style depth members)).length := by
  induction members with
  | nil => cases h
  | cons first members ih =>
    have hfirst := utf8_membersText style depth first.1 first.2 members []
    rw [List.append_nil, List.append_nil] at hfirst
    rw [hfirst]
    simp only [memberBytes, List.length_cons, List.length_append]
    rcases List.mem_cons.mp h with rfl | hmem
    · omega
    · have hlt := ih hmem
      omega

/-- An object is as long as its members with the comma before the first one. -/
theorem length_object (member : String × Json) (members : List (String × Json)) :
    (utf8 ((Json.object (member :: members)).text style depth)).length =
      (utf8 (membersText style depth (member :: members))).length := by
  rw [text, membersText]
  simp (disch := decide) only [utf8_append, utf8_ascii, List.cons_append, List.length_cons]

/-! ### Reading values -/

theorem skips_jsonFrom (bound : Input) : Skips (jsonFrom bound) := by
  intro gap h input
  cases bound with
  | nil => rfl
  | cons b bound => rw [jsonFrom, jsonFrom, skipSpace_gap h]

theorem literal_toDigits (n : Nat) (rest : Input) :
    literal ((Nat.toDigits 10 n).map byte ++ rest) rest = toString n := by
  have hback : ∀ c ∈ Nat.toDigits 10 n,
      ((fun b => Char.ofNat (UInt8.toNat b)) ∘ byte) c = id c := by
    intro c hc
    have hrange := toNat_of_isDigit (Nat.isDigit_of_mem_toDigits (by decide) (by decide) hc)
    rw [Function.comp_apply, toNat_byte (by omega), Char.ofNat_toNat, id]
  rw [literal, List.length_append, Nat.add_sub_cancel, List.take_left, List.map_map,
    List.map_congr_left hback, List.map_id, ← toList_ofNat, String.ofList_toList]

/-- A number is read, and its literal kept. -/
theorem jsonFrom_number {n : Nat} (hfits : n ≤ significandLimit) (b : UInt8) (bound : Input) :
    Reads (jsonFrom (b :: bound)) (utf8 ((ofNat n).text style depth)) (.ofNat n) := by
  intro rest hrest
  obtain ⟨d, more, hmore, hdigit⟩ := starts_number n
  have hne (e : UInt8) (he : isDigit e = false) : d ≠ e := ne_of_isDigit hdigit he
  have hread := readNumber_toDigits hfits hrest
  have hliteral := literal_toDigits n rest
  rw [utf8_ofNat]
  rw [hmore, List.cons_append] at hread hliteral ⊢
  rw [jsonFrom, skipSpace_cons (isSpace_of_isDigit hdigit)]
  simp only [hne (byte 'n') (by decide), hne (byte 't') (by decide), hne (byte 'f') (by decide),
    hne (byte '-') (by decide), hdigit, hread, ↓reduceIte]
  rw [ofNat, ← hliteral]
  rfl

theorem jsonFrom_string (b : UInt8) (bound rest : Input) :
    jsonFrom (b :: bound) (byte '"' :: rest) =
      (readText rest).map fun r => (.string r.1, r.2) := rfl

theorem jsonFrom_array (b : UInt8) (bound rest : Input) :
    jsonFrom (b :: bound) (byte '[' :: rest) =
      (elements (jsonFrom bound) (byte '[' :: rest)).map fun r => (.array r.1, r.2) := rfl

/-- A member of an object, read before the members that are gathered. -/
def gatherMember (read : Reader Json) (name : String) (members : List (String × Json)) :
    Reader (List (String × Json)) := fun input =>
  match colon input with
  | .error fault => .error fault
  | .ok input => (read input).map fun r => ((name, r.1) :: members, r.2)

theorem jsonFrom_object (b : UInt8) (bound rest : Input) :
    jsonFrom (b :: bound) (byte '{' :: rest) =
      match membersFrom (gatherMember (jsonFrom bound)) rest true [] rest with
      | .error fault => .error fault
      | .ok (members, rest) => (endObject rest).map (.object members.reverse, ·) := rfl

/-- The members of an object are gathered, last first, by the reader of their values. -/
theorem takes_members (hstyle : style.Spaced) {read : Reader Json} (hskips : Skips read)
    {members : List (String × Json)}
    (h : ∀ member ∈ members, Reads read (utf8 (member.2.text style (depth + 1))) member.2)
    (gathered : List (String × Json)) :
    Takes style depth (gatherMember read) gathered members (members.reverse ++ gathered) := by
  induction members generalizing gathered with
  | nil => exact Takes.nil
  | cons member members ih =>
    have hmember : Reads (gatherMember read member.1 gathered)
        (memberBytes style depth member.2) (member :: gathered) := by
      intro rest hrest
      rw [memberBytes, List.cons_append, gatherMember, colon, skipSpace_cons (by decide)]
      simp only [↓reduceIte, (h member List.mem_cons_self).gap hskips hstyle.colonGap rest hrest]
      rfl
    rw [List.reverse_cons, List.append_assoc]
    exact Takes.cons hmember (ih (fun m hm => h m (List.mem_cons_of_mem member hm)) _)

/-- An array is read if the values in it are read with the bound that is left. -/
theorem reads_array (hstyle : style.Spaced) {items : List Json} {bound : Input}
    (hread : ∀ item ∈ items, Reads (jsonFrom bound) (utf8 (item.text style (depth + 1))) item)
    (hstart : ∀ item ∈ items, Starts (utf8 (item.text style (depth + 1)))) (b : UInt8) :
    Reads (jsonFrom (b :: bound)) (utf8 ((Json.array items).text style depth))
      (.array items) := by
  intro rest hrest
  have helements : Reads (elements (jsonFrom bound))
      (utf8 ((Json.array (items.map id)).text style depth)) items :=
    reads_elements hstyle hread hstart
  have hitems := helements rest hrest
  obtain ⟨more, hmore⟩ := exists_array_eq style depth items
  rw [List.map_id, hmore, List.cons_append] at hitems
  rw [hmore, List.cons_append, jsonFrom_array, hitems]
  rfl

/-- An object is read if the values in it are read with the bound that is left. -/
theorem reads_members (hstyle : style.Spaced) {members : List (String × Json)} {bound : Input}
    (hread : ∀ member ∈ members,
      Reads (jsonFrom bound) (utf8 (member.2.text style (depth + 1))) member.2) (b : UInt8) :
    Reads (jsonFrom (b :: bound)) (utf8 ((Json.object members).text style depth))
      (.object members) := by
  intro rest _
  have htakes := takes_members hstyle (skips_jsonFrom bound) hread []
  rw [List.append_nil] at htakes
  rcases members with _ | ⟨⟨name, value⟩, members⟩
  · rfl
  · have hbound := length_lt_membersText style depth members
    rw [utf8_object, jsonFrom_object, membersFrom_first hstyle htakes]
    · simp only [endObject_close (hstyle.gap depth), Except.map, List.reverse_reverse]
    · simp only [memberBytes, List.length_cons, List.length_append] at hbound ⊢
      omega

/-- A value is read with a bound that is no shorter than its bytes. -/
theorem reads_jsonFrom (hstyle : style.Spaced) {value : Json} (h : value.Fits) {bound : Input}
    (hbound : (utf8 (value.text style depth)).length ≤ bound.length) :
    Reads (jsonFrom bound) (utf8 (value.text style depth)) value := by
  induction bound generalizing value depth with
  | nil =>
    obtain ⟨b, more, hmore, -⟩ := h.starts style depth
    rw [hmore] at hbound
    simp at hbound
  | cons b bound ih =>
    rw [List.length_cons] at hbound
    cases h with
    | null => exact fun rest _ => rfl
    | bool value => cases value <;> exact fun rest _ => rfl
    | ofNat hsmall => exact jsonFrom_number hsmall b bound
    | string s =>
      intro rest _
      rw [text, utf8_stringText, List.cons_append, List.append_assoc, jsonFrom_string,
        List.singleton_append, readText_written]
      rfl
    | @array items hall =>
      refine reads_array hstyle ?_ (fun item hitem => (hall item hitem).starts _ _) b
      intro item hitem
      obtain ⟨first, more, rfl⟩ := List.exists_cons_of_ne_nil (List.ne_nil_of_mem hitem)
      have hlt : (utf8 (item.text style (depth + 1))).length < _ := length_item_lt hitem
      rw [length_array] at hbound
      exact ih (hall item hitem) (by omega)
    | @object members hall =>
      refine reads_members hstyle ?_ b
      intro member hmember
      obtain ⟨first, more, rfl⟩ := List.exists_cons_of_ne_nil (List.ne_nil_of_mem hmember)
      have hlt : (utf8 (member.2.text style (depth + 1))).length < _ := length_member_lt hmember
      rw [length_object] at hbound
      exact ih (hall member hmember) (by omega)

/-- What is read may have spaces after it. -/
theorem readAll_gap {α : Type} {read : Reader α} {bytes : Input} {a : α} (h : Reads read bytes a)
    {gap : List Char} (hgap : IsGap gap) : readAll read (bytes ++ utf8 gap) = .ok a := by
  have hnil : Ends [] := by simp [Ends]
  have hends := ends_gap hgap hnil
  have hspace := skipSpace_gap hgap []
  rw [List.append_nil] at hends hspace
  rw [readAll, h _ hends]
  simp only [hspace]
  rfl

/-- **A written value is read as it was.** -/
theorem reads_json (hstyle : style.Spaced) {value : Json} (h : value.Fits) :
    Reads json (utf8 (value.text style depth)) value := by
  intro rest hrest
  refine reads_jsonFrom hstyle h ?_ rest hrest
  rw [List.length_append]
  exact Nat.le_add_right _ _

end ListenerReview.Json
