/-
  ListenerReview/Proofs/Markup/Fragment.lean
  ==========================================
  **Fragments of a document** — texts that may be put side by side without changing
  how any of them is read.

  `Fragment s tags` says that the brackets of `s` are those of `tags`, in this order,
  and that all its other characters are harmless.  Literals are fragments by
  evaluation, escaped text is a fragment without tags whatever it was made of, and
  fragments are put together by `Fragment.append`, so a document is a fragment as
  soon as its parts are, and its tags are theirs.

  `nest` runs tags as a stack machine: a tag opens an element or closes the innermost
  open one.
-/
import ListenerReview.Proofs.Markup.Tags

namespace ListenerReview.Markup

/-! ### Fragments -/

/-- A text whose brackets are those of the given tags, and whose other characters are not special;
    each of its ampersands starts a reference. -/
structure Fragment (s : String) (tags : List (List Char)) : Prop where
  read : ∃ toks, tokens? s.toList = some toks ∧ tagsOf toks = tags ∧
    ∀ c ∈ charsOf toks, isSpecial c = false
  ampersands : AmpersandsEscaped s.toList

theorem Fragment.append {s t : String} {a b : List (List Char)} (hs : Fragment s a)
    (ht : Fragment t b) : Fragment (s ++ t) (a ++ b) := by
  obtain ⟨toks, hread, htags, hchars⟩ := hs.read
  obtain ⟨toks', hread', htags', hchars'⟩ := ht.read
  constructor
  · refine ⟨toks ++ toks', ?_, ?_, ?_⟩
    · rw [String.toList_append]
      exact tokens?_append hread hread'
    · rw [tagsOf_append, htags, htags']
    · intro c hc
      rw [charsOf_append] at hc
      rcases List.mem_append.mp hc with hc | hc
      · exact hchars c hc
      · exact hchars' c hc
  · rw [String.toList_append]
    exact hs.ampersands.append ht.ampersands

theorem fragment_plain {s : String} (h : ∀ c ∈ s.toList, isSpecial c = false ∧ c ≠ '&') :
    Fragment s [] where
  read := by
    refine ⟨s.toList.map .char, ?_, tagsOf_map_char _, ?_⟩
    · exact tokens?_chars fun c hc => isBracket_of_not_isSpecial (h c hc).1
    · intro c hc
      rw [charsOf_map_char] at hc
      exact (h c hc).1
  ampersands := ampersandsEscaped_of_not_mem fun hmem => (h '&' hmem).2 rfl

theorem fragment_escape (s : List Char) : Fragment (String.ofList (escape s)) [] where
  read := by
    rw [String.toList_ofList]
    refine ⟨_, tokens?_escape s, tagsOf_map_char _, ?_⟩
    intro c hc
    rw [charsOf_map_char] at hc
    exact isSpecial_escape hc
  ampersands := by
    rw [String.toList_ofList]
    exact ampersandsEscaped_escape s

theorem fragment_tag {content : List Char} (hbrackets : ∀ c ∈ content, isBracket c = false)
    (hampersands : AmpersandsEscaped content) :
    Fragment (String.ofList ('<' :: (content ++ ['>']))) [content] where
  read := by
    refine ⟨[.tag content], ?_, rfl, ?_⟩
    · rw [String.toList_ofList, tokens?_tag hbrackets]
      rfl
    · intro c hc
      cases hc
  ampersands := by
    have hopen : AmpersandsEscaped ['<'] := ampersandsEscaped_of_not_mem (by decide)
    have hclose : AmpersandsEscaped ['>'] := ampersandsEscaped_of_not_mem (by decide)
    rw [String.toList_ofList]
    exact hopen.append (hampersands.append hclose)

/-- Whether the characters of a text are read as the given tags and characters that are neither
    special nor ampersands. -/
def readsAs (s : List Char) (tags : List (List Char)) : Bool :=
  !s.contains '&' && (tokens? s).any fun toks =>
    decide (tagsOf toks = tags) && (charsOf toks).all fun c => !isSpecial c

/-- A literal is a fragment by evaluation. Its characters are found by unification, so that only
    they are evaluated. -/
theorem fragment_literal {s : String} {tags : List (List Char)} (chars : List Char)
    (hs : s = String.ofList chars) (h : readsAs chars tags = true) : Fragment s tags := by
  subst hs
  simp only [readsAs, Bool.and_eq_true, Bool.not_eq_true', Option.any_eq_true, decide_eq_true_eq,
    List.all_eq_true] at h
  obtain ⟨hamp, toks, hread, htags, hchars⟩ := h
  constructor
  · rw [String.toList_ofList]
    exact ⟨toks, hread, htags, hchars⟩
  · rw [String.toList_ofList]
    apply ampersandsEscaped_of_not_mem
    simpa using hamp

/-! ### Lines -/

/-- The characters of lines, each with the line feed after it. -/
def unlines (lines : List String) : String := String.join (lines.flatMap fun line => [line, "\n"])

theorem unlines_cons (line : String) (lines : List String) :
    unlines (line :: lines) = line ++ "\n" ++ unlines lines := by
  simp [unlines, String.join_cons, String.append_assoc]

theorem unlines_append (a b : List String) : unlines (a ++ b) = unlines a ++ unlines b := by
  simp [unlines, String.join_append]

theorem fragment_unlines_nil : Fragment (unlines []) [] :=
  fragment_literal [] rfl rfl

theorem fragment_unlines_cons {line : String} {lines : List String} {a b : List (List Char)}
    (hline : Fragment line a) (hlines : Fragment (unlines lines) b) :
    Fragment (unlines (line :: lines)) (a ++ b) := by
  have hfeed : Fragment "\n" [] := fragment_literal _ rfl rfl
  have h := (hline.append hfeed).append hlines
  rw [List.append_nil] at h
  rw [unlines_cons]
  exact h

theorem fragment_unlines_append {ls ms : List String} {a b : List (List Char)}
    (hls : Fragment (unlines ls) a) (hms : Fragment (unlines ms) b) :
    Fragment (unlines (ls ++ ms)) (a ++ b) := by
  rw [unlines_append]
  exact hls.append hms

theorem fragment_unlines_flatMap {α : Type} {f : α → List String} {g : α → List (List Char)}
    {xs : List α} (h : ∀ x ∈ xs, Fragment (unlines (f x)) (g x)) :
    Fragment (unlines (xs.flatMap f)) (xs.flatMap g) := by
  induction xs with
  | nil => exact fragment_unlines_nil
  | cons x xs ih =>
    rw [List.flatMap_cons, List.flatMap_cons]
    exact fragment_unlines_append (h x List.mem_cons_self)
      (ih fun y hy => h y (List.mem_cons_of_mem _ hy))

theorem fragment_unlines_plain {lines : List String} (h : ∀ line ∈ lines, Fragment line []) :
    Fragment (unlines lines) [] := by
  induction lines with
  | nil => exact fragment_unlines_nil
  | cons line lines ih =>
    have hline := h line List.mem_cons_self
    exact fragment_unlines_cons hline (ih fun l hl => h l (List.mem_cons_of_mem _ hl))

/-! ### Nesting -/

/-- The name of the element that a tag opens. -/
def tagName (content : List Char) : List Char := content.takeWhile (· ≠ ' ')

def voidNames : List (List Char) := ["!DOCTYPE".toList, "meta".toList]

/-- Whether an element may be opened inside the given ones: spans stand inside preformatted text,
    and not inside each other. -/
def mayOpen (stack : List (List Char)) (name : List Char) : Bool :=
  name != "span".toList || (stack.contains "pre".toList && !stack.contains "span".toList)

/-- The open elements after a tag, innermost first, if the tag may stand there. -/
def nestTag (stack : List (List Char)) : List Char → Option (List (List Char))
  | '/' :: name => if stack.head? = some name then some stack.tail else none
  | content =>
    let name := tagName content
    if voidNames.contains name then some stack
    else if mayOpen stack name then some (name :: stack)
    else none

/-- The open elements after tags, if every one of them may stand where it does. -/
def nest (stack : List (List Char)) (tags : List (List Char)) : Option (List (List Char)) :=
  tags.foldlM nestTag stack

example : nest ["pre".toList] ["span class=x".toList, "/span".toList] = some ["pre".toList] := by
  decide

example : nest ["body".toList] ["span".toList, "/span".toList] = none := by decide

theorem nest_append {stack next : List (List Char)} {a : List (List Char)}
    (h : nest stack a = some next) (b : List (List Char)) : nest stack (a ++ b) = nest next b := by
  rw [nest] at h
  rw [nest, List.foldlM_append, h]
  rfl

theorem nest_flatMap {α : Type} {stack : List (List Char)} {f : α → List (List Char)} {xs : List α}
    (h : ∀ x ∈ xs, nest stack (f x) = some stack) : nest stack (xs.flatMap f) = some stack := by
  induction xs with
  | nil => rfl
  | cons x xs ih =>
    rw [List.flatMap_cons, nest_append (h x List.mem_cons_self)]
    exact ih fun y hy => h y (List.mem_cons_of_mem _ hy)

end ListenerReview.Markup
