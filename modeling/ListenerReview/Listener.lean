/-
  ListenerReview/Listener.lean
  ============================
  **Captured listeners** — the records of a capture, with every member possibly
  missing, and what a review shows for them.

  A member that is missing or empty is shown by a stand-in.  `Listener.shape` reads
  records from JSON, where any member may be left out or `null`: off a text, or from a
  value that is already there.
-/
import ListenerReview.Json.Shape
import ListenerReview.Listener.Payload

namespace ListenerReview

/-- A captured listener: its source text, the domain it was registered on, the frame it lives in,
    the way to that frame, and the top and the whole of the stack at its registration. -/
structure Listener where
  source? : Option String
  domain? : Option String
  window? : Option String
  hops? : Option String
  stack? : Option String
  fullStack? : Option (List String)
deriving DecidableEq, Repr

namespace Listener

/-- The stand-in for source that was not captured. -/
def missingSource : String := "function() \x7b /* code not available */ \x7d"

/-- A text, or its stand-in when it is missing or empty. -/
def orElse (text? : Option String) (standIn : String) : String :=
  match text? with
  | some text => if text.isEmpty then standIn else text
  | none => standIn

/-- The source that a review shows. -/
def source (l : Listener) : String := orElse l.source? missingSource

def domain (l : Listener) : String := orElse l.domain? "unknown"

def stack (l : Listener) : String := orElse l.stack? "Unknown stack"

/-- What stands for a frame that needs no description. -/
def directFrame : String := "direct"

/-- The frame and the way to it, before payloads are dropped. -/
def rawWindowText (l : Listener) : List Char :=
  let window := (l.window?.getD "").toList
  (if window.isEmpty then [] else window ++ [' ']) ++ (orElse l.hops? directFrame).toList

/-- The description of the frame: window and way without payloads and blank ends. -/
def windowText (l : Listener) : String :=
  let text := Text.trim (Payload.strip l.rawWindowText)
  if text.isEmpty then directFrame else String.ofList text

/-! ### Reading -/

/-- A record in which every member may be open, and may be null. -/
structure Draft where
  source : Option (Option String)
  domain : Option (Option String)
  window : Option (Option String)
  hops : Option (Option String)
  stack : Option (Option String)
  fullStack : Option (Option (List String))

/-- A member that is a text or null. -/
def textMember (name : String) (get : Draft → Option (Option String))
    (set : Draft → Option String → Draft) : Json.Member Draft :=
  ⟨name, fun d => (get d).isSome, fun d input =>
    (Json.optional Json.readString input).map fun r => (set d r.1, r.2)⟩

/-- Records have six members, and an array of them may stop early. -/
def shape : Json.Shape Draft Listener where
  name := "ListenerRecord"
  members :=
    [textMember "listener" (·.source) fun d t => { d with source := some t },
      textMember "domain" (·.domain) fun d t => { d with domain := some t },
      textMember "window" (·.window) fun d t => { d with window := some t },
      textMember "hops" (·.hops) fun d t => { d with hops := some t },
      textMember "stack" (·.stack) fun d t => { d with stack := some t },
      ⟨"fullstack", fun d => d.fullStack.isSome, fun d input =>
        (Json.optional (Json.elements Json.readString) input).map fun r =>
          ({ d with fullStack := some r.1 }, r.2)⟩]
  empty := ⟨none, none, none, none, none, none⟩
  mayStop := true
  finish d :=
    .ok ⟨d.source.join, d.domain.join, d.window.join, d.hops.join, d.stack.join, d.fullStack.join⟩

/-- Reads a text that holds an array of records. -/
def listOfJson (input : Json.Input) : Except Json.Fault (List Listener) :=
  Json.readAll (Json.elements shape.read) input

/-- The record that a value stands for. -/
def ofValue (value : Json) : Except Json.Fault Listener := shape.ofValue value

/-- The records that a value stands for; the first that cannot be read decides. -/
def listOfValue : Json → Except Json.Fault (List Listener)
  | .array items => items.mapM ofValue
  | value => listOfJson (Json.bytesOf value.compactText)

end Listener

end ListenerReview
