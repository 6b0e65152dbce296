/-
  ListenerReview/Session.lean
  ===========================
  **Sessions** — the state that lasts from one batch of listeners to the next: the
  settings, the rules, and the formatter with what it remembers.

  Source is laid out in order, through the cache; terms are marked in parallel, as
  marking has no state.  The workers for that are started when the layouts are there:
  if they cannot be, there is no review, but what was laid out stays remembered.  New
  settings clear the cache when layouts made under the old ones might be shown under
  the new.  `start` and `adopt` take the fingerprint of the settings from outside, so
  that what holds for any fingerprint can be said.
-/
import ListenerReview.Fault
import ListenerReview.Highlight
import ListenerReview.Listener
import ListenerReview.Parallel
import ListenerReview.Review
import ListenerReview.Settings

namespace ListenerReview

/-- A session. `fingerprint` is that of the settings under which the cache was filled, and `workers`
    the number of workers that it asks for. -/
structure Session where
  settings : Settings
  rules : RuleSet
  highlighter : Highlighter
  formatter : Formatter
  fingerprint : UInt64
  workers : Nat

namespace Session

/-- A session with nothing remembered, under settings of the given fingerprint. -/
def start (settings : Settings) (fingerprint : UInt64) (rules : RuleSet) (workers : Nat) :
    Session where
  settings := settings
  rules := rules
  highlighter := .ofRules rules
  formatter := settings.formatter
  fingerprint := fingerprint
  workers := workers

def new (settings : Settings) (rules : RuleSet) (workers : Nat) : Session :=
  start settings settings.fingerprint rules workers

/-- The session with other rules. Layouts stay remembered. -/
def setRules (session : Session) (rules : RuleSet) : Session :=
  { session with rules := rules, highlighter := .ofRules rules }

/-- Whether the formatter of the old settings cannot serve the new ones. -/
def needsFormatter (old new : Settings) : Bool :=
  new.indentUnit != old.indentUnit || new.cacheCapacity != old.cacheCapacity
    || new.maxFormatUnits != old.maxFormatUnits

/-- The session with other settings of the given fingerprint, and whether remembered layouts were
    dropped. -/
def adopt (session : Session) (settings : Settings) (fingerprint : UInt64) : Session × Bool :=
  let changed := needsFormatter session.settings settings
  let formatter := if changed then settings.formatter else session.formatter
  if fingerprint ≠ session.fingerprint then
    ({ session with
        settings := settings
        formatter := formatter.clear
        fingerprint := fingerprint }, true)
  else ({ session with settings := settings, formatter := formatter }, changed)

/-- The session with other settings, and whether remembered layouts were dropped. -/
def updateSettings (session : Session) (settings : Settings) : Session × Bool :=
  session.adopt settings settings.fingerprint

/-! ### Rendering -/

/-- The texts to show for sources, and the formatter afterwards: their layouts if the settings ask
    for them, else the sources. -/
def displayTexts (session : Session) (sources : List String) : List Formatted × Formatter :=
  if session.settings.prettify then session.formatter.formatAll sources
  else (sources.map (⟨·, false, false⟩), session.formatter)

def entry (settings : Settings) (index : Nat) (listener : Listener) (formatted : Formatted)
    (markup : String) : Entry where
  index := index
  domain := listener.domain
  windowText := listener.windowText
  stack := listener.stack
  source := listener.source
  displayText := formatted.text
  markup := markup
  truncated := settings.truncates formatted.text
  formatted := settings.prettify && !formatted.skippedForSize
  skippedForSize := formatted.skippedForSize

def markup (session : Session) (text : String) : String :=
  String.ofList (session.highlighter.markup text.toList)

/-- The entries of listeners whose texts and markup are given, the first at position `index`. -/
def entriesFrom (settings : Settings) :
    Nat → List Listener → List Formatted → List String → List Entry
  | index, listener :: listeners, formatted :: others, markup :: markups =>
    entry settings index listener formatted markup
      :: entriesFrom settings (index + 1) listeners others markups
  | _, _, _, _ => []

/-- A batch that has been laid out: the texts to show, and how often the cache had one of them and
    how often it lacked one. -/
structure LaidOut where
  texts : List Formatted
  hits : Nat
  misses : Nat

/-- Lays a batch out: the layouts, and the session afterwards. -/
def layOut (session : Session) (listeners : List Listener) : LaidOut × Session :=
  let before := session.formatter.cache.counts
  let (texts, formatter) := session.displayTexts (listeners.map Listener.source)
  let after := formatter.cache.counts
  (⟨texts, after.hits - before.hits, after.misses - before.misses⟩,
    { session with formatter := formatter })

/-- The review of a batch that has been laid out, with its terms marked by the workers. -/
def review (session : Session) (pool : Pool) (listeners : List Listener) (laidOut : LaidOut) :
    Review :=
  let markups := pool.map session.markup (laidOut.texts.map Formatted.text)
  let entries := entriesFrom session.settings 1 listeners laidOut.texts markups
  ⟨entries, .ofEntries entries laidOut.hits laidOut.misses⟩

/-- The review of a batch, given what came of starting the workers, and the session afterwards:
    the same whether or not there is a review. -/
def render (session : Session) (pool : Except Files.OsFault Pool) (listeners : List Listener) :
    Except ReviewFault Review × Session :=
  let (laidOut, after) := session.layOut listeners
  let rendered := match pool with
    | .ok pool => .ok (session.review pool listeners laidOut)
    | .error reason => .error (.noPool reason)
  (rendered, after)

theorem render_ok (session : Session) (pool : Pool) (listeners : List Listener) :
    (session.render (.ok pool) listeners).1 =
      .ok (session.review pool listeners (session.layOut listeners).1) := rfl

/-- Whoever the workers are, they hand back what each text gives. -/
theorem review_eq (session : Session) (pool pool' : Pool) (listeners : List Listener)
    (laidOut : LaidOut) :
    session.review pool listeners laidOut = session.review pool' listeners laidOut := by
  simp only [review, pool.map_eq, pool'.map_eq]

/-- What the formatter says while a batch is laid out. -/
def notices (session : Session) (listeners : List Listener) : List Notice :=
  if session.settings.prettify then session.formatter.noticesAll (listeners.map Listener.source)
  else []

/-- What is reported when a batch has been laid out. -/
def progress (session : Session) (listeners : List Listener) : List String :=
  if session.settings.prettify then
    let (laidOut, _) := session.layOut listeners
    [cacheText laidOut.hits laidOut.misses]
  else []

end Session

end ListenerReview
