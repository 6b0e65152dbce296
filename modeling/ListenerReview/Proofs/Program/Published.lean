/-
  ListenerReview/Proofs/Program/Published.lean
  ============================================
  **The report comes last** — what a run has done by the time it ends, at each of its
  ends.

  What a run reads is decided by the files as they are at that moment (`rulesIn`,
  `recordsIn`), and nothing is written while it is read.  So every end of a run comes
  with all that it has done until then (`RunEnd`): nothing when the arguments or the
  rules are at fault, at most the rules saved when the save, the records or the workers
  are, and the delivery of the report after that.

  Messages go past all of it: they change nothing but what was said, and one that is
  refused ends the run where it is (`Leads`).  So every kind of end allows for something
  having been said before, and for being cut short (`Lenient`).
-/
import ListenerReview.Proofs.Program.Saving

namespace ListenerReview

open Files (Bytes OsFault Tree)
open Act (AllAccepted)

/-- Between two worlds nothing has happened but that something was said. -/
def OnlySaid (before after : World) : Prop := ∃ said, after = { before with said := said }

theorem OnlySaid.refl (world : World) : OnlySaid world world := ⟨world.said, rfl⟩

theorem OnlySaid.trans {before between after : World} (h : OnlySaid before between)
    (h' : OnlySaid between after) : OnlySaid before after := by
  obtain ⟨_, rfl⟩ := h
  obtain ⟨said, rfl⟩ := h'
  exact ⟨said, rfl⟩

namespace Program

/-! ### What a run reads -/

/-- The rule set of a run, in files. -/
def rulesIn (files : Tree) : Option String → Except ReviewFault RuleSet
  | none => .ok .empty
  | some path =>
    match files.read path with
    | .ok bytes => rulesOfBytes path bytes
    | .error (.opening fault) => .error (.cannotOpen path fault)
    | .error (.reading fault) =>
      .error (if isStored path then .rulesUnreadable (.file fault) else .cannotOpen path fault)

/-- The records of a run, in files or in its input. -/
def recordsIn (world : World) (path : String) : Except ReviewFault (List Listener) :=
  if path = CommandLine.standardStream then recordsOfBytes path world.input
  else
    match world.files.read path with
    | .ok bytes => recordsOfBytes path bytes
    | .error (.opening fault) => .error (.cannotOpen path fault)
    | .error (.reading fault) => .error (.invalidRecords path (.file fault))

theorem bytesOf_report_ne_nil (form : ReportForm) (settings : Settings) (review : Review) :
    Json.bytesOf (Report.text form settings review) ≠ [] := by
  have hlines : Report.lines form settings review ≠ [] := by
    cases form with
    | console => simp [Report.lines, Report.console, Report.consoleSettings]
    | structured => simp [Report.lines, Report.structured]
    | panel => simp [Report.lines, Report.panel]
  obtain ⟨line, hline⟩ := List.exists_mem_of_ne_nil _ hlines
  have hfeed : "\n" ∈ Report.parts form settings review :=
    List.mem_flatMap.mpr ⟨line, hline, by simp⟩
  rw [Report.text, bytesOf_join]
  intro hnil
  exact absurd (List.flatten_eq_nil_iff.mp hnil _ (List.mem_map_of_mem hfeed)) (by decide)

variable (machine : Machine)

theorem runs_loadRules (path : String) (world : World) :
    Runs (loadRules machine.host.recorded path) world (rulesIn world.files (some path)) []
      world := by
  apply (runs_readFile machine path world).bind_quiet
  rw [rulesIn]
  rcases world.files.read path with (fault | fault) | bytes
  · exact .pure world _
  · exact .pure world _
  · exact .pure world _

theorem runs_loadRecords (path : String) (world : World) :
    Runs (loadRecords machine.host.recorded path) world (recordsIn world path) [] world := by
  unfold loadRecords recordsIn
  by_cases hpath : path = CommandLine.standardStream
  · rw [if_pos hpath, if_pos hpath]
    exact (runs_readInput machine world).bind_quiet (.pure world _)
  · rw [if_neg hpath, if_neg hpath]
    apply (runs_readFile machine path world).bind_quiet
    rcases world.files.read path with (fault | fault) | bytes
    · exact .pure world _
    · exact .pure world _
    · exact .pure world _

/-! ### What a run says -/

/-- The exit codes of a run in which a step has failed. -/
inductive FailsWith : UInt32 → Prop
  | heard : FailsWith failed
  | refused (h : ¬machine.Hears) : FailsWith cutShort

/-- A message is said or refused, and nothing else happens. -/
theorem runs_say_cases (message : Message) (world : World) :
    ∃ outcome after, Runs (machine.host.recorded.say message) world outcome [] after ∧
      OnlySaid world after ∧ ((∃ fault, outcome = .error fault) → ¬machine.Hears) := by
  refine ⟨_, _, runs_say machine message world, ?_, ?_⟩
  · rw [World.sayOr]
    split
    · exact ⟨_, rfl⟩
    · exact .refl world
  · rintro ⟨fault, hfault⟩ hhears
    rw [World.sayOr, hhears] at hfault
    cases hfault

variable {machine}

/-- The first action says something, or nothing, and goes on with the second, unless it is cut
    short. -/
def Leads (machine : Machine) (action next : StateT (List (Act World.Sink)) (StateM World) UInt32) :
    Prop :=
  ∀ world, ∃ between, OnlySaid world between ∧
    ((∀ exit acts after, Runs next between exit acts after → Runs action world exit acts after) ∨
      (¬machine.Hears ∧ Runs action world cutShort [] between))

section

variable {action middle next : StateT (List (Act World.Sink)) (StateM World) UInt32}

theorem Leads.refl : Leads machine next next :=
  fun world => ⟨world, .refl world, .inl fun _ _ _ hruns => hruns⟩

theorem Leads.trans (h : Leads machine action middle) (h' : Leads machine middle next) :
    Leads machine action next := by
  intro world
  obtain ⟨between, hsaid, hgoes | ⟨hrefuses, hcut⟩⟩ := h world
  · obtain ⟨later, hmore, hgoes' | ⟨hrefuses, hcut⟩⟩ := h' between
    · exact ⟨later, hsaid.trans hmore, .inl fun _ _ _ hruns => hgoes _ _ _ (hgoes' _ _ _ hruns)⟩
    · exact ⟨later, hsaid.trans hmore, .inr ⟨hrefuses, hgoes _ _ _ hcut⟩⟩
  · exact ⟨between, hsaid, .inr ⟨hrefuses, hcut⟩⟩

theorem leads_sayThen (message : Message) :
    Leads machine (sayThen machine.host.recorded message next) next := by
  intro world
  obtain ⟨outcome, between, hsay, hsaid, hrefused⟩ := runs_say_cases machine message world
  refine ⟨between, hsaid, ?_⟩
  cases outcome with
  | error fault => exact .inr ⟨hrefused ⟨fault, rfl⟩, hsay.bind (.pure between cutShort)⟩
  | ok => exact .inl fun _ _ _ hruns => hsay.bind hruns

theorem leads_progress (options : Options) (text : String) :
    Leads machine (progress machine.host.recorded options text next) next := by
  unfold progress
  split
  · exact .refl
  · exact leads_sayThen _

theorem leads_note (options : Options) (message : Message) :
    Leads machine (note machine.host.recorded options message next) next := by
  unfold note
  split
  · exact leads_sayThen _
  · exact .refl

theorem leads_warnIfEmpty (options : Options) (path : String) (rules : RuleSet) :
    Leads machine (warnIfEmpty machine.host.recorded options path rules next) next := by
  unfold warnIfEmpty
  split
  · exact leads_note _ _
  · exact .refl

theorem leads_foldr {α : Type}
    {f : α → StateT (List (Act World.Sink)) (StateM World) UInt32 →
      StateT (List (Act World.Sink)) (StateM World) UInt32}
    (h : ∀ a rest, Leads machine (f a rest) rest) (items : List α) :
    Leads machine (items.foldr f next) next := by
  induction items with
  | nil => exact .refl
  | cons item items ih => exact (h item _).trans ih

end

variable (machine)

theorem runs_fail (text : String) (world : World) :
    ∃ exit after, Runs (fail machine.host.recorded text) world exit [] after ∧
      FailsWith machine exit ∧ OnlySaid world after := by
  have hleads : Leads machine (fail machine.host.recorded text) (pure failed) := leads_sayThen _
  obtain ⟨between, hsaid, hgoes | ⟨hrefuses, hcut⟩⟩ := hleads world
  · exact ⟨failed, between, hgoes _ _ _ (.pure between failed), .heard, hsaid⟩
  · exact ⟨cutShort, between, hcut, .refused hrefuses, hsaid⟩

/-! ### The ends of a run -/

/-- What a run comes to: from a world, its exit code, its acts, and the world afterwards. -/
abbrev Ending := World → UInt32 → List (Act World.Sink) → World → Prop

/-- An action always comes to such an end. -/
def Ends (action : StateT (List (Act World.Sink)) (StateM World) UInt32) (ending : Ending) : Prop :=
  ∀ world, ∃ exit acts after, Runs action world exit acts after ∧ ending world exit acts after

/-- Ends that something may have been said before, and that a refused message may come before. -/
structure Lenient (ending : Ending) : Prop where
  said : ∀ {world between exit acts after}, OnlySaid world between →
    ending between exit acts after → ending world exit acts after
  cut : ¬machine.Hears → ∀ {world after}, OnlySaid world after → ending world cutShort [] after

/-- The review of a run, or why there is none. -/
def reviewOf (options : Options) (rules : RuleSet) (listeners : List Listener) :
    Except ReviewFault Review :=
  ((Session.new options.settings rules (threadsFor machine.host options)).render
    (machine.pools (threadsFor machine.host options)) listeners).1

/-- The ends of writing a report. -/
inductive ReportEnd (options : Options) (rules : RuleSet) (listeners : List Listener) : Ending
  | unheard {world after : World} (hrefuses : ¬machine.Hears) (hsame : OnlySaid world after) :
    ReportEnd options rules listeners world cutShort [] after
  /-- The workers could not be started. -/
  | unrendered {world after : World} {exit : UInt32} {reason : OsFault}
    (hexit : FailsWith machine exit)
    (hpool : machine.pools (threadsFor machine.host options) = .error reason)
    (hsame : OnlySaid world after) :
    ReportEnd options rules listeners world exit [] after
  | undelivered {world after : World} {exit : UInt32} {acts : List (Act World.Sink)}
    {review : Review} (hexit : FailsWith machine exit)
    (hreview : reviewOf machine options rules listeners = .ok review)
    (hrefused : ¬AllAccepted acts) :
    ReportEnd options rules listeners world exit acts after
  | delivered {world after : World} {acts : List (Act World.Sink)} {review : Review}
    (hreview : reviewOf machine options rules listeners = .ok review)
    (haccepted : AllAccepted acts)
    (hdelivered : Delivered world after options.output
      (Report.text options.form options.settings review)) :
    ReportEnd options rules listeners world succeeded acts after

/-- The ends of reviewing records, with what was done for it. -/
inductive ReviewEnd (options : Options) (rules : RuleSet) : Ending
  | unheard {world after : World} (hrefuses : ¬machine.Hears) (hsame : OnlySaid world after) :
    ReviewEnd options rules world cutShort [] after
  | unread {world after : World} {exit : UInt32} {fault : ReviewFault}
    (hexit : FailsWith machine exit) (hrecords : recordsIn world options.input = .error fault)
    (hsame : OnlySaid world after) :
    ReviewEnd options rules world exit [] after
  | read {world after : World} {exit : UInt32} {acts : List (Act World.Sink)}
    {listeners : List Listener} (hrecords : recordsIn world options.input = .ok listeners)
    (hend : ReportEnd machine options rules listeners world exit acts after) :
    ReviewEnd options rules world exit acts after

/-- What keeping the rules of a run comes to when nothing is wrong with it. -/
inductive Kept (rules : RuleSet) (world : World) :
    Option String → List (Act World.Sink) → World → Prop
  | unasked {after : World} (hsame : OnlySaid world after) : Kept rules world none [] after
  | saved {path : String} {acts : List (Act World.Sink)} {before saved after : World}
    (hbefore : OnlySaid world before)
    (hsave : Runs (saveRules machine.host.recorded rules path) before (.ok ()) acts saved)
    (hend : SaveEnd path (savedParts machine rules) (.ok ()) acts)
    (honly : TouchedOnly path world after) : Kept rules world (some path) acts after

/-- The ends of a run that has rules, with what was done. -/
inductive KeepEnd (options : Options) (rules : RuleSet) : Ending
  | unheard {world after : World} (hrefuses : ¬machine.Hears) (hsame : OnlySaid world after) :
    KeepEnd options rules world cutShort [] after
  | unsaved {world before saved after : World} {exit : UInt32} {path : String}
    {fault : ReviewFault} {acts : List (Act World.Sink)} (hexit : FailsWith machine exit)
    (hpath : options.saveRules = some path) (hbefore : OnlySaid world before)
    (hsave : Runs (saveRules machine.host.recorded rules path) before (.error fault) acts saved)
    (hend : SaveEnd path (savedParts machine rules) (.error fault) acts)
    (honly : TouchedOnly path world after) :
    KeepEnd options rules world exit acts after
  | reviewed {world saved after : World} {exit : UInt32} {kept acts : List (Act World.Sink)}
    (hkept : Kept machine rules world options.saveRules kept saved)
    (hreview : ReviewEnd machine options rules saved exit acts after) :
    KeepEnd options rules world exit (kept ++ acts) after

/-- The ends of a run, with what was done. -/
inductive RunEnd (arguments : List String) : Ending
  | refused {world after : World} {exit : UInt32} {refusal : CommandLine.Refusal}
    (hexit : FailsWith machine exit) (hparse : CommandLine.parse arguments = .error refusal)
    (hhelp : refusal ≠ .help) (hversion : refusal ≠ .version) (hsame : OnlySaid world after) :
    RunEnd arguments world exit [] after
  /-- The help or the version was asked for. -/
  | answered {world after : World} {refusal : CommandLine.Refusal} {text : String}
    {outcome : Except OsFault Unit} (hparse : CommandLine.parse arguments = .error refusal)
    (htext : refusal = .help ∧ text = CommandLine.helpText ∨
      refusal = .version ∧ text = CommandLine.versionText) (hfiles : after.files = world.files) :
    RunEnd arguments world succeeded [.write .output (Json.bytesOf text) outcome] after
  | unloaded {world after : World} {exit : UInt32} {options : Options} {fault : ReviewFault}
    (hexit : FailsWith machine exit) (hparse : CommandLine.parse arguments = .ok options)
    (hrules : rulesIn world.files options.rules = .error fault) (hsame : OnlySaid world after) :
    RunEnd arguments world exit [] after
  | loaded {world after : World} {exit : UInt32} {acts : List (Act World.Sink)}
    {options : Options} {rules : RuleSet} (hparse : CommandLine.parse arguments = .ok options)
    (hrules : rulesIn world.files options.rules = .ok rules)
    (hend : KeepEnd machine options rules world exit acts after) :
    RunEnd arguments world exit acts after

/-! ### Saying something first -/

theorem TouchedOnly.of_onlySaid {path : String} {world before after later : World}
    (h : TouchedOnly path before after) (hbefore : OnlySaid world before)
    (hlater : OnlySaid after later) : TouchedOnly path world later := by
  obtain ⟨_, rfl⟩ := hbefore
  obtain ⟨_, rfl⟩ := hlater
  exact ⟨h.input, h.output, h.files⟩

variable {machine}

theorem Kept.of_onlySaid {rules : RuleSet} {world before after : World} {path : Option String}
    {acts : List (Act World.Sink)} (h : Kept machine rules before path acts after)
    (hsaid : OnlySaid world before) : Kept machine rules world path acts after := by
  cases h with
  | unasked hsame => exact .unasked (hsaid.trans hsame)
  | saved hbefore hsave hend honly =>
    exact .saved (hsaid.trans hbefore) hsave hend (honly.of_onlySaid hsaid (.refl after))

variable (options : Options) (rules : RuleSet)

theorem lenient_reportEnd (listeners : List Listener) :
    Lenient machine (ReportEnd machine options rules listeners) where
  said hsaid hend := by
    cases hend with
    | unheard hrefuses hsame => exact .unheard hrefuses (hsaid.trans hsame)
    | unrendered hexit hpool hsame => exact .unrendered hexit hpool (hsaid.trans hsame)
    | undelivered hexit hreview hrefused => exact .undelivered hexit hreview hrefused
    | delivered hreview haccepted hdelivered =>
      obtain ⟨_, rfl⟩ := hsaid
      exact .delivered hreview haccepted hdelivered
  cut hrefuses _ _ hsame := .unheard hrefuses hsame

theorem lenient_reviewEnd : Lenient machine (ReviewEnd machine options rules) where
  said hsaid hend := by
    cases hend with
    | unheard hrefuses hsame => exact .unheard hrefuses (hsaid.trans hsame)
    | unread hexit hrecords hsame =>
      have hall := hsaid.trans hsame
      obtain ⟨_, rfl⟩ := hsaid
      exact .unread hexit hrecords hall
    | read hrecords hend =>
      have hall := (lenient_reportEnd options rules _).said hsaid hend
      obtain ⟨_, rfl⟩ := hsaid
      exact .read hrecords hall
  cut hrefuses _ _ hsame := .unheard hrefuses hsame

theorem lenient_keepEnd : Lenient machine (KeepEnd machine options rules) where
  said {world between exit acts after} hsaid hend := by
    cases hend with
    | unheard hrefuses hsame => exact .unheard hrefuses (hsaid.trans hsame)
    | unsaved hexit hpath hbefore hsave hend honly =>
      exact .unsaved hexit hpath (hsaid.trans hbefore) hsave hend
        (honly.of_onlySaid hsaid (.refl after))
    | reviewed hkept hreview => exact .reviewed (hkept.of_onlySaid hsaid) hreview
  cut hrefuses _ _ hsame := .unheard hrefuses hsame

/-- What an action comes to, an action that says something first comes to as well. -/
theorem Ends.of_leads {action next : StateT (List (Act World.Sink)) (StateM World) UInt32}
    {ending : Ending} (hends : Ends next ending) (hleads : Leads machine action next)
    (hlenient : Lenient machine ending) : Ends action ending := by
  intro world
  obtain ⟨between, hsaid, hgoes | ⟨hrefuses, hcut⟩⟩ := hleads world
  · obtain ⟨exit, acts, after, hruns, hend⟩ := hends between
    exact ⟨exit, acts, after, hgoes _ _ _ hruns, hlenient.said hsaid hend⟩
  · exact ⟨cutShort, [], between, hcut, hlenient.cut hrefuses hsaid⟩

/-! ### Runs -/

variable (machine)

theorem ends_publish (listeners : List Listener) :
    Ends (publish machine.host.recorded options (reviewOf machine options rules listeners))
      (ReportEnd machine options rules listeners) := by
  intro world
  cases hreview : reviewOf machine options rules listeners with
  | error fault =>
    obtain ⟨exit, after, hfail, hexit, hsame⟩ :=
      runs_fail machine ("Error: " ++ fault.message) world
    refine ⟨exit, [], after, hfail, ?_⟩
    cases hpool : machine.pools (threadsFor machine.host options) with
    | error reason => exact .unrendered hexit hpool hsame
    | ok pool =>
      rw [reviewOf, hpool] at hreview
      cases hreview
  | ok review =>
    obtain ⟨outcome, acts, after, hdeliver, haccepted, hdelivered⟩ := runs_deliver machine
      options.output (bytesOf_report_ne_nil options.form options.settings review) world
    cases outcome with
    | error fault =>
      obtain ⟨exit, later, hfail, hexit, -⟩ := runs_fail machine fault.message after
      refine ⟨exit, acts, later, hdeliver.bind_quiet hfail, .undelivered hexit hreview ?_⟩
      intro hall
      cases haccepted.mpr hall
    | ok =>
      exact ⟨succeeded, acts, after, hdeliver.bind_quiet (.pure after succeeded),
        .delivered hreview (haccepted.mp rfl) (hdelivered rfl)⟩

theorem ends_renderReport (listeners : List Listener) :
    Ends (renderReport machine.host.recorded options rules listeners)
      (ReportEnd machine options rules listeners) := by
  have hrest : Ends (do
      let pool ← machine.host.recorded.startPool (threadsFor machine.host options)
      publish machine.host.recorded options
        ((Session.new options.settings rules (threadsFor machine.host options)).render pool
          listeners).1) (ReportEnd machine options rules listeners) := by
    intro world
    obtain ⟨exit, acts, after, hruns, hend⟩ := ends_publish machine options rules listeners world
    exact ⟨exit, acts, after, (runs_startPool machine _ world).bind hruns, hend⟩
  apply hrest.of_leads ?_ (lenient_reportEnd options rules listeners)
  apply Leads.trans
  · exact leads_foldr (fun notice _ => leads_note options (.detail (noticeText notice))) _
  · exact leads_foldr (fun text _ => leads_progress options text) _

theorem ends_reviewRecords :
    Ends (reviewRecords machine.host.recorded options rules) (ReviewEnd machine options rules) := by
  intro world
  have hload := runs_loadRecords machine options.input world
  unfold reviewRecords
  cases hrecords : recordsIn world options.input with
  | error fault =>
    rw [hrecords] at hload
    obtain ⟨exit, after, hfail, hexit, hsame⟩ :=
      runs_fail machine ("Error: " ++ fault.message) world
    exact ⟨exit, [], after, hload.bind hfail, .unread hexit hrecords hsame⟩
  | ok listeners =>
    rw [hrecords] at hload
    obtain ⟨exit, acts, after, hruns, hend⟩ :=
      (ends_renderReport machine options rules listeners).of_leads
        (leads_progress options ("Loaded " ++ toString listeners.length ++ " listener records"))
        (lenient_reportEnd options rules listeners) world
    exact ⟨exit, acts, after, hload.bind hruns, .read hrecords hend⟩

theorem ends_keepRules :
    Ends (keepRules machine.host.recorded options rules) (KeepEnd machine options rules) := by
  intro world
  unfold keepRules
  cases hpath : options.saveRules with
  | none =>
    obtain ⟨exit, acts, after, hruns, hend⟩ := ends_reviewRecords machine options rules world
    have hkept : Kept machine rules world options.saveRules [] world :=
      hpath ▸ .unasked (.refl world)
    exact ⟨exit, acts, after, hruns, .reviewed hkept hend⟩
  | some path =>
    obtain ⟨outcome, kept, saved, hsave, hsaved, honly, -, -⟩ :=
      runs_saveRules machine rules path world
    cases outcome with
    | error fault =>
      obtain ⟨exit, after, hfail, hexit, hsame⟩ :=
        runs_fail machine ("Error saving rules: " ++ fault.message) saved
      exact ⟨exit, kept, after, hsave.bind_quiet hfail, .unsaved hexit hpath (.refl world) hsave
        hsaved (honly.of_onlySaid (.refl world) hsame)⟩
    | ok =>
      obtain ⟨exit, acts, after, hruns, hend⟩ :=
        (ends_reviewRecords machine options rules).of_leads
          (leads_progress options ("Saved rule set to '" ++ path ++ "'"))
          (lenient_reviewEnd options rules) saved
      have hkept : Kept machine rules world options.saveRules kept saved :=
        hpath ▸ .saved (.refl world) hsave hsaved honly
      exact ⟨exit, kept ++ acts, after, hsave.bind hruns, .reviewed hkept hend⟩

variable {options}

theorem ends_withOptions {arguments : List String}
    (hparse : CommandLine.parse arguments = .ok options) :
    Ends (withOptions machine.host.recorded options) (RunEnd machine arguments) := by
  intro world
  unfold withOptions
  cases hpath : options.rules with
  | none =>
    obtain ⟨exit, acts, after, hruns, hend⟩ := ends_keepRules machine options .empty world
    exact ⟨exit, acts, after, hruns, .loaded hparse (by rw [hpath]; rfl) hend⟩
  | some path =>
    have hload := runs_loadRules machine path world
    cases hrules : rulesIn world.files (some path) with
    | error fault =>
      rw [hrules] at hload
      rw [← hpath] at hrules
      obtain ⟨exit, after, hfail, hexit, hsame⟩ :=
        runs_fail machine ("Error loading rules: " ++ fault.message) world
      exact ⟨exit, [], after, hload.bind hfail, .unloaded hexit hparse hrules hsame⟩
    | ok rules =>
      rw [hrules] at hload
      rw [← hpath] at hrules
      -- a warning may come before the report on the rules
      obtain ⟨exit, acts, after, hruns, hend⟩ := (ends_keepRules machine options rules).of_leads
        ((leads_warnIfEmpty options path rules).trans (leads_progress options _))
        (lenient_keepEnd options rules) world
      exact ⟨exit, acts, after, hload.bind hruns, .loaded hparse hrules hend⟩

theorem runs_showText (text : String) (world : World) :
    ∃ outcome after,
      Runs (showText machine.host.recorded text) world succeeded
        [.write .output (Json.bytesOf text) outcome] after ∧
      after.files = world.files := by
  have hwrite := runs_write machine .output (Json.bytesOf text) world
  refine ⟨_, _, hwrite.bind_quiet (.pure _ _), ?_⟩
  exact (World.writeOr_cases machine.writeFaults world .output _).1.tree fun place h => nomatch h

theorem ends_run (arguments : List String) :
    Ends (run machine.host.recorded arguments) (RunEnd machine arguments) := by
  intro world
  unfold run
  cases hparse : CommandLine.parse arguments with
  | ok options => exact ends_withOptions machine hparse world
  | error refusal =>
    cases refusal with
    | help =>
      obtain ⟨outcome, after, hruns, hfiles⟩ := runs_showText machine CommandLine.helpText world
      exact ⟨_, _, _, hruns, .answered hparse (.inl ⟨rfl, rfl⟩) hfiles⟩
    | version =>
      obtain ⟨outcome, after, hruns, hfiles⟩ := runs_showText machine CommandLine.versionText world
      exact ⟨_, _, _, hruns, .answered hparse (.inr ⟨rfl, rfl⟩) hfiles⟩
    | usage fault =>
      obtain ⟨outcome, after, hsay, hsame, -⟩ := runs_say_cases machine (.usage fault) world
      exact ⟨failed, [], after, hsay.bind (.pure after failed),
        .refused .heard hparse (by simp) (by simp) hsame⟩
    | configuration fault =>
      obtain ⟨exit, after, hfail, hexit, hsame⟩ :=
        runs_fail machine ("Error: " ++ fault.message) world
      exact ⟨exit, [], after, hfail, .refused hexit hparse (by simp) (by simp) hsame⟩

/-- **The report comes last.**  For all arguments, files and input, on every machine: a run that is
    refused its arguments or its rules has done nothing to the files or the output, and one that is
    asked for the help or the version has written just that; one that fails to save rules, to read
    records or to start the workers has at most changed the file that was to hold the rules, and its
    acts are those of the save; and one that has a review ends with exit code 0 exactly if every act
    of the delivery was accepted, opening the output, the writes that make room in the buffer and
    the last one, and then the whole report on the records as they were read under the rules as they
    were loaded is in the output.  A run in which a step fails ends with exit code 2, or is cut short
    with 101 where a message is refused. -/
theorem run_publishes_last (machine : Machine) (arguments : List String) (files : Tree)
    (input : Bytes) :
    ∃ exit acts after,
      Runs (run machine.host.recorded arguments) (.start files input) exit acts after ∧
      (run machine.host arguments).run (.start files input) = (exit, after) ∧
      RunEnd machine arguments (.start files input) exit acts after := by
  obtain ⟨exit, acts, after, hrecorded, hend⟩ := ends_run machine arguments (.start files input)
  refine ⟨exit, acts, after, hrecorded, hrecorded.run_eq ?_, hend⟩
  exact (alike_recorded machine.host).run (fun _ _ _ => ⟨rfl, rfl⟩)
    (guided_recorded machine.host) arguments

end Program

end ListenerReview
