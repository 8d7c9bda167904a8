/-
Where events end up.

A program may set up logging again and again, set and clear the id of the
request, and emit events in between (`LogAction`). What is in force for an
event is said here by looking back from it: the latest configuration, and
the latest change of the id (`Emitted`). These two decide what is written
of the event: one line for each output of that configuration that it is
serious enough for (`Emitted.deliveries`).

Routing itself never looks back. It keeps a router, which every action
changes in place, and a configuration is only as good as the files that it
could open. The two meet in one invariant (`Session.Follows`): the router
is the one that is in force after the actions so far, and what it writes to
is open. One action keeps it and writes what it should
(`Session.Follows.perform`), and so does a run of them.
-/
import Outline.Proofs.Log.Writing

namespace Outline

open Keyed

-- ================================================================ records

namespace Record

/-- A field that is added gives way to one that is there. -/
theorem lookup_addField (name n : String) (value : Option String)
    (fields : List (String × Value)) :
    (addField name value fields).lookup n
      = if n = name then (fields.lookup name).or (value.map .text)
        else fields.lookup n := by
  unfold addField
  cases value with
  | none =>
      by_cases hn : n = name
      · rw [if_pos hn, hn, Option.map_none, Option.or_none]
      · rw [if_neg hn]
  | some s =>
      dsimp only
      cases hold : fields.lookup name with
      | some old =>
          rw [Option.isSome_some, if_pos rfl, Option.some_or]
          by_cases hn : n = name
          · rw [if_pos hn, hn, hold]
          · rw [if_neg hn]
      | none =>
          rw [Option.isSome_none, if_neg Bool.false_ne_true, Option.none_or,
            List.lookup_append, lookup_cons]
          by_cases hn : n = name
          · rw [if_pos hn, if_pos hn, hn, hold, Option.none_or]
            rfl
          · rw [if_neg hn, if_neg hn, List.lookup_nil, Option.or_none]

/-- The fields of the record of an event: what every record has, the id of
the request if the event has none of its own, and else what the event
has. -/
theorem field?_ofEvent (e : Event) (id : Option String) (time n : String) :
    (ofEvent e id time).field? n =
      if n = "timestamp" then some (.text time)
      else if n = "level" then some (.text e.severity.label)
      else if n = "logger" then some (.text e.logger)
      else if n = "request_id" then
        (e.fields.lookup "request_id").or (id.map .text)
      else if n = "event" then some (.text e.name)
      else e.fields.lookup n := by
  have hid : ¬"request_id" = "event" := by decide
  unfold field? ofEvent complete
  dsimp only
  rw [lookup_put, lookup_put, lookup_put, lookup_addField,
    lookup_put, lookup_put, if_neg hid]

end Record

-- ================================================================ actions

/-- What a program does with logging. -/
inductive LogAction where
  | configure (settings : LoggingSettings)
  | setId (id : Option String) (fresh : String)
  | clearId
  | emit (e : Event)
deriving Repr, Inhabited

/-- An event with what is in force for it: the latest configuration, if
there was one, and the id of the request, if there is one. -/
structure Emitted where
  event : Event
  settings : Option LoggingSettings
  requestId : Option String
deriving Repr, Inhabited

namespace LogAction

/-- The settings of a configuration. -/
def settings? : LogAction → Option LoggingSettings
  | configure settings => some settings
  | _ => none

/-- The id that a change of the id leaves, which may be none. -/
def id? : LogAction → Option (Option String)
  | setId id fresh => some (some (Router.setId {} id fresh).1)
  | clearId => some none
  | _ => none

/-- The latest answer that actions give to a question. -/
def latest {α : Type} (ask : LogAction → Option α)
    (actions : List LogAction) : Option α :=
  actions.reverse.findSome? ask

/-- The events among actions that follow on others. -/
def emitted (before : List LogAction) : List LogAction → List Emitted
  | [] => []
  | .emit e :: rest =>
    ⟨e, latest settings? before, (latest id? before).join⟩
      :: emitted (before ++ [.emit e]) rest
  | a :: rest => emitted (before ++ [a]) rest

theorem emitted_cons (before : List LogAction) (a : LogAction)
    (rest : List LogAction) :
    emitted before (a :: rest)
      = emitted before [a] ++ emitted (before ++ [a]) rest := by
  cases a <;> rfl

theorem latest_concat {α : Type} (ask : LogAction → Option α)
    (before : List LogAction) (a : LogAction) :
    latest ask (before ++ [a]) = (ask a).or (latest ask before) := by
  rw [latest, List.reverse_append, List.reverse_singleton,
    List.singleton_append, List.findSome?_cons]
  cases ask a <;> rfl

end LogAction

-- ============================================================= deliveries

/-- The number from which on an output takes events: the larger of the
level of the section and its own, if it has one. -/
def LoggingSettings.threshold (settings : LoggingSettings)
    (o : LogOutput) : Nat :=
  max settings.level.number (o.level.getD settings.level).number

namespace Emitted

/-- What is written of an event. -/
def record (time : String) (x : Emitted) : Record :=
  .ofEvent x.event x.requestId time

/-- The lines that an event is written in. Each output of the configuration
gets one, if the event is serious enough for it. Where there is no output,
the error stream gets the fields of a warning or worse; and before there is
a configuration, the output stream gets everything, but for the logger. -/
def deliveries (files : FileSystem) (time : String) (x : Emitted) :
    List Delivery :=
  match x.settings with
  | some settings =>
    if settings.outputs = [] then
      if max settings.level.number Severity.warning.number
          ≤ x.event.severity.number then
        [⟨.stderr, (x.record time).mappingLine⟩]
      else []
    else
      (settings.outputs.filter fun o =>
        settings.threshold o ≤ x.event.severity.number).map fun o =>
          ⟨o.place files, Router.render o.format (x.record time)⟩
  | none =>
    let fields := (x.record time).fields.filter (·.1 != "logger")
    [⟨.stdout, Record.consoleLine { x.record time with fields }⟩]

theorem deliveries_congr {files files' : FileSystem}
    (h : ∀ o : LogOutput, o.place files' = o.place files) :
    deliveries files' = deliveries files := by
  funext time x
  unfold deliveries
  simp only [h]

/-- The id of the request is in the record, unless the event has one of its
own. -/
theorem field?_record (time : String) (x : Emitted) :
    (x.record time).field? "request_id"
      = (x.event.fields.lookup "request_id").or (x.requestId.map .text) := by
  rw [record, Record.field?_ofEvent]
  rfl

end Emitted

-- ================================================================ routers

namespace Router

/-- The sink of an output. -/
def sinkOf (files : FileSystem) (settings : LoggingSettings)
    (o : LogOutput) : Sink :=
  ⟨o.format, o.place files, ((o.level.getD settings.level).number : Int)⟩

/-- The router of the latest configuration and an id. -/
def inForce (files : FileSystem) (settings : Option LoggingSettings)
    (id : Option String) : Router :=
  match settings with
  | some settings =>
    { level := settings.level.number
      sinks := settings.outputs.map (sinkOf files settings)
      configured := true
      requestId := id }
  | none => { requestId := id }

theorem sinkOf_congr {files files' : FileSystem}
    (h : ∀ o : LogOutput, o.place files' = o.place files)
    (settings : LoggingSettings) (o : LogOutput) :
    sinkOf files' settings o = sinkOf files settings o := by
  rw [sinkOf, sinkOf, h]

theorem inForce_congr {files files' : FileSystem}
    (h : ∀ o : LogOutput, o.place files' = o.place files)
    (settings : Option LoggingSettings) (id : Option String) :
    inForce files' settings id = inForce files settings id := by
  have hsink : sinkOf files' = sinkOf files :=
    funext fun settings => funext fun o => sinkOf_congr h settings o
  unfold inForce
  rw [hsink]

/-- Two bounds are one, the larger. -/
theorem meets_both_iff (a b n : Nat) :
    (decide ((a : Int) ≤ n) && decide ((b : Int) ≤ n)) = true ↔
      max a b ≤ n := by
  rw [Bool.and_eq_true, decide_eq_true_eq, decide_eq_true_eq]
  omega

/-- A sink takes the records from the number of its output on. -/
theorem takes_sinkOf (files : FileSystem) (settings : LoggingSettings)
    (id id' : Option String) (o : LogOutput) (e : Event) (time : String) :
    (inForce files (some settings) id).takes (sinkOf files settings o)
        (.ofEvent e id' time)
      = decide (settings.threshold o ≤ e.severity.number) := by
  rw [Bool.eq_iff_iff, decide_eq_true_eq]
  exact meets_both_iff settings.level.number
    (o.level.getD settings.level).number e.severity.number

/-- A router delivers an event to the outputs that it is serious enough
for. -/
theorem event_inForce (files : FileSystem) (time : String) (x : Emitted) :
    (inForce files x.settings x.requestId).event time x.event
      = x.deliveries files time := by
  obtain ⟨e, settings, id⟩ := x
  cases settings with
  | none => rfl
  | some settings =>
      have hsinks : (inForce files (some settings) id).sinks
          = settings.outputs.map (sinkOf files settings) := rfl
      have hconfigured : (inForce files (some settings) id).configured = true := rfl
      rw [event, Emitted.deliveries]
      dsimp only
      rw [if_pos hconfigured]
      by_cases houtputs : settings.outputs = []
      · -- nothing to write to but the error stream
        rw [if_pos houtputs, if_pos (by rw [hsinks, houtputs]; rfl), unrouted]
        have hmeets := meets_both_iff settings.level.number
          Severity.warning.number e.severity.number
        by_cases hbound : max settings.level.number Severity.warning.number
            ≤ e.severity.number
        · rw [if_pos hbound]
          exact if_pos (hmeets.mpr hbound)
        · rw [if_neg hbound]
          exact if_neg (mt hmeets.mp hbound)
      · have hsome : ¬(inForce files (some settings) id).sinks.isEmpty = true := by
          rw [hsinks, List.isEmpty_iff, List.map_eq_nil_iff]
          exact houtputs
        have hfilter : settings.outputs.filter
              ((fun sink => (inForce files (some settings) id).takes sink
                (.ofEvent e id time)) ∘ sinkOf files settings)
            = settings.outputs.filter fun o =>
                settings.threshold o ≤ e.severity.number :=
          List.filter_congr fun o _ => takes_sinkOf files settings id id o e time
        rw [if_neg houtputs, if_neg hsome, deliver, hsinks, List.filter_map,
          List.map_map]
        exact congrArg _ hfilter

/-- What is delivered goes to one of the streams or to a sink. -/
theorem destination_of_mem_event {router : Router} {time : String} {e : Event}
    {x : Delivery} (h : x ∈ router.event time e) :
    x.destination = .stdout ∨ x.destination = .stderr
      ∨ ∃ sink ∈ router.sinks, sink.destination = x.destination := by
  unfold event at h
  split at h
  next =>
    dsimp only at h
    split at h
    next =>
      unfold unrouted at h
      split at h
      next =>
        rw [List.mem_singleton.mp h]
        exact .inr (.inl rfl)
      next => exact absurd h List.not_mem_nil
    next =>
      obtain ⟨sink, hsink, rfl⟩ := List.mem_map.mp h
      exact .inr (.inr ⟨sink, (List.mem_filter.mp hsink).1, rfl⟩)
  next =>
    rw [List.mem_singleton.mp h]
    exact .inl rfl

end Router

-- =============================================================== sessions

namespace Session

variable {s s' s₁ s₂ : Session} {d d' : Destination}
  {deliveries : List Delivery} {settings : LoggingSettings}
  {before : List LogAction} {a : LogAction}

/-- What an action delivers, and the session that it leaves. A
configuration is carried out only if its outputs can be opened. -/
def perform (s : Session) : LogAction → Option (List Delivery × Session)
  | .configure settings =>
    match s.configure settings with
    | (none, s') => some ([], s')
    | (some _, _) => none
  | .setId id fresh =>
    some ([], { s with router := (s.router.setId id fresh).2 })
  | .clearId => some ([], { s with router := s.router.clearId })
  | .emit e => some (s.router.event s.clock e, s.log e)

/-- What actions deliver one after the other, and the session that they
leave. -/
def performAll (s : Session) :
    List LogAction → Option (List Delivery × Session)
  | [] => some ([], s)
  | a :: rest => do
    let (now, s₁) ← s.perform a
    let (later, s₂) ← s₁.performAll rest
    return (now ++ later, s₂)

-- ----------------------------------------------------------- one action

/-- Outputs that are opened become sinks, in their order, and all of them
can be written. -/
theorem openAll_opens {outputs : List LogOutput}
    (h : openAll settings.level.number outputs s = (none, s')) :
    s'.router = { s.router with
        sinks :=
          s.router.sinks ++ outputs.map (Router.sinkOf s.files settings) }
      ∧ (∀ o ∈ outputs, s'.IsOpen (o.place s.files))
      ∧ s.GoesOn s' ∧ ∀ d, s'.bytesAt d = s.bytesAt d := by
  induction outputs generalizing s with
  | nil =>
      cases h
      refine ⟨?_, nofun, .refl _, fun _ => rfl⟩
      rw [List.map_nil, List.append_nil]
  | cons o rest ih =>
      rw [openAll] at h
      split at h
      next => cases h
      next d fs hopened =>
        obtain ⟨hgrows, rfl, hopen⟩ := openDestination_grows hopened
        have hlevel : ((o.level.map fun l => (l.number : Int)).getD
              settings.level.number)
            = ((o.level.getD settings.level).number : Int) := by
          cases o.level <;> rfl
        dsimp only at h
        rw [hlevel] at h
        obtain ⟨hrouter, hothers, hgoes, hbytes⟩ := ih h
        obtain ⟨hgo, hsame⟩ := goesOn_opened hgrows { s.router with
          sinks := s.router.sinks ++ [Router.sinkOf s.files settings o] }
        -- what was opened leads no other output elsewhere
        have hsinks : rest.map (Router.sinkOf fs settings)
            = rest.map (Router.sinkOf s.files settings) :=
          List.map_congr_left fun o _ => Router.sinkOf_congr hgo.place settings o
        refine ⟨?_, List.forall_mem_cons.mpr ⟨hgoes.isOpen _ hopen, ?_⟩,
          hgo.trans hgoes, fun d => (hbytes d).trans (hsame d)⟩
        · rw [hrouter, hsinks, List.append_assoc]
          rfl
        · intro other hother
          rw [← hgo.place other]
          exact hothers other hother

/-- The router is the one that is in force after actions, and what it
writes to can be written. -/
structure Follows (s : Session) (before : List LogAction) : Prop where
  router : s.router = .inForce s.files
    (LogAction.latest LogAction.settings? before)
    (LogAction.latest LogAction.id? before).join
  isOpen : ∀ sink ∈ s.router.sinks, s.IsOpen sink.destination

namespace Follows

/-- An event is delivered as what is in force for it says, and all of it
can be written. -/
theorem event (h : s.Follows before) (e : Event) :
    s.router.event s.clock e
        = (LogAction.emitted before [.emit e]).flatMap
            (Emitted.deliveries s.files s.clock)
      ∧ ∀ x ∈ s.router.event s.clock e, s.IsOpen x.destination := by
  refine ⟨?_, fun x hx => ?_⟩
  · rw [LogAction.emitted, LogAction.emitted, List.flatMap_singleton,
      ← Router.event_inForce s.files, ← h.router]
  · rcases Router.destination_of_mem_event hx with hout | herr | ⟨sink, hsink, hd⟩
    · rw [hout]
      nofun
    · rw [herr]
      nofun
    · rw [← hd]
      exact h.isOpen sink hsink

/-- A change of the id changes nothing else. -/
theorem withId {id : Option String} (h : s.Follows before)
    (hsettings : a.settings? = none) (hid : a.id? = some id) :
    ({ s with router := { s.router with requestId := id } } :
      Session).Follows (before ++ [a]) := by
  refine ⟨?_, h.isOpen⟩
  rw [LogAction.latest_concat, LogAction.latest_concat, hsettings, hid,
    Option.none_or, Option.some_or, h.router]
  cases LogAction.latest LogAction.settings? before <;> rfl

/-- An action delivers what is in force for its events, and what is in
force after it is followed again. -/
theorem perform (h : s.Follows before)
    (hstep : s.perform a = some (deliveries, s')) :
    deliveries = (LogAction.emitted before [a]).flatMap
        (Emitted.deliveries s.files s.clock)
      ∧ s'.Follows (before ++ [a]) ∧ s.GoesOn s'
      ∧ ∀ d, s.Keeps d →
        s'.bytesAt d = s.bytesAt d ++ Delivery.bytesTo d deliveries := by
  cases a with
  | configure settings =>
      unfold Session.perform at hstep
      dsimp only at hstep
      split at hstep
      next s₁ hconfigured =>
        cases hstep
        obtain ⟨hsinks, hopen, hgoes, hbytes⟩ := openAll_opens hconfigured
        obtain ⟨hgo, hsame⟩ := goesOn_opened (.refl s.files)
          { s.router with
            level := settings.level.number, sinks := [], configured := true }
        have hrouter : s'.router = .inForce s.files (some settings)
            (LogAction.latest LogAction.id? before).join := by
          rw [hsinks, h.router]
          cases LogAction.latest LogAction.settings? before <;> rfl
        refine ⟨rfl, ⟨?_, ?_⟩, hgo.trans hgoes, fun d _ => ?_⟩
        · rw [LogAction.latest_concat, LogAction.latest_concat, hrouter,
            Router.inForce_congr (hgo.trans hgoes).place]
          rfl
        · rw [hrouter]
          intro sink hsink
          obtain ⟨o, ho, rfl⟩ := List.mem_map.mp hsink
          exact hopen o ho
        · exact ((hbytes d).trans (hsame d)).trans (List.append_nil _).symm
      next => cases hstep
  | setId id fresh =>
      cases hstep
      obtain ⟨hgoes, hsame⟩ := goesOn_opened (.refl s.files)
        (s.router.setId id fresh).2
      exact ⟨rfl, h.withId rfl rfl, hgoes,
        fun d _ => (hsame d).trans (List.append_nil _).symm⟩
  | clearId =>
      cases hstep
      obtain ⟨hgoes, hsame⟩ := goesOn_opened (.refl s.files) s.router.clearId
      exact ⟨rfl, h.withId rfl rfl, hgoes,
        fun d _ => (hsame d).trans (List.append_nil _).symm⟩
  | emit e =>
      cases hstep
      obtain ⟨hdeliveries, hopen⟩ := h.event e
      obtain ⟨hgoes, hbytes⟩ := bytesAt_carry hopen
      refine ⟨hdeliveries, ⟨?_, ?_⟩, hgoes, hbytes⟩
      · rw [LogAction.latest_concat, LogAction.latest_concat, log,
          router_carry, Router.inForce_congr hgoes.place]
        exact h.router
      · intro sink hsink
        rw [log, router_carry] at hsink
        exact hgoes.isOpen _ (h.isOpen sink hsink)

/-- A run delivers what is in force for each of its events. -/
theorem performAll {actions : List LogAction} (h : s.Follows before)
    (hrun : s.performAll actions = some (deliveries, s')) :
    deliveries = (LogAction.emitted before actions).flatMap
        (Emitted.deliveries s.files s.clock)
      ∧ s'.Follows (before ++ actions) ∧ s.GoesOn s'
      ∧ ∀ d, s.Keeps d →
        s'.bytesAt d = s.bytesAt d ++ Delivery.bytesTo d deliveries := by
  induction actions generalizing s before deliveries with
  | nil =>
      cases hrun
      rw [List.append_nil]
      exact ⟨rfl, h, .refl _, fun d _ => (List.append_nil _).symm⟩
  | cons a rest ih =>
      unfold Session.performAll at hrun
      obtain ⟨⟨now, s₁⟩, hstep, hrun⟩ := Option.bind_eq_some_iff.mp hrun
      obtain ⟨⟨later, s₂⟩, hrest, hrun⟩ := Option.bind_eq_some_iff.mp hrun
      cases hrun
      obtain ⟨hnow, hfollows, hgo, hwritten⟩ := h.perform hstep
      obtain ⟨hlater, hfollows', hgoes, hbytes⟩ := ih hfollows hrest
      rw [List.append_assoc, List.singleton_append] at hfollows'
      refine ⟨?_, hfollows', hgo.trans hgoes, fun d hd => ?_⟩
      · rw [LogAction.emitted_cons, List.flatMap_append, ← hnow, hlater,
          hgo.clock, Emitted.deliveries_congr hgo.place]
      · rw [hbytes d (hgo.keeps d hd), hwritten d hd, Delivery.bytesTo_append,
          List.append_assoc]

end Follows

/-- Whatever a program does with logging from its start on, an event is
delivered once to each output of the latest configuration that it is
serious enough for, and to nothing else that was ever configured; the lines
stand at each destination in the order of their events, behind what was
there. Every record has the id that was set last, unless it was cleared
since or the event has an id of its own. Two things are delivered without
any output: events before the first configuration, and warnings after a
configuration that has no outputs. -/
theorem events_reach_latest_outputs {actions : List LogAction}
    (hstart : s.router = {})
    (hrun : s.performAll actions = some (deliveries, s')) :
    deliveries = (LogAction.emitted [] actions).flatMap
        (Emitted.deliveries s.files s.clock)
      ∧ (∀ d, s.Keeps d →
        s'.bytesAt d = s.bytesAt d ++ Delivery.bytesTo d deliveries)
      ∧ ∀ x ∈ LogAction.emitted [] actions,
        (x.record s.clock).field? "request_id"
          = (x.event.fields.lookup "request_id").or
              (x.requestId.map .text) := by
  have hfollows : s.Follows [] := by
    refine ⟨hstart, ?_⟩
    rw [hstart]
    nofun
  obtain ⟨hdeliveries, -, -, hbytes⟩ := hfollows.performAll hrun
  exact ⟨hdeliveries, hbytes, fun x _ => x.field?_record s.clock⟩

/-- Warnings to the error stream and everything to a file, and after that
errors to the output stream alone. -/
def reconfigured : List LogAction :=
  [.configure ⟨.info, [⟨.console, "stderr", some .warning⟩,
      ⟨.json, "/log/../run.log", none⟩]⟩,
    .setId (some "a") "b",
    .emit ⟨"batch", .info, "started", []⟩,
    .emit ⟨"batch", .warning, "slow", []⟩,
    .configure ⟨.debug, [⟨.json, "stdout", some .error⟩]⟩,
    .emit ⟨"batch", .warning, "slow", []⟩,
    .emit ⟨"batch", .error, "failed", [("request_id", .text "b")]⟩,
    .clearId,
    .emit ⟨"batch", .critical, "ended", []⟩]

/-- The same warning goes to both outputs of the first configuration and to
none of the second, and each id ends where it should. -/
theorem events_reach_latest_outputs_reconfigured :
    ∃ deliveries s', ({} : Session).performAll reconfigured
        = some (deliveries, s')
      ∧ deliveries.map (·.destination)
        = [.file ["run.log"], .stderr, .file ["run.log"], .stdout, .stdout]
      ∧ s'.bytesAt (.file ["run.log"])
        = Delivery.bytesTo (.file ["run.log"]) deliveries
      ∧ (LogAction.emitted [] reconfigured).map
          (fun x => (x.record "<time>").field? "request_id")
        = [some (.text "a"), some (.text "a"), some (.text "a"),
          some (.text "b"), none] := by
  have hrun : (({} : Session).performAll reconfigured).isSome = true := by
    decide +kernel
  obtain ⟨⟨deliveries, s'⟩, hrun⟩ := Option.isSome_iff_exists.mp hrun
  obtain ⟨hdeliveries, hbytes, hids⟩ := events_reach_latest_outputs rfl hrun
  have hkeeps : ({} : Session).Keeps (.file ["run.log"]) := by
    rintro p ⟨⟩
    exact ⟨nofun, nofun⟩
  refine ⟨deliveries, s', hrun, ?_, hbytes _ hkeeps, ?_⟩
  · rw [hdeliveries]
    rfl
  · exact (List.map_congr_left hids).trans rfl

end Session

end Outline
