import Screencast.Capture.Scripted
import Screencast.Encoder.Scripted
import Screencast.Proofs.Session.Run

/-!
The verdict on a session. Whatever its processors come to, in whatever order, and whenever it is
told to stop: each event of a run has its reason in the events before it
(`SessionEvent.Justified`), the session fails exactly if a processor has failed, and the rotation is
watched no longer than there is a device (`verdict_of_run`).
-/

namespace Screencast

open Session (kinds)

namespace SessionEvent

def ended? : SessionEvent → Option (ChannelKind × Outcome)
  | .ended kind outcome => some (kind, outcome)
  | _ => none

def ends (events : List SessionEvent) : Ends := events.filterMap ended?

/-- Every processor that was started has ended. -/
def AllEnded (o : Options) (events : List SessionEvent) : Prop :=
  ∀ kind ∈ kinds o, ∃ outcome, .ended kind outcome ∈ events

/-- A processor has failed. -/
def Failed (events : List SessionEvent) : Prop :=
  ∃ kind outcome, .ended kind outcome ∈ events ∧ outcome.Fails

/-- What has happened before an event, in a session with these options. -/
def Justified (o : Options) (before : List SessionEvent) : SessionEvent → Prop
  | .stopRequested => True
  | .served started => started = kinds o ∧ ∀ event ∈ before, event = .stopRequested
  | .ended kind _ => .served (kinds o) ∈ before ∧ kind ∈ kinds o ∧
      (∀ other, .ended kind other ∉ before) ∧ ∀ result, .returned result ∉ before
  | .stopped => .served (kinds o) ∈ before ∧ .stopped ∉ before ∧
      (AllEnded o before ∨ Failed before ∨ .stopRequested ∈ before)
  | .joined workers => .stopped ∈ before ∧ workers.map (·.1) = kinds o ∧
      ∀ kind worker, (kind, worker) ∈ workers → worker.stopping = true ∧ worker.started = false ∧
        ∃ outcome, .ended kind outcome ∈ before ∧ worker.reports = [outcome.isFatal]
  | .returned result => (∀ other, .returned other ∉ before) ∧
      (.served (kinds o) ∈ before → (∃ workers, .joined workers ∈ before) ∧
        (Failed before → result = .error .sessionFailed) ∧ (¬Failed before → result = .ok ()))

/-- Each event is justified by the ones before it. -/
def Explained (o : Options) (events : List SessionEvent) : Prop :=
  ∀ before event after, events = before ++ event :: after → event.Justified o before

variable {o : Options} {events : List SessionEvent}

theorem explained_nil : Explained o [] := by
  intro before event after split
  simp at split

theorem Explained.snoc (explained : Explained o events) {event : SessionEvent}
    (justified : event.Justified o events) : Explained o (events ++ [event]) := by
  intro before e after split
  rcases List.eq_nil_or_concat' after with rfl | ⟨earlier, last, rfl⟩
  · obtain ⟨rfl, same⟩ := List.append_inj' split rfl
    cases same
    exact justified
  · rw [← List.cons_append, ← List.append_assoc] at split
    obtain ⟨rfl, -⟩ := List.append_inj' split rfl
    exact explained before e earlier rfl

theorem mem_ends {kind : ChannelKind} {outcome : Outcome} :
    (kind, outcome) ∈ ends events ↔ .ended kind outcome ∈ events := by
  unfold ends
  rw [List.mem_filterMap]
  constructor
  · rintro ⟨event, member, ended⟩
    cases event <;> cases ended
    exact member
  · exact fun member => ⟨_, member, rfl⟩

theorem has_iff {kind : ChannelKind} :
    (ends events).Has kind ↔ ∃ outcome, .ended kind outcome ∈ events := by
  simp only [Ends.Has, mem_ends]

theorem cover_iff : (ends events).Cover (kinds o) ↔ AllEnded o events := by
  simp only [Ends.Cover, AllEnded, has_iff]

theorem fatal_iff : (ends events).fatal = true ↔ Failed events := by
  simp only [Ends.fatal_iff, Failed, mem_ends]

end SessionEvent

open SessionEvent (ends AllEnded Failed Explained)

/-- What the events of a session tell about its stage. -/
def SessionStage.Tells (o : Options) (events : List SessionEvent) : SessionStage → Prop
  | .creating | .binding | .accepting | .connecting | .greeting =>
    ∀ event ∈ events, event = .stopRequested
  | .serving supervisor => .served (kinds o) ∈ events ∧ (∀ result, .returned result ∉ events) ∧
    match supervisor.stage with
    | .waiting => .stopped ∉ events ∧ supervisor.Over (kinds o) (ends events) false
    | .joining fatal => .stopped ∈ events ∧ supervisor.Over (kinds o) (ends events) true ∧
      (fatal = true → (ends events).fatal = true)
    | .ended _ => False
  | .ended result => ∀ other, .returned other ∈ events ↔ other = result

namespace Session

variable {σ γ : Type} {s : Session σ γ} {pick : Nat} {supervisor next : Supervisor}

theorem supervise?_of_joining {fatal : Bool}
    (stepped : supervisor.step pick s.stopRequested = some (supervisor.beginJoining fatal)) :
    s.supervise? pick supervisor =
      some { s.stopAll with stage := .serving (supervisor.beginJoining fatal) } := by
  rw [supervise?, stepped]
  rfl

theorem supervise?_of_ended {result : Except Error Unit}
    (stepped : supervisor.step pick s.stopRequested = some next)
    (ended : next.stage = .ended result) :
    s.supervise? pick supervisor = some (s.finish result) := by
  rw [supervise?, stepped, Option.map_some, ended]

end Session

namespace SessionWorld

variable {σ γ : Type} {o : Options} {w w' : SessionWorld σ γ}

/-- What holds throughout a session. -/
structure Lawful (o : Options) (w : SessionWorld σ γ) : Prop where
  options : w.session.options = o
  requested : w.session.stopRequested = true ↔ .stopRequested ∈ w.events
  watches : w.session.Watches
  explained : Explained o w.events
  tells : w.session.stage.Tells o w.events

theorem Lawful.aside (lawful : w.Lawful o) {session : Session σ γ}
    (kept : w.session.Kept session) (stage : session.stage = w.session.stage) :
    { w with session }.Lawful o where
  options := kept.options.trans lawful.options
  requested := by
    rw [kept.stopRequested]
    exact lawful.requested
  watches := by
    unfold Session.Watches
    rw [kept.watch, stage]
    exact lawful.watches
  explained := lawful.explained
  tells := by
    rw [stage]
    exact lawful.tells

theorem Lawful.requestStop (lawful : w.Lawful o) :
    Lawful o ⟨w.session.requestStop, w.events ++ [.stopRequested]⟩ where
  options := lawful.options
  requested := ⟨fun _ => by simp, fun _ => rfl⟩
  watches := lawful.watches
  explained := lawful.explained.snoc trivial
  tells := by
    have same : ends (w.events ++ [.stopRequested]) = ends w.events := by
      simp [ends, SessionEvent.ended?]
    have tells := lawful.tells
    change w.session.stage.Tells o (w.events ++ [.stopRequested])
    cases stage : w.session.stage with
    | creating | binding | accepting | connecting | greeting =>
      rw [stage] at tells
      intro event member
      rcases List.mem_append.mp member with before | now
      · exact tells event before
      · exact List.mem_singleton.mp now
    | serving supervisor =>
      rw [stage] at tells
      unfold SessionStage.Tells at tells ⊢
      rw [same]
      simpa using tells
    | ended result =>
      rw [stage] at tells
      simpa [SessionStage.Tells] using tells

/-- What leads to the processors is noted when they are started, or when the session ends before. -/
theorem Lawful.advance (lawful : w.Lawful o) (opening : w.session.stage.opens = true)
    {session : Session σ γ} (opens : w.session.Opens session) :
    Lawful o ⟨session, w.events ++ session.stage.news⟩ := by
  have quiet : ∀ event ∈ w.events, event = .stopRequested := by
    have tells := lawful.tells
    cases stage : w.session.stage with
    | creating | binding | accepting | connecting | greeting => rwa [stage] at tells
    | serving | ended => simp [stage, SessionStage.opens] at opening
  have only {event : SessionEvent} (other : event ≠ .stopRequested) : event ∉ w.events :=
    fun member => other (quiet event member)
  have requested : session.stopRequested = true ↔ .stopRequested ∈ w.events := by
    rw [opens.stopRequested]
    exact lawful.requested
  have options := opens.options.trans lawful.options
  rcases opens.stage with further | served | ⟨result, ended⟩
  · have silent : session.stage.news = [] := by
      cases stage : session.stage <;> first | rfl | simp [stage, SessionStage.opens] at further
    rw [silent, List.append_nil]
    refine ⟨options, requested, opens.watches, lawful.explained, ?_⟩
    cases stage : session.stage with
    | creating | binding | accepting | connecting | greeting => exact quiet
    | serving | ended => simp [stage, SessionStage.opens] at further
  · rw [lawful.options] at served
    have news : session.stage.news = [.served (kinds o)] := by
      have started : (Supervisor.start (kinds o)).workers.map (·.1) = kinds o := by
        simp [Supervisor.start, Function.comp_def]
      rw [served]
      exact congrArg (fun kinds => [SessionEvent.served kinds]) started
    have none : ends (w.events ++ [.served (kinds o)]) = [] := by
      refine List.filterMap_eq_nil_iff.mpr fun event member => ?_
      rcases List.mem_append.mp member with before | now
      · rw [quiet event before]
        rfl
      · rw [List.mem_singleton.mp now]
        rfl
    rw [news]
    refine ⟨options, by simpa using requested, opens.watches,
      lawful.explained.snoc ⟨rfl, quiet⟩, ?_⟩
    rw [served]
    refine ⟨by simp, fun result => by simp [only], by simp [only], ?_⟩
    rw [none]
    exact Supervisor.over_start (Session.nodup_kinds o)
  · have news : session.stage.news = [.returned result] := by rw [ended]; rfl
    rw [news]
    refine ⟨options, by simpa using requested, opens.watches, lawful.explained.snoc ?_, ?_⟩
    · exact ⟨fun other => only (by simp), fun served => absurd served (only (by simp))⟩
    · rw [ended]
      intro other
      simp [only]

/-- The ends of processors are counted whether or not they were told to stop. -/
theorem Lawful.finish (lawful : w.Lawful o) {supervisor : Supervisor} {kind : ChannelKind}
    (outcome : Outcome) (stage : w.session.stage = .serving supervisor)
    (runs : supervisor.runs kind = true) :
    Lawful o ⟨{ w.session with stage := .serving (supervisor.report kind outcome) },
      w.events ++ [.ended kind outcome]⟩ := by
  have more : ends (w.events ++ [.ended kind outcome]) = ends w.events ++ [(kind, outcome)] := by
    simp [ends, SessionEvent.ended?]
  have watches : w.session.device.watch = (true, true) := by
    have watches := lawful.watches
    unfold Session.Watches at watches
    rwa [stage] at watches
  obtain ⟨served, going, tells⟩ : SessionStage.Tells o w.events (.serving supervisor) := by
    rw [← stage]
    exact lawful.tells
  obtain ⟨told, known⟩ : ∃ told, supervisor.Over (kinds o) (ends w.events) told := by
    split at tells
    · exact ⟨_, tells.2⟩
    · exact ⟨_, tells.2.1⟩
    · exact tells.elim
  obtain ⟨enabled, running⟩ := known.runs_iff.mp runs
  have justified : SessionEvent.Justified o w.events (.ended kind outcome) :=
    ⟨served, enabled, fun other ended => running (SessionEvent.has_iff.mpr ⟨other, ended⟩), going⟩
  refine ⟨lawful.options, by simpa using lawful.requested, watches,
    lawful.explained.snoc justified, ?_⟩
  refine ⟨by simp [served], fun result => by simp [going], ?_⟩
  rw [(known.report runs outcome).2, more]
  split at tells
  · exact ⟨by simpa using tells.1, (tells.2.report runs outcome).1⟩
  · obtain ⟨stopped, known, honest⟩ := tells
    refine ⟨by simp [stopped], (known.report runs outcome).1, fun fatal => ?_⟩
    rw [Ends.fatal, List.any_append, ← Ends.fatal, honest fatal, Bool.true_or]
  · exact tells.elim

theorem Lawful.supervise (lawful : w.Lawful o) {pick : Nat} {supervisor next : Supervisor}
    {session : Session σ γ} (stage : w.session.stage = .serving supervisor)
    (stepped : supervisor.step pick w.session.stopRequested = some next)
    (supervised : w.session.supervise? pick supervisor = some session) :
    Lawful o ⟨session, w.events ++ next.news⟩ := by
  have watches : w.session.device.watch = (true, true) := by
    have watches := lawful.watches
    unfold Session.Watches at watches
    rwa [stage] at watches
  obtain ⟨served, going, tells⟩ : SessionStage.Tells o w.events (.serving supervisor) := by
    rw [← stage]
    exact lawful.tells
  split at tells
  · rename_i waiting
    obtain ⟨untold, known⟩ := tells
    obtain ⟨reason, fatal, rfl, honest⟩ := Supervisor.step_waiting known waiting stepped
    rw [Session.supervise?_of_joining stepped, Option.some.injEq] at supervised
    have news : (supervisor.beginJoining fatal).news = [.stopped] := rfl
    have same : ends (w.events ++ [.stopped]) = ends w.events := by
      simp [ends, SessionEvent.ended?]
    rw [SessionEvent.cover_iff, SessionEvent.fatal_iff, lawful.requested] at reason
    have requested : w.session.stopRequested = true ↔ .stopRequested ∈ w.events ++ [.stopped] := by
      simpa using lawful.requested
    subst supervised
    rw [news]
    refine ⟨lawful.options, requested, watches,
      lawful.explained.snoc ⟨served, untold, reason⟩, ?_⟩
    refine ⟨by simp [served], fun result => by simp [going], ?_⟩
    rw [same]
    exact ⟨by simp, known.beginJoining fatal, honest⟩
  · rename_i fatal joining
    obtain ⟨told, known, honest⟩ := tells
    obtain ⟨cover, rfl⟩ := (Supervisor.step_joining known joining honest).mp stepped
    rw [Session.supervise?_of_ended stepped rfl, Option.some.injEq] at supervised
    subst supervised
    dsimp only [Supervisor.news]
    generalize left : (kinds o).map (fun kind =>
      (kind, (⟨false, true, (ends w.events).reports kind⟩ : Worker))) = workers
    have joined : SessionEvent.Justified o w.events (.joined workers) := by
      refine ⟨told, by simp [← left, Function.comp_def], fun kind worker member => ?_⟩
      rw [← left] at member
      obtain ⟨k, enabled, same⟩ := List.mem_map.mp member
      obtain ⟨rfl, rfl⟩ := Prod.mk.inj same
      obtain ⟨outcome, ended⟩ := cover k enabled
      exact ⟨rfl, rfl, outcome, SessionEvent.mem_ends.mp ended,
        Ends.reports_of_mem known.once ended⟩
    have same : ends (w.events ++ [.joined workers]) = ends w.events := by
      simp [ends, SessionEvent.ended?]
    have returned : SessionEvent.Justified o (w.events ++ [.joined workers])
        (.returned (Supervisor.verdict (ends w.events).fatal)) := by
      refine ⟨fun other => by simp [going], fun _ => ⟨⟨workers, by simp⟩, ?_⟩⟩
      rw [← SessionEvent.fatal_iff, same]
      cases (ends w.events).fatal <;> simp [Supervisor.verdict]
    have requested : w.session.stopRequested = true ↔ .stopRequested ∈ w.events ++
        [.joined workers] ++ [.returned (Supervisor.verdict (ends w.events).fatal)] := by
      simpa using lawful.requested
    rw [← List.singleton_append, ← List.append_assoc]
    refine ⟨lawful.options, requested, w.session.device.watch_release watches,
      (lawful.explained.snoc joined).snoc returned, fun other => ?_⟩
    simp [going]
  · exact tells.elim

theorem Lawful.move (lawful : w.Lawful o) (moves : w.Moves w') : w'.Lawful o := by
  cases moves with
  | aside kept stage => exact lawful.aside kept stage
  | requestStop => exact lawful.requestStop
  | advance opening opens => exact lawful.advance opening (opens lawful.watches)
  | finish outcome stage runs => exact lawful.finish outcome stage runs
  | supervise stage stepped supervised => exact lawful.supervise stage stepped supervised

/-- What a session has returned is noted, and nothing else is. -/
theorem Lawful.ended_iff (lawful : w.Lawful o) (result : Except Error Unit) :
    w.session.stage = .ended result ↔ .returned result ∈ w.events := by
  have tells := lawful.tells
  cases stage : w.session.stage with
  | creating | binding | accepting | connecting | greeting =>
    rw [stage] at tells
    exact ⟨nofun, fun returned => by cases tells _ returned⟩
  | serving supervisor =>
    rw [stage] at tells
    exact ⟨nofun, fun returned => absurd returned (tells.2.1 result)⟩
  | ended other =>
    rw [stage] at tells
    rw [tells result, SessionStage.ended.injEq, eq_comm]

end SessionWorld

/-- All processors were told to stop. -/
structure Session.Told {σ γ : Type} (s : Session σ γ) : Prop where
  control : ∀ c ∈ s.control, c.stopping = true
  audio : ∀ a ∈ s.audio, a.stopping = true
  video : ∀ v ∈ s.video, v.stopping = true

theorem Session.told_stopAll {σ γ : Type} (s : Session σ γ) : s.stopAll.Told := by
  refine ⟨fun c told => ?_, fun a told => ?_, fun v told => ?_⟩
  · obtain ⟨stopped, before, rfl⟩ := Option.map_eq_some_iff.mp told
    obtain ⟨c, -, rfl⟩ := Option.map_eq_some_iff.mp before
    change c.stop.stopping = true
    unfold ControlSession.stop
    split <;> rfl
  · obtain ⟨stopped, before, rfl⟩ := Option.map_eq_some_iff.mp told
    obtain ⟨a, -, rfl⟩ := Option.map_eq_some_iff.mp before
    rfl
  · obtain ⟨stopped, before, rfl⟩ := Option.map_eq_some_iff.mp told
    obtain ⟨v, -, rfl⟩ := Option.map_eq_some_iff.mp before
    rfl

namespace SessionWorld

variable {σ γ : Type} [EncoderHost σ] [PcmSource γ] {o : Options} {w : SessionWorld σ γ}

/-- The main task goes on as soon as there is a reason to. -/
structure Prompt (o : Options) (w : SessionWorld σ γ) : Prop where
  stops (untold : .stopped ∉ w.events)
    (reason : AllEnded o w.events ∨ Failed w.events ∨ .stopRequested ∈ w.events) (pick : Nat) :
    .stopped ∈ (w.apply (.supervise pick)).events ∧ (w.apply (.supervise pick)).session.Told
  returns (told : .stopped ∈ w.events) (all : AllEnded o w.events) (pick : Nat) :
    ∃ result, (w.apply (.supervise pick)).session.stage = .ended result

theorem Lawful.prompt (lawful : w.Lawful o) {supervisor : Supervisor}
    (stage : w.session.stage = .serving supervisor) : w.Prompt o := by
  obtain ⟨-, -, tells⟩ : SessionStage.Tells o w.events (.serving supervisor) := by
    rw [← stage]
    exact lawful.tells
  refine ⟨fun untold reason pick => ?_, fun told all pick => ?_⟩
  · split at tells
    · rename_i waiting
      rw [← SessionEvent.cover_iff, ← SessionEvent.fatal_iff, ← lawful.requested] at reason
      obtain ⟨next, stepped⟩ := Supervisor.exists_step_waiting tells.2 waiting reason pick
      obtain ⟨-, fatal, rfl, -⟩ := Supervisor.step_waiting tells.2 waiting stepped
      simp only [apply, serving, stage, stepped, Session.supervise?_of_joining stepped]
      refine ⟨by simp [Supervisor.news, Supervisor.beginJoining], ?_⟩
      have told := w.session.told_stopAll
      exact ⟨told.control, told.audio, told.video⟩
    · exact absurd tells.1 untold
    · exact tells.elim
  · split at tells
    · exact absurd told tells.1
    · rename_i fatal joining
      obtain ⟨-, known, honest⟩ := tells
      obtain ⟨next, stepped, ended⟩ : ∃ next,
          supervisor.step pick w.session.stopRequested = some next ∧
            next.stage = .ended (Supervisor.verdict (ends w.events).fatal) :=
        ⟨_, (Supervisor.step_joining known joining honest).mpr
          ⟨SessionEvent.cover_iff.mpr all, rfl⟩, rfl⟩
      simp only [apply, serving, stage, stepped, Session.supervise?_of_ended stepped ended]
      exact ⟨_, rfl⟩
    · exact tells.elim

/-- A session on a platform that nobody watches. -/
theorem lawful_of_run (o : Options) {platform : Platform}
    (unwatched : platform.rotationWatched = false) (dir : SocketDir) (videoHost audioHost : σ)
    (source : γ) (moves : List (SessionMove σ γ)) :
    Lawful o (run
      ⟨{ options := o, device := .unused platform, dir, videoHost, audioHost, source }, []⟩
      moves) := by
  refine run_invariant (P := Lawful o) ?_ (fun lawful moves => lawful.move moves) moves
  exact ⟨rfl, by simp, Prod.ext unwatched rfl, SessionEvent.explained_nil, by
    simp [SessionStage.Tells]⟩

/-- Whatever the options are, what the processors come to and in which order, and whenever it is
told to stop, a session tells its processors to stop for a reason, returns when each has been told
and has ended, and has failed exactly if one of them has. It does not keep its processors waiting,
nor the watch on the rotation once it returns. -/
theorem verdict_of_run (o : Options) {platform : Platform}
    (unwatched : platform.rotationWatched = false) (dir : SocketDir) (videoHost audioHost : σ)
    (source : γ) (moves : List (SessionMove σ γ)) :
    let w := run
      ⟨{ options := o, device := .unused platform, dir, videoHost, audioHost, source }, []⟩ moves
    (∀ pick next, w.session.step pick = some next → ∃ move, (w.apply move).session = next) ∧
    Explained o w.events ∧
    (∀ result, w.session.stage = .ended result ↔ .returned result ∈ w.events) ∧
    (∀ supervisor, w.session.stage = .serving supervisor →
      .served (kinds o) ∈ w.events ∧ w.Prompt o) ∧
    w.session.device.platform.rotationWatched = w.session.stage.holds := by
  intro w
  have lawful : w.Lawful o := lawful_of_run o unwatched dir videoHost audioHost source moves
  refine ⟨fun pick next stepped => exists_move_of_step stepped, lawful.explained,
    lawful.ended_iff, fun supervisor serving => ⟨?_, lawful.prompt serving⟩,
    (Prod.mk.inj lawful.watches).1⟩
  · have tells := lawful.tells
    rw [serving] at tells
    exact tells.1

/-- The only processor panics after it was told to stop. -/
theorem verdict_of_run_panicked :
    let o : Options :=
      { socketDir := "", video := false, audio := false, tunnelForward := false }
    let dir : SocketDir := { entries := ⟨none, none, some .desktopSocket⟩ }
    let host : ScriptedEncoders := { catalogue := [] }
    let source : ScriptedSource := {}
    let moves : List (SessionMove ScriptedEncoders ScriptedSource) :=
      [ .advance 0, .advance 0, .advance 0, .requestStop, .supervise 0, .finish .control .panicked
      , .supervise 0 ]
    let w := run ⟨{ options := o, device := .unused { naturalSize := ⟨1080, 1920⟩ }, dir
                    videoHost := host, audioHost := host, source }, []⟩ moves
    ∃ (before : List SessionEvent) (result : Except Error Unit),
      w.events = before ++ [.returned result] ∧ result = .error .sessionFailed ∧
        w.session.device.platform.rotationWatched = false := by
  intro o dir host source moves w
  have events : w.events =
      [ .served [.control], .stopRequested, .stopped, .ended .control .panicked
      , .joined [(.control, ⟨false, true, [true]⟩)] ] ++ [.returned (.error .sessionFailed)] := by
    decide +kernel
  have closed : w.session.stage.holds = false := by decide +kernel
  obtain ⟨-, explained, -, -, watched⟩ := @verdict_of_run ScriptedEncoders ScriptedSource _ _ o
    { naturalSize := ⟨1080, 1920⟩ } rfl dir host host source moves
  have failed : Failed [.served [.control], .stopRequested, .stopped, .ended .control .panicked,
      .joined [(.control, ⟨false, true, [true]⟩)]] := ⟨.control, .panicked, by simp, .panicked⟩
  obtain ⟨-, judged⟩ := explained _ _ [] events
  exact ⟨_, _, events, (judged (by decide +kernel)).2.1 failed, watched.trans closed⟩

end SessionWorld

end Screencast
