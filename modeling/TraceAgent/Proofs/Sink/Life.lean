import TraceAgent.Proofs.Sink

/-!
# The life of a sink

Every call on a sink is an event: what was asked and answered, and the sink before and after.
A life is the list of the events that calls come to. The world is another one at each call, so
that files, connections and faults may be any at any time; the life of a sink in one world that
goes on is the case in which each call finds the world as it has become.

* `Sink.lawful_event`: all that a call can come to, as `SinkEvent.Lawful` lists it;
* `SinkEvent.Lawful.recalls`: the state, the kind and the number of dropped lines go on
  agreeing with what has happened;
* `Sink.orderly_life`: every life from a new sink on is orderly.
-/

namespace TraceAgent

/-- What may be asked of a sink. -/
inductive SinkCall where
  | openLog (dir : Path)
  | openStream (collector : Endpoint)
  | sendLine (line : String)
  | mergeCounts (run : Trace.Run) (counting : Bool)
  | close

/-- A call with what was answered to it. -/
inductive SinkExchange where
  | openLog (dir : Path) (outcome : Except SinkError Path)
  | openStream (collector : Endpoint) (outcome : Except SinkError PUnit)
  | sendLine (line : String) (did : Bool)
  | mergeCounts (run : Trace.Run) (counting : Bool) (outcome : Except SinkError MergeSummary)
  | close (did : Bool)

/-- A call on a sink with its answer, and the sink before and after it. -/
structure SinkEvent where
  before : Sink
  exchange : SinkExchange
  after : Sink

namespace SinkExchange

/-- Whether the call was to open the sink. -/
def opens : SinkExchange → Bool
  | openLog _ _ | openStream _ _ => true
  | _ => false

/-- The kind that the sink was opened as, if the call opened it. -/
def opened? : SinkExchange → Option SinkKind
  | openLog _ (.ok _) => some .file
  | openStream _ (.ok _) => some .socket
  | _ => none

/-- Why the sink was not opened, if the call was to open it and did not. -/
def failure? : SinkExchange → Option SinkError
  | openLog _ (.error e) | openStream _ (.error e) => some e
  | _ => none

/-- Whether a line was to be sent and was not. -/
def dropped : SinkExchange → Bool
  | sendLine _ did => !did
  | _ => false

/-- Whether the call was to close the sink and says that it released something. -/
def released : SinkExchange → Bool
  | close did => did
  | _ => false

end SinkExchange

namespace Sink

/-- Does what is asked of a sink. -/
def event (s : Sink) (w : World) : SinkCall → SinkEvent
  | .openLog dir => ⟨s, .openLog dir (s.openLog dir w).1, (s.openLog dir w).2.1⟩
  | .openStream collector =>
    ⟨s, .openStream collector (s.openStream collector w).1, (s.openStream collector w).2.1⟩
  | .sendLine line => ⟨s, .sendLine line (s.sendLine line w).1, (s.sendLine line w).2.1⟩
  | .mergeCounts run counting =>
    ⟨s, .mergeCounts run counting (s.mergeCounts run counting w).1, s⟩
  | .close => ⟨s, .close (s.close w).1, (s.close w).2.1⟩

/-- The life of a sink through calls, each of which finds a world of its own. -/
def life : Sink → List (SinkCall × World) → List SinkEvent
  | _, [] => []
  | s, (call, w) :: calls => s.event w call :: life (s.event w call).after calls

end Sink

namespace SinkEvent

/-- All that an event can be. -/
inductive Lawful : SinkEvent → Prop where
  | openedLog {s : Sink} (dir path : Path) (file : FileId) : s.state = .unopened →
    Lawful ⟨s, .openLog dir (.ok path), { s with state := .log path file, kind := some .file }⟩
  | openedStream {s : Sink} (collector : Endpoint) : s.state = .unopened →
    Lawful ⟨s, .openStream collector (.ok ()),
      { s with state := .stream collector, kind := some .socket }⟩
  | noLog {s : Sink} (dir : Path) (e : SinkError) :
    (∀ refusal, s.refusal? = some refusal → e = refusal) → Lawful ⟨s, .openLog dir (.error e), s⟩
  | noStream {s : Sink} (collector : Endpoint) (e : SinkError) :
    (∀ refusal, s.refusal? = some refusal → e = refusal) →
    Lawful ⟨s, .openStream collector (.error e), s⟩
  | sent {s : Sink} {pipe : Pipe} (line : String) (collector : Endpoint) :
    s.state = .stream collector → Lawful ⟨s, .sendLine line true, { s with pipe }⟩
  | notSent (s : Sink) {pipe : Pipe} (line : String) :
    Lawful ⟨s, .sendLine line false, { s with pipe, dropped := s.dropped + 1 }⟩
  | merged {s : Sink} (run : Trace.Run) (counting : Bool) (summary : MergeSummary) (path : Path)
    (file : FileId) : s.state = .log path file →
    Lawful ⟨s, .mergeCounts run counting (.ok summary), s⟩
  | notMerged (s : Sink) (run : Trace.Run) (counting : Bool) (e : SinkError) :
    Lawful ⟨s, .mergeCounts run counting (.error e), s⟩
  | closed (s : Sink) {pipe : Pipe} :
    Lawful ⟨s, .close (decide (s.status = .opened)), { s with state := .closed, pipe }⟩

end SinkEvent

namespace Sink

variable (s : Sink) (w : World)

/-- Only a sink that is not open yet has no reason to refuse to be opened. -/
theorem refusal?_eq_none_iff : s.refusal? = none ↔ s.state = .unopened := by
  rcases s with ⟨_ | _ | _ | _, _, _, _⟩ <;> simp [refusal?, status]

theorem lawful_openLog (dir : Path) :
    SinkEvent.Lawful ⟨s, .openLog dir (s.openLog dir w).1, (s.openLog dir w).2.1⟩ := by
  rw [openLog]
  rcases hrefusal : s.refusal? with _ | refusal
  · dsimp only
    rcases w.onDisk (FileTree.create (dir.join logFileName)) with ⟨cause | file, w'⟩
    · exact .noLog dir _ fun refusal h => by simp [hrefusal] at h
    · exact .openedLog dir _ file ((refusal?_eq_none_iff s).mp hrefusal)
  · exact .noLog dir refusal fun other h => Option.some.inj (hrefusal.symm.trans h)

theorem lawful_openStream (collector : Endpoint) :
    SinkEvent.Lawful ⟨s, .openStream collector (s.openStream collector w).1,
      (s.openStream collector w).2.1⟩ := by
  rw [openStream]
  rcases hrefusal : s.refusal? with _ | refusal
  · -- Whatever fails, from the name of the collector on, leaves the sink alone.
    have hfails (e : SinkError) : SinkEvent.Lawful ⟨s, .openStream collector (.error e), s⟩ :=
      .noStream collector e fun refusal h => by simp [hrefusal] at h
    dsimp only
    rcases w.network.addresses collector with _ | addresses
    · exact hfails _
    · dsimp only
      rcases reach none w addresses with ⟨(_ | cause) | _, w'⟩
      · exact hfails _
      · exact hfails _
      · dsimp only
        rcases w'.network.setUpFailure collector with _ | cause
        · exact .openedStream collector ((refusal?_eq_none_iff s).mp hrefusal)
        · exact hfails _
  · exact .noStream collector refusal fun other h => Option.some.inj (hrefusal.symm.trans h)

theorem lawful_sendLine (line : String) :
    SinkEvent.Lawful ⟨s, .sendLine line (s.sendLine line w).1, (s.sendLine line w).2.1⟩ := by
  by_cases hstream : ∃ collector, s.state = .stream collector
  · obtain ⟨collector, hstate⟩ := hstream
    rw [sendLine_of_stream hstate, enqueue]
    split
    · exact .sent line collector hstate
    · exact .notSent s line
  · rw [sendLine]
    split
    case h_1 collector hstate => exact absurd ⟨collector, hstate⟩ hstream
    case h_2 => exact .notSent s line

theorem lawful_mergeCounts (run : Trace.Run) (counting : Bool) :
    SinkEvent.Lawful ⟨s, .mergeCounts run counting (s.mergeCounts run counting w).1, s⟩ := by
  rw [mergeCounts]
  split
  case h_1 path file hstate =>
    dsimp only
    rcases LogWork.merge file run counting w with ⟨cause | merged, w'⟩
    · exact .notMerged s run counting _
    · exact .merged run counting _ path file hstate
  case h_2 => exact .notMerged s run counting _

theorem lawful_close : SinkEvent.Lawful ⟨s, .close (s.close w).1, (s.close w).2.1⟩ := by
  have hdid : (s.close w).1 = decide (s.status = .opened) := by
    rcases s with ⟨_ | _ | _ | _, _, _, _⟩ <;> rfl
  obtain ⟨pipe, hclosed⟩ := s.close_sink w
  rw [hdid, hclosed]
  exact .closed s

/-- Every event is one of the lawful ones. -/
theorem lawful_event (call : SinkCall) : (s.event w call).Lawful := by
  cases call with
  | openLog dir => exact lawful_openLog s w dir
  | openStream collector => exact lawful_openStream s w collector
  | sendLine line => exact lawful_sendLine s w line
  | mergeCounts run counting => exact lawful_mergeCounts s w run counting
  | close => exact lawful_close s w

theorem before_event (call : SinkCall) : (s.event w call).before = s := by
  cases call <;> rfl

end Sink

/-! ## What one event keeps -/

/-- The kinds that a sink was opened as. -/
def kindsOpened (past : List SinkEvent) : List SinkKind := past.filterMap (·.exchange.opened?)

/-- The number of lines that were not sent. -/
def linesDropped (past : List SinkEvent) : Nat := past.countP (·.exchange.dropped)

/-- The number of times that a sink was released. -/
def timesReleased (past : List SinkEvent) : Nat := past.countP (·.exchange.released)

/-- What the state of a sink says of the kinds it was opened as, and of the number of times
    it was released. -/
def SinkState.Tells : SinkState → List SinkKind → Nat → Prop
  | unopened, kinds, releases => kinds = [] ∧ releases = 0
  | log _ _, kinds, releases => kinds = [.file] ∧ releases = 0
  | stream _, kinds, releases => kinds = [.socket] ∧ releases = 0
  | closed, kinds, releases => kinds.length ≤ 1 ∧ releases = kinds.length

/-- The state, the kind and the number of dropped lines of a sink, which are kept apart from
    each other, all agree with its past. -/
structure Sink.Recalls (s : Sink) (past : List SinkEvent) : Prop where
  state : s.state.Tells (kindsOpened past) (timesReleased past)
  kind : s.kind = (kindsOpened past).head?
  dropped : s.dropped = UInt64.ofNat (linesDropped past)

namespace SinkEvent

open SinkExchange

variable {e : SinkEvent} {past : List SinkEvent}

@[simp]
theorem kindsOpened_append (e : SinkEvent) :
    kindsOpened (past ++ [e]) = kindsOpened past ++ e.exchange.opened?.toList := by
  cases h : e.exchange.opened? <;> simp [kindsOpened, h]

@[simp]
theorem linesDropped_append (e : SinkEvent) :
    linesDropped (past ++ [e]) = linesDropped past + if e.exchange.dropped then 1 else 0 := by
  simp [linesDropped, List.countP_singleton]

@[simp]
theorem timesReleased_append (e : SinkEvent) :
    timesReleased (past ++ [e]) = timesReleased past + if e.exchange.released then 1 else 0 := by
  simp [timesReleased, List.countP_singleton]

/-- A sink goes on agreeing with its past. -/
theorem Lawful.recalls (h : e.Lawful) (hbefore : e.before.Recalls past) :
    e.after.Recalls (past ++ [e]) := by
  obtain ⟨hstate, hkind, hdropped⟩ := hbefore
  cases h with
  | openedLog dir path file hunopened | openedStream collector hunopened =>
    simp only [hunopened, SinkState.Tells] at hstate
    exact ⟨by simp [SinkState.Tells, opened?, released, hstate], by simp [opened?, hstate],
      by simpa [dropped] using hdropped⟩
  | noLog | noStream | sent | notSent | merged | notMerged =>
    constructor <;> simpa [opened?, released, dropped]
  | closed s =>
    refine ⟨?_, by simpa [opened?], by simpa [dropped]⟩
    rcases s with ⟨_ | _ | _ | _, _, _, _⟩ <;>
      simp_all [SinkState.Tells, Sink.status, opened?, released]

/-- A sink that is closed stays so, and is not opened any more. -/
theorem Lawful.of_closed (h : e.Lawful) (hclosed : e.before.status = .closed) :
    e.after.status = .closed ∧
      (e.exchange.opens = true → e.exchange.failure? = some .alreadyClosed) := by
  have hrefusal : e.before.refusal? = some .alreadyClosed := by rw [Sink.refusal?, hclosed]
  cases h with
  | openedLog dir path file hunopened | openedStream collector hunopened =>
    simp [Sink.status, hunopened] at hclosed
  | noLog dir e hrefused | noStream collector e hrefused =>
    exact ⟨hclosed, fun _ => congrArg some (hrefused _ hrefusal)⟩
  | sent | notSent | merged | notMerged => exact ⟨hclosed, fun h => by cases h⟩
  | closed => exact ⟨rfl, fun h => by cases h⟩

end SinkEvent

/-! ## Whole lives -/

namespace Sink

variable {s : Sink} {calls : List (SinkCall × World)} {past later : List SinkEvent}
  {e : SinkEvent}

/-- After an event, a life goes on with the sink as the event left it. -/
theorem exists_life_of_append (h : s.life calls = past ++ e :: later) :
    e.Lawful ∧ ∃ rest, later = e.after.life rest := by
  induction calls generalizing s past with
  | nil => simp [life] at h
  | cons call calls ih =>
    rw [life] at h
    rcases past with _ | ⟨first, past⟩
    · obtain ⟨rfl, rfl⟩ := List.cons.inj h
      exact ⟨lawful_event s _ _, calls, rfl⟩
    · exact ih (List.cons.inj h).2

/-- At every point of a life, the sink agrees with its past. -/
theorem recalls_of_append {before : List SinkEvent} (hs : s.Recalls before)
    (h : s.life calls = past ++ e :: later) :
    e.before.Recalls (before ++ past) ∧ e.after.Recalls (before ++ past ++ [e]) := by
  induction calls generalizing s past before with
  | nil => simp [life] at h
  | cons call calls ih =>
    rw [life] at h
    have hevent := lawful_event s call.2 call.1
    have hbefore : (s.event call.2 call.1).before.Recalls before := by rwa [before_event]
    rcases past with _ | ⟨first, past⟩
    · obtain ⟨rfl, -⟩ := List.cons.inj h
      rw [List.append_nil]
      exact ⟨hbefore, hevent.recalls hbefore⟩
    · obtain ⟨rfl, hrest⟩ := List.cons.inj h
      rw [List.append_cons]
      exact ih (hevent.recalls hbefore) hrest

/-- A closed sink lives on as a closed one. -/
theorem closed_of_mem_life (hs : s.status = .closed) (he : e ∈ s.life calls) :
    e.after.status = .closed ∧
      (e.exchange.opens = true → e.exchange.failure? = some .alreadyClosed) := by
  induction calls generalizing s with
  | nil => simp [life] at he
  | cons call calls ih =>
    have hbefore : (s.event call.2 call.1).before.status = .closed := by rwa [before_event]
    have hevent := (lawful_event s call.2 call.1).of_closed hbefore
    rcases List.mem_cons.mp he with rfl | he
    · exact hevent
    · exact ih hevent.1 he

/-- Nothing has happened to a new sink. -/
theorem recalls_new : ({} : Sink).Recalls [] := ⟨⟨rfl, rfl⟩, rfl, rfl⟩

/-- Whatever the state of a sink, it was opened and released at most once. -/
theorem Recalls.once (h : s.Recalls past) :
    (kindsOpened past).length ≤ 1 ∧ timesReleased past ≤ 1 := by
  have hstate := h.state
  rcases hcase : s.state with _ | _ | _ | _ <;> simp only [hcase, SinkState.Tells] at hstate
  case closed => omega
  all_goals simp [hstate]

theorem Recalls.kind_of_stream (h : s.Recalls past) {collector : Endpoint}
    (hstate : s.state = .stream collector) : s.kind = some .socket := by
  have htells := h.state
  rw [hstate] at htells
  rw [h.kind, htells.1, List.head?_cons]

theorem Recalls.kind_of_log (h : s.Recalls past) {path : Path} {file : FileId}
    (hstate : s.state = .log path file) : s.kind = some .file := by
  have htells := h.state
  rw [hstate] at htells
  rw [h.kind, htells.1, List.head?_cons]

end Sink

/-- An orderly life of a sink: what its state, its kind and its count of dropped lines are at
    every point of it, and what its calls come to. -/
structure OrderlyLife (events : List SinkEvent) : Prop where
  /-- Every event takes the sink as the one before it left it. -/
  linked : ∀ past e next later, events = past ++ e :: next :: later → next.before = e.after
  /-- The sink is opened at most once. -/
  openedOnce : (kindsOpened events).length ≤ 1
  /-- A call that fails to open the sink leaves it as it is. -/
  failed : ∀ e ∈ events, e.exchange.opens = true → e.exchange.opened? = none →
    e.after = e.before
  /-- The kind of the sink is the one it was opened as, from then on and not before. -/
  kind : ∀ past e later, events = past ++ e :: later →
    e.before.kind = (kindsOpened past).head? ∧ e.after.kind = (kindsOpened (past ++ [e])).head?
  /-- The sink counts the lines that were not sent, in as many bits as it has for that. -/
  dropped : ∀ past e later, events = past ++ e :: later →
    e.before.dropped = UInt64.ofNat (linesDropped past) ∧
      e.after.dropped = UInt64.ofNat (linesDropped (past ++ [e]))
  /-- Closing the sink releases something if the sink is open, and closes it in any case. -/
  released : ∀ e ∈ events, ∀ did, e.exchange = .close did →
    (did = true ↔ e.before.status = .opened) ∧ e.after.status = .closed
  /-- The sink is released at most once. -/
  releasedOnce : timesReleased events ≤ 1
  /-- A closed sink stays closed, and refuses to be opened. -/
  closed : ∀ past e later, events = past ++ e :: later → e.before.status = .closed →
    ∀ other ∈ e :: later, other.after.status = .closed ∧
      (other.exchange.opens = true → other.exchange.failure? = some .alreadyClosed)
  /-- Lines are sent only while the sink is open on a connection. -/
  sent : ∀ e ∈ events, ∀ line, e.exchange = .sendLine line true →
    e.before.kind = some .socket ∧ ∃ collector, e.before.state = .stream collector
  /-- Runs are folded in only while the sink is open on a trace log. -/
  merged : ∀ e ∈ events, ∀ run counting summary,
    e.exchange = .mergeCounts run counting (.ok summary) →
    e.before.kind = some .file ∧ ∃ path file, e.before.state = .log path file

/-- A life from a new sink on is an orderly one, whatever is called and whatever the world is
    like at each call. -/
theorem Sink.orderly_life (calls : List (SinkCall × World)) :
    OrderlyLife (({} : Sink).life calls) := by
  have hrecalls {past later e} (h : ({} : Sink).life calls = past ++ e :: later) :=
    recalls_of_append recalls_new h
  have hlawful {e} (he : e ∈ ({} : Sink).life calls) : e.Lawful := by
    obtain ⟨past, later, h⟩ := List.append_of_mem he
    exact (exists_life_of_append h).1
  have hkind {e} (he : e ∈ ({} : Sink).life calls) :
      ∃ past, e.before.Recalls past := by
    obtain ⟨past, later, h⟩ := List.append_of_mem he
    exact ⟨past, (hrecalls h).1⟩
  have honce : (kindsOpened (({} : Sink).life calls)).length ≤ 1 ∧
      timesReleased (({} : Sink).life calls) ≤ 1 := by
    rcases List.eq_nil_or_concat (({} : Sink).life calls) with h | ⟨past, e, h⟩
    · simp [h, kindsOpened, timesReleased]
    · rw [List.concat_eq_append] at h
      rw [h]
      exact (hrecalls h).2.once
  constructor
  case linked =>
    intro past e next later h
    obtain ⟨-, rest, hrest⟩ := exists_life_of_append h
    rcases rest with _ | ⟨call, rest⟩
    · cases hrest
    · obtain ⟨rfl, -⟩ := List.cons.inj hrest
      exact before_event _ _ _
  case openedOnce => exact honce.1
  case failed =>
    intro e he hopens hfailed
    cases hlawful he with
    | openedLog | openedStream => cases hfailed
    | noLog | noStream => rfl
    | sent | notSent | merged | notMerged | closed => cases hopens
  case kind => exact fun past e later h => ⟨(hrecalls h).1.kind, (hrecalls h).2.kind⟩
  case dropped => exact fun past e later h => ⟨(hrecalls h).1.dropped, (hrecalls h).2.dropped⟩
  case released =>
    intro e he did hclose
    cases hlawful he with
    | closed s =>
      obtain rfl := SinkExchange.close.inj hclose
      exact ⟨decide_eq_true_iff, rfl⟩
    | _ => cases hclose
  case releasedOnce => exact honce.2
  case closed =>
    intro past e later h hclosed other hother
    obtain ⟨hevent, rest, rfl⟩ := exists_life_of_append h
    rcases List.mem_cons.mp hother with rfl | hother
    · exact hevent.of_closed hclosed
    · exact closed_of_mem_life (hevent.of_closed hclosed).1 hother
  case sent =>
    intro e he line hsent
    obtain ⟨past, hbefore⟩ := hkind he
    cases hlawful he with
    | sent line collector hstate => exact ⟨hbefore.kind_of_stream hstate, collector, hstate⟩
    | _ => cases hsent
  case merged =>
    intro e he run counting summary hmerged
    obtain ⟨past, hbefore⟩ := hkind he
    cases hlawful he with
    | merged run counting summary path file hstate =>
      exact ⟨hbefore.kind_of_log hstate, path, file, hstate⟩
    | _ => cases hmerged

end TraceAgent
