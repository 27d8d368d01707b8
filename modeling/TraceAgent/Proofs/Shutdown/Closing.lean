import TraceAgent.Proofs.Shutdown.Ending
import TraceAgent.Proofs.Sink.Life
import TraceAgent.Session

/-!
# The end of a sink

The flush of a sink is a step at the end of a run, and closes the sink: a connection before it
flushes, and any sink after. The second time is left out if the flush fails, so that a trace log
stays open then (`Coordinator.terminate_flush`).

How often a sink was released is not kept in it. It can be told from its status and its kind all the
same, whatever calls were made on it (`Sink.Recalls.releases`), as long as nothing but calls is done
to it (`Callback.Respects`).

* `Sink.WasOpened.isHeld_or_isReleased`: what can be told of a sink that was opened;
* `alone_flushCallback` and `flushTurn`: what the step does, and what it makes of the sink;
* `Session.isFaithful_sinkAccess` and `Session.respects_flush`: the sinks and the flushes of a
  session are such.
-/

namespace TraceAgent

/-! ## What calls make of a sink -/

namespace Sink

/-- A sink after calls, each of which finds a world of its own. -/
def reached : Sink → List (SinkCall × World) → Sink
  | s, [] => s
  | s, (call, w) :: calls => (s.event w call).after.reached calls

/-- Calls make one sink of another. -/
def Becomes (s s' : Sink) : Prop := ∃ calls, s.reached calls = s'

/-- Calls on a new sink have made it what it is. -/
def Arises (s : Sink) : Prop := ({} : Sink).Becomes s

/-- A sink that is open, and was never released, whatever calls have made it what it is. -/
structure IsHeld (s : Sink) : Prop where
  arises : s.Arises
  opened : s.status = .opened
  never : ∀ calls, ({} : Sink).reached calls = s → timesReleased (({} : Sink).life calls) = 0

/-- A sink that is closed, and was released once, whatever calls have made it what it is. -/
structure IsReleased (s : Sink) : Prop where
  arises : s.Arises
  closed : s.status = .closed
  once : ∀ calls, ({} : Sink).reached calls = s → timesReleased (({} : Sink).life calls) = 1

variable {s s' s'' : Sink} {kind : SinkKind} {past : List SinkEvent}

theorem reached_append (s : Sink) (calls more : List (SinkCall × World)) :
    s.reached (calls ++ more) = (s.reached calls).reached more := by
  induction calls generalizing s with
  | nil => rfl
  | cons call calls ih => exact ih _

theorem Becomes.refl (s : Sink) : s.Becomes s := ⟨[], rfl⟩

theorem Becomes.trans (h : s.Becomes s') (h' : s'.Becomes s'') : s.Becomes s'' := by
  obtain ⟨calls, rfl⟩ := h
  obtain ⟨more, rfl⟩ := h'
  exact ⟨calls ++ more, reached_append s calls more⟩

theorem becomes_close (s : Sink) (w : World) : s.Becomes (s.close w).2.1 := ⟨[(.close, w)], rfl⟩

/-- A sink agrees with all that has happened to it. -/
theorem Recalls.reached (h : s.Recalls past) (calls : List (SinkCall × World)) :
    (s.reached calls).Recalls (past ++ s.life calls) := by
  induction calls generalizing s past with
  | nil => rwa [life, List.append_nil]
  | cons call calls ih =>
    have hevent := (lawful_event s call.2 call.1).recalls (by rwa [before_event])
    rw [life, List.append_cons]
    exact ih hevent

theorem recalls_life (calls : List (SinkCall × World)) :
    (({} : Sink).reached calls).Recalls (({} : Sink).life calls) :=
  recalls_new.reached calls

/-- The number of times that a sink was released can be told from its status and its kind. -/
theorem Recalls.releases (h : s.Recalls past) :
    s.status = .unopened ∧ s.kind = none ∨
      s.status = .opened ∧ s.kind ≠ none ∧ timesReleased past = 0 ∨
      s.status = .closed ∧ (s.kind ≠ none → timesReleased past = 1) := by
  have htells := h.state
  rcases hstate : s.state with _ | ⟨path, file⟩ | collector | _ <;> rw [hstate] at htells
  · exact .inl ⟨by rw [status, hstate], by rw [h.kind, htells.1]; rfl⟩
  · exact .inr (.inl ⟨by rw [status, hstate], by simp [h.kind_of_log hstate], htells.2⟩)
  · exact .inr (.inl ⟨by rw [status, hstate], by simp [h.kind_of_stream hstate], htells.2⟩)
  · refine .inr (.inr ⟨by rw [status, hstate], fun hkind => ?_⟩)
    have hopened : 0 < (kindsOpened past).length :=
      List.length_pos_iff.2 fun hnil => hkind (by rw [h.kind, hnil]; rfl)
    exact htells.2.trans (Nat.le_antisymm htells.1 hopened)

/-- A sink that calls have opened as a kind. -/
structure WasOpened (kind : SinkKind) (s : Sink) : Prop where
  arises : s.Arises
  kind : s.kind = some kind

theorem WasOpened.kind_ne_none (h : s.WasOpened kind) : s.kind ≠ none := by simp [h.kind]

/-- An open sink was opened as some kind. -/
theorem Arises.wasOpened (h : s.Arises) (hopened : s.status = .opened) :
    ∃ kind, s.WasOpened kind := by
  obtain ⟨calls, hcalls⟩ := h
  have hkind : s.kind ≠ none := by
    rcases (hcalls ▸ recalls_life calls).releases with ⟨hstatus, -⟩ | ⟨-, hkind, -⟩ | ⟨hstatus, -⟩
    · exact absurd (hopened.symm.trans hstatus) (by decide)
    · exact hkind
    · exact absurd (hopened.symm.trans hstatus) (by decide)
  obtain ⟨kind, hsome⟩ := Option.ne_none_iff_exists'.1 hkind
  exact ⟨kind, ⟨calls, hcalls⟩, hsome⟩

/-- A sink that was opened and is closed was released once. -/
theorem WasOpened.isReleased (h : s.WasOpened kind) (hclosed : s.status = .closed) :
    s.IsReleased := by
  refine ⟨h.arises, hclosed, fun calls hcalls => ?_⟩
  rcases (hcalls ▸ recalls_life calls).releases with ⟨hstatus, -⟩ | ⟨hstatus, -⟩ | ⟨-, honce⟩
  · exact absurd (hclosed.symm.trans hstatus) (by decide)
  · exact absurd (hclosed.symm.trans hstatus) (by decide)
  · exact honce h.kind_ne_none

/-- A sink that was opened is either still open or has been released. -/
theorem WasOpened.isHeld_or_isReleased (h : s.WasOpened kind) : s.IsHeld ∨ s.IsReleased := by
  by_cases hclosed : s.status = .closed
  · exact .inr (h.isReleased hclosed)
  · have hheld {calls : List (SinkCall × World)} (hcalls : ({} : Sink).reached calls = s) :
        s.status = .opened ∧ timesReleased (({} : Sink).life calls) = 0 := by
      rcases (hcalls ▸ recalls_life calls).releases with ⟨-, hkind⟩ | ⟨hstatus, -, hnever⟩ |
        ⟨hstatus, -⟩
      · exact absurd hkind h.kind_ne_none
      · exact ⟨hstatus, hnever⟩
      · exact absurd hstatus hclosed
    obtain ⟨calls, hcalls⟩ := h.arises
    exact .inl ⟨h.arises, (hheld hcalls).1, fun _ hcalls => (hheld hcalls).2⟩

/-- A sink that was opened keeps its kind. -/
theorem WasOpened.becomes (h : s.WasOpened kind) (hbecomes : s.Becomes s') : s'.WasOpened kind := by
  refine ⟨h.arises.trans hbecomes, ?_⟩
  obtain ⟨calls, rfl⟩ := h.arises
  obtain ⟨more, rfl⟩ := hbecomes
  have hpast := recalls_life calls
  have hkind : (kindsOpened (({} : Sink).life calls)).head? = some kind :=
    hpast.kind.symm.trans h.kind
  rw [(hpast.reached more).kind, kindsOpened, List.filterMap_append, List.head?_append]
  exact Option.or_eq_some_iff.2 (.inl hkind)

/-- Closing a sink that was opened releases it, unless that was done before. -/
theorem WasOpened.isReleased_close (h : s.WasOpened kind) (w : World) :
    (s.close w).2.1.IsReleased := by
  have hclosed := h.becomes (becomes_close s w)
  obtain ⟨pipe, hclose⟩ := s.close_sink w
  exact hclosed.isReleased (by rw [hclose]; rfl)

/-- No call opens a closed sink. -/
theorem closed_reached (h : s.status = .closed) (calls : List (SinkCall × World)) :
    (s.reached calls).status = .closed := by
  induction calls generalizing s with
  | nil => exact h
  | cons call calls ih =>
    exact ih ((lawful_event s call.2 call.1).of_closed (by rwa [before_event])).1

/-- A sink that was released stays so. -/
theorem IsReleased.becomes (h : s.IsReleased) (hopened : s.WasOpened kind)
    (hbecomes : s.Becomes s') : s'.IsReleased := by
  refine (hopened.becomes hbecomes).isReleased ?_
  obtain ⟨calls, rfl⟩ := hbecomes
  exact closed_reached h.closed calls

end Sink

/-! ## Callbacks that make calls on a sink -/

variable {σ : Type} [HasLog σ] {sink : SinkAccess σ} {kind : SinkKind}

/-- What is done to a sink in the state around the callbacks is done to the sink itself. -/
structure SinkAccess.IsFaithful (sink : SinkAccess σ) : Prop where
  /-- What is reported leaves the sink alone. -/
  report : ∀ note s, sink.get (HasLog.report note s) = sink.get s
  /-- A sink that was opened is closed as any other one. -/
  close : ∀ s, (sink.get s).kind ≠ none → ∃ w, sink.get (sink.close s) = ((sink.get s).close w).2.1

/-- A callback does nothing to a sink that was opened but to make calls on it. -/
def Callback.Respects (callback : Callback σ) (sink : SinkAccess σ) : Prop :=
  ∀ s, (sink.get s).kind ≠ none → (sink.get s).Becomes (sink.get (callback.alone s).2)

/-- What a step makes of a sink, calls make of it. -/
theorem Step.becomes_takeTurn (hsink : sink.IsFaithful) {step : Step σ}
    (hstep : step.callback.Respects sink) {s : σ} (hkind : (sink.get s).kind ≠ none) :
    (sink.get s).Becomes (sink.get (step.takeTurn s)) := by
  have hturn := hstep (HasLog.report (Coordinator.runningNote step.name) s)
    (by rwa [hsink.report])
  rw [hsink.report] at hturn
  rw [takeTurn]
  split
  · rename_i heq
    rwa [heq] at hturn
  · rename_i heq
    rw [heq] at hturn
    rwa [hsink.report]

/-- So do steps that take turns. -/
theorem Step.becomes_turns (hsink : sink.IsFaithful) {steps : List (Step σ)}
    (hsteps : ∀ step ∈ steps, step.callback.Respects sink) {s : σ}
    (hopened : (sink.get s).WasOpened kind) :
    (sink.get s).Becomes (sink.get (steps.foldl Step.takeTurn s)) := by
  induction steps generalizing s with
  | nil => exact .refl _
  | cons step steps ih =>
    have hturn := step.becomes_takeTurn hsink (hsteps step List.mem_cons_self) hopened.kind_ne_none
    exact hturn.trans (ih (fun other hother => hsteps other (List.mem_cons_of_mem _ hother))
      (hopened.becomes hturn))

/-! ## The flush -/

/-- What comes after a callback is done if the callback returns. -/
theorem Callback.alone_andThen (callback : Callback σ) (next : Option String → Callback σ) (s : σ) :
    ∃ error, (callback.andThen next).alone s =
      match callback.alone s with
      | (none, s) => (next error).alone s
      | (some message, s) => (some message, s) := by
  induction callback generalizing s with
  | finish error => exact ⟨error, rfl⟩
  | fail message => exact ⟨none, rfl⟩
  | look more ih => exact ih s s
  | store state more ih => exact ih state
  | isEnding more ih => exact ih true s
  | register name callback more _ ih => exact ih _
  | terminate more ih => exact ih false _

/-- The state in which the flush of a sink finds it: a connection has been closed. -/
def SinkAccess.beforeFlush (sink : SinkAccess σ) (s : σ) : σ :=
  if (sink.get s).kind = some .socket then sink.close s else s

/-- The state after a flush that returned: an error has been reported, and the sink closed. -/
def SinkAccess.afterFlush (sink : SinkAccess σ) (error : Option String) (s : σ) : σ :=
  sink.close <| match error with
    | none => s
    | some message => HasLog.report ⟨.error, .shutdown, s!"cannot flush trace: {message}"⟩ s

/-- The sink is closed after a flush that returns, but not after one that fails. -/
theorem alone_flushCallback (sink : SinkAccess σ) (flush : Callback σ) (s : σ) :
    ∃ error, (flushCallback sink flush).alone s =
      match flush.alone (sink.beforeFlush s) with
      | (none, s) => (none, sink.afterFlush error s)
      | (some message, s) => (some message, s) := by
  rw [flushCallback, Callback.change, Callback.alone, Callback.alone]
  obtain ⟨error, hdone⟩ := Callback.alone_andThen flush _ (sink.beforeFlush s)
  refine ⟨error, hdone.trans ?_⟩
  rcases flush.alone (sink.beforeFlush s) with ⟨_ | message, s'⟩
  · cases error <;> rfl
  · rfl

section Flush

variable (hsink : sink.IsFaithful) {flush : Callback σ} {s : σ}

include hsink in
theorem wasOpened_beforeFlush (hopened : (sink.get s).WasOpened kind) :
    (sink.get (sink.beforeFlush s)).WasOpened kind := by
  rw [SinkAccess.beforeFlush]
  split
  · obtain ⟨w, hclose⟩ := hsink.close s hopened.kind_ne_none
    rw [hclose]
    exact hopened.becomes (Sink.becomes_close _ w)
  · exact hopened

include hsink in
/-- A connection is released before the flush. -/
theorem isReleased_beforeFlush (hopened : (sink.get s).WasOpened .socket) :
    (sink.get (sink.beforeFlush s)).IsReleased := by
  obtain ⟨w, hclose⟩ := hsink.close s hopened.kind_ne_none
  rw [SinkAccess.beforeFlush, if_pos hopened.kind, hclose]
  exact hopened.isReleased_close w

include hsink in
/-- Any sink is released after a flush that returns. -/
theorem isReleased_afterFlush (hopened : (sink.get s).WasOpened kind) (error : Option String) :
    (sink.get (sink.afterFlush error s)).IsReleased ∧
      (sink.get (sink.afterFlush error s)).WasOpened kind := by
  have hclose {s' : σ} (hget : sink.get s' = sink.get s) :
      (sink.get (sink.close s')).IsReleased ∧ (sink.get (sink.close s')).WasOpened kind := by
    obtain ⟨w, hclose⟩ := hsink.close s' (by simp [hget, hopened.kind])
    rw [hclose, hget]
    exact ⟨hopened.isReleased_close w, hopened.becomes (Sink.becomes_close _ w)⟩
  cases error with
  | none => exact hclose rfl
  | some message => exact hclose (hsink.report _ s)

include hsink in
/-- When its turn ends, the sink has been closed if the flush returned, and otherwise is as the
    flush left it. -/
theorem get_takeTurn_flush {left : Option (Option String) × σ}
    (hleft : flush.alone (sink.beforeFlush
      (HasLog.report (Coordinator.runningNote flushStepName) s)) = left) :
    let turned := Step.takeTurn s ⟨flushStepName, flushCallback sink flush⟩
    (left.1 = none → ∃ error, turned = sink.afterFlush error left.2) ∧
      (left.1 ≠ none → sink.get turned = sink.get left.2) := by
  obtain ⟨error, hdone⟩ := alone_flushCallback sink flush
    (HasLog.report (Coordinator.runningNote flushStepName) s)
  rw [hleft] at hdone
  simp only [Step.takeTurn, hdone]
  rcases left with ⟨_ | message, s'⟩
  · exact ⟨fun _ => ⟨error, rfl⟩, fun hfailed => absurd rfl hfailed⟩
  · exact ⟨fun hreturned => (by cases hreturned), fun _ => hsink.report _ s'⟩

end Flush

/-- What the turn of the flush makes of a sink that was opened: the sink when the turn begins, as
    the flush finds it and leaves it, and when the turn ends. -/
structure FlushTurn (kind : SinkKind) (started found left turned : Sink) (returned : Prop) :
    Prop where
  /-- A connection is released before the flush. -/
  socket : kind = .socket → found.IsReleased
  /-- A log is left as it is until then. -/
  file : kind = .file → found = started
  /-- Any sink is released after a flush that returns. -/
  released : turned.IsReleased ↔ kind = .socket ∨ returned ∨ left.IsReleased
  /-- After a flush that fails, nothing is done to it. -/
  failed : ¬returned → turned = left
  held : ¬turned.IsReleased → turned.IsHeld

/-- The step that is registered for the flush of a sink makes this of it. -/
theorem flushTurn (hsink : sink.IsFaithful) {flush : Callback σ} (hflush : flush.Respects sink)
    {s : σ} (hopened : (sink.get s).WasOpened kind) :
    let found := sink.beforeFlush (HasLog.report (Coordinator.runningNote flushStepName) s)
    let left := flush.alone found
    let turned := Step.takeTurn s ⟨flushStepName, flushCallback sink flush⟩
    FlushTurn kind (sink.get s) (sink.get found) (sink.get left.2) (sink.get turned)
        (left.1 = none) ∧ (sink.get turned).WasOpened kind := by
  intro found left turned
  have hstarted : (sink.get (HasLog.report (Coordinator.runningNote flushStepName) s)).WasOpened
      kind := by rwa [hsink.report]
  have hfound : (sink.get found).WasOpened kind := wasOpened_beforeFlush hsink hstarted
  have hbecomes : (sink.get found).Becomes (sink.get left.2) := hflush found hfound.kind_ne_none
  have hleft : (sink.get left.2).WasOpened kind := hfound.becomes hbecomes
  have hsocket (h : kind = .socket) : (sink.get found).IsReleased :=
    isReleased_beforeFlush hsink (h ▸ hstarted)
  have hfile (h : kind = .file) : sink.get found = sink.get s := by
    have hnot : ¬(sink.get (HasLog.report (Coordinator.runningNote flushStepName) s)).kind =
        some .socket := by rw [hstarted.kind, h]; decide
    change sink.get (sink.beforeFlush _) = _
    rw [SinkAccess.beforeFlush, if_neg hnot, hsink.report]
  obtain ⟨hreturned, hfailed⟩ : (left.1 = none → ∃ error, turned = sink.afterFlush error left.2) ∧
      (left.1 ≠ none → sink.get turned = sink.get left.2) := get_takeTurn_flush hsink rfl
  by_cases h : left.1 = none
  · obtain ⟨error, hturned⟩ := hreturned h
    obtain ⟨hreleased, hopened⟩ := isReleased_afterFlush hsink hleft error
    rw [← hturned] at hreleased hopened
    exact ⟨⟨hsocket, hfile, iff_of_true hreleased (.inr (.inl h)), fun hnot => absurd h hnot,
      fun hnot => absurd hreleased hnot⟩, hopened⟩
  · have hturned := hfailed h
    rw [hturned]
    refine ⟨⟨hsocket, hfile, ⟨fun hreleased => .inr (.inr hreleased), ?_⟩, fun _ => rfl,
      hleft.isHeld_or_isReleased.resolve_right⟩, hleft⟩
    rintro (hkind | hreturned | hreleased)
    · -- A connection that was released stays so, whatever the flush does.
      exact (hsocket hkind).becomes hfound hbecomes
    · exact absurd hreturned h
    · exact hreleased

/-- The end of a run releases an open sink, of which a step before or after may have made use: a
    connection before the flush, and a log after it unless the flush fails. -/
theorem Coordinator.terminate_flush (hsink : sink.IsFaithful) {c : Coordinator σ}
    (hrunning : c.ending = false) {flush : Callback σ} (hflush : flush.Respects sink)
    {later : List (Step σ)} (hothers : ∀ step ∈ c.steps ++ later, step.callback.Respects sink)
    (s₀ : σ) {s : σ} (harises : (sink.get s).Arises) (hopen : (sink.get s).status = .opened) :
    let registered := (c.registerFlush sink flush s₀).1
    let ended := ({ registered with steps := registered.steps ++ later }.terminate s).2.2
    let started := c.steps.foldl Step.takeTurn s
    let found := sink.beforeFlush (HasLog.report (runningNote flushStepName) started)
    let left := flush.alone found
    ∃ kind turned, (sink.get s).kind = some kind ∧
      FlushTurn kind (sink.get started) (sink.get found) (sink.get left.2) (sink.get turned)
        (left.1 = none) ∧
      ended = later.foldl Step.takeTurn turned ∧
      (kind = .socket ∨ left.1 = none → (sink.get ended).IsReleased) := by
  intro registered ended started found left
  obtain ⟨kind, hopened⟩ := harises.wasOpened hopen
  have hstarted : (sink.get started).WasOpened kind :=
    hopened.becomes (Step.becomes_turns hsink
      (fun step hstep => hothers step (List.mem_append_left _ hstep)) hopened)
  obtain ⟨hturn, hturned⟩ := flushTurn hsink hflush hstarted
  have hended : ended = later.foldl Step.takeTurn
      (Step.takeTurn started ⟨flushStepName, flushCallback sink flush⟩) := by
    have hregistered : registered =
        { c with steps := c.steps ++ [⟨flushStepName, flushCallback sink flush⟩] } := by
      change (c.register _ _ s₀).1 = _
      rw [register, if_neg (Bool.eq_false_iff.mp hrunning)]
    change (Coordinator.terminate _ s).2.2 = _
    rw [hregistered, terminate, terminateWithin_of_running (by exact hrunning), List.foldl_append,
      List.foldl_append, List.foldl_cons, List.foldl_nil]
  refine ⟨kind, _, hopened.kind, hturn, hended, fun h => ?_⟩
  rw [hended]
  have hreleased := hturn.released.2 (h.imp_right .inl)
  exact hreleased.becomes hturned (Step.becomes_turns hsink
    (fun step hstep => hothers step (List.mem_append_right _ hstep)) hturned)

/-! ## The sinks of a session -/

namespace Session

variable {ε : Type}

/-- A sink on the bench is closed as any other one. -/
theorem isFaithful_sinkAccess (n : Nat) : (sinkAccess (ε := ε) n).IsFaithful where
  report _ _ := rfl
  close b hkind := by
    -- A sink that was opened has a place on the bench.
    have hplace : n < b.sinks.size := by
      refine Nat.lt_of_not_le fun hsize => hkind ?_
      change (b.sinks.getD n {}).kind = none
      rw [Array.getD_eq_getD_getElem?, Array.getElem?_eq_none hsize]
      rfl
    refine ⟨b.world, ?_⟩
    change (b.sinks.setIfInBounds n _).getD n {} = _
    simp [hplace]
    rfl

/-- A flush that is given by a script makes no calls on the sinks of the bench. -/
theorem respects_flush (script : CallbackScript ε) (flushed n : Nat) :
    (script.flush flushed).Respects (sinkAccess n) := by
  intro b _
  have hsinks : ((script.flush flushed).alone b).2.sinks = b.sinks := by
    rcases script with
      ⟨_ | value, _ | _, _ | name, _ | message, _ | ⟨recorder, verbose⟩, error⟩ <;> rfl
  change (b.sinks.getD n {}).Becomes ((((script.flush flushed).alone b).2.sinks).getD n {})
  rw [hsinks]
  exact .refl _

end Session

/-! ### A flush that fails

A log is released after a flush that returns an error, but is still open after one that fails. -/

/-- A bench with a sink that is open on a trace log. -/
def logBench : SessionBench Unit :=
  let opened := ({} : Sink).openLog ⟨"/"⟩ { files := .withWorkDir [] }
  { flags := #[false], sinks := #[opened.2.1], world := opened.2.2 }

/-- A flush that returns an error. -/
def errorFlush : Callback (SessionBench Unit) := CallbackScript.flush { error := some "no room" } 0

theorem isReleased_logBench :
    let registered :=
      (({} : Coordinator (SessionBench Unit)).registerFlush (Session.sinkAccess 0) errorFlush
        logBench).1
    let ended := ({ registered with steps := registered.steps ++ [] }.terminate logBench).2.2
    (logBench.sink 0).Arises ∧ (logBench.sink 0).status = .opened ∧ (ended.sink 0).IsReleased := by
  intro registered ended
  have harises : (logBench.sink 0).Arises :=
    ⟨[(.openLog ⟨"/"⟩, { files := .withWorkDir [] })], rfl⟩
  have hopen : (logBench.sink 0).status = .opened := by decide +kernel
  have hothers : ∀ step ∈ ({} : Coordinator (SessionBench Unit)).steps ++ [],
      step.callback.Respects (Session.sinkAccess 0) := fun step hstep => by cases hstep
  have hflush : errorFlush.Respects (Session.sinkAccess 0) := Session.respects_flush _ 0 0
  obtain ⟨kind, turned, -, -, -, hreleased⟩ := Coordinator.terminate_flush
    (Session.isFaithful_sinkAccess 0) rfl hflush hothers logBench (s := logBench) harises hopen
  exact ⟨harises, hopen, hreleased (.inr rfl)⟩

/-- A session with the bench, and a coordinator. -/
def logSession : Session Unit := { bench := logBench, coordinators := #[{ flag := 0 }] }

/-- The log is not released at the end of the run, if the flush fails. -/
theorem open_after_terminate :
    let s := (logSession.registerFlush 0 0 { failure := some (some "boom") }).terminate 0
    (logBench.sink 0).status = .opened ∧ s.1 = true ∧ s.2.isEnding 0 = true ∧
      (s.2.bench.sink 0).status = .opened ∧
      s.2.bench.world.trail = [.openLog ⟨"/refl.log"⟩] := by
  decide +kernel

end TraceAgent
