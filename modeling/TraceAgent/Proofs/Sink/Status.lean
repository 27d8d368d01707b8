import TraceAgent.Proofs.Sink.Life

/-!
# The status of a sink

A sink is not open, then open, then closed, and it never goes back. It may also be closed
before it was opened: that close says that it released nothing, and yet it bars the sink from
being opened.

* `SinkEvent.Lawful.moves`: which calls change the status, and how;
* `Sink.stage_le_of_mem_life`: a life never goes back;
* `Sink.forward_life`: all of this;
* `Sink.barred_by_close`: a sink that is closed first.
-/

namespace TraceAgent

/-- How far a sink is in its life. -/
def SinkStatus.stage : SinkStatus → Nat
  | unopened => 0
  | opened => 1
  | closed => 2

/-! ## What one event makes of it -/

namespace SinkEvent

open SinkExchange

variable {e : SinkEvent}

/-- What an event makes of the status of a sink. -/
structure Moves (e : SinkEvent) : Prop where
  /-- The sink does not go back. -/
  forward : e.before.status.stage ≤ e.after.status.stage
  /-- A sink that was not open yet is open exactly after a call that opened it. -/
  opens : e.before.status = .unopened ∧ e.after.status = .opened ↔
    ∃ kind, e.exchange.opened? = some kind
  /-- A sink that was open is closed exactly after a close that released something. -/
  releases : e.before.status = .opened ∧ e.after.status = .closed ↔ e.exchange = .close true
  /-- A sink that was not open yet is closed exactly after a close, which released nothing. -/
  bars : e.before.status = .unopened ∧ e.after.status = .closed ↔
    e.before.status = .unopened ∧ e.exchange = .close false

theorem Lawful.moves (h : e.Lawful) : e.Moves := by
  cases h with
  | openedLog dir path file hunopened | openedStream collector hunopened =>
    constructor <;> simp [Sink.status, SinkStatus.stage, opened?, hunopened]
  | noLog | noStream | sent | notSent | merged | notMerged =>
    -- The status is the same before and after, and so none of the three changes.
    constructor <;> simp +contextual [Sink.status, opened?]
  | closed s =>
    rcases s with ⟨_ | _ | _ | _, _, _, _⟩ <;> constructor <;>
      simp [Sink.status, SinkStatus.stage, opened?]

end SinkEvent

/-! ## Whole lives -/

namespace Sink

variable {s : Sink} {calls : List (SinkCall × World)} {e : SinkEvent}

/-- An event of a life is what a call comes to. -/
theorem exists_event_of_mem_life (he : e ∈ s.life calls) :
    ∃ (s' : Sink) (w : World) (call : SinkCall), e = s'.event w call := by
  induction calls generalizing s with
  | nil => simp [life] at he
  | cons call calls ih =>
    rw [life] at he
    rcases List.mem_cons.1 he with rfl | he
    · exact ⟨s, call.2, call.1, rfl⟩
    · exact ih he

/-- A sink that lives on does not go back. -/
theorem stage_le_of_mem_life (he : e ∈ s.life calls) :
    s.status.stage ≤ e.before.status.stage := by
  induction calls generalizing s with
  | nil => simp [life] at he
  | cons call calls ih =>
    rw [life] at he
    rcases List.mem_cons.1 he with rfl | he
    · rw [before_event]
    · have hforward := (lawful_event s call.2 call.1).moves.forward
      rw [before_event] at hforward
      exact hforward.trans (ih he)

theorem pairwise_life (s : Sink) (calls : List (SinkCall × World)) :
    (s.life calls).Pairwise fun e later => e.after.status.stage ≤ later.before.status.stage := by
  induction calls generalizing s with
  | nil => exact .nil
  | cons call calls ih =>
    exact .cons (fun later hlater => stage_le_of_mem_life hlater) (ih _)

/-- A close that releases nothing changes nothing but the state. -/
theorem after_of_close_false {w : World} {call : SinkCall}
    (h : (s.event w call).exchange = .close false) :
    (s.event w call).after = { s with state := .closed } := by
  cases call with
  | close =>
    have hdid : (s.close w).1 = false := SinkExchange.close.inj h
    rcases s with ⟨_ | _ | _ | _, kind, pipe, dropped⟩
    · rfl
    · cases hdid
    · cases hdid
    · rfl
  | _ => cases h

end Sink

/-- A life of a sink that only goes forward. -/
structure ForwardLife (events : List SinkEvent) : Prop where
  /-- Each event changes the status in one of the ways it can. -/
  moves : ∀ e ∈ events, e.Moves
  /-- No later event finds the sink further back than it was left. -/
  forward : events.Pairwise fun e later => e.after.status.stage ≤ later.before.status.stage
  /-- A close that releases nothing changes nothing but the state. -/
  unreleased : ∀ e ∈ events, e.exchange = .close false →
    e.after = { e.before with state := .closed }
  /-- A sink that is closed before it was opened is not opened any more. -/
  barred : ∀ past e later, events = past ++ e :: later → e.before.status = .unopened →
    e.exchange = .close false → ∀ other ∈ later, other.exchange.opened? = none ∧
      (other.exchange.opens = true → other.exchange.failure? = some .alreadyClosed)

/-- The life of a sink only goes forward, whatever is called and whatever the world is like at each
    call: a call that opens it takes it from unopened to open, and a close takes it from open to
    closed where it released something, and from unopened to closed where it did not. -/
theorem Sink.forward_life (calls : List (SinkCall × World)) :
    ForwardLife (({} : Sink).life calls) := by
  have hmoves {e} (he : e ∈ ({} : Sink).life calls) : e.Moves := by
    obtain ⟨past, later, h⟩ := List.append_of_mem he
    exact (exists_life_of_append h).1.moves
  constructor
  case moves => exact fun e he => hmoves he
  case forward => exact pairwise_life {} calls
  case unreleased =>
    intro e he hclose
    obtain ⟨s, w, call, rfl⟩ := exists_event_of_mem_life he
    rw [after_of_close_false hclose, before_event]
  case barred =>
    intro past e later h hunopened hclose other hother
    obtain ⟨hlawful, rest, rfl⟩ := exists_life_of_append h
    have hclosed : e.after.status = .closed := (hlawful.moves.bars.2 ⟨hunopened, hclose⟩).2
    refine ⟨?_, (closed_of_mem_life hclosed hother).2⟩
    -- Whatever opens a sink finds it unopened, and this one is further on.
    by_contra hopened
    obtain ⟨kind, hkind⟩ := Option.ne_none_iff_exists'.1 hopened
    have hother' : other ∈ ({} : Sink).life calls := by simp [h, hother]
    have hbefore := ((hmoves hother').opens.2 ⟨kind, hkind⟩).1
    have hstage := stage_le_of_mem_life hother
    rw [hclosed, hbefore] at hstage
    cases hstage

/-- A new sink that is closed and then to be opened on a trace log, in a world with a work
    directory and nothing else. -/
def closedFirst : List (SinkCall × World) :=
  let w : World := { files := .withWorkDir [] }
  [(.close, w), (.openLog ⟨"/"⟩, w)]

/-- A close that releases nothing takes a sink from unopened to closed, and after it the sink cannot
    be opened, although the same call opens a new sink. -/
theorem Sink.barred_by_close :
    ¬ (∀ calls, ∀ e ∈ ({} : Sink).life calls, e.before.status ≠ e.after.status →
      e.before.status = .unopened ∧ e.after.status = .opened ∧ e.exchange.opened?.isSome ∨
        e.before.status = .opened ∧ e.after.status = .closed ∧ e.exchange = .close true) ∧
    (({} : Sink).life closedFirst).map (fun e => (e.before.status, e.after.status)) =
      [(.unopened, .closed), (.closed, .closed)] ∧
    (({} : Sink).life closedFirst).map (fun e => e.exchange.failure?) =
      [none, some .alreadyClosed] ∧
    (({} : Sink).life closedFirst.tail).map (fun e => (e.before.status, e.after.status)) =
      [(.unopened, .opened)] := by
  refine ⟨fun h => ?_, by decide +kernel, by decide +kernel, by decide +kernel⟩
  rcases h closedFirst _ List.mem_cons_self (by decide) with ⟨-, hopened, -⟩ | ⟨hopened, -⟩
  · cases hopened
  · cases hopened

end TraceAgent
