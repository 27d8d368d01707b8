import TraceAgent.Pipe
import TraceAgent.Proofs.Frame
import TraceAgent.Proofs.Text.Utf8

/-!
# What arrives at the end of a pipe

As long as nothing fails on the connection, no byte of the lines in a pipe is lost, and none
comes out of turn: what has arrived, what is in the buffer and what still waits make up the
lines that were put in, at every step of the writer. Once the writer has finished, all of it has
arrived.

* `PipeWork.writeLine_of_isReliable`: writing one line;
* `Carries.step` and `Carries.run`: the steps of the writer, and any number of them;
* `finished_hangUp`: a writer that is waited for long enough finishes, also where something
  fails.
-/

namespace TraceAgent

/-- Nothing fails on a connection: whoever is on the other side goes on reading. -/
def Connection.IsReliable (c : Connection) : Prop := ∀ number, c.failure number = none

/-- The bytes that lines are sent as, one after the other. -/
def wire (lines : List String) : Bytes := lines.flatMap fun line => Bytes.ofString (line ++ "\n")

/-- The bytes of lines that come after others. -/
theorem wire_append (lines more : List String) : wire (lines ++ more) = wire lines ++ wire more :=
  List.flatMap_append

/-- The bytes of a first line come first. -/
theorem wire_cons (line : String) (lines : List String) : wire (line :: lines) =
    Bytes.ofString line ++ Bytes.ofString "\n" ++ wire lines := by
  rw [← Bytes.ofString_append]
  rfl

/-! ## The work of the writer -/

namespace PipeWork

variable {c : Connection}

/-- Bytes that are handed over arrive. -/
theorem send_of_isReliable (h : c.IsReliable) (bytes : Bytes) (p : Pipe) :
    ∃ sendings, send c bytes p =
      (.ok (), { p with sendings, received := p.received ++ bytes }) := by
  rw [send]
  rcases bytes with _ | ⟨b, bytes⟩
  · exact ⟨p.sendings, by rw [List.append_nil]; rfl⟩
  · refine ⟨p.sendings + 1, ?_⟩
    change check (c.failure p.sendings) { p with
      sendings := p.sendings + 1
      received := p.received ++ c.arriving p.sendings (b :: bytes) } = _
    rw [Connection.arriving, h]
    rfl

/-- The buffer is handed over. -/
theorem handOver_of_isReliable (h : c.IsReliable) (p : Pipe) :
    ∃ sendings, handOver c p =
      (.ok (), { p with sendings, buffer := [], received := p.received ++ p.buffer }) := by
  obtain ⟨sendings, hsend⟩ := send_of_isReliable h p.buffer { p with buffer := [] }
  refine ⟨sendings, ?_⟩
  change send c p.buffer { p with buffer := c.missing p.sendings p.buffer } = _
  rw [Connection.missing, h]
  exact hsend

/-- Where room is made, nothing is lost, and bytes that no buffer has room for find this one
    empty. -/
theorem makeRoom_of_isReliable (h : c.IsReliable) (count : Nat) (p : Pipe) :
    ∃ sendings buffer received, makeRoom c count p =
        (.ok (), { p with sendings, buffer, received }) ∧
      received ++ buffer = p.received ++ p.buffer ∧ (bufferLimit ≤ count → buffer = []) := by
  change ∃ sendings buffer received,
    (if bufferLimit - p.buffer.length < count then handOver c else pure ()) p = _ ∧ _
  by_cases hroom : bufferLimit - p.buffer.length < count
  · obtain ⟨sendings, hhanded⟩ := handOver_of_isReliable h p
    rw [if_pos hroom]
    exact ⟨sendings, [], p.received ++ p.buffer, hhanded, List.append_nil _, fun _ => rfl⟩
  · rw [if_neg hroom]
    refine ⟨p.sendings, p.buffer, p.received, rfl, rfl, fun hcount => ?_⟩
    have hpositive : 0 < bufferLimit := by decide
    exact List.length_eq_zero_iff.1 (by omega)

/-- What is written arrives, or is in the buffer, behind what was written before. -/
theorem write_of_isReliable (h : c.IsReliable) (bytes : Bytes) (p : Pipe) :
    ∃ sendings buffer received, write c bytes p =
        (.ok (), { p with sendings, buffer, received }) ∧
      received ++ buffer = p.received ++ p.buffer ++ bytes := by
  obtain ⟨sendings, buffer, received, hroom, hbytes, hempty⟩ :=
    makeRoom_of_isReliable h bytes.length p
  rw [write, except_bind_apply, hroom, ← hbytes]
  dsimp only
  rw [put]
  split
  · next hlong =>
      obtain ⟨sendings', hsend⟩ := send_of_isReliable h bytes
        { p with sendings, buffer, received }
      refine ⟨sendings', buffer, _, hsend, ?_⟩
      rw [hempty hlong, List.append_nil, List.append_nil]
  · exact ⟨sendings, buffer ++ bytes, received, rfl, (List.append_assoc _ _ _).symm⟩

/-- A line is written behind what was written before, and counted. -/
theorem writeLine_of_isReliable (h : c.IsReliable) (line : String) (p : Pipe) :
    ∃ sendings buffer received, writeLine c line p = (.ok (),
        { p with sendings, buffer, received, written := p.written + 1, stage := .looking }) ∧
      received ++ buffer =
        p.received ++ p.buffer ++ (Bytes.ofString line ++ Bytes.ofString "\n") := by
  obtain ⟨sendings₁, buffer₁, received₁, htext, hbytes₁⟩ :=
    write_of_isReliable h (Bytes.ofString line) p
  obtain ⟨sendings₂, buffer₂, received₂, hend, hbytes₂⟩ := write_of_isReliable h
    (Bytes.ofString "\n") { p with sendings := sendings₁, buffer := buffer₁, received := received₁ }
  refine ⟨sendings₂, buffer₂, received₂, ?_, ?_⟩
  · rw [writeLine, except_bind_apply, htext]
    dsimp only
    rw [except_bind_apply, hend]
    rfl
  · rw [hbytes₂, hbytes₁, List.append_assoc _ (Bytes.ofString line)]

/-- The buffer is handed over before the writer goes on. -/
theorem flush_of_isReliable (h : c.IsReliable) (next : Pipe.Stage) (p : Pipe) :
    ∃ sendings, flush c next p = (.ok (),
      { p with sendings, buffer := [], received := p.received ++ p.buffer, stage := next }) := by
  obtain ⟨sendings, hhanded⟩ := handOver_of_isReliable h p
  refine ⟨sendings, ?_⟩
  rw [flush, except_bind_apply, hhanded]
  rfl

end PipeWork

namespace Pipe

variable {c : Connection} {p : Pipe} {lines : List String} (peer : String)

/-- The lines that are not written yet: one that the writer has taken, and those that wait. -/
def pending (p : Pipe) : List String :=
  match p.stage with
  | .writing line => line :: p.queue
  | _ => p.queue

/-- Nothing of the lines that were put in is lost. -/
structure Carries (lines : List String) (p : Pipe) : Prop where
  bytes : p.received ++ p.buffer ++ wire p.pending = wire lines
  written : p.written + UInt64.ofNat p.pending.length = UInt64.ofNat lines.length
  finished : p.stage = .finished → p.hungUp = true ∧ p.queue = [] ∧ p.buffer = []

/-- At first, there is nothing to lose. -/
theorem carries_nil : Carries [] {} where
  bytes := rfl
  written := rfl
  finished := fun h => by cases h

/-- Another line is put in. -/
theorem Carries.enqueue (h : p.Carries lines) (hopen : p.hungUp = false) (line : String) :
    (p.enqueue line).Carries (lines ++ [line]) := by
  have hpending : (p.enqueue line).pending = p.pending ++ [line] := by
    rw [pending, pending, Pipe.enqueue]
    rcases p.stage <;> rfl
  refine ⟨?_, ?_, fun hfinished => ?_⟩
  · rw [hpending, wire_append, wire_append, ← h.bytes, List.append_assoc _ (wire p.pending)]
    rfl
  · rw [hpending, List.length_append, List.length_append, UInt64.ofNat_add, UInt64.ofNat_add,
      ← UInt64.add_assoc, ← h.written]
    rfl
  · rw [(h.finished hfinished).1] at hopen
    cases hopen

/-! ## Steps -/

/-- A line that waits is taken. -/
theorem step_of_cons (hstage : p.stage = .waiting ∨ p.stage = .looking) {line : String}
    {queue : List String} (hqueue : p.queue = line :: queue) :
    p.step peer c = ({ p with stage := .writing line, queue }, []) := by
  rcases hstage with hstage | hstage
  · rw [Pipe.step, hstage, hqueue]
  · rw [Pipe.step, hstage, hqueue]

/-- Where no line waits, the writer waits for one, or is about to finish. -/
theorem step_of_waiting (hstage : p.stage = .waiting) (hqueue : p.queue = []) :
    p.step peer c = if p.hungUp then
        p.attempt c s!"final flush to {peer} failed" (PipeWork.flush c .finished)
      else (p, []) := by
  rw [Pipe.step, hstage, hqueue]

/-- Where no other line waits, what was written is handed over next. -/
theorem step_of_looking (hstage : p.stage = .looking) (hqueue : p.queue = []) :
    p.step peer c = ({ p with stage := .flushing }, []) := by
  rw [Pipe.step, hstage, hqueue]

/-- A line that was taken is written. -/
theorem step_of_writing {line : String} (hstage : p.stage = .writing line) :
    p.step peer c = p.attempt c s!"trace stream to {peer} failed, dropping further events"
      (PipeWork.writeLine c line) := by
  rw [Pipe.step, hstage]

/-- What was written is handed over. -/
theorem step_of_flushing (hstage : p.stage = .flushing) :
    p.step peer c = p.attempt c s!"trace stream to {peer} failed, dropping further events"
      (PipeWork.flush c .waiting) := by
  rw [Pipe.step, hstage]

/-- A writer that has finished does nothing more. -/
theorem step_of_finished (hstage : p.stage = .finished) : p.step peer c = (p, []) := by
  rw [Pipe.step, hstage]

/-- Work that does not fail. -/
theorem attempt_of_ok {failure : String} {act : PipeWork PUnit} {p' : Pipe}
    (h : act p = (.ok (), p')) : p.attempt c failure act = (p', []) := by
  rw [attempt, h]

/-- Taking a line loses nothing. -/
theorem Carries.take (h : p.Carries lines) {line : String} {queue : List String}
    (hstage : p.stage = .waiting ∨ p.stage = .looking) (hqueue : p.queue = line :: queue) :
    Carries lines { p with stage := .writing line, queue } := by
  have hpending : p.pending = line :: queue := by
    rcases hstage with hstage | hstage
    · rw [pending, hstage, hqueue]
    · rw [pending, hstage, hqueue]
  obtain ⟨hbytes, hwritten, -⟩ := h
  rw [hpending] at hbytes hwritten
  exact ⟨hbytes, hwritten, fun h => by cases h⟩

/-- Writing a line loses nothing. -/
theorem Carries.writeLine (hc : c.IsReliable) (h : p.Carries lines) {line : String}
    (hstage : p.stage = .writing line) :
    ∃ p', PipeWork.writeLine c line p = (.ok (), p') ∧ p'.Carries lines ∧
      p'.hungUp = p.hungUp := by
  have hpending : p.pending = line :: p.queue := by rw [pending, hstage]
  obtain ⟨hbytes, hwritten, -⟩ := h
  rw [hpending] at hbytes hwritten
  obtain ⟨sendings, buffer, received, hline, hbytes'⟩ := PipeWork.writeLine_of_isReliable hc line p
  refine ⟨_, hline, ⟨?_, ?_, fun h => by cases h⟩, rfl⟩
  · rw [← hbytes, wire_cons, ← List.append_assoc, ← hbytes']
    rfl
  · rw [← hwritten, List.length_cons, Nat.add_comm p.queue.length, UInt64.ofNat_add,
      ← UInt64.add_assoc]
    rfl

/-- Nor does handing over what was written. -/
theorem Carries.flush (hc : c.IsReliable) (h : p.Carries lines) (hpending : p.pending = p.queue)
    (next : Stage) (hwaiting : ∀ line, next ≠ .writing line)
    (hfinished : next = .finished → p.hungUp = true ∧ p.queue = []) :
    ∃ p', PipeWork.flush c next p = (.ok (), p') ∧ p'.Carries lines ∧ p'.hungUp = p.hungUp := by
  obtain ⟨hbytes, hwritten, -⟩ := h
  rw [hpending] at hbytes hwritten
  obtain ⟨sendings, hflush⟩ := PipeWork.flush_of_isReliable hc next p
  have hpending' : pending { p with
      sendings, buffer := [], received := p.received ++ p.buffer, stage := next } = p.queue := by
    rw [pending]
    split
    · next line heq => exact absurd heq (hwaiting line)
    · rfl
  refine ⟨_, hflush, ⟨?_, ?_, fun heq => ?_⟩, rfl⟩
  · rw [hpending', List.append_nil]
    exact hbytes
  · rw [hpending']
    exact hwritten
  · obtain ⟨hhungUp, hqueue⟩ := hfinished heq
    exact ⟨hhungUp, hqueue, rfl⟩

/-- A step loses nothing, if nothing fails on the connection. -/
theorem Carries.step (hc : c.IsReliable) (h : p.Carries lines) :
    ∃ p', p.step peer c = (p', []) ∧ p'.Carries lines ∧ p'.hungUp = p.hungUp := by
  rcases hstage : p.stage with _ | line | _ | _ | _
  · rcases hqueue : p.queue with _ | ⟨line, queue⟩
    · rw [step_of_waiting peer hstage hqueue]
      rcases hhungUp : p.hungUp with _ | _
      · exact ⟨p, rfl, h, hhungUp⟩
      · obtain ⟨p', hflush, hcarries, hsame⟩ := h.flush hc
          (by rw [pending, hstage]) .finished (fun _ h => by cases h) fun _ => ⟨hhungUp, hqueue⟩
        exact ⟨p', attempt_of_ok hflush, hcarries, hsame.trans hhungUp⟩
    · exact ⟨_, step_of_cons peer (.inl hstage) hqueue, h.take (.inl hstage) hqueue, rfl⟩
  · rw [step_of_writing peer hstage]
    obtain ⟨p', hline, hcarries, hsame⟩ := h.writeLine hc hstage
    exact ⟨p', attempt_of_ok hline, hcarries, hsame⟩
  · rcases hqueue : p.queue with _ | ⟨line, queue⟩
    · rw [step_of_looking peer hstage hqueue]
      obtain ⟨hbytes, hwritten, -⟩ := h
      rw [pending, hstage] at hbytes hwritten
      exact ⟨_, rfl, ⟨hbytes, hwritten, fun h => by cases h⟩, rfl⟩
    · exact ⟨_, step_of_cons peer (.inr hstage) hqueue, h.take (.inr hstage) hqueue, rfl⟩
  · rw [step_of_flushing peer hstage]
    obtain ⟨p', hflush, hcarries, hsame⟩ := h.flush hc
      (by rw [pending, hstage]) .waiting (fun _ h => by cases h) fun h => by cases h
    exact ⟨p', attempt_of_ok hflush, hcarries, hsame⟩
  · exact ⟨p, step_of_finished peer hstage, h, rfl⟩

/-- Nor does any number of steps. -/
theorem Carries.run (hc : c.IsReliable) (n : Nat) (h : p.Carries lines) :
    ∃ p', p.run peer c n = (p', []) ∧ p'.Carries lines ∧ p'.hungUp = p.hungUp := by
  induction n generalizing p with
  | zero => exact ⟨p, rfl, h, rfl⟩
  | succ n ih =>
    obtain ⟨p₁, hstep, hcarries, hopen⟩ := h.step peer hc
    obtain ⟨p₂, hrun, hcarries', hopen'⟩ := ih hcarries
    refine ⟨p₂, ?_, hcarries', hopen'.trans hopen⟩
    rw [Pipe.run, hstep]
    dsimp only
    rw [hrun]
    rfl

/-- Nor does a turn of the writer. -/
theorem Carries.turn (hc : c.IsReliable) (h : p.Carries lines) :
    ∃ p', p.turn peer c = (p', []) ∧ p'.Carries lines ∧ p'.hungUp = p.hungUp := by
  have hstart : ({ p with turns := p.turns + 1 } : Pipe).Carries lines :=
    ⟨h.bytes, h.written, h.finished⟩
  exact hstart.run peer hc _

/-- What a writer hands over until it is no longer waited for. -/
theorem Carries.hangUp (hc : c.IsReliable) (h : p.Carries lines) :
    ∃ p', p.hangUp peer c = (p', []) ∧ p'.Carries lines := by
  have hstart : ({ p with hungUp := true } : Pipe).Carries lines :=
    ⟨h.bytes, h.written, fun hfinished => ⟨rfl, (h.finished hfinished).2⟩⟩
  obtain ⟨p', hrun, hcarries, -⟩ := hstart.run peer hc c.patience
  exact ⟨p', hrun, hcarries⟩

/-- When the writer has finished, all lines have arrived. -/
theorem Carries.of_finished (h : p.Carries lines) (hfinished : p.stage = .finished) :
    p.received = wire lines ∧ p.written = UInt64.ofNat lines.length := by
  obtain ⟨-, hqueue, hbuffer⟩ := h.finished hfinished
  have hpending : p.pending = [] := by rw [pending, hfinished, hqueue]
  obtain ⟨hbytes, hwritten, -⟩ := h
  rw [hpending, hbuffer] at hbytes
  rw [hpending] at hwritten
  refine ⟨by rw [← hbytes, List.append_nil]; exact (List.append_nil _).symm, ?_⟩
  exact (UInt64.add_zero _).symm.trans hwritten

/-! ## The end of the work -/

/-- How many steps the writer may still take once no more lines come. -/
def remaining (p : Pipe) : Nat :=
  match p.stage with
  | .waiting => 4 * p.queue.length + 1
  | .flushing => 4 * p.queue.length + 2
  | .looking => 4 * p.queue.length + 3
  | .writing _ => 4 * p.queue.length + 4
  | .finished => 0

/-- The queue is as it was, and lines may come as before. -/
structure SameQueue (p p' : Pipe) : Prop where
  queue : p'.queue = p.queue
  hungUp : p'.hungUp = p.hungUp

/-- What leaves the queue alone, step by step. -/
theorem SameQueue.frame : Frame SameQueue where
  refl _ := ⟨rfl, rfl⟩
  trans h₁ h₂ := ⟨h₂.queue.trans h₁.queue, h₂.hungUp.trans h₁.hungUp⟩

/-- Handing bytes over leaves the queue alone. -/
theorem sameQueue_send (c : Connection) (bytes : Bytes) (p : Pipe) :
    SameQueue p (PipeWork.send c bytes p).2 := by
  rw [PipeWork.send]
  split
  · exact SameQueue.frame.refl p
  · refine SameQueue.frame.except_bind (SameQueue.frame.refl p) fun before p => ?_
    refine SameQueue.frame.except_bind ⟨rfl, rfl⟩ fun _ p => ?_
    rcases c.failure before.sendings with _ | ⟨count, cause⟩
    · exact SameQueue.frame.refl p
    · exact SameQueue.frame.refl p

/-- So does handing over what is in the buffer. -/
theorem sameQueue_handOver (c : Connection) (p : Pipe) :
    SameQueue p (PipeWork.handOver c p).2 := by
  rw [PipeWork.handOver]
  refine SameQueue.frame.except_bind (SameQueue.frame.refl p) fun before p => ?_
  exact SameQueue.frame.except_bind ⟨rfl, rfl⟩ fun _ p => sameQueue_send c _ p

/-- So does writing bytes. -/
theorem sameQueue_write (c : Connection) (bytes : Bytes) (p : Pipe) :
    SameQueue p (PipeWork.write c bytes p).2 := by
  rw [PipeWork.write]
  refine SameQueue.frame.except_bind ?_ fun _ p => ?_
  · rw [PipeWork.makeRoom]
    refine SameQueue.frame.except_bind (SameQueue.frame.refl p) fun before p => ?_
    split
    · exact sameQueue_handOver c p
    · exact SameQueue.frame.refl p
  · rw [PipeWork.put]
    split
    · exact sameQueue_send c bytes p
    · exact ⟨rfl, rfl⟩

/-- So does writing a line. -/
theorem sameQueue_writeLine (c : Connection) (line : String) (p : Pipe) :
    SameQueue p (PipeWork.writeLine c line p).2 := by
  rw [PipeWork.writeLine]
  refine SameQueue.frame.except_bind (sameQueue_write c _ p) fun _ p => ?_
  exact SameQueue.frame.except_bind (sameQueue_write c _ p) fun _ p => ⟨rfl, rfl⟩

/-- So does a flush. -/
theorem sameQueue_flush (c : Connection) (next : Stage) (p : Pipe) :
    SameQueue p (PipeWork.flush c next p).2 := by
  rw [PipeWork.flush]
  exact SameQueue.frame.except_bind (sameQueue_handOver c p) fun _ p => ⟨rfl, rfl⟩

/-- Work that goes on to a stage where it does not fail. -/
def LeadsTo (next : Stage) (act : PipeWork PUnit) : Prop :=
  ∀ p p', act p = (.ok (), p') → p'.stage = next

/-- Work that comes before does not change where it leads. -/
theorem LeadsTo.bind {next : Stage} {act : PipeWork PUnit} (h : LeadsTo next act)
    (first : PipeWork PUnit) : LeadsTo next (first >>= fun _ => act) := by
  intro p p' hok
  rw [except_bind_apply] at hok
  generalize first p = ended at hok
  rcases ended with ⟨cause | _, p₁⟩
  · cases congrArg Prod.fst hok
  · exact h p₁ p' hok

/-- After a line was written, the writer looks for the next. -/
theorem leadsTo_writeLine (c : Connection) (line : String) :
    LeadsTo .looking (PipeWork.writeLine c line) := by
  have hlast : LeadsTo .looking
      (modify fun p => { p with written := p.written + 1, stage := .looking }) := by
    rintro p p' ⟨⟩
    rfl
  exact (hlast.bind _).bind _

/-- After a flush, the writer does what it was to do next. -/
theorem leadsTo_flush (c : Connection) (next : Stage) : LeadsTo next (PipeWork.flush c next) := by
  have hlast : LeadsTo next (modify fun p => { p with stage := next }) := by
    rintro p p' ⟨⟩
    rfl
  exact hlast.bind _

/-- After work that leaves the queue alone, there is no more to do than at the stage that the
    work leads to: where it fails, the writer stops. -/
theorem remaining_attempt {next : Stage} {act : PipeWork PUnit} (hnext : LeadsTo next act)
    (hqueue : SameQueue p (act p).2) (failure : String) :
    (p.attempt c failure act).1.remaining ≤ ({ p with stage := next } : Pipe).remaining ∧
      (p.attempt c failure act).1.hungUp = p.hungUp := by
  rcases hact : act p with ⟨cause | _, p₁⟩
  · rw [hact] at hqueue
    rw [attempt, hact]
    exact ⟨Nat.zero_le _, (SameQueue.frame.trans hqueue (sameQueue_handOver c p₁)).hungUp⟩
  · rw [hact] at hqueue
    have hstage : p₁.stage = next := hnext p p₁ hact
    rw [attempt_of_ok hact, remaining, remaining, hstage, hqueue.queue]
    exact ⟨Nat.le_refl _, hqueue.hungUp⟩

/-- Once no more lines come, each step leaves less to do. -/
theorem remaining_step (c : Connection) (hhungUp : p.hungUp = true) :
    (p.step peer c).1.remaining ≤ p.remaining - 1 ∧ (p.step peer c).1.hungUp = true := by
  have htaken {line : String} {queue : List String}
      (hstage : p.stage = .waiting ∨ p.stage = .looking) (hqueue : p.queue = line :: queue) :
      ({ p with stage := .writing line, queue } : Pipe).remaining ≤ p.remaining - 1 := by
    change 4 * queue.length + 4 ≤ _
    rcases hstage with hstage | hstage
    all_goals
      rw [remaining, hstage, hqueue, List.length_cons]
      dsimp only
      omega
  rcases hstage : p.stage with _ | line | _ | _ | _
  · rcases hqueue : p.queue with _ | ⟨line, queue⟩
    · rw [step_of_waiting peer hstage hqueue, if_pos hhungUp, ← hhungUp]
      have hflush := remaining_attempt (c := c) (leadsTo_flush c .finished)
        (sameQueue_flush c .finished p) s!"final flush to {peer} failed"
      exact ⟨Nat.le_trans hflush.1 (Nat.zero_le _), hflush.2⟩
    · rw [step_of_cons peer (.inl hstage) hqueue]
      exact ⟨htaken (.inl hstage) hqueue, hhungUp⟩
  · rw [step_of_writing peer hstage, ← hhungUp]
    have hline := remaining_attempt (c := c) (leadsTo_writeLine c line)
      (sameQueue_writeLine c line p) s!"trace stream to {peer} failed, dropping further events"
    have hbefore : p.remaining = 4 * p.queue.length + 4 := by rw [remaining, hstage]
    rw [hbefore]
    exact hline
  · rcases hqueue : p.queue with _ | ⟨line, queue⟩
    · have hbefore : p.remaining = 4 * p.queue.length + 3 := by rw [remaining, hstage]
      rw [step_of_looking peer hstage hqueue, hbefore]
      exact ⟨Nat.le_refl _, hhungUp⟩
    · rw [step_of_cons peer (.inr hstage) hqueue]
      exact ⟨htaken (.inr hstage) hqueue, hhungUp⟩
  · rw [step_of_flushing peer hstage, ← hhungUp]
    have hflush := remaining_attempt (c := c) (leadsTo_flush c .waiting)
      (sameQueue_flush c .waiting p) s!"trace stream to {peer} failed, dropping further events"
    have hbefore : p.remaining = 4 * p.queue.length + 2 := by rw [remaining, hstage]
    rw [hbefore]
    exact hflush
  · have hnothing : p.remaining = 0 := by rw [remaining, hstage]
    rw [step_of_finished peer hstage, hnothing]
    exact ⟨Nat.le_refl 0, hhungUp⟩

/-- A writer that has nothing left to do has finished. -/
theorem finished_of_remaining (h : p.remaining = 0) : p.stage = .finished := by
  rw [remaining] at h
  split at h
  · omega
  · omega
  · omega
  · omega
  · assumption

/-- Once no more lines come, so many steps are enough for the writer to finish. -/
theorem finished_run (c : Connection) {n : Nat} (hhungUp : p.hungUp = true)
    (hn : p.remaining ≤ n) : (p.run peer c n).1.stage = .finished := by
  induction n generalizing p with
  | zero => exact finished_of_remaining (Nat.le_zero.1 hn)
  | succ n ih =>
    obtain ⟨hless, hhungUp'⟩ := remaining_step peer c hhungUp
    exact ih hhungUp' (Nat.le_trans hless (Nat.sub_le_iff_le_add.2 hn))

/-- At most four steps for each line that waits are left, and four to finish. -/
theorem remaining_le (p : Pipe) : p.remaining ≤ 4 * p.queue.length + 4 := by
  rw [remaining]
  split <;> omega

/-- A writer that is waited for long enough finishes, also where something fails. -/
theorem finished_hangUp {c : Connection} (hpatience : 4 * p.queue.length + 4 ≤ c.patience) :
    (p.hangUp peer c).1.stage = .finished :=
  finished_run peer c rfl (Nat.le_trans (remaining_le { p with hungUp := true }) hpatience)

end Pipe

end TraceAgent
