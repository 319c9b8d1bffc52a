import SensorGateway.Buffer.Fifo
import SensorGateway.Bench.Micro
import SensorGateway.Lib.Tally

/-! What every run of the benchmark keeps: of each line, of all readings counted so far, and of what can
still be pushed once the consumer has left. -/

namespace SensorGateway.Bench.Lines
open SensorGateway.Lib.Transition SensorGateway.Lib.Tally SensorGateway.Types
open Buffer.Manager Buffer.Threads Buffer.Calls Micro

/-- The reading the reader has in its hands. -/
def inPush : Reader → Nat
  | .push _ => 1
  | _ => 0

/-- A sensor that has not seen `stop` counts one more reading, or drops it. -/
def coming : Sensor → Nat
  | .load | .add => 1
  | _ => 0

theorem inPush_le (reader : Reader) : inPush reader ≤ 1 := by
  unfold inPush
  split <;> decide

theorem coming_le (sensor : Sensor) : coming sensor ≤ 1 := by
  unfold coming
  split <;> decide

/-- The readings of a line that are counted and not pushed. -/
def kept (line : Line) : Nat := line.avail + inPush line.reader

/-- With the one that may still come once `stop` is set. -/
def held (line : Line) : Nat := kept line + coming line.sensor

/-- A full ring, one reading in the reader's hands and one to come. -/
def perSensor : Nat := ringCap + 2

structure LineOk (stop : Bool) (line : Line) : Prop where
  fits : line.avail ≤ ringCap
  room : line.sensor = .add → line.avail < ringCap
  positive : ∀ cur, line.reader = .exchange cur → 0 < cur
  leaving : line.reader = .checkAvail → stop = true
  left : line.reader = .done → stop = true ∧ line.avail + coming line.sensor ≤ 1
  halted : line.sensor = .done → stop = true

theorem held_le {stop : Bool} {line : Line} (ok : LineOk stop line) : held line ≤ perSensor := by
  have fits := ok.fits
  have hands := inPush_le line.reader
  have next := coming_le line.sensor
  unfold held kept perSensor
  omega

/-- What a sensor's step does to its line. -/
structure Counts (stop : Bool) (before after : Line) (lost : Nat) : Prop where
  ok : LineOk stop after
  seq : after.seq + kept before = before.seq + kept after + lost
  held : stop = true → held after ≤ held before

theorem sensor_counts {stop : Bool} {before after : Line} {lost : Nat} (ok : LineOk stop before)
    (moved : sensorStep stop before = some (after, lost)) : Counts stop before after lost := by
  obtain ⟨fits, room, positive, leaving, left, halted⟩ := ok
  obtain ⟨avail, seq, sensor, reader⟩ := before
  cases sensor with
  | checkStop =>
    simp only [sensorStep, Option.some.injEq, Prod.mk.injEq] at moved
    obtain ⟨rfl, rfl⟩ := moved
    cases stop with
    | true =>
      refine ⟨⟨fits, by simp [Line.atSensor], positive, leaving, left, fun _ => rfl⟩, rfl, fun _ => ?_⟩
      exact Nat.le_refl _
    | false =>
      refine ⟨⟨fits, by simp [Line.atSensor], positive, leaving, ?_, by simp [Line.atSensor]⟩, rfl, ?_⟩
      · exact fun gone => absurd (left gone).1 (by simp)
      · exact fun stopped => absurd stopped (by simp)
  | load =>
    simp only [sensorStep, Option.some.injEq, Prod.mk.injEq] at moved
    obtain ⟨rfl, rfl⟩ := moved
    by_cases below : avail < ringCap
    · rw [if_pos below]
      exact ⟨⟨fits, fun _ => below, positive, leaving, left, by simp [Line.atSensor]⟩, rfl,
        fun _ => Nat.le_refl _⟩
    · rw [if_neg below]
      refine ⟨⟨fits, by simp [Line.atSensor], positive, leaving, ?_, by simp [Line.atSensor]⟩, rfl, ?_⟩
      · exact fun gone => ⟨(left gone).1, Nat.le_of_succ_le (left gone).2⟩
      · exact fun _ => Nat.le_succ _
  | add =>
    simp only [sensorStep, Option.some.injEq, Prod.mk.injEq] at moved
    obtain ⟨rfl, rfl⟩ := moved
    refine ⟨⟨room rfl, by simp, positive, leaving, left, by simp⟩, ?_, fun _ => ?_⟩
    · simp only [kept]
      omega
    · simp only [held, kept, coming]
      omega
  | overwrite =>
    simp only [sensorStep, Option.some.injEq, Prod.mk.injEq] at moved
    obtain ⟨rfl, rfl⟩ := moved
    refine ⟨⟨fits, by simp, positive, leaving, left, by simp⟩, ?_, fun _ => Nat.le_refl _⟩
    simp only [kept]
    omega
  | done => simp only [sensorStep, reduceCtorEq] at moved

/-- What a reader's step outside `push` does to its line. -/
structure Takes (stop : Bool) (before after : Line) : Prop where
  ok : LineOk stop after
  seq : after.seq = before.seq
  kept : kept after = kept before
  sensor : after.sensor = before.sensor

/-- Only the place of the reader changes, and it is not one of those `LineOk` speaks of. -/
theorem Takes.passes {stop : Bool} {line : Line} (ok : LineOk stop line) {reader : Reader}
    (hands : inPush reader = inPush line.reader) (positive : ∀ cur, reader = .exchange cur → 0 < cur)
    (leaving : reader = .checkAvail → stop = true)
    (left : reader = .done → stop = true ∧ line.avail + coming line.sensor ≤ 1) :
    Takes stop line (line.atReader reader) :=
  ⟨⟨ok.fits, ok.room, positive, leaving, left, ok.halted⟩, rfl, congrArg (line.avail + ·) hands, rfl⟩

theorem reader_takes {sid : String} {stop fails : Bool} {now : SystemTime} {before after : Line}
    (ok : LineOk stop before) (moved : readerStep sid stop fails now before = some after) :
    Takes stop before after := by
  cases at_pc : before.reader with
  | checkStop =>
    simp only [readerStep, at_pc, Option.some.injEq] at moved
    subst moved
    cases stop <;> exact Takes.passes ok (by rw [at_pc]; rfl) (by simp) (by simp) (by simp)
  | checkAvail =>
    simp only [readerStep, at_pc, Option.some.injEq] at moved
    subst moved
    by_cases empty : before.avail = 0
    · rw [if_pos empty]
      have next := coming_le before.sensor
      exact Takes.passes ok (by rw [at_pc]; rfl) (by simp) (by simp)
        (fun _ => ⟨ok.leaving at_pc, by omega⟩)
    · rw [if_neg empty]
      exact Takes.passes ok (by rw [at_pc]; rfl) (by simp) (by simp) (by simp)
  | poll =>
    simp only [readerStep, at_pc, Option.some.injEq] at moved
    subst moved
    exact Takes.passes ok (by rw [at_pc]; rfl) (by simp) (by simp) (by simp)
  | whileAvail =>
    simp only [readerStep, at_pc, Option.some.injEq] at moved
    subst moved
    split <;> exact Takes.passes ok (by rw [at_pc]; rfl) (by simp) (by simp) (by simp)
  | load =>
    simp only [readerStep, at_pc, Option.some.injEq] at moved
    subst moved
    by_cases empty : before.avail = 0
    · rw [if_pos empty]
      exact Takes.passes ok (by rw [at_pc]; rfl) (by simp) (by simp) (by simp)
    · rw [if_neg empty]
      refine Takes.passes ok (by rw [at_pc]; rfl) ?_ (by simp) (by simp)
      rintro cur ⟨⟩
      exact Nat.pos_of_ne_zero empty
  | exchange cur =>
    simp only [readerStep, at_pc] at moved
    by_cases swaps : before.avail = cur ∧ fails = false
    · rw [if_pos swaps, Option.some.injEq] at moved
      subst moved
      have fits := ok.fits
      have positive := ok.positive cur at_pc
      refine ⟨⟨?_, ?_, by simp, by simp, by simp, ok.halted⟩, rfl, ?_, rfl⟩
      · show cur - 1 ≤ ringCap
        omega
      · intro adding
        have room := ok.room adding
        show cur - 1 < ringCap
        omega
      · simp only [kept, at_pc, inPush, swaps.1]
        omega
    · rw [if_neg swaps, Option.some.injEq] at moved
      subst moved
      exact Takes.passes ok (by rw [at_pc]; rfl) (by simp) (by simp) (by simp)
  | push env => simp only [readerStep, at_pc, reduceCtorEq] at moved
  | done => simp only [readerStep, at_pc, reduceCtorEq] at moved

variable {n : Nat} {manager : SensorBufferManager} {s t : State n}

/-- Every reading counted by a sensor is overwritten, with its line, or accepted by the buffer. -/
structure Accounted (s : State n) : Prop where
  lines : ∀ i, LineOk s.stop (s.line i)
  made : tally Line.seq s.line = s.overwrites + tally kept s.line + s.buffer.accepted.length
  stopped : ∀ left, s.main = .join left → s.stop = true
  ended : ∀ left, s.main = .join left → ∀ handle, handle ∈ left ∨ gone s handle = true
  asking : s.consumer = .checkLen → s.stop = true
  /-- What is in the buffer when the consumer has left, and what may still be pushed. -/
  unattended : s.consumer = .done →
    s.stop = true ∧ s.buffer.inner.q.length + tally held s.line ≤ perSensor * n

theorem tally_setLine (weight : Line → Nat) (s : State n) (i : Fin n) (line : Line) :
    tally weight (setLine s i line).line + weight (s.line i) = tally weight s.line + weight line :=
  tally_update weight s.line i line

/-- A line that is no further from the end and whose reader is not back. -/
theorem gone_setLine {i : Fin n} (line : Line)
    (sensor : (s.line i).sensor.isDone = true → line.sensor.isDone = true)
    (reader : (s.line i).reader.isDone = true → line.reader.isDone = true) {handle : Handle n}
    (ended : gone s handle = true) : gone (setLine s i line) handle = true := by
  cases handle with
  | sensor j =>
    by_cases here : j = i
    · subst here
      rw [gone, setLine_self]
      exact sensor ended
    · rw [gone, setLine_other s here]
      exact ended
  | reader j =>
    by_cases here : j = i
    · subst here
      rw [gone, setLine_self]
      exact reader ended
    · rw [gone, setLine_other s here]
      exact ended
  | consumer => exact ended

theorem lines_setLine {stop : Bool} {i : Fin n} {line : Line} (lines : ∀ j, LineOk stop (s.line j))
    (ok : LineOk stop line) (j : Fin n) : LineOk stop ((setLine s i line).line j) := by
  by_cases here : j = i
  · subst here
    rw [setLine_self]
    exact ok
  · rw [setLine_other s here]
    exact lines j

theorem tally_held_le {stop : Bool} {line : Fin n → Line} (lines : ∀ i, LineOk stop (line i)) :
    tally held line ≤ perSensor * n := by
  have bound := tally_le (fun i => held_le (lines i))
  rw [Fintype.card_fin] at bound
  exact bound

/-- `stop` only makes more allowed. -/
theorem LineOk.halt {stop : Bool} {line : Line} (ok : LineOk stop line) : LineOk true line :=
  ⟨ok.fits, ok.room, ok.positive, fun _ => rfl, fun done => ⟨rfl, (ok.left done).2⟩, fun _ => rfl⟩

theorem Accounted.sensor (accounted : Accounted s) {i : Fin n} {line : Line} {lost : Nat}
    (moved : sensorStep s.stop (s.line i) = some (line, lost)) :
    Accounted { setLine s i line with overwrites := s.overwrites + lost } := by
  obtain ⟨lines, made, stopped, ended, asking, unattended⟩ := accounted
  have counts := sensor_counts (lines i) moved
  refine ⟨lines_setLine lines counts.ok, ?_, stopped, ?_, asking, ?_⟩
  · have seqs := tally_setLine Line.seq s i line
    have keeps := tally_setLine kept s i line
    have seq := counts.seq
    show tally Line.seq (setLine s i line).line =
      s.overwrites + lost + tally kept (setLine s i line).line + s.buffer.accepted.length
    omega
  · intro left joins handle
    refine (ended left joins handle).imp_right fun ended => gone_setLine line ?_ ?_ ended
    · intro done
      have at_pc := Sensor.isDone_iff.mp done
      simp only [sensorStep, at_pc, reduceCtorEq] at moved
    · rw [sensorStep_reader moved]
      exact id
  · intro left
    obtain ⟨stop, room⟩ := unattended left
    have holds := tally_setLine held s i line
    have less := counts.held stop
    refine ⟨stop, ?_⟩
    show s.buffer.inner.q.length + tally held (setLine s i line).line ≤ perSensor * n
    omega

theorem Accounted.reader (accounted : Accounted s) {i : Fin n} {sid : String} {fails : Bool}
    {now : SystemTime} {line : Line} (moved : readerStep sid s.stop fails now (s.line i) = some line) :
    Accounted (setLine s i line) := by
  obtain ⟨lines, made, stopped, ended, asking, unattended⟩ := accounted
  have takes := reader_takes (lines i) moved
  have keeps := tally_setLine kept s i line
  have kept := takes.kept
  refine ⟨lines_setLine lines takes.ok, ?_, stopped, ?_, asking, ?_⟩
  · have seqs := tally_setLine Line.seq s i line
    have seq := takes.seq
    show tally Line.seq (setLine s i line).line =
      s.overwrites + tally Lines.kept (setLine s i line).line + s.buffer.accepted.length
    omega
  · intro left joins handle
    refine (ended left joins handle).imp_right fun ended => gone_setLine line ?_ ?_ ended
    · rw [takes.sensor]
      exact id
    · intro done
      have at_pc := Reader.isDone_iff.mp done
      simp only [readerStep, at_pc, reduceCtorEq] at moved
  · intro left
    obtain ⟨stop, room⟩ := unattended left
    have holds := tally_setLine held s i line
    have same : held line = held (s.line i) := by rw [held, held, kept, takes.sensor]
    refine ⟨stop, ?_⟩
    show s.buffer.inner.q.length + tally held (setLine s i line).line ≤ perSensor * n
    omega

theorem Accounted.consumer (accounted : Accounted s) {now : SystemTime} {consumer : Consumer}
    {lags : List Nat} (moved : consumerStep s now = some (consumer, lags)) :
    Accounted { s with consumer, lags } := by
  obtain ⟨lines, made, stopped, ended, asking, unattended⟩ := accounted
  have ended (left : List (Handle n)) (joins : s.main = .join left) (handle : Handle n) :
      handle ∈ left ∨ gone { s with consumer, lags } handle = true := by
    refine (ended left joins handle).imp_right fun ended => ?_
    cases handle with
    | sensor i => exact ended
    | reader i => exact ended
    | consumer =>
      have at_pc := Consumer.isDone_iff.mp ended
      simp only [consumerStep, at_pc, reduceCtorEq] at moved
  cases at_pc : s.consumer with
  | checkStop =>
    simp only [consumerStep, at_pc, Option.some.injEq, Prod.mk.injEq] at moved
    obtain ⟨rfl, rfl⟩ := moved
    by_cases halted : s.stop = true
    · rw [if_pos halted] at ended ⊢
      exact ⟨lines, made, stopped, ended, fun _ => halted, by simp⟩
    · rw [if_neg halted] at ended ⊢
      exact ⟨lines, made, stopped, ended, by simp, by simp⟩
  | checkLen =>
    simp only [consumerStep, at_pc, Option.some.injEq, Prod.mk.injEq] at moved
    obtain ⟨rfl, rfl⟩ := moved
    by_cases some_left : 0 < s.buffer.inner.q.length
    · rw [if_pos some_left] at ended ⊢
      exact ⟨lines, made, stopped, ended, by simp, by simp⟩
    · rw [if_neg some_left] at ended ⊢
      refine ⟨lines, made, stopped, ended, by simp, fun _ => ⟨asking at_pc, ?_⟩⟩
      have bound := tally_held_le lines
      show s.buffer.inner.q.length + tally held s.line ≤ perSensor * n
      omega
  | record env =>
    simp only [consumerStep, at_pc, Option.some.injEq, Prod.mk.injEq] at moved
    obtain ⟨rfl, rfl⟩ := moved
    exact ⟨lines, made, stopped, ended, by simp, by simp⟩
  | pop => simp only [consumerStep, at_pc, reduceCtorEq] at moved
  | done => simp only [consumerStep, at_pc, reduceCtorEq] at moved

/-- The reader has got its reading into the buffer. -/
theorem LineOk.pushed {stop : Bool} {line : Line} (ok : LineOk stop line) :
    LineOk stop (line.atReader .whileAvail) :=
  ⟨ok.fits, ok.room, by simp [Line.atReader], by simp [Line.atReader], by simp [Line.atReader], ok.halted⟩

theorem kept_pushed {line : Line} {env : ReadingEnvelope Nat} (at_pc : line.reader = .push env) :
    kept line = kept (line.atReader .whileAvail) + 1 := by
  rw [kept, at_pc]
  rfl

theorem Accounted.served (accounted : Accounted s) {u : Option (Fin n)} {exit : Exit (ReadingEnvelope Nat)}
    {inner : Inner (ReadingEnvelope Nat)} (served : Served manager.capacity s u exit inner) :
    Accounted (answered { s with buffer := leave s.buffer u exit inner } u exit.result?) := by
  obtain ⟨lines, made, stopped, ended, asking, unattended⟩ := accounted
  cases served with
  | accept i env inner at_pc room queue =>
    have keeps := tally_setLine kept s i ((s.line i).atReader .whileAvail)
    have one := kept_pushed at_pc
    refine ⟨lines_setLine lines (lines i).pushed, ?_, stopped, ?_, asking, ?_⟩
    · have seqs := tally_setLine Line.seq s i ((s.line i).atReader .whileAvail)
      have same : ((s.line i).atReader .whileAvail).seq = (s.line i).seq := rfl
      show tally Line.seq (setLine s i ((s.line i).atReader .whileAvail)).line = s.overwrites +
        tally kept (setLine s i ((s.line i).atReader .whileAvail)).line +
          (s.buffer.accepted ++ [env]).length
      rw [List.length_append, List.length_singleton]
      omega
    · intro left joins handle
      refine (ended left joins handle).imp_right fun ended => ?_
      have far : (s.line i).reader.isDone = true →
          ((s.line i).atReader .whileAvail).reader.isDone = true := by rw [at_pc]; exact nofun
      exact gone_setLine ((s.line i).atReader .whileAvail) id far ended
    · intro left
      obtain ⟨stop, bound⟩ := unattended left
      have holds := tally_setLine held s i ((s.line i).atReader .whileAvail)
      have less : held (s.line i) = held ((s.line i).atReader .whileAvail) + 1 := by
        rw [held, one, Nat.add_right_comm]
        rfl
      refine ⟨stop, ?_⟩
      show inner.q.length + tally held (setLine s i ((s.line i).atReader .whileAvail)).line ≤ perSensor * n
      rw [queue, List.length_append, List.length_singleton]
      omega
  | full i env inner at_pc queue =>
    refine ⟨lines, ?_, stopped, ended, asking, ?_⟩
    · show tally Line.seq s.line = s.overwrites + tally kept s.line + (s.buffer.accepted ++ []).length
      rw [List.append_nil]
      exact made
    · intro left
      show s.stop = true ∧ inner.q.length + tally held s.line ≤ perSensor * n
      rw [queue]
      exact unattended left
  | deliver env inner at_pc queue =>
    refine ⟨lines, ?_, stopped, ?_, by simp [answered, Exit.result?], by simp [answered, Exit.result?]⟩
    · show tally Line.seq s.line = s.overwrites + tally kept s.line + (s.buffer.accepted ++ []).length
      rw [List.append_nil]
      exact made
    · intro left joins handle
      refine (ended left joins handle).imp_right fun ended => ?_
      cases handle with
      | sensor i => exact ended
      | reader i => exact ended
      | consumer => simp [gone, at_pc, Consumer.isDone] at ended
  | nothing inner at_pc queue =>
    refine ⟨lines, ?_, stopped, ?_, by simp [answered, Exit.result?], by simp [answered, Exit.result?]⟩
    · show tally Line.seq s.line = s.overwrites + tally kept s.line + (s.buffer.accepted ++ []).length
      rw [List.append_nil]
      exact made
    · intro left joins handle
      refine (ended left joins handle).imp_right fun ended => ?_
      cases handle with
      | sensor i => exact ended
      | reader i => exact ended
      | consumer => simp [gone, at_pc, Consumer.isDone] at ended
  | empty remaining inner at_pc queue =>
    refine ⟨lines, ?_, stopped, ended, asking, ?_⟩
    · show tally Line.seq s.line = s.overwrites + tally kept s.line + (s.buffer.accepted ++ []).length
      rw [List.append_nil]
      exact made
    · intro left
      show s.stop = true ∧ inner.q.length + tally held s.line ≤ perSensor * n
      rw [queue]
      exact unattended left

theorem Accounted.moved (accounted : Accounted s) (moves : Moves manager s t) :
    Accounted t := by
  cases moves with
  | stop at_pc =>
    obtain ⟨lines, made, stopped, ended, asking, unattended⟩ := accounted
    refine ⟨fun i => (lines i).halt, made, fun _ _ => rfl, ?_, fun _ => rfl,
      fun left => ⟨rfl, (unattended left).2⟩⟩
    rintro left ⟨⟩ handle
    left
    cases handle <;> simp [handles]
  | join handle left at_pc ended =>
    obtain ⟨lines, made, stopped, before, asking, unattended⟩ := accounted
    refine ⟨lines, made, fun _ _ => stopped _ at_pc, ?_, asking, unattended⟩
    rintro _ ⟨⟩ other
    rcases before _ at_pc other with member | gone
    · rcases List.mem_cons.mp member with rfl | later
      · exact Or.inr ended
      · exact Or.inl later
    · exact Or.inr gone
  | sensor i line lost moved => exact accounted.sensor moved
  | reader i sid fails now line outside moved => exact accounted.reader moved
  | consumer now consumer lags outside moved => exact accounted.consumer moved
  | served u exit inner served isOpen act stepped => exact accounted.served served
  | threads thread same act stepped =>
    exact ⟨accounted.lines, accounted.made, accounted.stopped, accounted.ended, accounted.asking,
      accounted.unattended⟩

theorem reachable_accounted (reach : (runMicro manager n).Reachable s) : Linked s ∧ Accounted s := by
  apply reachable_invariant Accounted ?_ (fun _ _ _ accounted moves => accounted.moved moves) reach
  refine ⟨?_, ?_, by simp [runMicro], by simp [runMicro], by simp [runMicro], by simp [runMicro]⟩
  · exact fun i => ⟨Nat.zero_le _, by simp [runMicro], by simp [runMicro], by simp [runMicro],
      by simp [runMicro], by simp [runMicro]⟩
  · have none_made : tally Line.seq (runMicro manager n).init.line = 0 := tally_eq_zero.mpr fun i => rfl
    have none_kept : tally kept (runMicro manager n).init.line = 0 := tally_eq_zero.mpr fun i => rfl
    rw [none_made, none_kept]
    rfl

theorem answered_buffer (u : Option (Fin n)) (d : Option (Done (ReadingEnvelope Nat))) :
    (answered s u d).buffer = s.buffer := by
  unfold answered
  split <;> rfl

theorem reachable_buffer (reach : (runMicro manager n).Reachable s) :
    (threads manager).Reachable s.buffer := by
  apply (reachable_invariant (fun s => (threads manager).Reachable s.buffer)
    (System.ReachesUnder.refl _) ?_ reach).2
  intro u v linked reached moves
  cases moves with
  | served w exit inner served isOpen act stepped =>
    rw [answered_buffer]
    exact reached.tail stepped
  | threads thread same act stepped => exact reached.tail stepped
  | _ => exact reached

end SensorGateway.Bench.Lines
