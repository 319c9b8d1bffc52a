import Mathlib.Data.List.Nodup
import SensorGateway.Storage.Handle
import SensorGateway.Storage.Reliable

/-! What an answer of `persist_frame` says. Each call whose message the channel has taken is in one
place at a time: in the channel, in the worker's hands, or processed; the receiver is dropped only
when the worker has nothing in its hands. -/

namespace SensorGateway.Storage.Acknowledged
open SensorGateway.Lib.Lines SensorGateway.Lib.Transition SensorGateway.Types
open Disk Persist HourlyLog Reliable Handle
open Handle.WorkerPc (backTo)
variable {n : Nat} {F Value : Type} {cfg : HandleConfig F Value} {initial : Files}

/-- The calls that were processed with success. -/
def succeeded (processed : List (Ticketed F Value × Except StorageError Unit)) :
    List (Ticketed F Value) :=
  (processed.filter fun entry => entry.2.isOk).map Prod.fst

/-- The calls whose frame has been added to the log. -/
def added (s : State n F Value) : List (Ticketed F Value) := succeeded s.processed

/-- The lines of the calls for an hour. -/
def linesAt (serde : Serde F Value) (calls : List (Ticketed F Value)) (hour : Int) : List Text :=
  (calls.filter fun call => decide (frameHour call.frame = hour)).filterMap
    fun call => serde.frame call.frame

structure Acknowledges (cfg : HandleConfig F Value) (initial : Files) (s : State n F Value) :
    Prop where
  /-- Calls are processed in the order of the channel, and none twice. -/
  inOrder : s.processed.map Prod.fst <+: s.sent
  once : (s.sent.map Ticketed.ticket).Nodup
  /-- The log holds one line for each call that has been added, and nothing else that is new. -/
  log : ∀ hour, logAt s.store.now hour =
    logAt ⟨initial, []⟩ hour ++ linesAt cfg.serde (added s) hour
  serialized : ∀ call ∈ added s, (cfg.serde.frame call.frame).isSome
  count : s.metrics.persistedFrames = s.counted.length
  addedFirst : s.counted <+: added s
  ok : ∀ call, (call, .ok ()) ∈ s.returned → call ∈ s.counted
  error : ∀ call error, (call, .error error) ∈ s.returned → call ∉ added s
  /-- Once the worker has ended, a thread inside a call can take its next step. -/
  unblocked : s.worker.hasEnded = true → ∀ i, (s.clients i).isIdle = false →
    (s.clients i).isDropped = false → (Handle.step cfg s (.client i)).isSome

/-- The calls received and not yet processed. -/
def received : WorkerPc F Value → List (Ticketed F Value)
  | .persisting call _ => [call]
  | _ => []

/-- The calls received and not yet acknowledged. -/
def owed : WorkerPc F Value → List (Ticketed F Value)
  | .persisting call _ | .counting call _ _ _ | .acking call _ _ => [call]
  | _ => []

/-- The calls added that the metrics do not count yet. -/
def uncounted : WorkerPc F Value → List (Ticketed F Value)
  | .counting call answer _ _ => if answer.isOk then [call] else []
  | _ => []

/-- The call is processed with this answer, and counted if the answer is `Ok`. -/
def Final (s : State n F Value) (call : Ticketed F Value) (answer : Except StorageError Unit) : Prop :=
  (call, answer) ∈ s.processed ∧ (answer.isOk = true → call ∈ s.counted)

/-- The call will never be processed. -/
def Lost (s : State n F Value) (call : Ticketed F Value) : Prop :=
  s.worker.hasEnded = true ∧ call.ticket ∉ (s.processed.map Prod.fst).map Ticketed.ticket

/-- What a waiting call can find in its acknowledgement channel. -/
def Due (s : State n F Value) (call : Ticketed F Value) : Prop :=
  match s.acks call.ticket with
  | .pending => call ∈ owed s.worker ++ queuedCalls s.queue
  | .answered answer => Final s call answer
  | .dropped => Lost s call

/-- What the worker knows where it is. -/
def Knows (s : State n F Value) : Prop :=
  match s.worker with
  | .counting call answer metrics _ => (call, answer) ∈ s.processed ∧
    metrics.persistedFrames = s.metrics.persistedFrames + if answer.isOk then 1 else 0
  | .acking call answer _ => Final s call answer
  | _ => True

/-- The tickets of the threads that are about to send are fresh; a thread that waits finds in its
acknowledgement channel what is due. -/
structure Threads (clients : Fin n → ClientPc F Value) (issued : Nat) (sent : List (Ticketed F Value))
    (due : Ticketed F Value → Prop) : Prop where
  sending : ∀ i call, clients i = .sending call →
    call.ticket < issued ∧ call.ticket ∉ sent.map Ticketed.ticket
  apart : ∀ i j call other, clients i = .sending call → clients j = .sending other →
    call.ticket = other.ticket → i = j
  waiting : ∀ i call, clients i = .waiting call → call ∈ sent ∧ due call

structure Sound (cfg : HandleConfig F Value) (initial : Files) (s : State n F Value) : Prop where
  level : Level s.store
  log : ∀ hour, logAt s.store.now hour =
    logAt ⟨initial, []⟩ hour ++ linesAt cfg.serde (added s) hour
  serialized : ∀ call ∈ added s, (cfg.serde.frame call.frame).isSome
  count : s.metrics.persistedFrames = s.counted.length
  books : s.counted ++ uncounted s.worker = added s
  knows : Knows s
  closed : s.worker.hasEnded = true → s.queue = []
  order : s.processed.map Prod.fst ++ received s.worker ++ queuedCalls s.queue <+: s.sent
  complete : s.worker.hasEnded = false →
    s.sent = s.processed.map Prod.fst ++ received s.worker ++ queuedCalls s.queue
  once : (s.sent.map Ticketed.ticket).Nodup
  issued : ∀ call ∈ s.sent, call.ticket < s.issued
  unsent : ∀ ticket, ticket ∉ s.sent.map Ticketed.ticket → s.acks ticket = .pending
  threads : Threads s.clients s.issued s.sent (Due s)
  returned : ∀ call answer, (call, answer) ∈ s.returned →
    Final s call answer ∨ answer.isOk = false ∧ Lost s call

/-! The threads that hold the handle. -/

namespace Threads
variable {clients : Fin n → ClientPc F Value} {issued : Nat} {sent : List (Ticketed F Value)}
  {due due' : Ticketed F Value → Prop}

theorem mono (threads : Threads clients issued sent due)
    (weaker : ∀ call ∈ sent, due call → due' call) : Threads clients issued sent due' where
  sending := threads.sending
  apart := threads.apart
  waiting := by
    intro i call there
    obtain ⟨member, paid⟩ := threads.waiting i call there
    exact ⟨member, weaker call member paid⟩

/-- A thread that is neither sending nor waiting can be anywhere. -/
theorem goto (threads : Threads clients issued sent due) (i : Fin n) {pc : ClientPc F Value}
    (sends : ∀ call, pc ≠ .sending call) (waits : ∀ call, pc ≠ .waiting call) :
    Threads (Function.update clients i pc) issued sent due := by
  have elsewhere {j : Fin n} {other : ClientPc F Value} (there : Function.update clients i pc j = other)
      (apart : pc ≠ other) : clients j = other := by
    by_cases moved : j = i
    · rw [moved, Function.update_self] at there
      exact absurd there apart
    · rwa [Function.update_of_ne moved] at there
  constructor
  · intro j call there
    exact threads.sending j call (elsewhere there (sends call))
  · intro j k call other first second same
    exact threads.apart j k call other (elsewhere first (sends call)) (elsewhere second (sends other)) same
  · intro j call there
    exact threads.waiting j call (elsewhere there (waits call))

/-- A thread calls `persist_frame`. -/
theorem start (threads : Threads clients issued sent due) (old : ∀ call ∈ sent, call.ticket < issued)
    (i : Fin n) {call : Ticketed F Value} (fresh : call.ticket = issued) :
    Threads (Function.update clients i (.sending call)) (issued + 1) sent due := by
  have before {j : Fin n} {other : Ticketed F Value} (moved : j ≠ i)
      (there : Function.update clients i (.sending call) j = .sending other) :
      clients j = .sending other := by
    rwa [Function.update_of_ne moved] at there
  have new {other : Ticketed F Value}
      (there : Function.update clients i (.sending call) i = .sending other) : other = call := by
    rw [Function.update_self, ClientPc.sending.injEq] at there
    exact there.symm
  constructor
  · intro j other there
    by_cases moved : j = i
    · subst moved
      rw [new there, fresh]
      refine ⟨Nat.lt_succ_self issued, ?_⟩
      intro member
      obtain ⟨earlier, inside, same⟩ := List.mem_map.mp member
      have below := old earlier inside
      omega
    · obtain ⟨below, unsent⟩ := threads.sending j other (before moved there)
      exact ⟨Nat.lt_succ_of_lt below, unsent⟩
  · intro j k first second atFirst atSecond same
    by_cases left : j = i
    · by_cases right : k = i
      · rw [left, right]
      · subst left
        have below := (threads.sending k second (before right atSecond)).1
        rw [new atFirst, fresh] at same
        omega
    · by_cases right : k = i
      · subst right
        have below := (threads.sending j first (before left atFirst)).1
        rw [new atSecond, fresh] at same
        omega
      · exact threads.apart j k first second (before left atFirst) (before right atSecond) same
  · intro j other there
    by_cases moved : j = i
    · rw [moved, Function.update_self] at there
      cases there
    · rw [Function.update_of_ne moved] at there
      exact threads.waiting j other there

/-- The channel takes the message of a thread. -/
theorem send (threads : Threads clients issued sent due) {i : Fin n} {call : Ticketed F Value}
    (there : clients i = .sending call) (weaker : ∀ other ∈ sent, due other → due' other)
    (paid : due' call) :
    Threads (Function.update clients i (.waiting call)) issued (sent ++ [call]) due' := by
  have before {j : Fin n} {other : Ticketed F Value}
      (sending : Function.update clients i (.waiting call) j = .sending other) :
      j ≠ i ∧ clients j = .sending other := by
    by_cases moved : j = i
    · rw [moved, Function.update_self] at sending
      cases sending
    · rw [Function.update_of_ne moved] at sending
      exact ⟨moved, sending⟩
  constructor
  · intro j other sending
    obtain ⟨moved, sending⟩ := before sending
    obtain ⟨below, unsent⟩ := threads.sending j other sending
    refine ⟨below, ?_⟩
    rw [List.map_append, List.mem_append, not_or]
    refine ⟨unsent, ?_⟩
    intro last
    have same := List.mem_singleton.mp last
    exact moved (threads.apart j i other call sending there same)
  · intro j k first second atFirst atSecond same
    exact threads.apart j k first second (before atFirst).2 (before atSecond).2 same
  · intro j other waiting
    by_cases moved : j = i
    · rw [moved, Function.update_self, ClientPc.waiting.injEq] at waiting
      rw [← waiting]
      exact ⟨List.mem_append_right sent (List.mem_singleton_self call), paid⟩
    · rw [Function.update_of_ne moved] at waiting
      obtain ⟨member, paid⟩ := threads.waiting j other waiting
      exact ⟨List.mem_append_left [call] member, weaker other member paid⟩

end Threads

variable {s : State n F Value}

theorem sound_start (cfg : HandleConfig F Value) (n : Nat) (initial : Files) :
    Sound cfg initial (handle cfg n initial).init where
  level := level_new rfl
  log := fun _ => (List.append_nil _).symm
  serialized := nofun
  count := rfl
  books := rfl
  knows := trivial
  closed := nofun
  order := List.prefix_refl []
  complete := fun _ => rfl
  once := List.nodup_nil
  issued := nofun
  unsent := fun _ _ => rfl
  threads := ⟨nofun, nofun, nofun⟩
  returned := nofun

theorem Sound.eq_of_ticket (sound : Sound cfg initial s) {a b : Ticketed F Value} (first : a ∈ s.sent)
    (second : b ∈ s.sent) (same : a.ticket = b.ticket) : a = b :=
  List.inj_on_of_nodup_map sound.once first second same

theorem Sound.processed_sent (sound : Sound cfg initial s) {call : Ticketed F Value}
    {answer : Except StorageError Unit} (member : (call, answer) ∈ s.processed) : call ∈ s.sent := by
  apply sound.order.subset
  have there : call ∈ s.processed.map Prod.fst := List.mem_map_of_mem member
  exact List.mem_append_left _ (List.mem_append_left _ there)

theorem Sound.processed_ticket (sound : Sound cfg initial s) {ticket : Nat}
    (unsent : ticket ∉ s.sent.map Ticketed.ticket) :
    ticket ∉ (s.processed.map Prod.fst).map Ticketed.ticket := by
  intro processed
  obtain ⟨call, member, same⟩ := List.mem_map.mp processed
  obtain ⟨entry, there, first⟩ := List.mem_map.mp member
  have sent : entry.1 ∈ s.sent := sound.processed_sent there
  rw [first] at sent
  exact unsent (List.mem_map.mpr ⟨call, sent, same⟩)

/-- A call that is still to be processed has not been processed. -/
theorem Sound.unprocessed (sound : Sound cfg initial s) {call : Ticketed F Value}
    (member : call ∈ received s.worker ++ queuedCalls s.queue) :
    call.ticket ∉ (s.processed.map Prod.fst).map Ticketed.ticket := by
  have once := (sound.order.sublist.map Ticketed.ticket).nodup sound.once
  rw [List.append_assoc, List.map_append] at once
  intro processed
  exact (List.nodup_append.mp once).2.2 _ processed _ (List.mem_map_of_mem member) rfl

theorem Sound.place (sound : Sound cfg initial s) (i : Fin n) (pc : ClientPc F Value)
    (sends : ∀ call, pc ≠ .sending call) (waits : ∀ call, pc ≠ .waiting call) :
    Sound cfg initial (s.goto i pc) :=
  { sound with threads := sound.threads.goto i sends waits }

theorem Sound.complete_call (sound : Sound cfg initial s) (i : Fin n) {call : Ticketed F Value}
    {result : Except StorageError Unit}
    (settled : Final s call result ∨ result.isOk = false ∧ Lost s call) :
    Sound cfg initial (s.complete i call result) := by
  have placed := sound.place i .idle nofun nofun
  refine { placed with returned := ?_ }
  intro other answer member
  rcases List.mem_append.mp member with earlier | last
  · exact sound.returned other answer earlier
  · cases List.mem_singleton.mp last
    exact settled

theorem queuedCalls_append (queue : List (StorageMsg F Value)) (msg : StorageMsg F Value) :
    queuedCalls (queue ++ [msg]) = queuedCalls queue ++ queuedCalls [msg] :=
  List.filterMap_append

/-- A message behind the others changes nothing for the calls before it. -/
theorem Due.behind {call : Ticketed F Value} (due : Due s call) (msg : StorageMsg F Value)
    (clients : Fin n → ClientPc F Value) (sent : List (Ticketed F Value)) :
    Due { s with clients, queue := s.queue ++ [msg], sent } call := by
  unfold Due at due ⊢
  cases found : s.acks call.ticket with
  | pending =>
    simp only [found] at due ⊢
    rw [queuedCalls_append, ← List.append_assoc]
    exact List.mem_append_left _ due
  | answered answer =>
    simp only [found] at due ⊢
    exact due
  | dropped =>
    simp only [found] at due ⊢
    exact due

theorem Sound.send_call (sound : Sound cfg initial s) {i : Fin n} {call : Ticketed F Value}
    (there : s.clients i = .sending call) (live : s.worker.hasEnded = false) :
    Sound cfg initial { s.goto i (.waiting call) with
      queue := s.queue ++ [.persist call], sent := s.sent ++ [call] } := by
  obtain ⟨below, unsent⟩ := sound.threads.sending i call there
  have order : s.sent ++ [call] =
      s.processed.map Prod.fst ++ received s.worker ++ queuedCalls (s.queue ++ [.persist call]) := by
    rw [queuedCalls_append, ← List.append_assoc, ← sound.complete live]
    rfl
  exact { sound with
    closed := fun ended => absurd (live.symm.trans ended) Bool.false_ne_true
    order := ⟨[], (List.append_nil _).trans order.symm⟩
    complete := fun _ => order
    once := by
      rw [List.map_append]
      apply sound.once.append (List.nodup_singleton _)
      rw [List.disjoint_singleton]
      exact unsent
    issued := by
      intro other member
      rcases List.mem_append.mp member with earlier | last
      · exact sound.issued other earlier
      · rw [List.mem_singleton.mp last]
        exact below
    unsent := by
      intro ticket absent
      rw [List.map_append, List.mem_append, not_or] at absent
      exact sound.unsent ticket absent.1
    threads := by
      apply sound.threads.send there (fun other _ due => due.behind (.persist call) _ _)
      have pending := sound.unsent call.ticket unsent
      unfold Due
      simp only [pending, queuedCalls_append]
      exact List.mem_append_right _ (List.mem_append_right _ (List.mem_singleton_self call)) }

theorem Sound.send_shutdown (sound : Sound cfg initial s) (live : s.worker.hasEnded = false) :
    Sound cfg initial { s with queue := s.queue ++ [.shutdown] } := by
  have same : queuedCalls (s.queue ++ [.shutdown]) = queuedCalls s.queue := by
    rw [queuedCalls_append]
    exact List.append_nil _
  exact { sound with
    closed := fun ended => absurd (live.symm.trans ended) Bool.false_ne_true
    order := by rw [same]; exact sound.order
    complete := by rw [same]; exact sound.complete
    threads := sound.threads.mono (fun _ _ due => due.behind .shutdown _ _) }

theorem Sound.clientStep {t : State n F Value} (sound : Sound cfg initial s) {i : Fin n}
    (step : clientStep cfg s i = some t) : Sound cfg initial t := by
  unfold Handle.clientStep at step
  split at step
  · cases step
  · cases step
  · next call there =>
    by_cases ended : s.worker.hasEnded = true
    · rw [if_pos ended] at step
      cases step
      have unsent := (sound.threads.sending i call there).2
      exact sound.complete_call i (Or.inr ⟨rfl, ended, sound.processed_ticket unsent⟩)
    · rw [if_neg ended] at step
      split at step
      · cases step
        exact sound.send_call there (Bool.eq_false_iff.mpr ended)
      · cases step
  · next call there =>
    have due := (sound.threads.waiting i call there).2
    unfold Due at due
    split at step
    · cases step
    · next answer found =>
      cases step
      simp only [found] at due
      exact sound.complete_call i (Or.inl due)
    · next found =>
      cases step
      simp only [found] at due
      exact sound.complete_call i (Or.inr ⟨rfl, due⟩)
  · cases step
    have placed := sound.place i .sendingShutdown nofun nofun
    exact { placed with }
  · by_cases ended : s.worker.hasEnded = true
    · rw [if_pos ended] at step
      cases step
      exact sound.place i _ nofun nofun
    · rw [if_neg ended] at step
      split at step
      · cases step
        exact (sound.send_shutdown (Bool.eq_false_iff.mpr ended)).place i _ nofun nofun
      · cases step
  · split at step
    · cases step
      have placed := sound.place i .joining nofun nofun
      exact { placed with }
    · cases step
      exact sound.place i _ nofun nofun
  · split at step
    · cases step
      exact sound.place i _ nofun nofun
    · cases step

theorem Due.reading {call : Ticketed F Value} (due : Due s call) {acks : Nat → Ack}
    (same : acks call.ticket = s.acks call.ticket) : Due { s with acks } call := by
  unfold Due at due ⊢
  simp only [same]
  exact due

theorem Sound.start (sound : Sound cfg initial s) (i : Fin n) (frame : AggregatedFrame F)
    (statsSnapshot : Option Value) :
    Sound cfg initial { s.goto i (.sending ⟨s.issued, frame, statsSnapshot⟩) with
      acks := Function.update s.acks s.issued .pending, issued := s.issued + 1 } := by
  have older : ∀ call ∈ s.sent, Function.update s.acks s.issued .pending call.ticket =
      s.acks call.ticket :=
    fun call member => Function.update_of_ne (sound.issued call member).ne _ _
  have unsent : ∀ ticket, ticket ∉ s.sent.map Ticketed.ticket →
      Function.update s.acks s.issued .pending ticket = .pending := by
    intro ticket absent
    by_cases new : ticket = s.issued
    · rw [new, Function.update_self]
    · rw [Function.update_of_ne new]
      exact sound.unsent ticket absent
  exact { sound with
    issued := fun call member => Nat.lt_succ_of_lt (sound.issued call member)
    unsent := unsent
    threads := (sound.threads.mono fun call member due =>
      due.reading (older call member)).start sound.issued i rfl }

/-- While the worker is running no call has been lost. -/
theorem Sound.settled (sound : Sound cfg initial s) (live : s.worker.hasEnded = false)
    {call : Ticketed F Value} {answer : Except StorageError Unit}
    (member : (call, answer) ∈ s.returned) : Final s call answer := by
  rcases sound.returned call answer member with final | ⟨-, lost⟩
  · exact final
  · exact absurd (live.symm.trans lost.1) Bool.false_ne_true

/-- What is due stays due while the call is with the worker or in the channel. -/
theorem Due.step {t : State n F Value} {call : Ticketed F Value} (due : Due s call)
    (live : s.worker.hasEnded = false) (acks : t.acks = s.acks)
    (pending : call ∈ owed s.worker ++ queuedCalls s.queue →
      call ∈ owed t.worker ++ queuedCalls t.queue)
    (final : ∀ answer, Final s call answer → Final t call answer) : Due t call := by
  unfold Due at due ⊢
  rw [acks]
  cases found : s.acks call.ticket with
  | pending =>
    simp only [found] at due ⊢
    exact pending due
  | answered answer =>
    simp only [found] at due ⊢
    exact final answer due
  | dropped =>
    simp only [found] at due
    exact absurd (live.symm.trans due.1) Bool.false_ne_true

theorem idle_of_owed {pc : WorkerPc F Value} (idle : owed pc = []) :
    received pc = [] ∧ uncounted pc = [] := by
  cases pc with
  | persisting call loop => cases idle
  | counting call answer metrics loop => cases idle
  | acking call answer loop => cases idle
  | testing | receiving | draining | syncing | closing | ended => exact ⟨rfl, rfl⟩

theorem knows_of_owed (idle : owed s.worker = []) : Knows s := by
  unfold Knows
  cases pc : s.worker with
  | persisting call loop => trivial
  | counting call answer metrics loop => rw [pc] at idle; cases idle
  | acking call answer loop => rw [pc] at idle; cases idle
  | testing | receiving | draining | syncing | closing | ended => trivial

/-- The worker goes on with nothing in its hands. -/
theorem Sound.turn (sound : Sound cfg initial s) {here : WorkerPc F Value} (pc : s.worker = here)
    (live : here.hasEnded = false) (idle : owed here = []) (next : WorkerPc F Value)
    (live' : next.hasEnded = false) (idle' : owed next = []) (queue : List (StorageMsg F Value))
    (same : queuedCalls queue = queuedCalls s.queue) :
    Sound cfg initial { s with queue, worker := next } := by
  subst pc
  obtain ⟨noneReceived, noneUncounted⟩ := idle_of_owed idle
  obtain ⟨noneReceived', noneUncounted'⟩ := idle_of_owed idle'
  exact { sound with
    books := by rw [noneUncounted', ← noneUncounted]; exact sound.books
    knows := knows_of_owed idle'
    closed := fun ended => absurd (live'.symm.trans ended) Bool.false_ne_true
    order := by rw [noneReceived', same, ← noneReceived]; exact sound.order
    complete := by
      intro _
      rw [noneReceived', same, ← noneReceived]
      exact sound.complete live
    threads := by
      apply sound.threads.mono
      intro call _ due
      refine due.step live rfl ?_ (fun _ final => final)
      rw [idle, idle', same]
      exact id
    returned := fun call answer member => Or.inl (sound.settled live member) }

theorem Sound.receive (sound : Sound cfg initial s) {here : WorkerPc F Value} (pc : s.worker = here)
    (live : here.hasEnded = false) (idle : owed here = []) {call : Ticketed F Value}
    {rest : List (StorageMsg F Value)} (head : s.queue = .persist call :: rest) (loop : Loop) :
    Sound cfg initial { s with queue := rest, worker := .persisting call loop } := by
  subst pc
  obtain ⟨noneReceived, noneUncounted⟩ := idle_of_owed idle
  have queued : queuedCalls s.queue = [call] ++ queuedCalls rest := by rw [head]; rfl
  have order : s.sent = s.processed.map Prod.fst ++ [call] ++ queuedCalls rest := by
    rw [sound.complete live, noneReceived, queued, List.append_nil, List.append_assoc]
  exact { sound with
    books := by
      have books := sound.books
      rw [noneUncounted] at books
      exact books
    knows := trivial
    closed := nofun
    order := ⟨[], (List.append_nil _).trans order.symm⟩
    complete := fun _ => order
    threads := by
      apply sound.threads.mono
      intro other _ due
      refine due.step live rfl ?_ (fun _ final => final)
      rw [idle, queued]
      exact id
    returned := fun other answer member => Or.inl (sound.settled live member) }

/-- A call, if it was answered `Ok`. -/
def ifOk (call : Ticketed F Value) (answer : Except StorageError Unit) : List (Ticketed F Value) :=
  if answer.isOk then [call] else []

theorem succeeded_append (processed : List (Ticketed F Value × Except StorageError Unit))
    (call : Ticketed F Value) (answer : Except StorageError Unit) :
    succeeded (processed ++ [(call, answer)]) = succeeded processed ++ ifOk call answer := by
  unfold succeeded ifOk
  rw [List.filter_append, List.map_append]
  cases answer <;> rfl

theorem linesAt_append (serde : Serde F Value) (first second : List (Ticketed F Value)) (hour : Int) :
    linesAt serde (first ++ second) hour = linesAt serde first hour ++ linesAt serde second hour := by
  rw [linesAt, List.filter_append, List.filterMap_append]
  rfl

/-- What processing a call does, told from its answer alone. -/
structure Processed (cfg : HandleConfig F Value) (s : State n F Value) (call : Ticketed F Value)
    (answer : Except StorageError Unit) (store : Store) (metrics : StorageMetrics) : Prop where
  level : Level store
  log : ∀ hour, logAt store.now hour =
    logAt s.store.now hour ++ linesAt cfg.serde (ifOk call answer) hour
  serialized : ∀ other ∈ ifOk call answer, (cfg.serde.frame other.frame).isSome
  count : metrics.persistedFrames = s.metrics.persistedFrames + if answer.isOk then 1 else 0

theorem Sound.processed (sound : Sound cfg initial s) (call : Ticketed F Value) (persistUs : Nat)
    {answer : Except StorageError Unit} {store : Store} {metrics : StorageMetrics}
    (result : persistWithMetrics cfg.serde ⟨call.frame, call.statsSnapshot, .none, persistUs⟩
      ⟨s.store, s.metrics, []⟩ = (answer, store, metrics)) :
    Processed cfg s call answer store metrics := by
  have answers : Answers cfg.serde ⟨s.store, s.metrics, []⟩
      ⟨call.frame, call.statsSnapshot, .none, persistUs⟩ _ :=
    persistWithMetrics_answers sound.level _ rfl
  rw [result] at answers
  cases answers with
  | ok store metrics line delivered count =>
    refine ⟨delivered.level, ?_, ?_, count⟩
    · intro hour
      by_cases this : hour = frameHour call.frame
      · rw [this, delivered.log]
        simp [linesAt, ifOk, Except.isOk, Except.toBool, delivered.serialized]
      · rw [delivered.otherLogs this]
        simp [linesAt, ifOk, Except.isOk, Except.toBool, Ne.symm this]
    · intro other member
      rw [List.mem_singleton.mp member, delivered.serialized]
      rfl
  | refused store metrics refused unmoved count =>
    refine ⟨unmoved.level, ?_, nofun, count⟩
    intro hour
    rw [unmoved.now]
    exact (List.append_nil _).symm

theorem Sound.persist (sound : Sound cfg initial s) {call : Ticketed F Value} {loop : Loop}
    (pc : s.worker = .persisting call loop) {answer : Except StorageError Unit} {store : Store}
    {metrics : StorageMetrics} (processed : Processed cfg s call answer store metrics) :
    Sound cfg initial { s with
      store, processed := s.processed ++ [(call, answer)],
      worker := .counting call answer metrics loop } := by
  have live : s.worker.hasEnded = false := by rw [pc]; rfl
  have books := sound.books
  have order := sound.complete live
  rw [pc] at books order
  have moved : s.sent =
      (s.processed ++ [(call, answer)]).map Prod.fst ++ [] ++ queuedCalls s.queue := by
    rw [order, List.map_append, List.append_nil]
    rfl
  have final {other : Ticketed F Value} {result : Except StorageError Unit}
      (before : Final s other result) : (other, result) ∈ s.processed ++ [(call, answer)] ∧
        (result.isOk = true → other ∈ s.counted) :=
    ⟨List.mem_append_left _ before.1, before.2⟩
  have grown := succeeded_append s.processed call answer
  exact { sound with
    level := processed.level
    log := by
      intro hour
      show logAt store.now hour = _ ++ linesAt cfg.serde (succeeded (s.processed ++ _)) hour
      rw [processed.log, sound.log, grown, linesAt_append, List.append_assoc]
      rfl
    serialized := by
      show ∀ other ∈ succeeded (s.processed ++ _), _
      rw [grown]
      intro other member
      rcases List.mem_append.mp member with earlier | last
      · exact sound.serialized other earlier
      · exact processed.serialized other last
    books := by
      show s.counted ++ ifOk call answer = succeeded (s.processed ++ _)
      rw [grown, ← List.append_nil s.counted]
      exact congrArg (· ++ ifOk call answer) books
    knows := ⟨List.mem_append_right _ (List.mem_singleton_self _), processed.count⟩
    closed := nofun
    order := ⟨[], (List.append_nil _).trans moved.symm⟩
    complete := fun _ => moved
    threads := by
      apply sound.threads.mono
      intro other _ due
      refine due.step live rfl ?_ (fun _ => final)
      rw [pc]
      exact id
    returned := fun other result member => Or.inl (final (sound.settled live member)) }

theorem Sound.countUp (sound : Sound cfg initial s) {call : Ticketed F Value}
    {answer : Except StorageError Unit} {metrics : StorageMetrics} {loop : Loop}
    (pc : s.worker = .counting call answer metrics loop) :
    Sound cfg initial { s with
      metrics, counted := s.counted ++ ifOk call answer, worker := .acking call answer loop } := by
  have live : s.worker.hasEnded = false := by rw [pc]; rfl
  have books := sound.books
  have order := sound.complete live
  have knows := sound.knows
  unfold Knows at knows
  simp only [pc] at knows
  rw [pc] at books order
  obtain ⟨member, count⟩ := knows
  have final {other : Ticketed F Value} {result : Except StorageError Unit}
      (before : Final s other result) : (other, result) ∈ s.processed ∧
        (result.isOk = true → other ∈ s.counted ++ ifOk call answer) :=
    ⟨before.1, fun fine => List.mem_append_left _ (before.2 fine)⟩
  exact { sound with
    count := by
      show metrics.persistedFrames = (s.counted ++ ifOk call answer).length
      rw [count, sound.count, List.length_append, ifOk]
      cases answer <;> rfl
    books := (List.append_nil _).trans books
    knows := by
      refine ⟨member, ?_⟩
      intro fine
      rw [ifOk, if_pos fine]
      exact List.mem_append_right _ (List.mem_singleton_self call)
    closed := nofun
    order := ⟨[], (List.append_nil _).trans order.symm⟩
    complete := fun _ => order
    threads := by
      apply sound.threads.mono
      intro other _ due
      refine due.step live rfl ?_ (fun _ => final)
      rw [pc]
      exact id
    returned := fun other result there => Or.inl (final (sound.settled live there)) }

theorem Sound.ack (sound : Sound cfg initial s) {call : Ticketed F Value}
    {answer : Except StorageError Unit} {loop : Loop} (pc : s.worker = .acking call answer loop) :
    Sound cfg initial { s with
      acks := Function.update s.acks call.ticket (.answered answer), worker := backTo loop } := by
  have live : s.worker.hasEnded = false := by rw [pc]; rfl
  have idle : owed (backTo loop : WorkerPc F Value) = [] := by cases loop <;> rfl
  have live' : (backTo loop : WorkerPc F Value).hasEnded = false := by cases loop <;> rfl
  obtain ⟨noneReceived, noneUncounted⟩ := idle_of_owed idle
  have final : Final s call answer := by
    have knows := sound.knows
    unfold Knows at knows
    simpa only [pc] using knows
  have sent : call ∈ s.sent := sound.processed_sent final.1
  have books := sound.books
  have order := sound.complete live
  rw [pc] at books order
  have unsent : ∀ ticket, ticket ∉ s.sent.map Ticketed.ticket →
      Function.update s.acks call.ticket (.answered answer) ticket = .pending := by
    intro ticket absent
    have other : ticket ≠ call.ticket := by
      rintro rfl
      exact absent (List.mem_map_of_mem sent)
    rw [Function.update_of_ne other]
    exact sound.unsent ticket absent
  exact { sound with
    books := by rw [noneUncounted]; exact books
    knows := knows_of_owed idle
    closed := fun ended => absurd (live'.symm.trans ended) Bool.false_ne_true
    order := by
      rw [noneReceived]
      exact ⟨[], (List.append_nil _).trans order.symm⟩
    complete := by
      intro _
      rw [noneReceived]
      exact order
    unsent := unsent
    threads := by
      apply sound.threads.mono
      intro other member due
      by_cases same : other.ticket = call.ticket
      · have this := sound.eq_of_ticket member sent same
        unfold Due
        simp only [same, Function.update_self]
        rw [this]
        exact final
      · have reading := due.reading (Function.update_of_ne same (Ack.answered answer) s.acks)
        refine reading.step live rfl ?_ (fun _ before => before)
        rw [pc, idle]
        intro there
        rcases List.mem_append.mp there with held | queued
        · exact absurd (congrArg Ticketed.ticket (List.mem_singleton.mp held)) same
        · exact queued
    returned := fun other result there => Or.inl (sound.settled live there) }

theorem syncFile_text (files : Files) (target path : Path) :
    (syncFile files target path).map File.text = (files path).map File.text := by
  unfold syncFile
  by_cases here : path = target
  · rw [here, Function.update_self]
    cases files target <;> rfl
  · rw [Function.update_of_ne here]

theorem syncAll_sameLog (store : Store) : SameLog store (syncAll store) := by
  have texts (paths : List Path) (path : Path) (files : Files) :
      (paths.foldl syncFile files path).map File.text = (files path).map File.text := by
    induction paths generalizing files with
    | nil => rfl
    | cons target rest ih => rw [List.foldl_cons, ih, syncFile_text]
  exact ⟨rfl, fun hour => texts _ (hourPath hour) store.files⟩

theorem Sound.sync (sound : Sound cfg initial s) :
    Sound cfg initial { s with store := syncAll s.store } := by
  have same := syncAll_sameLog s.store
  exact { sound with
    level := sound.level.sameLog same
    log := fun hour => (same.log hour).trans (sound.log hour) }

/-- The receiver is dropped with the messages that are still in the channel. -/
theorem Sound.close (sound : Sound cfg initial s) (pc : s.worker = .closing) :
    Sound cfg initial { s with
      queue := [], acks := dropQueue s.acks s.queue, worker := .ended } := by
  have live : s.worker.hasEnded = false := by rw [pc]; rfl
  have books := sound.books
  have complete := sound.complete live
  rw [pc] at books complete
  have queued {call : Ticketed F Value} (member : call ∈ queuedCalls s.queue) : call ∈ s.sent := by
    rw [complete]
    exact List.mem_append_right _ member
  have unsent : ∀ ticket, ticket ∉ s.sent.map Ticketed.ticket →
      dropQueue s.acks s.queue ticket = .pending := by
    intro ticket absent
    have other : ticket ∉ (queuedCalls s.queue).map Ticketed.ticket := by
      intro member
      obtain ⟨call, there, same⟩ := List.mem_map.mp member
      exact absent (List.mem_map.mpr ⟨call, queued there, same⟩)
    rw [dropQueue, if_neg other]
    exact sound.unsent ticket absent
  exact { sound with
    books := books
    knows := trivial
    closed := fun _ => rfl
    order := by
      show s.processed.map Prod.fst ++ [] ++ [] <+: s.sent
      rw [List.append_nil, List.append_nil, complete, List.append_assoc]
      exact List.prefix_append _ _
    complete := nofun
    unsent := unsent
    threads := by
      apply sound.threads.mono
      intro call member due
      by_cases waiting : call.ticket ∈ (queuedCalls s.queue).map Ticketed.ticket
      · obtain ⟨other, there, same⟩ := List.mem_map.mp waiting
        have this := sound.eq_of_ticket (queued there) member same
        unfold Due
        simp only [dropQueue, if_pos waiting]
        exact ⟨rfl, sound.unprocessed (List.mem_append_right _ (this ▸ there))⟩
      · have unread : dropQueue s.acks s.queue call.ticket = s.acks call.ticket := if_neg waiting
        have reading := due.reading unread
        refine reading.step live rfl ?_ (fun _ before => before)
        rw [pc]
        intro there
        exact absurd (List.mem_map_of_mem there) waiting
    returned := fun call answer there => Or.inl (sound.settled live there) }

theorem Sound.workerStep {t : State n F Value} (sound : Sound cfg initial s) {persistUs : Nat}
    (step : workerStep cfg s persistUs = some t) : Sound cfg initial t := by
  cases pc : s.worker with
  | testing =>
    simp only [Handle.workerStep, pc] at step
    cases step
    by_cases shut : s.shutdown = true
    · rw [if_pos shut]
      exact sound.turn pc rfl rfl .draining rfl rfl s.queue rfl
    · rw [if_neg shut]
      exact sound.turn pc rfl rfl .receiving rfl rfl s.queue rfl
  | receiving =>
    simp only [Handle.workerStep, pc] at step
    split at step
    · next call rest head =>
      cases step
      exact sound.receive pc rfl rfl head .main
    · next rest head =>
      cases step
      exact sound.turn pc rfl rfl .draining rfl rfl rest (by rw [head]; rfl)
    · split at step
      · cases step
        exact sound.turn pc rfl rfl .draining rfl rfl s.queue rfl
      · cases step
  | persisting call loop =>
    simp only [Handle.workerStep, pc] at step
    cases result : persistWithMetrics cfg.serde ⟨call.frame, call.statsSnapshot, .none, persistUs⟩
        ⟨s.store, s.metrics, []⟩ with
    | mk answer rest =>
      obtain ⟨store, metrics⟩ := rest
      simp only [result] at step
      cases step
      exact sound.persist pc (sound.processed call persistUs result)
  | counting call answer metrics loop =>
    simp only [Handle.workerStep, pc] at step
    cases step
    exact sound.countUp pc
  | acking call answer loop =>
    simp only [Handle.workerStep, pc] at step
    cases step
    exact sound.ack pc
  | draining =>
    simp only [Handle.workerStep, pc] at step
    split at step
    · next call rest head =>
      cases step
      exact sound.receive pc rfl rfl head .drain
    · next rest head =>
      cases step
      exact sound.turn pc rfl rfl .draining rfl rfl rest (by rw [head]; rfl)
    · cases step
      exact sound.turn pc rfl rfl .syncing rfl rfl s.queue rfl
  | syncing =>
    simp only [Handle.workerStep, pc] at step
    cases step
    by_cases syncs : cfg.syncOnShutdown = true
    · rw [if_pos syncs]
      exact sound.sync.turn pc rfl rfl .closing rfl rfl s.queue rfl
    · rw [if_neg syncs]
      exact sound.turn pc rfl rfl .closing rfl rfl s.queue rfl
  | closing =>
    simp only [Handle.workerStep, pc] at step
    cases step
    exact sound.close pc
  | ended => simp [Handle.workerStep, pc] at step

theorem Sound.step {t : State n F Value} (sound : Sound cfg initial s) {move : Move n F Value}
    (step : Handle.step cfg s move = some t) : Sound cfg initial t := by
  cases move with
  | persist i frame statsSnapshot =>
    simp only [Handle.step, Option.ite_none_right_eq_some, Option.some.injEq] at step
    rw [← step.2]
    exact sound.start i frame statsSnapshot
  | shutdown i =>
    simp only [Handle.step, Option.ite_none_right_eq_some, Option.some.injEq] at step
    rw [← step.2]
    exact sound.place i _ nofun nofun
  | drop i =>
    simp only [Handle.step, Option.ite_none_right_eq_some, Option.some.injEq] at step
    rw [← step.2]
    exact sound.place i _ nofun nofun
  | client i => exact sound.clientStep step
  | worker persistUs => exact sound.workerStep step

theorem reachable_sound (reach : (handle cfg n initial).Reachable s) : Sound cfg initial s :=
  System.Reaches.invariant reach (Sound cfg initial) (sound_start cfg n initial)
    (fun _ _ _ sound step => sound.step step)

/-! What the answers say. -/

/-- No thread is left hanging by a worker that has ended. -/
theorem Sound.unblocked (sound : Sound cfg initial s) (ended : s.worker.hasEnded = true) (i : Fin n)
    (busy : (s.clients i).isIdle = false) (held : (s.clients i).isDropped = false) :
    (Handle.step cfg s (.client i)).isSome := by
  unfold Handle.step Handle.clientStep
  cases pc : s.clients i with
  | idle => rw [pc] at busy; cases busy
  | dropped => rw [pc] at held; cases held
  | sending call => simp only [pc, if_pos ended, Option.isSome_some]
  | waiting call =>
    have due := (sound.threads.waiting i call pc).2
    have none : owed s.worker ++ queuedCalls s.queue = [] := by
      rw [sound.closed ended]
      cases worker : s.worker with
      | ended => rfl
      | _ => rw [worker] at ended; cases ended
    unfold Due at due
    cases found : s.acks call.ticket with
    | pending =>
      simp only [found, none] at due
      exact absurd due List.not_mem_nil
    | answered answer => simp only [pc, found, Option.isSome_some]
    | dropped => simp only [pc, found, Option.isSome_some]
  | stopping => simp only [pc, Option.isSome_some]
  | sendingShutdown => simp only [pc, if_pos ended, Option.isSome_some]
  | takingJoin =>
    simp only [pc]
    split <;> rfl
  | joining => simp only [pc, if_pos ended, Option.isSome_some]

/-- A processed call has one answer. -/
theorem Sound.one_answer (sound : Sound cfg initial s) {call : Ticketed F Value}
    {first second : Except StorageError Unit} (left : (call, first) ∈ s.processed)
    (right : (call, second) ∈ s.processed) : first = second := by
  have once : ((s.processed.map Prod.fst).map Ticketed.ticket).Nodup := by
    have all := (sound.order.sublist.map Ticketed.ticket).nodup sound.once
    rw [List.append_assoc, List.map_append] at all
    exact (List.nodup_append.mp all).1
  have same := List.inj_on_of_nodup_map (List.Nodup.of_map Ticketed.ticket once) left right rfl
  exact congrArg Prod.snd same

theorem Sound.acknowledges (sound : Sound cfg initial s) : Acknowledges cfg initial s where
  inOrder := (List.prefix_append _ _).trans ((List.append_assoc _ _ _) ▸ sound.order)
  once := sound.once
  log := sound.log
  serialized := sound.serialized
  count := sound.count
  addedFirst := ⟨uncounted s.worker, sound.books⟩
  ok := by
    intro call member
    rcases sound.returned call _ member with final | ⟨failed, -⟩
    · exact final.2 rfl
    · cases failed
  error := by
    intro call error member isAdded
    obtain ⟨entry, inside, first⟩ := List.mem_map.mp isAdded
    obtain ⟨there, fine⟩ := List.mem_filter.mp inside
    obtain ⟨other, answer⟩ := entry
    obtain rfl : other = call := first
    rcases sound.returned other _ member with final | ⟨-, lost⟩
    · rw [sound.one_answer there final.1] at fine
      cases fine
    · have processed : other ∈ s.processed.map Prod.fst := List.mem_map_of_mem there
      exact lost.2 (List.mem_map_of_mem processed)
  unblocked := sound.unblocked

theorem persist_acknowledged {n : Nat} {s : State n F Value} (cfg : HandleConfig F Value)
    (initial : Files) (reach : (handle cfg n initial).Reachable s) : Acknowledges cfg initial s :=
  (reachable_sound reach).acknowledges

/-- One frame is persisted; the message with the second one arrives behind the worker's last
`try_recv`. -/
def overtaken (caller closer : Fin 2) : List (Move 2 Int Text) :=
  [.persist caller (plainRequest 1 5 none .none).frame none, .client caller] ++
    List.replicate 5 (.worker 7) ++ [.client caller, .shutdown closer, .client closer] ++
    List.replicate 3 (.worker 7) ++
    [.persist caller (plainRequest 2 6 none .none).frame none, .client caller, .worker 7,
      .client caller, .client closer]

def plainConfig : HandleConfig Int Text := ⟨plainSerde, 0, true⟩

theorem persist_acknowledged_overtaken :
    ∃ s : State 2 Int Text, s.returned.map (fun entry => entry.2.isOk) = [true, false] ∧
      s.metrics.persistedFrames = 1 ∧ Acknowledges plainConfig (fun _ => none) s := by
  refine ⟨((handle plainConfig 2 fun _ => none).run (overtaken 0 1)).get (by decide +kernel),
    by decide +kernel, by decide +kernel, ?_⟩
  exact persist_acknowledged plainConfig _ (System.reachable_of_run (Option.some_get _).symm)

end SensorGateway.Storage.Acknowledged
