import SensorGateway.Queue.RoundQueue

/-! Sequences of calls on one ring queue answer as the abstract queue does, as long as every
`read_batch` gets the memory it asks for. -/

namespace SensorGateway.Queue.RoundQueueSequential
open SensorGateway.Lib.Ring RoundQueue

theorem new_ok_iff {T : Type*} [Inhabited T] (size : Nat) (allocated : Bool) (capacity : Nat) :
    (∃ q : RWRoundQueue T, new size allocated capacity = .ok q) ↔
      capacity.isPowerOfTwo ∧ size * capacity ≤ isizeMax ∧ allocated = true := by
  unfold new
  by_cases zero : capacity = 0
  · simp [zero, Nat.not_isPowerOfTwo_zero]
  · by_cases power : capacity.isPowerOfTwo
    · by_cases large : isizeMax < size * capacity
      · simp [zero, power, large]
      · cases allocated <;> simp [zero, power, large, Nat.not_lt.mp large]
    · simp [zero, power]

variable {T : Type*}

theorem new_holds [Inhabited T] {size capacity : Nat} {allocated : Bool} {q : RWRoundQueue T}
    (built : new size allocated capacity = .ok q) :
    Holds q [] 0 [] ∧ q.capacity = capacity := by
  have accepted := (new_ok_iff size allocated capacity).mp ⟨q, built⟩
  have positive := Nat.pos_of_isPowerOfTwo accepted.1
  have value : q = ⟨List.replicate capacity default, capacity, 0, 0⟩ := by
    simpa [new, accepted, positive.ne', Nat.not_lt.mpr accepted.2.1] using built.symm
  subst value
  refine ⟨?_, rfl⟩
  exact {
    power := accepted.1, slots := by simp, recent := Recent.nil _, unread := rfl
    passed := le_refl _, room := by simpa using positive, read := by simp, write := by simp }

/-- Reading one item after another takes the front of the queue. -/
theorem readUpTo_holds {q : RWRoundQueue T} {written xs : List T} {first : Nat}
    (holds : Holds q written first xs) (max : Nat) :
    ∃ q' first', q.readUpTo max = .ok (xs.take max, q') ∧
      Holds q' written first' (xs.drop max) ∧ q'.capacity = q.capacity := by
  induction max generalizing q first xs with
  | zero => exact ⟨q, first, by simp [RWRoundQueue.readUpTo], by simpa using holds, rfl⟩
  | succ max ih =>
    obtain ⟨q1, first1, read, holds1, capacity1⟩ := holds.tryRead
    cases xs with
    | nil => exact ⟨q1, first1, by simp [RWRoundQueue.readUpTo, read, bind, Except.bind],
        holds1, capacity1⟩
    | cons item rest =>
      obtain ⟨q2, first2, later, holds2, capacity2⟩ := ih holds1
      refine ⟨q2, first2, ?_, holds2, capacity2.trans capacity1⟩
      simp only [List.tail_cons] at later
      simp [RWRoundQueue.readUpTo, read, later, bind, Except.bind]

/-- The call gets the memory it asks for. -/
def Fits (size : Nat) : Op T → Prop
  | .readBatch max allocated => size * max ≤ isizeMax ∧ (size * max = 0 ∨ allocated = true)
  | _ => True

instance (size : Nat) (op : Op T) : Decidable (Fits size op) := by
  cases op <;> unfold Fits <;> infer_instance

/-- One call answers as the abstract queue does and leaves a queue that holds its items. -/
theorem call_holds {q : RWRoundQueue T} {written xs : List T} {first : Nat}
    (holds : Holds q written first xs) (size : Nat) (op : Op T) (fits : Fits size op) :
    ∃ ret q' written' first' xs', q.call size op = .ok (ret, q') ∧
      abstractCall q.capacity xs op = (ret, xs') ∧ Holds q' written' first' xs' ∧
      q'.capacity = q.capacity := by
  cases op with
  | writeOverwrite value =>
    obtain ⟨full, q', written', first', xs', call, abstract, holds', same⟩ :=
      holds.writeOverwrite value
    exact ⟨_, q', written', first', xs', by simp [RWRoundQueue.call, call, Except.map], abstract,
      holds', same⟩
  | tryRead =>
    obtain ⟨q', first', call, holds', same⟩ := holds.tryRead
    exact ⟨_, q', written, first', _, by simp [RWRoundQueue.call, call, Except.map], rfl,
      holds', same⟩
  | readBatch max allocated =>
    obtain ⟨q', first', call, holds', same⟩ := readUpTo_holds holds max
    obtain ⟨small, granted⟩ := fits
    have supplied : ¬(0 < size * max ∧ allocated = false) := by
      rintro ⟨asked, refused⟩
      rcases granted with nothing | granted
      · omega
      · simp [granted] at refused
    refine ⟨.items (xs.take max), q', written, first', _, ?_, ?_, holds', same⟩
    · rw [RWRoundQueue.call, RWRoundQueue.readBatch, if_neg (Nat.not_lt.mpr small), if_neg supplied, call]
      rfl
    · rw [abstractCall, ← List.take_eq_take_min, ← List.drop_eq_drop_min]
  | len =>
    exact ⟨_, q, written, first, xs, rfl, by rw [abstractCall, holds.len], holds, rfl⟩
  | isEmpty =>
    exact ⟨_, q, written, first, xs, rfl, by rw [abstractCall, holds.isEmpty], holds, rfl⟩

/-- Without its memory a call does not return. -/
theorem call_stopped (size : Nat) (q : RWRoundQueue T) (op : Op T) (short : ¬Fits size op) :
    ∃ fault, q.call size op = .error fault := by
  cases op with
  | readBatch max allocated =>
    rw [RWRoundQueue.call, RWRoundQueue.readBatch]
    by_cases large : isizeMax < size * max
    · rw [if_pos large]
      exact ⟨_, rfl⟩
    · have refused : 0 < size * max ∧ allocated = false := by
        simp only [Fits, not_and_or, not_or, Bool.not_eq_true] at short
        rcases short with beyond | ⟨some_bytes, refused⟩
        · exact absurd (Nat.not_le.mp beyond) large
        · exact ⟨Nat.pos_of_ne_zero some_bytes, refused⟩
      rw [if_neg large, if_pos refused]
      exact ⟨_, rfl⟩
  | _ => exact absurd trivial short

def Inside (q : RWRoundQueue T) : Prop := q.readIdx < q.capacity ∧ q.writeIdx < q.capacity

/-- Every call returns, the answers are those of the abstract queue, and both indices stay inside
the buffer. -/
def Agrees (size : Nat) (q : RWRoundQueue T) (xs : List T) (ops : List (Op T)) : Prop :=
  Inside q ∧ ∃ trace, q.calls size ops = .ok trace ∧
    trace.map Prod.fst = abstractCalls q.capacity xs ops ∧
    ∀ entry ∈ trace, entry.2.capacity = q.capacity ∧ Inside entry.2

theorem agrees_of_fits {q : RWRoundQueue T} {written xs : List T} {first : Nat}
    (holds : Holds q written first xs) (size : Nat) (ops : List (Op T))
    (fits : ∀ op ∈ ops, Fits size op) : Agrees size q xs ops := by
  induction ops generalizing q written first xs with
  | nil => exact ⟨holds.indices, [], rfl, rfl, by simp⟩
  | cons op rest ih =>
    obtain ⟨ret, q', written', first', xs', call, abstract, holds', same⟩ :=
      call_holds holds size op (fits op (by simp))
    obtain ⟨inside, trace, later, answers, stay⟩ :=
      ih holds' (fun op member => fits op (List.mem_cons_of_mem _ member))
    refine ⟨holds.indices, (ret, q') :: trace, ?_, ?_, ?_⟩
    · simp [RWRoundQueue.calls, call, later, bind, Except.bind]
    · simp only [List.map_cons, abstractCalls, abstract, answers, same]
    · intro entry member
      rcases List.mem_cons.mp member with rfl | member
      · exact ⟨same, inside⟩
      · exact ⟨(stay entry member).1.trans same, (stay entry member).2⟩

theorem fits_of_returned {size : Nat} {q : RWRoundQueue T} {ops : List (Op T)}
    {trace : List (Ret T × RWRoundQueue T)} (returned : q.calls size ops = .ok trace) :
    ∀ op ∈ ops, Fits size op := by
  induction ops generalizing q trace with
  | nil => simp
  | cons op rest ih =>
    by_cases fits : Fits size op
    · cases call : q.call size op with
      | error fault => simp [RWRoundQueue.calls, call, bind, Except.bind] at returned
      | ok answer =>
        cases later : answer.2.calls size rest with
        | error fault => simp [RWRoundQueue.calls, call, later, bind, Except.bind] at returned
        | ok trace' =>
          intro other member
          rcases List.mem_cons.mp member with rfl | member
          · exact fits
          · exact ih later other member
    · obtain ⟨fault, stopped⟩ := call_stopped size q op fits
      simp [RWRoundQueue.calls, stopped, bind, Except.bind] at returned

/-- A sequence of calls refines the abstract queue exactly when every `read_batch` gets the memory it
asks for. -/
theorem calls_agree_iff [Inhabited T] (size : Nat) (allocated : Bool) (capacity : Nat)
    {q : RWRoundQueue T} (built : new size allocated capacity = .ok q) (ops : List (Op T)) :
    Agrees size q [] ops ↔ ∀ op ∈ ops, Fits size op := by
  constructor
  · intro agrees
    obtain ⟨-, trace, returned, -⟩ := agrees
    exact fits_of_returned returned
  · exact agrees_of_fits (new_holds built).1 size ops

/-- The empty queue of four 32-bit slots, the smallest with a wrap that keeps several items. -/
def fourWords : RWRoundQueue Nat := ⟨[0, 0, 0, 0], 4, 0, 0⟩

/-- Overwriting, reading past the wrap and a batch on a queue of four 32-bit slots. -/
theorem calls_agree_four : Agrees 4 fourWords []
    [.writeOverwrite 1, .writeOverwrite 2, .writeOverwrite 3, .writeOverwrite 4, .tryRead,
      .len, .readBatch 10 true, .isEmpty] :=
  (calls_agree_iff 4 true 4 rfl _).mpr (by decide)

/-- Asking for all items with the largest `usize` stops the call on an empty queue. -/
theorem read_batch_overflows :
    new 4 true 4 = .ok fourWords ∧ ¬Agrees 4 fourWords [] [.readBatch (2 ^ 64 - 1) true] := by
  refine ⟨rfl, ?_⟩
  intro agrees
  obtain ⟨-, trace, returned, -⟩ := agrees
  exact absurd (fits_of_returned returned _ (List.mem_singleton_self _)) (by decide)

end SensorGateway.Queue.RoundQueueSequential
