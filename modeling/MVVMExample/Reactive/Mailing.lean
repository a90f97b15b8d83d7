import Mathlib.Data.List.Perm.Basic
import Mathlib.Data.List.Count
import Mathlib.Data.Multiset.Count
import MVVMExample.Transition.System

/-!
# Messages on their way to receivers

A broadcast reaches its receivers one after another, and several broadcasts may
be under way at the same time: on different threads, or because handling one
message sends another. No interleaving loses or duplicates a message, and
messages stay in order when a broadcast ends before the next one starts.
-/

namespace Reactive

/-- A message with the receivers it has not yet reached. -/
structure Broadcast (Receiver Message : Type*) where
  message : Message
  remaining : List Receiver
  deriving DecidableEq

/-- Broadcasts under way, and the messages that have been received. -/
structure Mailing (Receiver Message : Type*) where
  underWay : List (Broadcast Receiver Message) := []
  received : List (Receiver × Message) := []
  deriving DecidableEq

namespace Mailing

variable {Receiver Message : Type*}

/-- Start a broadcast. -/
def send
    (mailing : Mailing Receiver Message)
    (message : Message)
    (receivers : List Receiver) : Mailing Receiver Message :=
  { mailing with underWay := mailing.underWay ++ [⟨message, receivers⟩] }

/-- Hand a message to a receiver at once. -/
def hand
    (mailing : Mailing Receiver Message)
    (receiver : Receiver)
    (message : Message) : Mailing Receiver Message :=
  { mailing with received := mailing.received ++ [(receiver, message)] }

/-- A broadcast reaches its next receiver. -/
def deliver
    (mailing : Mailing Receiver Message)
    (index : Nat) : Mailing Receiver Message :=
  match mailing.underWay[index]? with
  | some ⟨message, receiver :: remaining⟩ =>
      { underWay := mailing.underWay.set index ⟨message, remaining⟩
        received := mailing.received ++ [(receiver, message)] }
  | _ => mailing

/-- The broadcast has receivers left. -/
def CanDeliver (mailing : Mailing Receiver Message) (index : Nat) : Prop :=
  match mailing.underWay[index]? with
  | some ⟨_, _ :: _⟩ => True
  | _ => False

instance (mailing : Mailing Receiver Message) (index : Nat) :
    Decidable (mailing.CanDeliver index) := by
  unfold CanDeliver
  split <;> infer_instance

/-- Every broadcast has reached all its receivers. -/
def Quiet (mailing : Mailing Receiver Message) : Prop :=
  ∀ broadcast ∈ mailing.underWay, broadcast.remaining = []

instance (mailing : Mailing Receiver Message) : Decidable mailing.Quiet :=
  decidable_of_iff
    (∀ broadcast ∈ mailing.underWay, broadcast.remaining.isEmpty = true)
    (by simp [Quiet])

/-- Every broadcast but the last has reached all its receivers. -/
def Serial (mailing : Mailing Receiver Message) : Prop :=
  ∀ broadcast ∈ mailing.underWay.dropLast, broadcast.remaining = []

variable [DecidableEq Receiver]

/-- The messages a receiver has received, in order. -/
def arrivals
    (mailing : Mailing Receiver Message)
    (receiver : Receiver) : List Message :=
  (mailing.received.filter fun pair => pair.1 = receiver).map Prod.snd

/-- The messages that broadcasts still bring to a receiver. -/
def awaited
    (broadcasts : List (Broadcast Receiver Message))
    (receiver : Receiver) : List Message :=
  broadcasts.flatMap fun broadcast =>
    List.replicate (broadcast.remaining.count receiver) broadcast.message

/-- What a receiver has received and will receive. -/
def account
    (mailing : Mailing Receiver Message)
    (receiver : Receiver) : List Message :=
  mailing.arrivals receiver ++ awaited mailing.underWay receiver

/-- Nothing is awaited of broadcasts that have ended. -/
theorem awaited_of_ended
    {broadcasts : List (Broadcast Receiver Message)}
    (ended : ∀ broadcast ∈ broadcasts, broadcast.remaining = [])
    (receiver : Receiver) :
    awaited broadcasts receiver = [] := by
  rw [awaited, List.flatMap_eq_nil_iff]
  intro broadcast present
  rw [ended broadcast present]
  rfl

/-- With nothing under way, the account is what has been received. -/
theorem Quiet.account_eq
    {mailing : Mailing Receiver Message}
    (quiet : mailing.Quiet)
    (receiver : Receiver) :
    mailing.account receiver = mailing.arrivals receiver := by
  rw [account, awaited_of_ended quiet, List.append_nil]

/-- A broadcast adds its message to the account of each of its receivers. -/
theorem account_send
    (mailing : Mailing Receiver Message)
    (message : Message)
    (receivers : List Receiver)
    (receiver : Receiver) :
    (mailing.send message receivers).account receiver =
      mailing.account receiver ++
        List.replicate (receivers.count receiver) message := by
  simp [send, account, arrivals, awaited]

theorem arrivals_append
    (received : List (Receiver × Message))
    (underWay after : List (Broadcast Receiver Message))
    (receiver : Receiver)
    (message : Message)
    (other : Receiver) :
    arrivals ⟨after, received ++ [(receiver, message)]⟩ other =
      arrivals ⟨underWay, received⟩ other ++
        List.replicate ([receiver].count other) message := by
  by_cases same : receiver = other
  · subst same
    simp [arrivals]
  · simp [arrivals, same]

/-- A message handed over is added to the account of its receiver. -/
theorem account_hand
    (mailing : Mailing Receiver Message)
    (receiver : Receiver)
    (message : Message)
    (other : Receiver) :
    ((mailing.hand receiver message).account other).Perm
      (mailing.account other ++
        List.replicate ([receiver].count other) message) := by
  unfold account hand
  rw [arrivals_append mailing.received mailing.underWay, List.append_assoc,
    List.append_assoc]
  exact List.perm_append_comm.append_left _

/-- With nothing under way, a message handed over is the last in the account. -/
theorem account_hand_of_quiet
    {mailing : Mailing Receiver Message}
    (quiet : mailing.Quiet)
    (receiver : Receiver)
    (message : Message)
    (other : Receiver) :
    (mailing.hand receiver message).account other =
      mailing.account other ++
        List.replicate ([receiver].count other) message := by
  unfold account hand
  rw [arrivals_append mailing.received mailing.underWay,
    awaited_of_ended quiet, List.append_nil, List.append_nil]

omit [DecidableEq Receiver] in
/-- The broadcasts around the one that makes a delivery. -/
theorem exists_of_canDeliver
    {mailing : Mailing Receiver Message}
    {index : Nat}
    (can : mailing.CanDeliver index) :
    ∃ before message receiver remaining behind,
      mailing.underWay =
          before ++ ⟨message, receiver :: remaining⟩ :: behind ∧
        mailing.deliver index =
          { underWay := before ++ ⟨message, remaining⟩ :: behind
            received := mailing.received ++ [(receiver, message)] } := by
  unfold CanDeliver at can
  split at can
  · rename_i message receiver remaining found
    obtain ⟨inside, isBroadcast⟩ := List.getElem?_eq_some_iff.mp found
    refine ⟨mailing.underWay.take index, message, receiver, remaining,
      mailing.underWay.drop (index + 1), ?_, ?_⟩
    · rw [← isBroadcast, List.getElem_cons_drop, List.take_append_drop]
    · simp only [deliver, found, List.set_eq_take_append_cons_drop,
        if_pos inside]
  · contradiction

/-- What is awaited of a broadcast between others. -/
theorem awaited_middle
    (before behind : List (Broadcast Receiver Message))
    (broadcast : Broadcast Receiver Message)
    (receiver : Receiver) :
    awaited (before ++ broadcast :: behind) receiver =
      awaited before receiver ++
        (List.replicate (broadcast.remaining.count receiver) broadcast.message ++
          awaited behind receiver) := by
  simp [awaited]

/-- A receiver that is reached awaits one message less of the broadcast. -/
theorem replicate_count_cons
    (message : Message)
    (receiver other : Receiver)
    (remaining : List Receiver) :
    List.replicate ([receiver].count other) message ++
        List.replicate (remaining.count other) message =
      List.replicate ((receiver :: remaining).count other) message := by
  rw [List.replicate_append_replicate, ← List.count_append,
    List.singleton_append]

/-- A delivery neither loses nor duplicates a message. -/
theorem account_deliver
    {mailing : Mailing Receiver Message}
    {index : Nat}
    (can : mailing.CanDeliver index)
    (other : Receiver) :
    ((mailing.deliver index).account other).Perm (mailing.account other) := by
  obtain ⟨before, message, receiver, remaining, behind, underWay, delivered⟩ :=
    exists_of_canDeliver can
  unfold account
  rw [delivered, arrivals_append mailing.received mailing.underWay,
    underWay, awaited_middle, awaited_middle,
    ← replicate_count_cons message receiver other remaining,
    List.append_assoc, List.append_assoc]
  apply List.Perm.append_left
  exact List.perm_append_comm_assoc _ _ _

omit [DecidableEq Receiver] in
/-- With a single broadcast not ended, it is the one that makes a delivery. -/
theorem Serial.last
    {before behind : List (Broadcast Receiver Message)}
    {message : Message}
    {receiver : Receiver}
    {remaining : List Receiver}
    {received : List (Receiver × Message)}
    (serial :
      Serial ⟨before ++ ⟨message, receiver :: remaining⟩ :: behind, received⟩) :
    behind = [] ∧ ∀ broadcast ∈ before, broadcast.remaining = [] := by
  have isLast : behind = [] := by
    cases behind with
    | nil => rfl
    | cons next behind =>
        have ended := serial ⟨message, receiver :: remaining⟩ (by
          simp [List.dropLast_append_of_ne_nil])
        contradiction
  subst isLast
  refine ⟨rfl, fun broadcast present => serial broadcast ?_⟩
  simpa [List.dropLast_append_of_ne_nil] using present

/-- With a single broadcast not ended, a delivery keeps the order of
messages. -/
theorem account_deliver_of_serial
    {mailing : Mailing Receiver Message}
    {index : Nat}
    (serial : mailing.Serial)
    (can : mailing.CanDeliver index)
    (other : Receiver) :
    (mailing.deliver index).account other = mailing.account other := by
  obtain ⟨before, message, receiver, remaining, behind, underWay, delivered⟩ :=
    exists_of_canDeliver can
  obtain ⟨started, received⟩ := mailing
  obtain rfl : started = _ := underWay
  obtain ⟨rfl, ended⟩ := serial.last
  unfold account
  rw [delivered, arrivals_append received [], awaited_middle, awaited_middle,
    awaited_of_ended ended, ← replicate_count_cons message receiver other remaining,
    List.nil_append, List.nil_append, List.append_assoc, List.append_assoc]
  rfl

omit [DecidableEq Receiver] in
theorem Quiet.serial
    {mailing : Mailing Receiver Message}
    (quiet : mailing.Quiet) :
    mailing.Serial :=
  fun broadcast present => quiet broadcast (List.dropLast_subset _ present)

omit [DecidableEq Receiver] in
/-- A broadcast that starts when the others have ended is the only one. -/
theorem Quiet.send
    {mailing : Mailing Receiver Message}
    (quiet : mailing.Quiet)
    (message : Message)
    (receivers : List Receiver) :
    (mailing.send message receivers).Serial := by
  intro broadcast present
  rw [Mailing.send, List.dropLast_concat] at present
  exact quiet broadcast present

omit [DecidableEq Receiver] in
theorem Serial.deliver
    {mailing : Mailing Receiver Message}
    {index : Nat}
    (serial : mailing.Serial)
    (can : mailing.CanDeliver index) :
    (mailing.deliver index).Serial := by
  obtain ⟨before, message, receiver, remaining, behind, underWay, delivered⟩ :=
    exists_of_canDeliver can
  obtain ⟨started, received⟩ := mailing
  obtain rfl : started = _ := underWay
  obtain ⟨rfl, ended⟩ := serial.last
  intro broadcast present
  rw [delivered, List.dropLast_concat] at present
  exact ended broadcast present

/-! ## What was sent -/

/-- The messages sent to a receiver, in order. -/
def sentTo
    (sent : List (Message × Multiset Receiver))
    (receiver : Receiver) : List Message :=
  sent.flatMap fun sending =>
    List.replicate (sending.2.count receiver) sending.1

/-- One more message was sent. -/
theorem sentTo_snoc
    (sent : List (Message × Multiset Receiver))
    (message : Message)
    (targets : Multiset Receiver)
    (receiver : Receiver) :
    sentTo (sent ++ [(message, targets)]) receiver =
      sentTo sent receiver ++
        List.replicate (targets.count receiver) message := by
  simp [sentTo]

/-- The last message sent to a receiver, when one more was sent. -/
theorem getLast?_sentTo_snoc
    (sent : List (Message × Multiset Receiver))
    (message : Message)
    (targets : Multiset Receiver)
    (receiver : Receiver) :
    (sentTo (sent ++ [(message, targets)]) receiver).getLast? =
      if receiver ∈ targets then some message
      else (sentTo sent receiver).getLast? := by
  rw [sentTo_snoc]
  split
  · rename_i present
    have positive := Multiset.count_pos.mpr present
    rw [List.getLast?_append, List.getLast?_replicate,
      if_neg (Nat.ne_of_gt positive)]
    rfl
  · rename_i absent
    rw [Multiset.count_eq_zero_of_notMem absent, List.replicate_zero,
      List.append_nil]

omit [DecidableEq Receiver] in
/-- How a step changes the messages under way and the messages sent. The flag
says whether the step may send a message. -/
inductive Posts
    (mailing : Mailing Receiver Message)
    (sent : List (Message × Multiset Receiver)) :
    Bool → Mailing Receiver Message →
      List (Message × Multiset Receiver) → Prop
  | send (message : Message) (receivers : List Receiver) :
      Posts mailing sent true (mailing.send message receivers)
        (sent ++ [(message, (receivers : Multiset Receiver))])
  | sendNobody (message : Message) :
      Posts mailing sent true (mailing.send message []) sent
  | hand (receiver : Receiver) (message : Message) :
      Posts mailing sent true (mailing.hand receiver message)
        (sent ++ [(message, {receiver})])
  | keep (sends : Bool) : Posts mailing sent sends mailing sent
  | deliver
      {index : Nat}
      (can : mailing.CanDeliver index) :
      Posts mailing sent false (mailing.deliver index) sent

namespace Posts

variable
    {mailing after : Mailing Receiver Message}
    {sent later : List (Message × Multiset Receiver)}
    {sends : Bool}

omit [DecidableEq Receiver] in
/-- The receivers of a broadcast count, not their order. -/
theorem send_to
    {receivers : List Receiver}
    {targets : Multiset Receiver}
    (same : (receivers : Multiset Receiver) = targets)
    (message : Message) :
    mailing.Posts sent true (mailing.send message receivers)
      (sent ++ [(message, targets)]) := by
  rw [← same]
  exact .send message receivers

/-- No step loses or duplicates a message. -/
theorem account_perm
    (posts : mailing.Posts sent sends after later)
    (accounted : ∀ receiver,
      (mailing.account receiver).Perm (sentTo sent receiver))
    (receiver : Receiver) :
    (after.account receiver).Perm (sentTo later receiver) := by
  cases posts with
  | send message receivers =>
      rw [account_send, sentTo_snoc, Multiset.coe_count]
      exact (accounted receiver).append_right _
  | sendNobody message =>
      rw [account_send, List.count_nil, List.replicate_zero, List.append_nil]
      exact accounted receiver
  | hand target message =>
      refine (account_hand _ _ _ _).trans ?_
      rw [sentTo_snoc, ← Multiset.coe_singleton, Multiset.coe_count]
      exact (accounted receiver).append_right _
  | keep => exact accounted receiver
  | deliver can => exact (account_deliver can receiver).trans (accounted receiver)

/-- Steps that send when nothing is under way keep the order of messages. -/
theorem account_eq
    (posts : mailing.Posts sent sends after later)
    (inTurn : sends = true → mailing.Quiet)
    (serial : mailing.Serial)
    (accounted : ∀ receiver,
      mailing.account receiver = sentTo sent receiver) :
    after.Serial ∧
      ∀ receiver, after.account receiver = sentTo later receiver := by
  cases posts with
  | send message receivers =>
      refine ⟨(inTurn rfl).send _ _, fun receiver => ?_⟩
      rw [account_send, sentTo_snoc, Multiset.coe_count, accounted]
  | sendNobody message =>
      refine ⟨(inTurn rfl).send _ _, fun receiver => ?_⟩
      rw [account_send, List.count_nil, List.replicate_zero, List.append_nil,
        accounted]
  | hand target message =>
      refine ⟨serial, fun receiver => ?_⟩
      rw [account_hand_of_quiet (inTurn rfl), sentTo_snoc,
        ← Multiset.coe_singleton, Multiset.coe_count, accounted]
  | keep => exact ⟨serial, accounted⟩
  | deliver can =>
      refine ⟨serial.deliver can, fun receiver => ?_⟩
      rw [account_deliver_of_serial serial can, accounted]

end Posts

/-! ## Systems that send messages -/

section Runs

open Transition

variable {State Input Fault : Type*}

omit [DecidableEq Receiver] in
/-- A system that starts with nothing under way and whose steps post messages,
as long as no more inputs than a limit have been consumed. -/
structure Mails
    (system : System State Input Fault)
    (start : State)
    (mailing : State → Mailing Receiver Message)
    (sent : List Input → List (Message × Multiset Receiver))
    (sends : Input → Bool)
    (limit : Nat)
    (Keeps : List Input → State → Prop) : Prop where
  initially : Keeps [] start
  empty : mailing start = {}
  nothingSent : sent [] = []
  step : ∀ inputs input before after,
    Keeps inputs before → inputs.length < limit →
      system.Enabled before input → system.step before input = .ok after →
        Keeps (inputs ++ [input]) after ∧
          (mailing before).Posts (sent inputs) (sends input) (mailing after)
            (sent (inputs ++ [input]))

namespace Mails

variable
    {system : System State Input Fault}
    {start finish : State}
    {inputs : List Input}
    {mailing : State → Mailing Receiver Message}
    {sent : List Input → List (Message × Multiset Receiver)}
    {sends : Input → Bool}
    {limit : Nat}
    {Keeps : List Input → State → Prop}

/-- The run lemma for messages: none is lost or duplicated. -/
theorem accounted_of_run
    (mails : Mails system start mailing sent sends limit Keeps)
    (run : system.Run start inputs finish)
    (few : inputs.length ≤ limit) :
    Keeps inputs finish ∧
      ∀ receiver, ((mailing finish).account receiver).Perm
        (sentTo (sent inputs) receiver) := by
  have invariant : inputs.length ≤ limit → Keeps inputs finish ∧
      ∀ receiver, ((mailing finish).account receiver).Perm
        (sentTo (sent inputs) receiver) := by
    refine System.Run.invariant
      (fun inputs state => inputs.length ≤ limit → Keeps inputs state ∧
        ∀ receiver, ((mailing state).account receiver).Perm
          (sentTo (sent inputs) receiver)) ?_ ?_ run
    · refine fun _ => ⟨mails.initially, fun _ => ?_⟩
      rw [mails.empty, mails.nothingSent]
      exact .refl _
    · intro inputs input before after inductionHypothesis enabled stepped few
      rw [List.length_append, List.length_singleton] at few
      obtain ⟨keeps, accounted⟩ := inductionHypothesis (by omega)
      obtain ⟨stillKeeps, posts⟩ :=
        mails.step inputs input before after keeps (by omega) enabled stepped
      exact ⟨stillKeeps, posts.account_perm accounted⟩
  exact invariant few

omit [DecidableEq Receiver] in
theorem keeps_of_run
    (mails : Mails system start mailing sent sends limit Keeps)
    (run : system.Run start inputs finish)
    (few : inputs.length ≤ limit) :
    Keeps inputs finish := by
  classical
  exact (mails.accounted_of_run run few).1

/-- The run lemma for the order of messages, when they are sent only after the
messages before them have reached their receivers. -/
theorem ordered_of_run
    (mails : Mails system start mailing sent sends limit Keeps)
    (run : (system.restrict fun state input =>
      sends input = true → (mailing state).Quiet).Run start inputs finish)
    (few : inputs.length ≤ limit) :
    (mailing finish).Serial ∧
      ∀ receiver,
        (mailing finish).account receiver = sentTo (sent inputs) receiver := by
  have invariant : inputs.length ≤ limit → Keeps inputs finish ∧
      (mailing finish).Serial ∧
        ∀ receiver,
          (mailing finish).account receiver = sentTo (sent inputs) receiver := by
    refine System.Run.invariant
      (fun inputs state => inputs.length ≤ limit → Keeps inputs state ∧
        (mailing state).Serial ∧
          ∀ receiver,
            (mailing state).account receiver = sentTo (sent inputs) receiver)
      ?_ ?_ run
    · refine fun _ => ⟨mails.initially, ?_, fun _ => ?_⟩
      · rw [mails.empty]
        exact fun _ present => absurd present List.not_mem_nil
      · rw [mails.empty, mails.nothingSent]
        rfl
    · intro inputs input before after inductionHypothesis enabled stepped few
      rw [List.length_append, List.length_singleton] at few
      obtain ⟨keeps, serial, accounted⟩ := inductionHypothesis (by omega)
      obtain ⟨stillKeeps, posts⟩ :=
        mails.step inputs input before after keeps (by omega) enabled.1 stepped
      exact ⟨stillKeeps, posts.account_eq enabled.2 serial accounted⟩
  exact (invariant few).2

end Mails
end Runs
end Mailing
end Reactive
