import MVVMExample.Reactive.Mailing
import MVVMExample.Reactive.Operator
import MVVMExample.RxSwift.Bag
import MVVMExample.RxSwift.SingleAssignmentDisposable

/-!
# Sequences shared while they are observed

The outputs of the view models are shared by `share(replay: 1)`. The first
subscription makes a connection to the source, later ones join it and are handed
the latest element, and the last one to end releases the source. Connecting and
releasing happen after the lock has been given back, so that other calls can come
in between, and events are sent to a copy of the observers.

In every interleaving there is one connection at a time, which is subscribed to
the source once; a connection that nobody observes any more releases the source
once, even when it was still connecting; and no observer loses an event or
receives one twice.
-/

namespace MVVMExample
namespace RxSwift

open Reactive Transition

namespace ShareReplay1WhileConnected

/-- A connection to the source, with the number of calls that are going to
connect it, that are subscribing to the source, and that are going to dispose of
the subscription. The history has how often the source was subscribed to, and
whether the source has ended. -/
structure Connection (Element Observer : Type*) where
  disposed : Bool := false
  observers : Bag Observer := {}
  element : Option Element := none
  subscription : SingleAssignmentDisposable := {}
  connecting : Nat := 0
  subscribing : Nat := 0
  disconnecting : Nat := 0
  sourceSubscriptions : Nat := 0
  sourceEnded : Bool := false
  deriving DecidableEq

end ShareReplay1WhileConnected

open ShareReplay1WhileConnected in
/-- A shared sequence: the present connection, and all that there have been. -/
structure ShareReplay1WhileConnected (Element Observer : Type*) where
  connection : Option Nat := none
  connections : List (Connection Element Observer) := []
  deriving DecidableEq

namespace ShareReplay1WhileConnected

variable {Failure Element Observer : Type*}

/-- Replace a connection. -/
def update
    (sharing : ShareReplay1WhileConnected Element Observer)
    (index : Nat)
    (connection : Connection Element Observer) :
    ShareReplay1WhileConnected Element Observer :=
  { sharing with connections := sharing.connections.set index connection }

/-- A connection has no observers any more, and is not the present one. -/
def synchronizedDispose
    (sharing : ShareReplay1WhileConnected Element Observer)
    (index : Nat)
    (connection : Connection Element Observer) :
    ShareReplay1WhileConnected Element Observer :=
  { sharing.update index
      { connection with disposed := true, observers := {} } with
    connection :=
      if sharing.connection = some index then none else sharing.connection }

/-- The effect of an event of the source, and the observers it is sent to. -/
def synchronizedOn
    (sharing : ShareReplay1WhileConnected Element Observer)
    (index : Nat)
    (event : Event Failure Element) :
    ShareReplay1WhileConnected Element Observer × Bag Observer :=
  match sharing.connections[index]? with
  | none => (sharing, {})
  | some connection =>
      if connection.disposed then (sharing, {})
      else
        match event with
        | .next element =>
            (sharing.update index { connection with element := some element },
              connection.observers)
        | _ =>
            (sharing.synchronizedDispose index
                { connection with sourceEnded := true },
              connection.observers)

/-- The present connection, or a new one. -/
def synchronizedConnection
    (sharing : ShareReplay1WhileConnected Element Observer) :
    ShareReplay1WhileConnected Element Observer × Nat :=
  match sharing.connection with
  | some existingConnection => (sharing, existingConnection)
  | none =>
      ({ connection := some sharing.connections.length
         connections := sharing.connections ++ [{}] },
        sharing.connections.length)

/-- Subscribe an observer: join the present connection, or make one that the
call is then going to connect. The element is handed to the observer. -/
def subscribe
    (sharing : ShareReplay1WhileConnected Element Observer)
    (observer : Observer) :
    ShareReplay1WhileConnected Element Observer × Option Element :=
  let (sharing, index) := sharing.synchronizedConnection
  match sharing.connections[index]? with
  | none => (sharing, none)
  | some connection =>
      let count := connection.observers.count
      (sharing.update index
          { connection with
              observers := (connection.observers.insert observer).1
              connecting := connection.connecting + if count = 0 then 1 else 0 },
        connection.element)

/-- Unsubscribe the observer with a key. The call that removes the last one is
then going to dispose of the subscription to the source. -/
def synchronizedUnsubscribe
    (sharing : ShareReplay1WhileConnected Element Observer)
    (index : Nat)
    (disposeKey : BagKey) :
    Except Trap (ShareReplay1WhileConnected Element Observer) :=
  match sharing.connections[index]? with
  | none => .ok sharing
  | some connection =>
      match connection.observers.removeKey disposeKey with
      | .error trap => .error trap
      | .ok (observers, none) =>
          .ok (sharing.update index { connection with observers := observers })
      | .ok (observers, some _) =>
          if observers.count = 0 then
            .ok (sharing.synchronizedDispose index
              { connection with
                  disconnecting := connection.disconnecting + 1 })
          else .ok (sharing.update index { connection with observers := observers })

/-- A call of `connect()` starts to subscribe to the source. -/
def connect
    (sharing : ShareReplay1WhileConnected Element Observer)
    (index : Nat) : ShareReplay1WhileConnected Element Observer :=
  match sharing.connections[index]? with
  | none => sharing
  | some connection =>
      sharing.update index
        { connection with
            connecting := connection.connecting - 1
            subscribing := connection.subscribing + 1
            sourceSubscriptions := connection.sourceSubscriptions + 1 }

/-- The source has returned its disposable, which the subscription is set to. -/
def setDisposable
    (sharing : ShareReplay1WhileConnected Element Observer)
    (index : Nat) : Except Trap (ShareReplay1WhileConnected Element Observer) :=
  match sharing.connections[index]? with
  | none => .ok sharing
  | some connection =>
      match connection.subscription.setDisposable with
      | .error trap => .error trap
      | .ok subscription =>
          .ok (sharing.update index
            { connection with
                subscribing := connection.subscribing - 1
                subscription := subscription })

/-- The call that removed the last observer disposes of the subscription. -/
def disconnect
    (sharing : ShareReplay1WhileConnected Element Observer)
    (index : Nat) : ShareReplay1WhileConnected Element Observer :=
  match sharing.connections[index]? with
  | none => sharing
  | some connection =>
      sharing.update index
        { connection with
            disconnecting := connection.disconnecting - 1
            subscription := connection.subscription.dispose }

/-- Uses of a shared sequence, the progress of its calls, the events of the
source, and the progress of their dispatches. -/
inductive Input (Failure Element Observer : Type*)
  | subscribe (observer : Observer)
  | unsubscribe (connection : Nat) (disposeKey : BagKey)
  | connect (connection : Nat)
  | setDisposable (connection : Nat)
  | disconnect (connection : Nat)
  | on (connection : Nat) (event : Event Failure Element)
  | deliver (dispatch : Nat)
  deriving DecidableEq

/-- A shared sequence and the events on their way from it. -/
structure InUse (Failure Element Observer : Type*) where
  sharing : ShareReplay1WhileConnected Element Observer := {}
  mailing : Mailing Observer (Event Failure Element) := {}
  deriving DecidableEq

namespace InUse

/-- Perform one input. -/
def perform (inUse : InUse Failure Element Observer) :
    Input Failure Element Observer →
      Except Trap (InUse Failure Element Observer)
  | .subscribe observer =>
      let subscribed := inUse.sharing.subscribe observer
      .ok {
        sharing := subscribed.1
        mailing :=
          match subscribed.2 with
          | none => inUse.mailing
          | some element => inUse.mailing.hand observer (.next element) }
  | .unsubscribe connection disposeKey =>
      match inUse.sharing.synchronizedUnsubscribe connection disposeKey with
      | .error trap => .error trap
      | .ok sharing => .ok { inUse with sharing := sharing }
  | .connect connection =>
      .ok { inUse with sharing := inUse.sharing.connect connection }
  | .setDisposable connection =>
      match inUse.sharing.setDisposable connection with
      | .error trap => .error trap
      | .ok sharing => .ok { inUse with sharing := sharing }
  | .disconnect connection =>
      .ok { inUse with sharing := inUse.sharing.disconnect connection }
  | .on connection event =>
      let synchronized := inUse.sharing.synchronizedOn connection event
      .ok {
        sharing := synchronized.1
        mailing := inUse.mailing.send event synchronized.2.dispatch }
  | .deliver dispatch =>
      .ok { inUse with mailing := inUse.mailing.deliver dispatch }

/-- A connection satisfies a condition. -/
def OfConnection
    (inUse : InUse Failure Element Observer)
    (index : Nat)
    (condition : Connection Element Observer → Prop) : Prop :=
  match inUse.sharing.connections[index]? with
  | none => False
  | some connection => condition connection

instance
    (inUse : InUse Failure Element Observer)
    (index : Nat)
    (condition : Connection Element Observer → Prop)
    [DecidablePred condition] :
    Decidable (inUse.OfConnection index condition) := by
  unfold OfConnection
  split <;> infer_instance

/-- Calls go on where they are, and the source of a connection emits events only
once it has been subscribed to. -/
def CanPerform (inUse : InUse Failure Element Observer) :
    Input Failure Element Observer → Prop
  | .subscribe _ => True
  | .unsubscribe _ _ => True
  | .connect connection =>
      inUse.OfConnection connection fun connection => 0 < connection.connecting
  | .setDisposable connection =>
      inUse.OfConnection connection fun connection => 0 < connection.subscribing
  | .disconnect connection =>
      inUse.OfConnection connection fun connection =>
        0 < connection.disconnecting
  | .on connection _ =>
      inUse.OfConnection connection fun connection =>
        0 < connection.sourceSubscriptions
  | .deliver dispatch => inUse.mailing.CanDeliver dispatch

instance
    (inUse : InUse Failure Element Observer)
    (input : Input Failure Element Observer) :
    Decidable (inUse.CanPerform input) :=
  match input with
  | .subscribe _ => inferInstanceAs (Decidable True)
  | .unsubscribe _ _ => inferInstanceAs (Decidable True)
  | .connect _ => inferInstanceAs (Decidable (inUse.OfConnection _ _))
  | .setDisposable _ => inferInstanceAs (Decidable (inUse.OfConnection _ _))
  | .disconnect _ => inferInstanceAs (Decidable (inUse.OfConnection _ _))
  | .on _ _ => inferInstanceAs (Decidable (inUse.OfConnection _ _))
  | .deliver dispatch =>
      inferInstanceAs (Decidable (inUse.mailing.CanDeliver dispatch))

/-- A shared sequence in any interleaving of calls, events and dispatches. -/
def system : System (InUse Failure Element Observer)
    (Input Failure Element Observer) Trap where
  Enabled := CanPerform
  step := perform

instance
    (inUse : InUse Failure Element Observer)
    (input : Input Failure Element Observer) :
    Decidable (system.Enabled inUse input) :=
  inferInstanceAs (Decidable (inUse.CanPerform input))

/-- The input may send an event. -/
def sends : Input Failure Element Observer → Bool
  | .subscribe _ => true
  | .on _ _ => true
  | _ => false

/-- An input that sends events needs the dispatches before it to have ended. -/
def InTurn
    (inUse : InUse Failure Element Observer)
    (input : Input Failure Element Observer) : Prop :=
  sends input = true → inUse.mailing.Quiet

instance
    (inUse : InUse Failure Element Observer)
    (input : Input Failure Element Observer) :
    Decidable (inUse.InTurn input) :=
  inferInstanceAs (Decidable (_ → _))

/-- A shared sequence that sends events only after its dispatches have ended. -/
def inTurn : System (InUse Failure Element Observer)
    (Input Failure Element Observer) Trap :=
  system.restrict InTurn

instance
    (inUse : InUse Failure Element Observer)
    (input : Input Failure Element Observer) :
    Decidable (inTurn.Enabled inUse input) :=
  inferInstanceAs (Decidable (_ ∧ _))

end InUse

/-! ## What sharing is for -/

/-- The observers of a connection, and its latest element. -/
structure Session (Element Observer : Type*) where
  number : Nat
  registry : Bag.Registry Observer := {}
  latest : Option Element := none

/-- A shared sequence as its users see it: the number of connections so far, the
present one, and the events it sent with the observers it sent them to. -/
structure Sharing (Failure Element Observer : Type*) where
  opened : Nat := 0
  session : Option (Session Element Observer) := none
  sent : List (Event Failure Element × Multiset Observer) := []

namespace Sharing

/-- The first observer opens a session, the last one closes it. An observer that
joins is sent the latest element; then it is sent all events of the source until
it leaves. -/
def perform (sharing : Sharing Failure Element Observer) :
    Input Failure Element Observer → Sharing Failure Element Observer
  | .subscribe observer =>
      match sharing.session with
      | none =>
          { sharing with
              opened := sharing.opened + 1
              session := some
                { number := sharing.opened
                  registry := Bag.Registry.perform {} (.insert observer) } }
      | some session =>
          { sharing with
              session := some
                { session with
                    registry := session.registry.perform (.insert observer) }
              sent :=
                match session.latest with
                | none => sharing.sent
                | some element =>
                    sharing.sent ++ [(.next element, {observer})] }
  | .unsubscribe connection disposeKey =>
      match sharing.session with
      | none => sharing
      | some session =>
          if session.number = connection then
            let registry := session.registry.perform (.removeKey disposeKey)
            { sharing with
                session :=
                  if registry.members.keys.card = 0 then none
                  else some { session with registry := registry } }
          else sharing
  | .on connection event =>
      match sharing.session with
      | none => sharing
      | some session =>
          if session.number = connection then
            { sharing with
                session :=
                  match event with
                  | .next element => some { session with latest := some element }
                  | _ => none
                sent := sharing.sent ++ [(event, session.registry.values)] }
          else sharing
  | _ => sharing

/-- The shared sequence after a number of inputs. -/
def after (inputs : List (Input Failure Element Observer)) :
    Sharing Failure Element Observer :=
  inputs.foldl perform {}

theorem after_snoc
    (inputs : List (Input Failure Element Observer))
    (input : Input Failure Element Observer) :
    after (inputs ++ [input]) = (after inputs).perform input := by
  rw [after, List.foldl_append]
  rfl

/-- The number of keys issued in the present session. -/
def issued (sharing : Sharing Failure Element Observer) : Nat :=
  match sharing.session with
  | none => 0
  | some session => session.registry.issued

/-- An input uses at most one key. -/
theorem issued_perform_le
    (sharing : Sharing Failure Element Observer)
    (input : Input Failure Element Observer) :
    (sharing.perform input).issued ≤ sharing.issued + 1 := by
  cases isSession : sharing.session with
  | none =>
      cases input <;> simp [perform, issued, isSession, Bag.Registry.perform]
  | some session =>
      cases input with
      | subscribe observer =>
          simp [perform, issued, isSession, Bag.Registry.perform]
      | unsubscribe connection disposeKey =>
          by_cases same : session.number = connection
          · by_cases isLast :
              (session.registry.perform (.removeKey disposeKey)).members.keys.card
                = 0
            · simp [perform, issued, isSession, same, isLast]
            · simp only [perform, issued, isSession, same, if_true, isLast,
                if_false]
              exact Nat.le_succ _
          · simp [perform, issued, isSession, same]
      | on connection event =>
          by_cases same : session.number = connection
          · cases event <;> simp [perform, issued, isSession, same]
          · simp [perform, issued, isSession, same]
      | connect connection => exact Nat.le_succ _
      | setDisposable connection => exact Nat.le_succ _
      | disconnect connection => exact Nat.le_succ _
      | deliver dispatch => exact Nat.le_succ _

end Sharing

/-! ## Connections are sound -/

/-- A connection has observers only while it is the present one, connects once,
assigns its subscription once, and has lost its last observer or its source when
it is not the present one any more. -/
structure Connection.Sound
    (connection : Connection Element Observer)
    (isPresent : Prop) : Prop where
  present : connection.disposed = false ↔ isPresent
  deserted : connection.disposed = true → connection.observers = {}
  connected : connection.connecting + connection.sourceSubscriptions = 1
  assigned :
    connection.subscribing + connection.subscription.disposableSet.toNat =
      connection.sourceSubscriptions
  disconnected :
    connection.disconnecting + connection.subscription.isDisposed.toNat +
        connection.sourceEnded.toNat =
      connection.disposed.toNat
  released : connection.subscription.Once

/-- Replacing a connection by a sound one leaves all of them sound, if the other
ones are present or not as before. -/
theorem sound_set
    {connections : List (Connection Element Observer)}
    (present : Option Nat)
    {later : Option Nat}
    {index : Nat}
    {replaced : Connection Element Observer}
    (sound : ∀ (other : Nat) (connection : Connection Element Observer),
      other ≠ index → connections[other]? = some connection →
        connection.Sound (present = some other))
    (others : ∀ other ≠ index, later = some other ↔ present = some other)
    (isSound : replaced.Sound (later = some index)) :
    ∀ (other : Nat) (connection : Connection Element Observer),
      (connections.set index replaced)[other]? = some connection →
        connection.Sound (later = some other) :=
  forall_getElem?_set
    (fun other connection different found => by
      rw [others other different]
      exact sound other connection different found)
    isSound

namespace Connection.Sound

variable {connection : Connection Element Observer} {isPresent : Prop}

/-- The call of the first subscription goes on to subscribe to the source. -/
theorem connect
    (sound : connection.Sound isPresent)
    (waits : 0 < connection.connecting) :
    Connection.Sound
      { connection with
          connecting := connection.connecting - 1
          subscribing := connection.subscribing + 1
          sourceSubscriptions := connection.sourceSubscriptions + 1 }
      isPresent := by
  have connected := sound.connected
  have assigned := sound.assigned
  exact
    { present := sound.present
      deserted := sound.deserted
      connected := by
        dsimp only
        omega
      assigned := by
        dsimp only
        omega
      disconnected := sound.disconnected
      released := sound.released }

/-- The subscription is set once. -/
theorem setDisposable
    (sound : connection.Sound isPresent)
    (waits : 0 < connection.subscribing) :
    ∃ subscription,
      connection.subscription.setDisposable = .ok subscription ∧
        Connection.Sound
          { connection with
              subscribing := connection.subscribing - 1
              subscription := subscription }
          isPresent := by
  have connected := sound.connected
  have assigned := sound.assigned
  have notSet : connection.subscription.disposableSet = false := by
    cases isSet : connection.subscription.disposableSet with
    | false => rfl
    | true =>
        simp only [isSet, Bool.toNat_true] at assigned
        omega
  rw [notSet, Bool.toNat_false] at assigned
  obtain ⟨subscription, isAssigned, once, sameDisposed, isSet⟩ :=
    sound.released.setDisposable notSet
  refine ⟨subscription, isAssigned, ?_⟩
  exact
    { present := sound.present
      deserted := sound.deserted
      connected := connected
      assigned := by
        simp only [isSet, Bool.toNat_true]
        omega
      disconnected := by
        rw [sameDisposed]
        exact sound.disconnected
      released := once }

/-- The subscription is disposed of once. -/
theorem disconnect
    (sound : connection.Sound isPresent)
    (waits : 0 < connection.disconnecting) :
    Connection.Sound
      { connection with
          disconnecting := connection.disconnecting - 1
          subscription := connection.subscription.dispose }
      isPresent := by
  have disconnected := sound.disconnected
  have atMostOne : connection.disposed.toNat ≤ 1 := Bool.toNat_le _
  have notDisposed : connection.subscription.isDisposed = false := by
    cases isDisposed : connection.subscription.isDisposed with
    | false => rfl
    | true =>
        simp only [isDisposed, Bool.toNat_true] at disconnected
        omega
  rw [notDisposed, Bool.toNat_false] at disconnected
  exact
    { present := sound.present
      deserted := sound.deserted
      connected := sound.connected
      assigned := by
        rw [connection.subscription.dispose_disposableSet]
        exact sound.assigned
      disconnected := by
        simp only [connection.subscription.dispose_isDisposed, Bool.toNat_true]
        omega
      released := sound.released.dispose }

/-- A present connection whose source has ended is not present any more. -/
theorem endSource (sound : connection.Sound True) :
    Connection.Sound
      ({ connection with
          disposed := true
          observers := {}
          sourceEnded := true } : Connection Element Observer)
      False := by
  have disconnected := sound.disconnected
  have isLive := sound.present.mpr trivial
  simp only [isLive, Bool.toNat_false] at disconnected
  exact
    { present := by simp
      deserted := fun _ => rfl
      connected := sound.connected
      assigned := sound.assigned
      disconnected := by
        simp only [Bool.toNat_true]
        omega
      released := sound.released }

/-- A present connection that nobody observes is not present any more. -/
theorem desert (sound : connection.Sound True) :
    Connection.Sound
      ({ connection with
          disposed := true
          observers := {}
          disconnecting := connection.disconnecting + 1 } :
        Connection Element Observer)
      False := by
  have disconnected := sound.disconnected
  have isLive := sound.present.mpr trivial
  simp only [isLive, Bool.toNat_false] at disconnected
  exact
    { present := by simp
      deserted := fun _ => rfl
      connected := sound.connected
      assigned := sound.assigned
      disconnected := by
        simp only [Bool.toNat_true]
        omega
      released := sound.released }

end Connection.Sound

/-! ## A shared sequence serves its session -/

/-- The present connection has the observers and the latest element of the
session. -/
structure Serves
    (sharing : ShareReplay1WhileConnected Element Observer)
    (spec : Sharing Failure Element Observer) : Prop where
  opened : sharing.connections.length = spec.opened
  connection : sharing.connection = spec.session.map Session.number
  sound : ∀ (index : Nat) (connection : Connection Element Observer),
    sharing.connections[index]? = some connection →
      connection.Sound (sharing.connection = some index)
  session : ∀ session, spec.session = some session →
    session.registry.members.keys.card ≠ 0 ∧
      ∃ connection,
        sharing.connections[session.number]? = some connection ∧
          connection.observers.Represents session.registry ∧
          connection.element = session.latest

theorem serves_new :
    Serves ({} : ShareReplay1WhileConnected Element Observer)
      ({} : Sharing Failure Element Observer) where
  opened := rfl
  connection := rfl
  sound := fun _ _ found => by simp at found
  session := fun _ isSession => by cases isSession

namespace Serves

variable
    {sharing : ShareReplay1WhileConnected Element Observer}
    {spec : Sharing Failure Element Observer}
    {session : Session Element Observer}
    {index : Nat}
    {connection : Connection Element Observer}

theorem soundOthers
    (serves : sharing.Serves spec)
    (other : Nat)
    (connection : Connection Element Observer)
    (_ : other ≠ index)
    (found : sharing.connections[other]? = some connection) :
    connection.Sound (sharing.connection = some other) :=
  serves.sound other connection found

/-- The connection of the session is sound. -/
theorem sound_of_session
    (serves : sharing.Serves spec)
    (isSession : spec.session = some session)
    (found : sharing.connections[session.number]? = some connection) :
    connection.Sound True := by
  have sound := serves.sound session.number connection found
  rw [serves.connection, isSession] at sound
  simpa using sound

/-- The present connection is the one of the session. -/
theorem isPresent_iff (serves : sharing.Serves spec) :
    sharing.connection = some index ↔
      ∃ session, spec.session = some session ∧ session.number = index := by
  rw [serves.connection, Option.map_eq_some_iff]

/-- A connection other than the one of the session has no observers. -/
theorem deserted
    (serves : sharing.Serves spec)
    (found : sharing.connections[index]? = some connection)
    (notPresent : sharing.connection ≠ some index) :
    connection.disposed = true ∧ connection.observers = {} := by
  have sound := serves.sound index connection found
  have isDisposed : connection.disposed = true := by
    cases isDisposed : connection.disposed with
    | true => rfl
    | false => exact absurd (sound.present.mp isDisposed) notPresent
  exact ⟨isDisposed, sound.deserted isDisposed⟩

/-- A call that goes on changes neither the observers nor the element of its
connection. -/
theorem replace
    (serves : sharing.Serves spec)
    (found : sharing.connections[index]? = some connection)
    {replaced : Connection Element Observer}
    (sound : replaced.Sound (sharing.connection = some index))
    (sameObservers : replaced.observers = connection.observers)
    (sameElement : replaced.element = connection.element) :
    (sharing.update index replaced).Serves spec where
  opened := by
    rw [← serves.opened, ShareReplay1WhileConnected.update]
    exact List.length_set
  connection := serves.connection
  sound := sound_set _ serves.soundOthers (fun _ _ => Iff.rfl) sound
  session := by
    intro session isSession
    obtain ⟨observed, present, isPresent, represents, latest⟩ :=
      serves.session session isSession
    refine ⟨observed, ?_⟩
    simp only [ShareReplay1WhileConnected.update, List.getElem?_set]
    by_cases same : index = session.number
    · subst same
      obtain rfl : connection = present :=
        Option.some.inj (found.symm.trans isPresent)
      have inside := (List.getElem?_eq_some_iff.mp found).1
      refine ⟨replaced, by simp [inside], ?_, ?_⟩
      · rw [sameObservers]
        exact represents
      · rw [sameElement]
        exact latest
    · exact ⟨present, by simp [same, isPresent], represents, latest⟩

/-- The session goes on with other observers or another element. -/
theorem goOn
    (serves : sharing.Serves spec)
    (isSession : spec.session = some session)
    (found : sharing.connections[session.number]? = some connection)
    (replaced : Connection Element Observer)
    (sound : replaced.Sound True)
    (next : Session Element Observer)
    (sameNumber : next.number = session.number)
    (observed : next.registry.members.keys.card ≠ 0)
    (represents : replaced.observers.Represents next.registry)
    (latest : replaced.element = next.latest)
    {later : Sharing Failure Element Observer}
    (sameOpened : later.opened = spec.opened)
    (isNext : later.session = some next) :
    (sharing.update session.number replaced).Serves later := by
  have isPresent : sharing.connection = some session.number :=
    serves.isPresent_iff.mpr ⟨session, isSession, rfl⟩
  have inside := (List.getElem?_eq_some_iff.mp found).1
  constructor
  · rw [sameOpened, ← serves.opened, ShareReplay1WhileConnected.update]
    exact List.length_set
  · rw [isNext, Option.map_some, sameNumber]
    exact isPresent
  · apply sound_set _ serves.soundOthers (fun _ _ => Iff.rfl)
    simp only [isPresent]
    exact sound
  · intro other isOther
    obtain rfl : next = other := Option.some.inj (isNext.symm.trans isOther)
    refine ⟨observed, replaced, ?_, represents, latest⟩
    rw [sameNumber]
    exact List.getElem?_set_self inside

/-- The session ends. -/
theorem finish
    (serves : sharing.Serves spec)
    (isSession : spec.session = some session)
    {replaced : Connection Element Observer}
    (sound : Connection.Sound
      ({ replaced with disposed := true, observers := {} } :
        Connection Element Observer) False)
    {later : Sharing Failure Element Observer}
    (sameOpened : later.opened = spec.opened)
    (isOver : later.session = none) :
    (sharing.synchronizedDispose session.number replaced).Serves later := by
  have isPresent : sharing.connection = some session.number :=
    serves.isPresent_iff.mpr ⟨session, isSession, rfl⟩
  have noneLeft :
      (sharing.synchronizedDispose session.number replaced).connection = none := by
    simp [synchronizedDispose, isPresent]
  constructor
  · rw [sameOpened, ← serves.opened]
    exact List.length_set
  · rw [noneLeft, isOver]
    rfl
  · rw [noneLeft]
    apply sound_set _ serves.soundOthers
    · intro other different
      rw [isPresent]
      simpa using Ne.symm different
    · simpa using sound
  · intro other isOther
    rw [isOver] at isOther
    contradiction

end Serves

theorem card_insert_ne_zero
    (registry : Bag.Registry Observer)
    (observer : Observer) :
    (registry.perform (.insert observer)).members.keys.card ≠ 0 := by
  have present : BagKey.ofNat registry.issued ∈
      (registry.perform (.insert observer)).members.keys :=
    Finmap.mem_keys.mpr (Finmap.mem_insert.mpr (.inl rfl))
  exact Finset.card_ne_zero_of_mem present

namespace Serves

variable
    {inUse : InUse Failure Element Observer}
    {spec : Sharing Failure Element Observer}
    {session : Session Element Observer}
    {index : Nat}

/-- The first observer opens a session. -/
theorem subscribe_first
    (serves : inUse.sharing.Serves spec)
    (noSession : spec.session = none)
    (observer : Observer) :
    ∃ after, inUse.perform (.subscribe observer) = .ok after ∧
      after.sharing.Serves (spec.perform (.subscribe observer)) ∧
        inUse.mailing.Posts spec.sent true after.mailing
          (spec.perform (.subscribe observer)).sent := by
  have noConnection : inUse.sharing.connection = none := by
    rw [serves.connection, noSession]
    rfl
  have subscribed : inUse.sharing.subscribe observer =
      (update
        { connection := some inUse.sharing.connections.length
          connections := inUse.sharing.connections ++ [{}] }
        inUse.sharing.connections.length
        { observers := (Bag.insert {} observer).1, connecting := 1 }, none) := by
    simp only [subscribe, synchronizedConnection, noConnection,
      List.getElem?_concat_length]
    rfl
  simp only [InUse.perform, subscribed]
  refine ⟨_, rfl, ?_, ?_⟩
  · simp only [Sharing.perform, noSession]
    constructor
    · simp [update, serves.opened]
    · simp [update, serves.opened]
    · apply sound_set none
      · intro other connection different found
        rw [List.getElem?_append] at found
        split at found
        · rw [← noConnection]
          exact serves.sound other connection found
        · rename_i notInside
          have beyond : other - inUse.sharing.connections.length ≠ 0 := by omega
          simp [beyond] at found
      · intro other different
        simpa [update] using Ne.symm different
      · exact
          { present := by simp [update]
            deserted := by simp
            connected := rfl
            assigned := rfl
            disconnected := rfl
            released := rfl }
    · intro session isSession
      obtain rfl := Option.some.inj isSession
      refine ⟨card_insert_ne_zero _ _,
        { observers := (Bag.insert {} observer).1, connecting := 1 }, ?_,
        (Bag.empty_represents.insert (Nat.two_pow_pos 64) observer).2, rfl⟩
      simp [update, serves.opened]
  · simp only [Sharing.perform, noSession]
    exact .keep true

/-- An observer joins the session and is sent the latest element. -/
theorem subscribe_more
    (serves : inUse.sharing.Serves spec)
    (isSession : spec.session = some session)
    (keysLeft : session.registry.issued < 2 ^ 64)
    (observer : Observer) :
    ∃ after, inUse.perform (.subscribe observer) = .ok after ∧
      after.sharing.Serves (spec.perform (.subscribe observer)) ∧
        inUse.mailing.Posts spec.sent true after.mailing
          (spec.perform (.subscribe observer)).sent := by
  obtain ⟨observed, connection, found, represents, latest⟩ :=
    serves.session session isSession
  have isPresent : inUse.sharing.connection = some session.number := by
    rw [serves.connection, isSession]
    rfl
  have notEmpty : connection.observers.count ≠ 0 := by
    rw [represents.count]
    exact observed
  have subscribed : inUse.sharing.subscribe observer =
      (inUse.sharing.update session.number
        { connection with
            observers := (connection.observers.insert observer).1 },
        session.latest) := by
    simp only [subscribe, synchronizedConnection, isPresent, found, notEmpty,
      if_false, Nat.add_zero, latest]
  have sound := serves.sound_of_session isSession found
  simp only [InUse.perform, subscribed]
  refine ⟨_, rfl, ?_, ?_⟩
  · simp only [Sharing.perform, isSession]
    refine serves.goOn isSession found
      { connection with
          observers := (connection.observers.insert observer).1 } ?_
      { session with
          registry := session.registry.perform (.insert observer) }
      rfl (card_insert_ne_zero _ _) (represents.insert keysLeft observer).2
      latest ?_ ?_
    · exact
      { present := sound.present
        deserted := fun isDisposed => by
          rw [sound.present.mpr trivial] at isDisposed
          contradiction
        connected := sound.connected
        assigned := sound.assigned
        disconnected := sound.disconnected
        released := sound.released }
    · rfl
    · rfl
  · simp only [Sharing.perform, isSession]
    cases session.latest with
    | none => exact .keep true
    | some element => exact .hand _ _

/-- Only the session has inputs that its users see. -/
theorem other_input
    (notSession : ∀ session, spec.session = some session →
      session.number ≠ index) :
    (∀ disposeKey, spec.perform (.unsubscribe index disposeKey) = spec) ∧
      ∀ event, spec.perform (.on index event) = spec := by
  cases isSession : spec.session with
  | none => exact ⟨fun _ => by simp [Sharing.perform, isSession],
      fun _ => by simp [Sharing.perform, isSession]⟩
  | some session =>
      have different := notSession session isSession
      exact ⟨fun _ => by simp [Sharing.perform, isSession, different],
        fun _ => by simp [Sharing.perform, isSession, different]⟩

/-- An observer of the session unsubscribes. -/
theorem unsubscribe_session
    (serves : inUse.sharing.Serves spec)
    (isSession : spec.session = some session)
    (disposeKey : BagKey) :
    ∃ after,
      inUse.sharing.synchronizedUnsubscribe session.number disposeKey =
          .ok after ∧
        after.Serves (spec.perform (.unsubscribe session.number disposeKey)) := by
  obtain ⟨observed, connection, found, represents, latest⟩ :=
    serves.session session isSession
  have sound := serves.sound_of_session isSession found
  obtain ⟨observers, removed, stillRepresents⟩ :=
    represents.removeKey disposeKey
  have replaced : Connection.Sound { connection with observers := observers }
      True :=
    { present := sound.present
      deserted := fun isDisposed => by
        rw [sound.present.mpr trivial] at isDisposed
        contradiction
      connected := sound.connected
      assigned := sound.assigned
      disconnected := sound.disconnected
      released := sound.released }
  simp only [synchronizedUnsubscribe, found, removed]
  cases isMember : session.registry.members.lookup disposeKey with
  | none =>
      have sameKeys :
          (session.registry.perform (.removeKey disposeKey)).members.keys =
            session.registry.members.keys := by
        rw [Bag.Registry.perform, Finmap.keys_erase,
          Finset.erase_eq_of_notMem]
        rw [Finmap.mem_keys]
        exact Finmap.lookup_eq_none.mp isMember
      refine ⟨_, rfl, serves.goOn isSession found
        { connection with observers := observers } replaced
        { session with
            registry := session.registry.perform (.removeKey disposeKey) }
        rfl ?_ stillRepresents latest ?_ ?_⟩
      · rw [sameKeys]
        exact observed
      · simp [Sharing.perform, isSession]
      · simp [Sharing.perform, isSession, sameKeys, observed]
  | some member =>
      have counted := stillRepresents.count
      by_cases isLast :
          (session.registry.perform (.removeKey disposeKey)).members.keys.card
            = 0
      · rw [isLast] at counted
        simp only [counted, if_true]
        refine ⟨_, rfl, serves.finish isSession sound.desert ?_ ?_⟩
        · simp [Sharing.perform, isSession]
        · simp [Sharing.perform, isSession, isLast]
      · have notLast : observers.count ≠ 0 := by
          rw [counted]
          exact isLast
        simp only [notLast, if_false]
        refine ⟨_, rfl, serves.goOn isSession found
          { connection with observers := observers } replaced
          { session with
              registry := session.registry.perform (.removeKey disposeKey) }
          rfl isLast stillRepresents latest ?_ ?_⟩
        · simp [Sharing.perform, isSession]
        · simp [Sharing.perform, isSession, isLast]

/-- Unsubscribing from a connection that is over has no effect. -/
theorem unsubscribe_other
    (serves : inUse.sharing.Serves spec)
    (notSession : ∀ session, spec.session = some session →
      session.number ≠ index)
    (disposeKey : BagKey) :
    ∃ after,
      inUse.sharing.synchronizedUnsubscribe index disposeKey = .ok after ∧
        after.Serves (spec.perform (.unsubscribe index disposeKey)) := by
  rw [(other_input notSession).1]
  have notPresent : inUse.sharing.connection ≠ some index := by
    rw [ne_eq, serves.isPresent_iff]
    rintro ⟨session, isSession, sameNumber⟩
    exact notSession session isSession sameNumber
  cases found : inUse.sharing.connections[index]? with
  | none => exact ⟨_, by simp only [synchronizedUnsubscribe, found], serves⟩
  | some connection =>
      obtain ⟨_, noObservers⟩ := serves.deserted found notPresent
      have removed : connection.observers.removeKey disposeKey =
          .ok (connection.observers, none) := by
        rw [noObservers]
        rfl
      simp only [synchronizedUnsubscribe, found, removed]
      exact ⟨_, rfl, serves.replace found (serves.sound index connection found)
        rfl rfl⟩

/-- An event of the source of the session is sent to its observers. -/
theorem on_session
    (serves : inUse.sharing.Serves spec)
    (isSession : spec.session = some session)
    (event : Event Failure Element) :
    (inUse.sharing.synchronizedOn session.number event).1.Serves
        (spec.perform (.on session.number event)) ∧
      inUse.mailing.Posts spec.sent true
        (inUse.mailing.send event
          (inUse.sharing.synchronizedOn session.number event).2.dispatch)
        (spec.perform (.on session.number event)).sent := by
  obtain ⟨observed, connection, found, represents, latest⟩ :=
    serves.session session isSession
  have sound := serves.sound_of_session isSession found
  have isLive := sound.present.mpr trivial
  have sentToObservers :
      (spec.perform (.on session.number event)).sent =
        spec.sent ++ [(event, session.registry.values)] := by
    simp [Sharing.perform, isSession]
  have dispatched :
      (inUse.sharing.synchronizedOn session.number event).2 =
        connection.observers := by
    cases event <;> simp [synchronizedOn, found, isLive]
  rw [sentToObservers, dispatched]
  refine ⟨?_, .send_to represents.forEach event⟩
  have isOver (stops : ∀ element, event ≠ .next element) :
      (inUse.sharing.synchronizedDispose session.number
          { connection with sourceEnded := true }).Serves
        (spec.perform (.on session.number event)) := by
    refine serves.finish isSession sound.endSource ?_ ?_
    · simp [Sharing.perform, isSession]
    · cases event with
      | next element => exact absurd rfl (stops element)
      | error failure => simp [Sharing.perform, isSession]
      | completed => simp [Sharing.perform, isSession]
  cases event with
  | next element =>
      have replaced :
          (inUse.sharing.synchronizedOn session.number
              (.next element : Event Failure Element)).1 =
            inUse.sharing.update session.number
              { connection with element := some element } := by
        simp [synchronizedOn, found, isLive]
      rw [replaced]
      refine serves.goOn isSession found
        { connection with element := some element } ?_
        { session with latest := some element } rfl observed represents rfl ?_ ?_
      · exact
          { present := sound.present
            deserted := sound.deserted
            connected := sound.connected
            assigned := sound.assigned
            disconnected := sound.disconnected
            released := sound.released }
      · simp [Sharing.perform, isSession]
      · simp [Sharing.perform, isSession]
  | error failure =>
      simp only [synchronizedOn, found, isLive, Bool.false_eq_true, if_false]
      exact isOver (by simp)
  | completed =>
      simp only [synchronizedOn, found, isLive, Bool.false_eq_true, if_false]
      exact isOver (by simp)

/-- An event of a source whose connection is over is sent to nobody. -/
theorem on_other
    (serves : inUse.sharing.Serves spec)
    (notSession : ∀ session, spec.session = some session →
      session.number ≠ index)
    (event : Event Failure Element) :
    (inUse.sharing.synchronizedOn index event).1.Serves
        (spec.perform (.on index event)) ∧
      inUse.mailing.Posts spec.sent true
        (inUse.mailing.send event
          (inUse.sharing.synchronizedOn index event).2.dispatch)
        (spec.perform (.on index event)).sent := by
  have notPresent : inUse.sharing.connection ≠ some index := by
    rw [ne_eq, serves.isPresent_iff]
    rintro ⟨session, isSession, sameNumber⟩
    exact notSession session isSession sameNumber
  have ignored : inUse.sharing.synchronizedOn index event =
      (inUse.sharing, {}) := by
    cases found : inUse.sharing.connections[index]? with
    | none => simp only [synchronizedOn, found]
    | some connection =>
        obtain ⟨isDisposed, _⟩ := serves.deserted found notPresent
        simp only [synchronizedOn, found, isDisposed, if_true]
  rw [ignored, (other_input notSession).2]
  exact ⟨serves, .sendNobody event⟩

theorem exists_of_ofConnection
    {condition : Connection Element Observer → Prop}
    (satisfied : inUse.OfConnection index condition) :
    ∃ connection, inUse.sharing.connections[index]? = some connection ∧
      condition connection := by
  unfold InUse.OfConnection at satisfied
  split at satisfied
  · contradiction
  · exact ⟨_, ‹_›, satisfied⟩

/-- The step lemma: while keys are left, every input is served. -/
theorem perform
    (serves : inUse.sharing.Serves spec)
    (keysLeft : spec.issued < 2 ^ 64)
    {input : Input Failure Element Observer}
    (enabled : inUse.CanPerform input) :
    ∃ after, inUse.perform input = .ok after ∧
      after.sharing.Serves (spec.perform input) ∧
        inUse.mailing.Posts spec.sent (InUse.sends input) after.mailing
          (spec.perform input).sent := by
  cases input with
  | subscribe observer =>
      cases isSession : spec.session with
      | none => exact serves.subscribe_first isSession observer
      | some session =>
          rw [Sharing.issued, isSession] at keysLeft
          exact serves.subscribe_more isSession keysLeft observer
  | unsubscribe index disposeKey =>
      have unsubscribed : ∃ after,
          inUse.sharing.synchronizedUnsubscribe index disposeKey = .ok after ∧
            after.Serves (spec.perform (.unsubscribe index disposeKey)) := by
        by_cases ofSession :
          ∃ session, spec.session = some session ∧ session.number = index
        · obtain ⟨session, isSession, rfl⟩ := ofSession
          exact serves.unsubscribe_session isSession disposeKey
        · exact serves.unsubscribe_other
            (fun session isSession same => ofSession ⟨session, isSession, same⟩)
            disposeKey
      obtain ⟨after, unsubscribed, stillServes⟩ := unsubscribed
      simp only [InUse.perform, unsubscribed]
      refine ⟨_, rfl, stillServes, ?_⟩
      have sameSent : (spec.perform (.unsubscribe index disposeKey)).sent =
          spec.sent := by
        simp only [Sharing.perform]
        split
        · rfl
        · split <;> rfl
      rw [sameSent]
      exact .keep _
  | connect index =>
      obtain ⟨connection, found, waits⟩ := exists_of_ofConnection enabled
      simp only [InUse.perform, connect, found]
      have sound := (serves.sound index connection found).connect waits
      exact ⟨_, rfl, serves.replace found sound rfl rfl, .keep _⟩
  | setDisposable index =>
      obtain ⟨connection, found, waits⟩ := exists_of_ofConnection enabled
      obtain ⟨subscription, assigned, sound⟩ :=
        (serves.sound index connection found).setDisposable waits
      simp only [InUse.perform, setDisposable, found, assigned]
      exact ⟨_, rfl, serves.replace found sound rfl rfl, .keep _⟩
  | disconnect index =>
      obtain ⟨connection, found, waits⟩ := exists_of_ofConnection enabled
      simp only [InUse.perform, disconnect, found]
      have sound := (serves.sound index connection found).disconnect waits
      exact ⟨_, rfl, serves.replace found sound rfl rfl, .keep _⟩
  | on index event =>
      refine ⟨_, rfl, ?_⟩
      by_cases ofSession :
        ∃ session, spec.session = some session ∧ session.number = index
      · obtain ⟨session, isSession, rfl⟩ := ofSession
        exact serves.on_session isSession event
      · exact serves.on_other
          (fun session isSession same => ofSession ⟨session, isSession, same⟩)
          event
  | deliver dispatch => exact ⟨_, rfl, serves, .deliver enabled⟩

end Serves

namespace InUse

variable
    {inUse : InUse Failure Element Observer}
    {inputs : List (Input Failure Element Observer)}

/-- The shared sequence serves its session after every run that leaves keys. -/
structure Keeps
    (inputs : List (Input Failure Element Observer))
    (inUse : InUse Failure Element Observer) : Prop where
  serves : inUse.sharing.Serves (Sharing.after inputs)
  issued : (Sharing.after inputs).issued ≤ inputs.length

theorem keeps_new : Keeps [] ({} : InUse Failure Element Observer) where
  serves := serves_new
  issued := Nat.le_refl 0

theorem Keeps.step
    {input : Input Failure Element Observer}
    {after : InUse Failure Element Observer}
    (keeps : Keeps inputs inUse)
    (few : inputs.length < 2 ^ 64)
    (enabled : inUse.CanPerform input)
    (performed : inUse.perform input = .ok after) :
    Keeps (inputs ++ [input]) after ∧
      inUse.mailing.Posts (Sharing.after inputs).sent (sends input) after.mailing
        (Sharing.after (inputs ++ [input])).sent := by
  have issued := keeps.issued
  have oneMore := (Sharing.after inputs).issued_perform_le input
  obtain ⟨next, nextPerformed, serves, posts⟩ :=
    keeps.serves.perform (by omega) enabled
  obtain rfl : next = after :=
    Except.ok.inj (nextPerformed.symm.trans performed)
  rw [← Sharing.after_snoc] at oneMore serves posts
  refine ⟨⟨serves, ?_⟩, posts⟩
  rw [List.length_append, List.length_singleton]
  omega

/-- The step lemma: a shared sequence sends the events of its session. -/
theorem mails :
    Mailing.Mails system ({} : InUse Failure Element Observer) InUse.mailing
      (fun inputs => (Sharing.after inputs).sent) sends (2 ^ 64) Keeps where
  initially := keeps_new
  empty := rfl
  nothingSent := rfl
  step := fun _ _ _ _ keeps few enabled performed =>
    keeps.step few enabled performed

variable [DecidableEq Observer]

/-- In every interleaving, the events that an observer has received and that are
on their way to it are the latest element at each of its subscriptions, if there
was one, and the events of the source while it was subscribed, each once for each
subscription. -/
theorem no_shared_event_lost_or_duplicated
    (run : system.Run {} inputs inUse)
    (few : inputs.length ≤ 2 ^ 64)
    (observer : Observer) :
    (inUse.mailing.account observer).Perm
      (Mailing.sentTo (Sharing.after inputs).sent observer) :=
  (mails.accounted_of_run run few).2 observer

/-- A second observer joins in the middle of the dispatch of an element, is
handed it, and receives only the next one from the source. -/
theorem no_shared_event_lost_or_duplicated_joining :
    ∃ inUse : InUse Unit Nat Nat,
      system.Run {}
          [.subscribe 1, .connect 0, .on 0 (.next 10), .subscribe 2,
            .on 0 (.next 20), .deliver 1, .deliver 0, .deliver 1]
          inUse ∧
        inUse.mailing.arrivals 1 = [.next 20, .next 10] ∧
        (inUse.mailing.account 2).Perm [.next 10, .next 20] := by
  have run : system.Run {}
      [.subscribe 1, .connect 0, .on 0 (.next 10), .subscribe 2,
        .on 0 (.next 20), .deliver 1, .deliver 0, .deliver 1]
      (_ : InUse Unit Nat Nat) :=
    System.run_of_replay rfl
  exact ⟨_, run, rfl, no_shared_event_lost_or_duplicated run (by decide) 2⟩

/-- When no event and no subscription comes in the middle of a dispatch, an
observer receives the shared events in order. -/
theorem shared_events_received_in_order
    (run : inTurn.Run {} inputs inUse)
    (few : inputs.length ≤ 2 ^ 64)
    (quiet : inUse.mailing.Quiet)
    (observer : Observer) :
    inUse.mailing.arrivals observer =
      Mailing.sentTo (Sharing.after inputs).sent observer := by
  rw [← quiet.account_eq]
  exact (mails.ordered_of_run run few).2 observer

/-- An observer that joins receives the latest element and then the next one. -/
theorem shared_events_received_in_order_joining :
    ∃ inUse : InUse Unit Nat Nat,
      inTurn.Run {}
          [.subscribe 1, .connect 0, .on 0 (.next 10), .deliver 0, .subscribe 2,
            .on 0 (.next 20), .deliver 1, .deliver 1]
          inUse ∧
        inUse.mailing.arrivals 2 = [.next 10, .next 20] := by
  have run : inTurn.Run {}
      [.subscribe 1, .connect 0, .on 0 (.next 10), .deliver 0, .subscribe 2,
        .on 0 (.next 20), .deliver 1, .deliver 1]
      (_ : InUse Unit Nat Nat) :=
    System.run_of_replay rfl
  exact ⟨_, run,
    shared_events_received_in_order run (by decide) (by decide) 2⟩

end InUse
end ShareReplay1WhileConnected
end RxSwift
end MVVMExample
