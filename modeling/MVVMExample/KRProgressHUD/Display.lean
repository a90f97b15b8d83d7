import Mathlib.Data.List.Basic
import Mathlib.Data.List.Perm.Basic
import MVVMExample.Transition.System

/-!
# The head-up display

The screens show the outcome of their requests on a display of its own window. A
request to show a message lays it out on the main queue, cancels the handler that
would hide the message before it, and fades the display in from a second block,
which registers the next handler. A handler runs on another queue and hides the
display in two actions.

Time is left out: delayed blocks, handlers and animations end in any order. In
every interleaving the window of the application is the key window whenever the
display is not visible, and no message is lost or displayed twice. Unless a
handler is interrupted between its actions, the display does not stay on the
screen.
-/

namespace MVVMExample

open Transition

/-- The icons of messages. -/
inductive KRProgressHUDIconType
  | success
  | info
  | warning
  | error
  deriving DecidableEq

/-- The views of the display that depend on its message. -/
structure HUDLayout (Image : Type*) where
  iconViewHidden : Bool := false
  activityIndicatorAnimating : Bool := false
  iconDrawingHidden : Bool := true
  iconPath : Option KRProgressHUDIconType := none
  imageHidden : Bool := true
  image : Option Image := none
  messageHidden : Bool := false
  messageText : Option String := none
  sideMarginsActive : Bool := true
  iconConstraintsActive : Bool := true
  messageConstraintsActive : Bool := true
  messageMinWidthActive : Bool := true
  deriving DecidableEq

/-- A request to show a message. -/
structure HUDRequest (Image : Type*) where
  message : Option String := none
  iconType : Option KRProgressHUDIconType := none
  image : Option Image := none
  isOnlyText : Bool := false
  isLoading : Bool := false
  deriving DecidableEq

/-- A handler that has been registered: whether it was cancelled, and whether it
has started. -/
structure DispatchWorkItem where
  isCancelled : Bool := false
  isStarted : Bool := false
  deriving DecidableEq

/-- A handler that is going to start. -/
def DispatchWorkItem.isLive (handler : DispatchWorkItem) : Bool :=
  !handler.isCancelled && !handler.isStarted

/-- The windows that may be the key window. -/
inductive KeyWindow
  | application
  | display
  deriving DecidableEq

/-- A block on the main queue. -/
inductive HUDBlock (Image : Type*)
  | show (request : HUDRequest Image)
  | dismiss
  deriving DecidableEq

/-- The display, the blocks on the main queue, the delayed blocks with their
delays in milliseconds, the number of handlers that have asked to hide the display
and have not cancelled the current handler yet, and the number of animations that
fade the display out. The history has the requests that were faded in. -/
structure KRProgressHUD (Image : Type*) where
  layout : HUDLayout Image := {}
  isVisible : Bool := false
  keyWindow : KeyWindow := .application
  appWindow : Option KeyWindow := none
  windowHidden : Bool := true
  dismissHandler : Option Nat := none
  handlers : List DispatchWorkItem := []
  mainQueue : List (HUDBlock Image) := []
  delayed : List (Nat × HUDRequest Image) := []
  cancelling : Nat := 0
  fadingOut : Nat := 0
  fadedIn : List (HUDRequest Image) := []
  deriving DecidableEq

namespace KRProgressHUD

variable {Image : Type*}

/-! ## Requests -/

/-- Show that something is loading, until the display is dismissed. -/
def showWithMessage (message : Option String) : HUDRequest Image :=
  { message := message, isLoading := true }

/-- Show a message with an icon. -/
def showIcon
    (iconType : KRProgressHUDIconType)
    (message : Option String) : HUDRequest Image :=
  { message := message, iconType := some iconType }

def showSuccess (message : Option String) : HUDRequest Image :=
  showIcon .success message

def showInfo (message : Option String) : HUDRequest Image :=
  showIcon .info message

def showWarning (message : Option String) : HUDRequest Image :=
  showIcon .warning message

def showError (message : Option String) : HUDRequest Image :=
  showIcon .error message

/-- Show an image. -/
def showImage (image : Image) (message : Option String) : HUDRequest Image :=
  { message := message, image := some image }

/-- Show a message only. -/
def showMessage (message : String) : HUDRequest Image :=
  { message := some message, isOnlyText := true }

/-! ## Layouts -/

/-- Undo what the last message did to the views. -/
def resetLayouts (layout : HUDLayout Image) : HUDLayout Image :=
  { layout with
      iconViewHidden := false
      activityIndicatorAnimating := false
      iconDrawingHidden := true
      iconPath := none
      image := none
      imageHidden := true
      messageHidden := false
      sideMarginsActive := true
      iconConstraintsActive := true
      messageConstraintsActive := true
      messageMinWidthActive := true }

/-- Show or hide the label of a message that is not only text. -/
def hideMessage
    (request : HUDRequest Image)
    (layout : HUDLayout Image) : HUDLayout Image :=
  if request.message.isNone then
    { layout with
        messageHidden := true
        messageConstraintsActive := false
        messageMinWidthActive := false
        sideMarginsActive := false }
  else layout

/-- Lay out a message. -/
def updateLayouts
    (request : HUDRequest Image)
    (layout : HUDLayout Image) : HUDLayout Image :=
  let layout := { resetLayouts layout with messageText := request.message }
  if request.isOnlyText then
    { layout with
        iconViewHidden := true
        iconConstraintsActive := false
        messageMinWidthActive := false }
  else
    let layout := hideMessage request layout
    match request.iconType, request.image with
    | none, none => { layout with activityIndicatorAnimating := true }
    | none, some image =>
        { layout with imageHidden := false, image := some image }
    | some iconType, _ =>
        { layout with iconDrawingHidden := false, iconPath := some iconType }

/-- The layout of a message does not depend on the messages before it. -/
theorem updateLayouts_eq
    (request : HUDRequest Image)
    (layout : HUDLayout Image) :
    updateLayouts request layout = updateLayouts request {} := by
  rfl

/-! ## The display -/

/-- How long the display fades, in milliseconds. -/
def fadeTime : Nat := 200

/-- Cancel the handler that would hide the display, and say whether it has been
cancelled. -/
def cancelCurrentDismissHandler (hud : KRProgressHUD Image) :
    Bool × KRProgressHUD Image :=
  match hud.dismissHandler with
  | none => (true, hud)
  | some index =>
      let handlers := hud.handlers.modify index fun handler =>
        { handler with isCancelled := true }
      (handlers[index]?.all DispatchWorkItem.isCancelled,
        { hud with handlers := handlers, dismissHandler := none })

/-- Register a handler that hides the display. -/
def registerDismissHandler (hud : KRProgressHUD Image) : KRProgressHUD Image :=
  { hud with
      dismissHandler := some hud.handlers.length
      handlers := hud.handlers ++ [{}] }

/-- Fade the display in, in its window. -/
def fadeInView (hud : KRProgressHUD Image) : KRProgressHUD Image :=
  if hud.isVisible then hud
  else
    { hud with
        isVisible := true
        appWindow := some hud.keyWindow
        keyWindow := .display
        windowHidden := false }

/-- The display has faded out, and the window before it is the key window. -/
def fadedOut (hud : KRProgressHUD Image) : KRProgressHUD Image :=
  { hud with
      isVisible := false
      keyWindow := hud.appWindow.getD hud.keyWindow
      appWindow := none
      windowHidden := true
      layout := { hud.layout with activityIndicatorAnimating := false }
      fadingOut := hud.fadingOut - 1 }

/-- The block of a request on the main queue: lay out the message, and fade in
later. -/
def runShow
    (hud : KRProgressHUD Image)
    (request : HUDRequest Image) : KRProgressHUD Image :=
  let cancelled :=
    { hud with layout := updateLayouts request hud.layout
    }.cancelCurrentDismissHandler
  let deadline := if cancelled.1 then 0 else fadeTime
  { cancelled.2 with delayed := cancelled.2.delayed ++ [(deadline, request)] }

/-- The main queue runs its first block. -/
def runMain (hud : KRProgressHUD Image) : KRProgressHUD Image :=
  match hud.mainQueue with
  | [] => hud
  | .show request :: rest => { hud with mainQueue := rest }.runShow request
  | .dismiss :: rest =>
      { hud with mainQueue := rest, fadingOut := hud.fadingOut + 1 }

/-- A delayed block: fade in, and register a handler unless something is
loading. -/
def runDelayed
    (hud : KRProgressHUD Image)
    (position : Nat) : KRProgressHUD Image :=
  match hud.delayed[position]? with
  | none => hud
  | some (_, request) =>
      let shown :=
        { hud with
            delayed := hud.delayed.eraseIdx position
            fadedIn := hud.fadedIn ++ [request] }.fadeInView
      if request.isLoading then shown else shown.registerDismissHandler

/-- A handler starts, and asks to hide the display. -/
def startHandler
    (hud : KRProgressHUD Image)
    (index : Nat) : KRProgressHUD Image :=
  { hud with
      handlers := hud.handlers.modify index fun handler =>
        { handler with isStarted := true }
      mainQueue := hud.mainQueue ++ [.dismiss]
      cancelling := hud.cancelling + 1 }

/-- A handler that has asked to hide the display cancels the current one. -/
def finishHandler (hud : KRProgressHUD Image) : KRProgressHUD Image :=
  { hud with cancelling := hud.cancelling - 1 }.cancelCurrentDismissHandler.2

/-- Uses of the display on any thread, and the progress of queues, handlers and
animations. -/
inductive Input (Image : Type*)
  | showRequest (request : HUDRequest Image)
  | dismissRequest
  | runMain
  | runDelayed (position : Nat)
  | startHandler (index : Nat)
  | finishHandler
  | fadedOut
  deriving DecidableEq

/-- Perform one input. -/
def perform (hud : KRProgressHUD Image) : Input Image → KRProgressHUD Image
  | .showRequest request =>
      { hud with mainQueue := hud.mainQueue ++ [.show request] }
  | .dismissRequest => { hud with mainQueue := hud.mainQueue ++ [.dismiss] }
  | .runMain => hud.runMain
  | .runDelayed position => hud.runDelayed position
  | .startHandler index => hud.startHandler index
  | .finishHandler => hud.finishHandler
  | .fadedOut => hud.fadedOut

/-- A handler starts unless it was cancelled before; the rest goes on where it
is. -/
def CanPerform (hud : KRProgressHUD Image) : Input Image → Prop
  | .runMain => hud.mainQueue ≠ []
  | .runDelayed position => position < hud.delayed.length
  | .startHandler index => hud.handlers[index]?.any DispatchWorkItem.isLive = true
  | .finishHandler => 0 < hud.cancelling
  | .fadedOut => 0 < hud.fadingOut
  | _ => True

/-- No handler is interrupted between its actions by the display fading in. -/
def Uninterrupted (hud : KRProgressHUD Image) : Input Image → Prop
  | .runDelayed _ => hud.cancelling = 0
  | _ => True

/-- The display in any interleaving. -/
def system : System (KRProgressHUD Image) (Input Image) Empty where
  Enabled := CanPerform
  step := fun hud input => .ok (hud.perform input)

instance (hud : KRProgressHUD Image) (input : Input Image) :
    Decidable (hud.CanPerform input) :=
  match input with
  | .showRequest _ => inferInstanceAs (Decidable True)
  | .dismissRequest => inferInstanceAs (Decidable True)
  | .runMain => decidable_of_iff (hud.mainQueue.isEmpty = false) (by simp [CanPerform])
  | .runDelayed _ => inferInstanceAs (Decidable (_ < _))
  | .startHandler _ => inferInstanceAs (Decidable (_ = true))
  | .finishHandler => inferInstanceAs (Decidable (_ < _))
  | .fadedOut => inferInstanceAs (Decidable (_ < _))

instance (hud : KRProgressHUD Image) (input : Input Image) :
    Decidable (hud.Uninterrupted input) :=
  match input with
  | .showRequest _ => inferInstanceAs (Decidable True)
  | .dismissRequest => inferInstanceAs (Decidable True)
  | .runMain => inferInstanceAs (Decidable True)
  | .runDelayed _ => inferInstanceAs (Decidable (_ = 0))
  | .startHandler _ => inferInstanceAs (Decidable True)
  | .finishHandler => inferInstanceAs (Decidable True)
  | .fadedOut => inferInstanceAs (Decidable True)

instance (hud : KRProgressHUD Image) (input : Input Image) :
    Decidable (system.Enabled hud input) :=
  inferInstanceAs (Decidable (hud.CanPerform input))

/-- The display when no handler is interrupted. -/
def uninterrupted : System (KRProgressHUD Image) (Input Image) Empty :=
  system.restrict Uninterrupted

instance (hud : KRProgressHUD Image) (input : Input Image) :
    Decidable (uninterrupted.Enabled hud input) :=
  inferInstanceAs (Decidable (_ ∧ _))

/-! ## What cancelling changes -/

/-- The current handler is cancelled as soon as it is asked to be. -/
@[simp] theorem cancelCurrentDismissHandler_fst (hud : KRProgressHUD Image) :
    hud.cancelCurrentDismissHandler.1 = true := by
  unfold cancelCurrentDismissHandler
  split
  · rfl
  · rename_i index _
    dsimp only
    rw [List.getElem?_modify_eq]
    cases hud.handlers[index]? <;> rfl

/-- Only handlers change. -/
theorem cancelCurrentDismissHandler_snd (hud : KRProgressHUD Image) :
    ∃ handlers dismissHandler, hud.cancelCurrentDismissHandler.2 =
      { hud with handlers := handlers, dismissHandler := dismissHandler } := by
  unfold cancelCurrentDismissHandler
  split
  · exact ⟨hud.handlers, hud.dismissHandler, rfl⟩
  · exact ⟨_, none, rfl⟩

/-- The block of a request always fades the display in without a delay. -/
theorem runShow_eq
    (hud : KRProgressHUD Image)
    (request : HUDRequest Image) :
    ∃ handlers dismissHandler, hud.runShow request =
      { hud with
          layout := updateLayouts request {}
          handlers := handlers
          dismissHandler := dismissHandler
          delayed := hud.delayed ++ [(0, request)] } := by
  obtain ⟨handlers, dismissHandler, cancelled⟩ :=
    cancelCurrentDismissHandler_snd
      { hud with layout := updateLayouts request hud.layout }
  refine ⟨handlers, dismissHandler, ?_⟩
  unfold runShow
  dsimp only
  rw [cancelCurrentDismissHandler_fst, if_pos rfl, cancelled,
    updateLayouts_eq request hud.layout]

/-! ## Windows and messages -/

/-- The requests of a list of inputs, in order. -/
def requested (inputs : List (Input Image)) : List (HUDRequest Image) :=
  inputs.filterMap fun input =>
    match input with
    | .showRequest request => some request
    | _ => none

/-- The requests that wait on the main queue. -/
def waiting (mainQueue : List (HUDBlock Image)) : List (HUDRequest Image) :=
  mainQueue.filterMap fun block =>
    match block with
    | .show request => some request
    | .dismiss => none

/-- The layout of the last message. -/
def layoutOf (laidOut : List (HUDRequest Image)) : HUDLayout Image :=
  match laidOut.getLast? with
  | none => {}
  | some request => updateLayouts request {}

/-- A layout without the animation that is stopped when the display has faded
out. -/
def still (layout : HUDLayout Image) : HUDLayout Image :=
  { layout with activityIndicatorAnimating := false }

/-- The display is visible just when its window is the key window, and then it
returns to the window of the application. -/
def WindowsReturn (hud : KRProgressHUD Image) : Prop :=
  if hud.isVisible then
    hud.keyWindow = .display ∧ hud.appWindow = some .application ∧
      hud.windowHidden = false
  else
    hud.keyWindow = .application ∧ hud.appWindow = none ∧
      hud.windowHidden = true

/-- The requests have been laid out in order, and each that has been laid out has
been faded in once or is about to be, without a delay. -/
structure Displays
    (requests : List (HUDRequest Image))
    (hud : KRProgressHUD Image) : Prop where
  windows : hud.WindowsReturn
  prompt : ∀ block ∈ hud.delayed, block.1 = 0
  messages : ∃ laidOut,
    requests = laidOut ++ waiting hud.mainQueue ∧
      (hud.fadedIn ++ hud.delayed.map Prod.snd).Perm laidOut ∧
        still hud.layout = still (layoutOf laidOut)

namespace Displays

variable
    {requests : List (HUDRequest Image)}
    {hud : KRProgressHUD Image}

theorem new : ({} : KRProgressHUD Image).Displays [] where
  windows := ⟨rfl, rfl, rfl⟩
  prompt := fun _ impossible => absurd impossible List.not_mem_nil
  messages := ⟨[], rfl, .refl _, rfl⟩

/-- A request waits on the main queue. -/
theorem request
    (displays : hud.Displays requests)
    (request : HUDRequest Image) :
    (hud.perform (.showRequest request)).Displays (requests ++ [request]) where
  windows := displays.windows
  prompt := displays.prompt
  messages := by
    obtain ⟨laidOut, isRequests, once, layout⟩ := displays.messages
    refine ⟨laidOut, ?_, once, layout⟩
    rw [isRequests, List.append_assoc]
    simp [perform, waiting]

/-- A block that hides the display waits on the main queue. -/
theorem enqueueDismiss
    (displays : hud.Displays requests)
    (handlers : List DispatchWorkItem)
    (cancelling : Nat) :
    Displays requests
      { hud with
          mainQueue := hud.mainQueue ++ [.dismiss]
          handlers := handlers
          cancelling := cancelling } where
  windows := displays.windows
  prompt := displays.prompt
  messages := by
    obtain ⟨laidOut, isRequests, once, layout⟩ := displays.messages
    refine ⟨laidOut, ?_, once, layout⟩
    rw [isRequests]
    simp [waiting]

/-- The main queue lays out a message, or starts to hide the display. -/
theorem runMain (displays : hud.Displays requests) :
    hud.runMain.Displays requests := by
  obtain ⟨laidOut, isRequests, once, layout⟩ := displays.messages
  unfold KRProgressHUD.runMain
  split
  · exact displays
  · rename_i request rest isQueue
    obtain ⟨handlers, dismissHandler, shown⟩ :=
      runShow_eq { hud with mainQueue := rest } request
    rw [shown]
    rw [isQueue] at isRequests
    exact
      { windows := displays.windows
        prompt := by
          intro block present
          rcases List.mem_append.mp present with before | new
          · exact displays.prompt block before
          · rw [List.mem_singleton.mp new]
        messages := by
          refine ⟨laidOut ++ [request], ?_, ?_, ?_⟩
          · rw [isRequests, List.append_assoc]
            rfl
          · rw [List.map_append, ← List.append_assoc]
            exact once.append_right _
          · simp [layoutOf] }
  · rename_i rest isQueue
    rw [isQueue] at isRequests
    exact
      { windows := displays.windows
        prompt := displays.prompt
        messages := ⟨laidOut, isRequests, once, layout⟩ }

theorem fadeInView (displays : hud.Displays requests) :
    hud.fadeInView.Displays requests := by
  have windows := displays.windows
  unfold KRProgressHUD.fadeInView
  unfold WindowsReturn at windows
  split
  · exact displays
  · rename_i hidden
    rw [if_neg hidden] at windows
    exact
      { windows := ⟨rfl, congrArg some windows.1, rfl⟩
        prompt := displays.prompt
        messages := displays.messages }

theorem registerDismissHandler (displays : hud.Displays requests) :
    hud.registerDismissHandler.Displays requests where
  windows := displays.windows
  prompt := displays.prompt
  messages := displays.messages

/-- A delayed block fades a message in that has been laid out. -/
theorem runDelayed
    (displays : hud.Displays requests)
    {position : Nat}
    (inside : position < hud.delayed.length) :
    (hud.runDelayed position).Displays requests := by
  obtain ⟨laidOut, isRequests, once, layout⟩ := displays.messages
  have found := List.getElem?_eq_getElem inside
  have taken : (hud.fadedIn ++ [(hud.delayed[position]).2] ++
      (hud.delayed.eraseIdx position).map Prod.snd).Perm
        (hud.fadedIn ++ hud.delayed.map Prod.snd) := by
    rw [List.append_assoc]
    apply List.Perm.append_left
    exact (List.getElem_cons_eraseIdx_perm inside).map Prod.snd
  have faded : Displays requests
      { hud with
          delayed := hud.delayed.eraseIdx position
          fadedIn := hud.fadedIn ++ [(hud.delayed[position]).2] } :=
    { windows := displays.windows
      prompt := fun block present =>
        displays.prompt block (List.mem_of_mem_eraseIdx present)
      messages := ⟨laidOut, isRequests, taken.trans once, layout⟩ }
  unfold KRProgressHUD.runDelayed
  rw [found]
  dsimp only
  split
  · exact faded.fadeInView
  · exact faded.fadeInView.registerDismissHandler

/-- The display has faded out. -/
theorem fadedOut (displays : hud.Displays requests) :
    hud.fadedOut.Displays requests where
  windows := by
    have windows := displays.windows
    unfold WindowsReturn at windows
    split at windows
    · exact ⟨by rw [KRProgressHUD.fadedOut, windows.2.1]; rfl, rfl, rfl⟩
    · refine ⟨?_, rfl, rfl⟩
      rw [KRProgressHUD.fadedOut, windows.2.1]
      exact windows.1
  prompt := displays.prompt
  messages := displays.messages

/-- The step lemma. -/
theorem step
    {inputs : List (Input Image)}
    (displays : hud.Displays (requested inputs))
    {input : Input Image}
    (enabled : hud.CanPerform input) :
    (hud.perform input).Displays (requested (inputs ++ [input])) := by
  rw [requested, List.filterMap_append]
  cases input with
  | showRequest request => exact displays.request request
  | dismissRequest =>
      rw [List.filterMap_cons_none rfl, List.filterMap_nil, List.append_nil]
      exact displays.enqueueDismiss hud.handlers hud.cancelling
  | runMain =>
      rw [List.filterMap_cons_none rfl, List.filterMap_nil, List.append_nil]
      exact displays.runMain
  | runDelayed position =>
      rw [List.filterMap_cons_none rfl, List.filterMap_nil, List.append_nil]
      exact displays.runDelayed enabled
  | startHandler index =>
      rw [List.filterMap_cons_none rfl, List.filterMap_nil, List.append_nil]
      exact displays.enqueueDismiss _ _
  | finishHandler =>
      rw [List.filterMap_cons_none rfl, List.filterMap_nil, List.append_nil]
      obtain ⟨handlers, dismissHandler, cancelled⟩ :=
        cancelCurrentDismissHandler_snd
          { hud with cancelling := hud.cancelling - 1 }
      rw [perform, finishHandler, cancelled]
      exact
        { windows := displays.windows
          prompt := displays.prompt
          messages := displays.messages }
  | fadedOut =>
      rw [List.filterMap_cons_none rfl, List.filterMap_nil, List.append_nil]
      exact displays.fadedOut

/-- The run lemma. -/
theorem of_run
    {inputs : List (Input Image)}
    (run : system.Run {} inputs hud) :
    hud.Displays (requested inputs) := by
  refine System.Run.invariant
    (fun inputs hud => hud.Displays (requested inputs)) new ?_ run
  intro inputs input before after displays enabled performed
  cases performed
  exact displays.step enabled

end Displays
/-- The display is going to be hidden. -/
def Leaving (hud : KRProgressHUD Image) : Prop :=
  0 < hud.fadingOut ∨ .dismiss ∈ hud.mainQueue

/-- A visible display is going to be hidden, unless something has been loading; a
handler or a delayed block will see to it if no handler is between its actions. -/
def Hides (hud : KRProgressHUD Image) : Prop :=
  hud.isVisible = true →
    (∃ request ∈ hud.fadedIn, request.isLoading = true) ∨ hud.Leaving ∨
      (hud.cancelling = 0 ∧
        (hud.delayed ≠ [] ∨ ∃ handler ∈ hud.handlers, handler.isLive = true))

namespace Hides

variable {hud after : KRProgressHUD Image}

/-- What was going to be hidden still is. -/
theorem leaving
    (hides : hud.Hides)
    (busy : 0 < hud.cancelling)
    (sameVisible : after.isVisible = hud.isVisible)
    (sameFadedIn : after.fadedIn = hud.fadedIn)
    (still : hud.Leaving → after.Leaving) :
    after.Hides := by
  intro visible
  rw [sameVisible] at visible
  rcases hides visible with loading | leaving | ⟨idle, _⟩
  · rw [sameFadedIn]
    exact .inl loading
  · exact .inr (.inl (still leaving))
  · omega

/-- The display is asked to hide. -/
theorem of_leaving (leaving : after.Leaving) : after.Hides :=
  fun _ => .inr (.inl leaving)

/-- The block of a request may cancel the handler, and fades in later. -/
theorem runShow
    (hides : hud.Hides)
    (request : HUDRequest Image) :
    (hud.runShow request).Hides := by
  obtain ⟨handlers, dismissHandler, shown⟩ := runShow_eq hud request
  rw [shown]
  intro visible
  rcases hides visible with loading | leaving | ⟨idle, _⟩
  · exact .inl loading
  · exact .inr (.inl leaving)
  · exact .inr (.inr ⟨idle, .inl (by simp)⟩)

theorem runMain (hides : hud.Hides) : hud.runMain.Hides := by
  unfold KRProgressHUD.runMain
  split
  · exact hides
  · rename_i request rest isQueue
    apply runShow
    intro visible
    rcases hides visible with loading | leaving | watched
    · exact .inl loading
    · refine .inr (.inl (leaving.imp_right fun waits => ?_))
      rw [isQueue] at waits
      exact (List.mem_cons.mp waits).resolve_left (by simp)
    · exact .inr (.inr watched)
  · exact of_leaving (.inl (Nat.succ_pos _))

/-- A message that is faded in has a handler that hides it, unless something is
loading. -/
theorem runDelayed
    {position : Nat}
    (inside : position < hud.delayed.length)
    (uninterrupted : hud.cancelling = 0) :
    (hud.runDelayed position).Hides := by
  have idle (base : KRProgressHUD Image) :
      base.fadeInView.cancelling = base.cancelling := by
    unfold fadeInView
    split <;> rfl
  have sameFadedIn (base : KRProgressHUD Image) :
      base.fadeInView.fadedIn = base.fadedIn := by
    unfold fadeInView
    split <;> rfl
  unfold KRProgressHUD.runDelayed
  rw [List.getElem?_eq_getElem inside]
  dsimp only
  intro _
  split
  · rename_i isLoading
    refine .inl ⟨(hud.delayed[position]).2, ?_, isLoading⟩
    rw [sameFadedIn]
    simp
  · refine .inr (.inr ⟨(idle _).trans uninterrupted, .inr ⟨{}, ?_, rfl⟩⟩)
    simp [registerDismissHandler]

theorem finishHandler
    (hides : hud.Hides)
    (busy : 0 < hud.cancelling) :
    hud.finishHandler.Hides := by
  obtain ⟨handlers, dismissHandler, cancelled⟩ :=
    cancelCurrentDismissHandler_snd
      { hud with cancelling := hud.cancelling - 1 }
  rw [KRProgressHUD.finishHandler, cancelled]
  exact hides.leaving busy rfl rfl id

/-- The step lemma. -/
theorem step
    (hides : hud.Hides)
    {input : Input Image}
    (enabled : uninterrupted.Enabled hud input) :
    (hud.perform input).Hides := by
  obtain ⟨can, allowed⟩ := enabled
  cases input with
  | showRequest request =>
      intro visible
      rcases hides visible with loading | leaving | watched
      · exact .inl loading
      · exact .inr (.inl (leaving.imp_right fun waits =>
          List.mem_append.mpr (.inl waits)))
      · exact .inr (.inr watched)
  | dismissRequest => exact of_leaving (.inr (by simp [perform]))
  | runMain => exact hides.runMain
  | runDelayed position => exact runDelayed can allowed
  | startHandler index => exact of_leaving (.inr (by simp [perform, startHandler]))
  | finishHandler => exact hides.finishHandler can
  | fadedOut => exact fun impossible => by cases impossible

/-- The run lemma. -/
theorem of_run
    {inputs : List (Input Image)}
    (run : uninterrupted.Run {} inputs hud) :
    hud.Hides := by
  refine System.Run.invariant (fun _ hud => hud.Hides) ?_ ?_ run
  · exact fun impossible => by cases impossible
  · intro inputs input before after hides enabled performed
    cases performed
    exact hides.step enabled

end Hides

/-- Queues are empty, and no handler or animation is left. -/
structure AtRest (hud : KRProgressHUD Image) : Prop where
  mainQueue : hud.mainQueue = []
  delayed : hud.delayed = []
  handlers : ∀ handler ∈ hud.handlers, handler.isLive = false
  cancelling : hud.cancelling = 0
  fadingOut : hud.fadingOut = 0

/-- When no handler is interrupted between its actions and everything has come to
rest, a display that is still visible has shown that something is loading. -/
theorem hidden_at_rest
    {inputs : List (Input Image)}
    {hud : KRProgressHUD Image}
    (run : uninterrupted.Run {} inputs hud)
    (atRest : hud.AtRest)
    (visible : hud.isVisible = true) :
    ∃ request ∈ requested inputs, request.isLoading = true := by
  rcases Hides.of_run run visible with
    ⟨request, fadedIn, isLoading⟩ | leaving | ⟨_, watched⟩
  · obtain ⟨laidOut, isRequests, once, _⟩ :=
      (Displays.of_run run.of_restrict).messages
    refine ⟨request, ?_, isLoading⟩
    rw [isRequests]
    exact List.mem_append.mpr
      (.inl (once.mem_iff.mp (List.mem_append.mpr (.inl fadedIn))))
  · rcases leaving with animating | waits
    · rw [atRest.fadingOut] at animating
      exact absurd animating (Nat.lt_irrefl 0)
    · rw [atRest.mainQueue] at waits
      exact absurd waits List.not_mem_nil
  · rcases watched with waits | ⟨handler, present, isLive⟩
    · exact absurd atRest.delayed waits
    · rw [atRest.handlers handler present] at isLive
      contradiction

/-- Something has been loading when an error is shown, and goes on loading. -/
theorem hidden_at_rest_loading :
    ∃ hud : KRProgressHUD Empty,
      uninterrupted.Run {}
          [.showRequest (showError (some "error")),
            .showRequest (showWithMessage none), .runMain, .runDelayed 0,
            .runMain, .runDelayed 0]
          hud ∧
        hud.isVisible = true ∧
        ∃ request ∈ requested
          ([.showRequest (showError (some "error")),
            .showRequest (showWithMessage none), .runMain, .runDelayed 0,
            .runMain, .runDelayed 0] : List (Input Empty)),
          request.isLoading = true := by
  have run : uninterrupted.Run {}
      [.showRequest (showError (some "error")),
        .showRequest (showWithMessage none), .runMain, .runDelayed 0, .runMain,
        .runDelayed 0]
      (_ : KRProgressHUD Empty) :=
    System.run_of_replay rfl
  exact ⟨_, run, rfl,
    hidden_at_rest run ⟨rfl, rfl, by decide, rfl, rfl⟩ rfl⟩

/-- A handler is interrupted until the next message has its own handler, which it
cancels then: the message stays. -/
example :
    (system.replay {}
        [.showRequest (showError (some "first")), .runMain, .runDelayed 0,
          .startHandler 0, .runMain, .fadedOut,
          .showRequest (showError (some "second")), .runMain, .runDelayed 0,
          .finishHandler] :
      Option (KRProgressHUD Empty)).map
        (fun hud =>
          (hud.isVisible, hud.layout.messageText, hud.mainQueue.length,
            hud.handlers.any DispatchWorkItem.isLive)) =
      some (true, some "second", 0, false) := by
  rfl

end KRProgressHUD
end MVVMExample
