import PrinterPanel.Proofs.Recovery

/-!
# What leaves the knob alone

The knob is looked at where its samples are decoded, and nowhere else: handling a key, showing a
message and following the printer neither read it nor change it. An operation is therefore the key
that the knob gives for it, if there is one, and then a rest that would be the same with any knob.
-/

namespace PrinterPanel

open Display (Drawing)

/-- The panel with another knob. -/
def Panel.withKnob (p : Panel) (k : Knob) : Panel := { p with knob := k }

/-- The scene with another knob. -/
def Scene.withKnob (s : Scene) (k : Knob) : Scene := { s with panel := s.panel.withKnob k }

/-- An edit is abandoned alike with any knob. -/
theorem Panel.abandonEdit_withKnob (p : Panel) (k : Knob) :
    (p.withKnob k).abandonEdit = p.abandonEdit.withKnob k := by
  cases hedit : p.edit <;> simp [abandonEdit, withKnob, hedit]

namespace Act

variable {α β : Type} {act : Act α}

/-- On a panel with another knob the act does the same, and leaves that knob as it is. -/
def SparesKnob (act : Act α) : Prop :=
  ∀ a s k, act a (s.withKnob k) =
    match act a s with
    | .ok x t => .ok x (t.withKnob k)
    | .error f t => .error f (t.withKnob k)

/-! ### One rule for each kind of step -/

/-- A result that is given leaves the knob alone. -/
theorem sparesKnob_pure (x : α) : (pure x : Act α).SparesKnob := fun _ _ _ => rfl

/-- Two acts that leave the knob alone do so together. -/
theorem SparesKnob.bind {next : α → Act β} (h : act.SparesKnob)
    (hnext : ∀ x, (next x).SparesKnob) : (act >>= next).SparesKnob := by
  intro a s k
  cases hact : act a s with
  | ok x t =>
    have hact' : act a (s.withKnob k) = .ok x (t.withKnob k) := by rw [h, hact]
    rw [bind_eq hact, bind_eq hact', hnext x]
  | error f t =>
    have hact' : act a (s.withKnob k) = .error f (t.withKnob k) := by rw [h, hact]
    rw [bind_eq_error hact, bind_eq_error hact']

/-- What reads the panel may go by anything but its knob. -/
theorem SparesKnob.panel_bind {next : Panel → Act β} (hsame : ∀ p k, next (p.withKnob k) = next p)
    (hnext : ∀ p, (next p).SparesKnob) : (panel >>= next).SparesKnob := by
  intro a s k
  have hread : (panel >>= next) a (s.withKnob k) = next s.panel a (s.withKnob k) :=
    congrFun (congrFun (hsame s.panel k) a) _
  rw [hread, hnext]
  rfl

/-- A change that commutes with another knob leaves the knob alone. -/
theorem sparesKnob_change {f : Panel → Panel} (h : ∀ p k, f (p.withKnob k) = (f p).withKnob k) :
    (change f).SparesKnob := by
  intro a s k
  have hchanged : change f a (s.withKnob k) =
      .ok () { s with panel := f (s.panel.withKnob k) } := rfl
  rw [hchanged, h]
  rfl

/-- A choice of acts that leave the knob alone does so. -/
theorem SparesKnob.ite {c : Prop} [Decidable c] {first second : Act α} (h : first.SparesKnob)
    (h' : second.SparesKnob) : (if c then first else second).SparesKnob := by
  split
  · exact h
  · exact h'

/-- A look at the printer leaves the knob alone. -/
theorem sparesKnob_look : look.SparesKnob := fun _ _ _ => rfl

/-- Listing the files leaves the knob alone. -/
theorem sparesKnob_listFiles : listFiles.SparesKnob := fun _ _ _ => rfl

/-- Asking for a report leaves the knob alone. -/
theorem sparesKnob_report : report.SparesKnob := by
  apply sparesKnob_look.bind
  intro r
  cases r with
  | none => exact .panel_bind (fun _ _ => rfl) fun _ => sparesKnob_pure _
  | some r => exact sparesKnob_pure r

/-- A command leaves the knob alone. -/
theorem sparesKnob_send (c : Command) : (send c).SparesKnob := by
  intro a s k
  cases hanswer : a.command s.commands with
  | none =>
    have hanswer' : a.command (s.withKnob k).commands = none := hanswer
    rw [send_eq_ok hanswer, send_eq_ok hanswer']
    rfl
  | some r =>
    have hanswer' : a.command (s.withKnob k).commands = some r := hanswer
    rw [send_eq_error hanswer, send_eq_error hanswer']
    rfl

/-- A call to the display leaves the knob alone. -/
theorem sparesKnob_call (c : Display.Call) : (call c).SparesKnob := by
  intro a s k
  have hcalls : (s.withKnob k).displayCalls = s.displayCalls := rfl
  cases hanswer : a.display s.displayCalls with
  | none =>
    have hok (t : Scene) (ht : a.display t.displayCalls = none) :
        call c a t = .ok () (t.afterCalls [c] 1) := eq_ok (by simp [ht])
    rw [hok s hanswer, hok (s.withKnob k) (hcalls ▸ hanswer)]
    rfl
  | some f =>
    have herror (t : Scene) (ht : a.display t.displayCalls = some f) :
        call c a t = .error (.display f) (t.afterCalls [] 1) := eq_error (by simp [ht])
    rw [herror s hanswer, herror (s.withKnob k) (hcalls ▸ hanswer)]
    rfl

/-- A drawing leaves the knob alone. -/
theorem sparesKnob_draw (d : Drawing) : (draw d).SparesKnob := by
  induction d with
  | nil => exact sparesKnob_pure ()
  | cons c rest ih => exact (sparesKnob_call c).bind fun _ => ih

/-- A fault is handled without the knob if the handler does without it. -/
theorem SparesKnob.tryCatch {handler : Fault → Act α} (h : act.SparesKnob)
    (hhandler : ∀ f, (handler f).SparesKnob) :
    (MonadExcept.tryCatch act handler : Act α).SparesKnob := by
  intro a s k
  simp only [MonadExcept.tryCatch, tryCatchThe, MonadExceptOf.tryCatch]
  unfold EStateM.tryCatch
  rw [h]
  cases act a s with
  | ok x t => rfl
  | error f t => exact hhandler f a t k

/-- A drawing that is allowed to fail leaves the knob alone. -/
theorem sparesKnob_drawIfPossible (d : Drawing) : (drawIfPossible d).SparesKnob :=
  (sparesKnob_draw d).tryCatch fun _ => sparesKnob_pure ()

/-- Going to a screen leaves the knob alone. -/
theorem sparesKnob_goTo (screen : Screen) : (goTo screen).SparesKnob := by
  apply (sparesKnob_change fun _ _ => rfl).bind
  intro _
  exact .panel_bind (fun _ _ => rfl) fun _ => sparesKnob_draw _

/-! ### Keys in the menus -/

/-- Opening a list leaves the knob alone. -/
theorem sparesKnob_openList (m : ListMenu) : (openList m).SparesKnob :=
  (sparesKnob_change fun _ _ => rfl).bind fun _ => sparesKnob_goTo _

/-- Going back to a list leaves the knob alone. -/
theorem sparesKnob_backToList (m : ListMenu) (item : Nat) : (backToList m item).SparesKnob :=
  (sparesKnob_change fun _ _ => rfl).bind fun _ => sparesKnob_goTo _

/-- Going back to the main menu leaves the knob alone. -/
theorem sparesKnob_backToMainMenu (page : Nat) : (backToMainMenu page).SparesKnob :=
  (sparesKnob_change fun _ _ => rfl).bind fun _ => sparesKnob_goTo _

/-- Beginning an edit leaves the knob alone. -/
theorem sparesKnob_beginEdit (field : Field) (initial : Int) (returnTo : Screen) (row : Nat) :
    (beginEdit field initial returnTo row).SparesKnob := by
  apply (sparesKnob_change fun _ _ => rfl).bind
  intro _
  exact .panel_bind (fun _ _ => rfl) fun _ => sparesKnob_draw _

/-- Putting up the notice that a function is missing leaves the knob alone. -/
theorem sparesKnob_notAvailable : notAvailable.SparesKnob :=
  (sparesKnob_change fun _ _ => rfl).bind fun _ => sparesKnob_goTo _

/-- Opening a page from the main menu leaves the knob alone. -/
theorem sparesKnob_openPage (page : Nat) : (openPage page).SparesKnob := by
  unfold openPage
  split
  · have hload : loadFiles.SparesKnob :=
      sparesKnob_listFiles.bind fun _ => sparesKnob_change fun _ _ => rfl
    exact hload.bind fun _ => sparesKnob_openList _
  · exact sparesKnob_openList _
  · exact sparesKnob_openList _
  · exact .panel_bind (fun _ _ => rfl) fun _ => (sparesKnob_openList _).ite (sparesKnob_goTo _)

/-- A key in the main menu leaves the knob alone. -/
theorem sparesKnob_mainMenu (symbol : Symbol) : (mainMenu symbol).SparesKnob := by
  refine .panel_bind (fun _ _ => rfl) fun p => .ite ?_ ?_
  · exact .ite ((sparesKnob_change fun _ _ => rfl).bind fun _ => sparesKnob_draw _)
      (sparesKnob_pure ())
  · exact (sparesKnob_openPage _).ite (sparesKnob_pure ())

/-- Turning through a list leaves the knob alone. -/
theorem sparesKnob_turnList (m : ListMenu) (symbol : Symbol) :
    (turnList m symbol).SparesKnob := by
  refine .panel_bind (fun _ _ => rfl) fun p => ?_
  apply (sparesKnob_change fun _ _ => rfl).bind
  intro _
  split
  · exact sparesKnob_draw _
  · exact sparesKnob_pure ()

/-- A key on a list leaves the knob alone if a press does. -/
theorem sparesKnob_listKey {enter : Act Unit} (m : ListMenu) (symbol : Symbol)
    (h : enter.SparesKnob) : (listKey m enter symbol).SparesKnob :=
  (sparesKnob_turnList m symbol).ite (h.ite (sparesKnob_pure ()))

/-- A press on an entry of a list leaves the knob alone if each entry does. -/
theorem sparesKnob_withEntry {ι : Type} {m : ListMenu} {items : Features → List ι}
    {act : ι → Act Unit} (hact : ∀ item, (act item).SparesKnob) :
    (withEntry m items act).SparesKnob := by
  refine .panel_bind (fun _ _ => rfl) fun p => ?_
  split
  · exact sparesKnob_pure ()
  · exact hact _

/-- Starting a print leaves the knob alone. -/
theorem sparesKnob_startPrint (path : Files.Path) : (startPrint path).SparesKnob := by
  apply (sparesKnob_send _).bind
  intro _
  exact (sparesKnob_change fun _ _ => rfl).bind fun _ => sparesKnob_goTo _

/-- A press in the file browser leaves the knob alone. -/
theorem sparesKnob_enterFiles : enterFiles.SparesKnob := by
  refine .panel_bind (fun _ _ => rfl) fun p => ?_
  split
  · apply (sparesKnob_change fun _ _ => rfl).bind
    intro _
    exact (sparesKnob_openList _).ite (sparesKnob_backToMainMenu _)
  · apply (sparesKnob_change fun _ _ => rfl).bind
    intro _
    split
    · exact sparesKnob_pure ()
    · exact sparesKnob_openList _
    · exact sparesKnob_startPrint _

/-- Heating for a material leaves the knob alone. -/
theorem sparesKnob_preheat (m : Material) : (preheat m).SparesKnob := by
  refine .panel_bind (fun _ _ => rfl) fun p => ?_
  apply (sparesKnob_send _).bind
  intro _
  apply (sparesKnob_send _).bind
  intro _
  exact (sparesKnob_send _).ite (sparesKnob_pure ())

/-- A press in the prepare menu leaves the knob alone. -/
theorem sparesKnob_enterPrepare : enterPrepare.SparesKnob := by
  apply sparesKnob_withEntry
  intro item
  cases item with
  | back => exact sparesKnob_backToMainMenu _
  | move => exact (sparesKnob_send _).bind fun _ => sparesKnob_openList _
  | disableSteppers => exact sparesKnob_send _
  | home =>
    apply (sparesKnob_send _).bind
    intro _
    exact (sparesKnob_change fun _ _ => rfl).bind fun _ => sparesKnob_goTo _
  | zOffset =>
    apply sparesKnob_report.bind
    intro r
    exact .panel_bind (fun _ _ => rfl) fun _ => sparesKnob_beginEdit _ _ _ _
  | preheatPla => exact sparesKnob_preheat _
  | preheatTpu => exact sparesKnob_preheat _
  | cooldown =>
    exact (sparesKnob_send _).bind fun _ => (sparesKnob_send _).bind fun _ => sparesKnob_send _

/-- A press in the control menu leaves the knob alone. -/
theorem sparesKnob_enterControl : enterControl.SparesKnob := by
  apply sparesKnob_withEntry
  intro item
  cases item with
  | back => exact sparesKnob_backToMainMenu _
  | temperature => exact sparesKnob_openList _
  | motion => exact sparesKnob_openList _
  | info => exact sparesKnob_goTo _

/-- A press in the list of macros leaves the knob alone. -/
theorem sparesKnob_enterMisc : enterMisc.SparesKnob := by
  refine .panel_bind (fun _ _ => rfl) fun p => ?_
  split
  · exact (sparesKnob_change fun _ _ => rfl).bind fun _ => sparesKnob_backToMainMenu _
  · split
    · exact sparesKnob_pure ()
    · exact sparesKnob_send _

/-- A key on the page about the machine leaves the knob alone. -/
theorem sparesKnob_info (symbol : Symbol) : (info symbol).SparesKnob := by
  refine .ite (.panel_bind (fun _ _ => rfl) fun p => ?_) (sparesKnob_pure ())
  exact (sparesKnob_backToList _ _).ite (sparesKnob_backToMainMenu _)

/-- A press in the motion menu leaves the knob alone. -/
theorem sparesKnob_enterMotion : enterMotion.SparesKnob := by
  apply sparesKnob_withEntry
  intro item
  cases item with
  | back => exact sparesKnob_backToList _ _
  | maxSpeed | maxAcceleration | maxJerk | steps => exact sparesKnob_notAvailable

/-- A key in an editor of the motion limits leaves the knob alone. -/
theorem sparesKnob_motionEditor (symbol : Symbol) : (motionEditor symbol).SparesKnob :=
  sparesKnob_notAvailable.ite (sparesKnob_pure ())

/-- A press in the tune menu leaves the knob alone. -/
theorem sparesKnob_enterTune : enterTune.SparesKnob := by
  apply sparesKnob_withEntry
  intro item
  apply sparesKnob_report.bind
  intro r
  refine .panel_bind (fun _ _ => rfl) fun p => ?_
  cases item with
  | back => exact (sparesKnob_change fun _ _ => rfl).bind fun _ => sparesKnob_goTo _
  | speed | hotend | bed | fan | zOffset => exact sparesKnob_beginEdit _ _ _ _

/-- Beginning to move an axis leaves the knob alone. -/
theorem sparesKnob_beginMove (axis : Axis) : (beginMove axis).SparesKnob := by
  apply sparesKnob_report.bind
  intro r
  refine .panel_bind (fun _ _ => rfl) fun p => ?_
  split
  · exact (sparesKnob_goTo _).ite (sparesKnob_beginEdit _ _ _ _)
  · exact sparesKnob_beginEdit _ _ _ _

/-- A press in the axis menu leaves the knob alone. -/
theorem sparesKnob_enterAxes : enterAxes.SparesKnob := by
  apply sparesKnob_withEntry
  intro item
  split
  · exact .panel_bind (fun _ _ => rfl) fun _ => sparesKnob_backToList _ _
  · exact sparesKnob_beginMove _

/-- A press in the temperature menu leaves the knob alone. -/
theorem sparesKnob_enterTemperature : enterTemperature.SparesKnob := by
  apply sparesKnob_withEntry
  intro item
  apply sparesKnob_report.bind
  intro r
  refine .panel_bind (fun _ _ => rfl) fun p => ?_
  cases item with
  | back => exact sparesKnob_backToList _ _
  | plaPreset | tpuPreset => exact sparesKnob_openList _
  | hotend | bed | fan => exact sparesKnob_beginEdit _ _ _ _

/-- A press in the menu of a preset leaves the knob alone. -/
theorem sparesKnob_enterPreset (m : Material) : (enterPreset m).SparesKnob := by
  apply sparesKnob_withEntry
  intro item
  refine .panel_bind (fun _ _ => rfl) fun p => ?_
  cases item with
  | back => exact sparesKnob_backToList _ _
  | save => exact sparesKnob_send _
  | hotend | bed | fan => exact sparesKnob_beginEdit _ _ _ _

/-! ### Keys during a print, on popups and while probing -/

/-- Asking a question leaves the knob alone. -/
theorem sparesKnob_ask (action : PrintAction) : (ask action).SparesKnob :=
  (sparesKnob_change fun _ _ => rfl).bind fun _ => sparesKnob_goTo _

/-- A button of the print screen leaves the knob alone. -/
theorem sparesKnob_pressPrintButton (button : Nat) : (pressPrintButton button).SparesKnob := by
  unfold pressPrintButton
  split
  · exact (sparesKnob_change fun _ _ => rfl).bind fun _ => sparesKnob_goTo _
  · refine .panel_bind (fun _ _ => rfl) fun p => .ite ?_ (sparesKnob_ask _)
    apply (sparesKnob_send _).bind
    intro _
    apply (sparesKnob_change fun _ _ => rfl).bind
    intro _
    exact .panel_bind (fun _ _ => rfl) fun _ => sparesKnob_draw _
  · exact sparesKnob_ask _

/-- A key on the print screen leaves the knob alone. -/
theorem sparesKnob_printProcess (symbol : Symbol) : (printProcess symbol).SparesKnob := by
  refine .panel_bind (fun _ _ => rfl) fun p => .ite ?_ (.ite ?_ ?_)
  · exact .ite ((sparesKnob_change fun _ _ => rfl).bind fun _ => sparesKnob_goTo _)
      (sparesKnob_pure ())
  · exact .ite ((sparesKnob_change fun _ _ => rfl).bind fun _ => sparesKnob_draw _)
      (sparesKnob_pure ())
  · exact (sparesKnob_pressPrintButton _).ite (sparesKnob_pure ())

/-- Turning the answer to a question leaves the knob alone. -/
theorem sparesKnob_turnAnswer (symbol : Symbol) : (turnAnswer symbol).SparesKnob := by
  refine .panel_bind (fun _ _ => rfl) fun p => .ite ?_ (sparesKnob_pure ())
  exact (sparesKnob_change fun _ _ => rfl).bind fun _ => sparesKnob_draw _

/-- An answer to a question leaves the knob alone. -/
theorem sparesKnob_giveAnswer : giveAnswer.SparesKnob := by
  refine .panel_bind (fun _ _ => rfl) fun p => ?_
  apply (sparesKnob_change fun _ _ => rfl).bind
  intro _
  split
  · apply (sparesKnob_send _).bind
    intro _
    exact (sparesKnob_change fun _ _ => rfl).bind fun _ => sparesKnob_goTo _
  · apply (sparesKnob_send _).bind
    intro _
    exact (sparesKnob_change fun _ _ => rfl).bind fun _ => sparesKnob_goTo _
  · exact sparesKnob_goTo _

/-- A key on a question leaves the knob alone. -/
theorem sparesKnob_printWindow (symbol : Symbol) : (printWindow symbol).SparesKnob :=
  (sparesKnob_turnAnswer symbol).ite (sparesKnob_giveAnswer.ite (sparesKnob_pure ()))

/-- A key on the notice that a function is missing leaves the knob alone. -/
theorem sparesKnob_featureNotAvailable (symbol : Symbol) :
    (featureNotAvailable symbol).SparesKnob := by
  refine .ite (.panel_bind (fun _ _ => rfl) fun p => ?_) (sparesKnob_pure ())
  exact (sparesKnob_change fun _ _ => rfl).bind fun _ => sparesKnob_goTo _

/-- A key on the warning of a cold hotend leaves the knob alone. -/
theorem sparesKnob_tooCold (symbol : Symbol) : (tooCold symbol).SparesKnob :=
  (sparesKnob_goTo _).ite (sparesKnob_pure ())

/-- A key on a message leaves the knob alone. -/
theorem sparesKnob_messagePopup (symbol : Symbol) : (messagePopup symbol).SparesKnob := by
  refine .ite (.panel_bind (fun _ _ => rfl) fun p => ?_) (sparesKnob_pure ())
  exact (sparesKnob_change fun _ _ => rfl).bind fun _ => sparesKnob_goTo _

/-- A key in the browser for pictograms leaves the knob alone. -/
theorem sparesKnob_iconFinder (symbol : Symbol) : (iconFinder symbol).SparesKnob := by
  refine .ite (.panel_bind (fun _ _ => rfl) fun p => .ite ?_ (sparesKnob_pure ())) ?_
  · apply (sparesKnob_change fun _ _ => rfl).bind
    intro _
    exact .panel_bind (fun _ _ => rfl) fun _ => sparesKnob_draw _
  · exact (sparesKnob_goTo _).ite (sparesKnob_pure ())

/-- A step of the nozzle leaves the knob alone. -/
theorem sparesKnob_moveProbe (allowed : Bool) (um : Int) : (moveProbe allowed um).SparesKnob := by
  have hshow : (do
      change fun p => { p with probe := { p.probe with outOfRange := !allowed } }
      draw ((← panel).probePicture false) : Act Unit).SparesKnob := by
    apply (sparesKnob_change fun _ _ => rfl).bind
    intro _
    exact .panel_bind (fun _ _ => rfl) fun _ => sparesKnob_draw _
  exact .ite ((sparesKnob_send _).bind fun _ => hshow) hshow

/-- A key while the bed is probed by hand leaves the knob alone. -/
theorem sparesKnob_manualProbe (symbol : Symbol) : (manualProbe symbol).SparesKnob := by
  apply sparesKnob_report.bind
  intro r
  refine .panel_bind (fun _ _ => rfl) fun p => ?_
  cases symbol with
  | cw | fastCw | ccw | fastCcw => exact sparesKnob_moveProbe _ _
  | enter =>
    apply (sparesKnob_change fun _ _ => rfl).bind
    intro _
    exact .panel_bind (fun _ _ => rfl) fun _ => sparesKnob_draw _
  | longEnter =>
    apply (sparesKnob_send _).bind
    intro _
    exact (sparesKnob_change fun _ _ => rfl).bind fun _ => sparesKnob_goTo _
  | idle => exact sparesKnob_pure ()

/-- The effect of an edit leaves the knob alone. -/
theorem sparesKnob_takeEffect (effect : EditEffect) : (takeEffect effect).SparesKnob := by
  unfold takeEffect
  split
  · exact sparesKnob_send _
  · exact sparesKnob_change fun _ _ => rfl

/-- Accepting an edit leaves the knob alone. -/
theorem sparesKnob_acceptEdit (e : Edit) : (acceptEdit e).SparesKnob := by
  apply (sparesKnob_change fun _ _ => rfl).bind
  intro _
  refine .panel_bind (fun _ _ => rfl) fun p => ?_
  exact (sparesKnob_draw _).bind fun _ => sparesKnob_takeEffect _

/-- A key on an open edit leaves the knob alone. -/
theorem sparesKnob_valueEdit (symbol : Symbol) : (valueEdit symbol).SparesKnob := by
  rw [valueEdit_eq]
  refine .panel_bind (fun _ _ => rfl) fun p => ?_
  split
  · exact sparesKnob_goTo _
  · refine .ite (sparesKnob_acceptEdit _) (.ite ?_ (sparesKnob_pure ()))
    exact (sparesKnob_change fun _ _ => rfl).bind fun _ => sparesKnob_draw _

/-- No screen looks at the knob to handle a key. -/
theorem sparesKnob_handle (screen : Screen) (symbol : Symbol) :
    (handle screen symbol).SparesKnob := by
  cases screen
  case mainMenu => exact sparesKnob_mainMenu symbol
  case selectFile => exact sparesKnob_listKey _ symbol sparesKnob_enterFiles
  case prepare => exact sparesKnob_listKey _ symbol sparesKnob_enterPrepare
  case control => exact sparesKnob_listKey _ symbol sparesKnob_enterControl
  case misc => exact sparesKnob_listKey _ symbol sparesKnob_enterMisc
  case printProcess => exact sparesKnob_printProcess symbol
  case axisMove => exact sparesKnob_listKey _ symbol sparesKnob_enterAxes
  case temperature => exact sparesKnob_listKey _ symbol sparesKnob_enterTemperature
  case motion => exact sparesKnob_listKey _ symbol sparesKnob_enterMotion
  case info => exact sparesKnob_info symbol
  case tune => exact sparesKnob_listKey _ symbol sparesKnob_enterTune
  case plaPreheat | tpuPreheat => exact sparesKnob_listKey _ symbol (sparesKnob_enterPreset _)
  case featureNotAvailable => exact sparesKnob_featureNotAvailable symbol
  case homing => exact sparesKnob_pure ()
  case printWindow => exact sparesKnob_printWindow symbol
  case tooCold => exact sparesKnob_tooCold symbol
  case manualProbe => exact sparesKnob_manualProbe symbol
  case messagePopup => exact sparesKnob_messagePopup symbol
  case iconFinder => exact sparesKnob_iconFinder symbol
  case maxSpeed | maxSpeedValue | maxAcceleration | maxAccelerationValue | maxJerk | maxJerkValue |
      step | stepValue =>
    exact sparesKnob_motionEditor symbol
  all_goals exact sparesKnob_valueEdit symbol

/-! ### Messages, keys and reports -/

/-- Showing a message leaves the knob alone. -/
theorem sparesKnob_showMessage (text : String) : (showMessage text).SparesKnob := by
  unfold showMessage
  split
  · exact sparesKnob_pure ()
  · apply (sparesKnob_change Panel.abandonEdit_withKnob).bind
    intro _
    apply (sparesKnob_change fun _ _ => rfl).bind
    intro _
    exact .panel_bind (fun _ _ => rfl) fun _ => sparesKnob_drawIfPossible _

/-- To say what was declined leaves the knob alone. -/
theorem SparesKnob.recovering {act : Act Unit} (h : act.SparesKnob) :
    (recovering act).SparesKnob := by
  apply h.tryCatch
  intro f
  cases f with
  | display _ => exact sparesKnob_pure ()
  | refused r => exact sparesKnob_showMessage _

/-- Waking the display leaves the knob alone. -/
theorem sparesKnob_wake : wake.SparesKnob := by
  refine .panel_bind (fun _ _ => rfl) fun p => ?_
  apply (sparesKnob_change fun _ _ => rfl).bind
  intro _
  exact (sparesKnob_drawIfPossible _).ite (sparesKnob_pure ())

/-- Handling the symbol of a key leaves the knob alone. -/
theorem sparesKnob_dispatch : dispatch.SparesKnob := by
  refine .panel_bind (fun _ _ => rfl) fun p => ?_
  apply (sparesKnob_change fun _ _ => rfl).bind
  intro _
  exact (sparesKnob_handle _ _).recovering.ite (sparesKnob_pure ())

/-- A key leaves the knob alone. -/
theorem sparesKnob_key (k : Key) : (key k).SparesKnob :=
  (sparesKnob_change fun _ _ => rfl).bind fun _ =>
    sparesKnob_wake.bind fun _ => sparesKnob_dispatch

/-- A key, if there is one, leaves the knob alone. -/
theorem sparesKnob_keyIfAny (k : Option Key) : (keyIfAny k).SparesKnob := by
  cases k with
  | none => exact sparesKnob_pure ()
  | some k => exact sparesKnob_key k

/-- The start leaves the knob alone. -/
theorem sparesKnob_start : start.SparesKnob := by
  apply SparesKnob.recovering
  refine .panel_bind (fun _ _ => rfl) fun p => ?_
  exact (sparesKnob_draw _).bind fun _ => sparesKnob_goTo _

/-- Opening the browser for pictograms leaves the knob alone. -/
theorem sparesKnob_openIconFinder : openIconFinder.SparesKnob := by
  have hopened (p : Panel) (k : Knob) :
      ({ (p.withKnob k).abandonEdit with
        places := { (p.withKnob k).abandonEdit.places with icon := .first } } : Panel) =
      ({ p.abandonEdit with
        places := { p.abandonEdit.places with icon := .first } } : Panel).withKnob k := by
    rw [p.abandonEdit_withKnob k]
    rfl
  exact (sparesKnob_change hopened).bind fun _ => (sparesKnob_goTo _).recovering

/-- A demand of the printer leaves the knob alone. -/
theorem sparesKnob_force (d : Demand) : (force d).SparesKnob := by
  have hput (p : Panel) (k : Knob) :
      ({ (p.withKnob k).abandonEdit with latch := .empty, popupCaller := none } : Panel) =
      ({ p.abandonEdit with latch := .empty, popupCaller := none } : Panel).withKnob k := by
    rw [p.abandonEdit_withKnob k]
    rfl
  refine .panel_bind (fun _ _ => rfl) fun p => ?_
  apply (sparesKnob_change hput).bind
  intro _
  exact .panel_bind (fun _ _ => rfl) fun _ => (sparesKnob_goTo _).ite (sparesKnob_pure ())

/-- Following the job leaves the knob alone. -/
theorem sparesKnob_followJob (r : Status) : (followJob r).SparesKnob := by
  refine .panel_bind (fun _ _ => rfl) fun p => ?_
  apply (sparesKnob_change fun _ _ => rfl).bind
  intro _
  refine .ite ?_ (sparesKnob_pure ())
  split
  · exact .ite ((sparesKnob_change fun _ _ => rfl).bind fun _ => sparesKnob_force _)
      (sparesKnob_pure ())
  · exact sparesKnob_pure ()
  · exact (sparesKnob_change fun _ _ => rfl).bind fun _ => sparesKnob_force _
  · exact (sparesKnob_change fun _ _ => rfl).bind fun _ => sparesKnob_force _
  · exact (sparesKnob_change fun _ _ => rfl).bind fun _ => sparesKnob_force _
  · exact sparesKnob_showMessage _

/-- Following the probing leaves the knob alone. -/
theorem sparesKnob_followProbe (r : Status) : (followProbe r).SparesKnob := by
  refine .panel_bind (fun _ _ => rfl) fun p => ?_
  dsimp only
  split
  · apply (sparesKnob_change fun _ _ => rfl).bind
    intro _
    exact (sparesKnob_force _).bind fun _ => sparesKnob_pure true
  · apply (sparesKnob_change fun _ _ => rfl).bind
    intro _
    exact (sparesKnob_force _).bind fun _ => sparesKnob_pure false
  · refine .panel_bind (fun _ _ => rfl) fun q => ?_
    exact (sparesKnob_draw _).bind fun _ => sparesKnob_pure false
  · exact sparesKnob_pure false

/-- Refreshing the print screen leaves the knob alone. -/
theorem sparesKnob_refreshPrint (r : Status) : (refreshPrint r).SparesKnob := by
  have hprogress : (do draw ((← panel).canvas.progress r.progress) : Act Unit).SparesKnob :=
    .panel_bind (fun _ _ => rfl) fun _ => sparesKnob_draw _
  refine .panel_bind (fun _ _ => rfl) fun p => ?_
  apply (sparesKnob_change fun _ _ => rfl).bind
  intro _
  refine .ite ?_ (.ite (.ite ?_ hprogress) (sparesKnob_pure ()))
  · apply (sparesKnob_change fun _ _ => rfl).bind
    intro _
    exact .panel_bind (fun _ _ => rfl) fun _ => sparesKnob_draw _
  · apply (sparesKnob_change fun _ _ => rfl).bind
    intro _
    refine .panel_bind (fun _ _ => rfl) fun q => ?_
    exact (sparesKnob_draw _).bind fun _ => hprogress

/-- Following the homing leaves the knob alone. -/
theorem sparesKnob_followHoming (r : Status) : (followHoming r).SparesKnob := by
  refine .panel_bind (fun _ _ => rfl) fun p => ?_
  split
  · exact sparesKnob_pure ()
  · refine .ite ?_ (sparesKnob_pure ())
    apply (sparesKnob_change fun _ _ => rfl).bind
    intro _
    exact .ite ((sparesKnob_change fun _ _ => rfl).bind fun _ => sparesKnob_goTo _)
      (sparesKnob_pure ())

/-- Refreshing the status area leaves the knob alone. -/
theorem sparesKnob_refreshStatus (r : Status) (previous : Option Status) :
    (refreshStatus r previous).SparesKnob :=
  .panel_bind (fun _ _ => rfl) fun _ => (sparesKnob_draw _).ite (sparesKnob_pure ())

/-- Following the message of a report leaves the knob alone. -/
theorem sparesKnob_followMessage (r : Status) : (followMessage r).SparesKnob := by
  refine .panel_bind (fun _ _ => rfl) fun p => .ite ?_ (sparesKnob_pure ())
  exact (sparesKnob_change fun _ _ => rfl).bind fun _ => sparesKnob_showMessage _

/-- Following the printer leaves the knob alone. -/
theorem sparesKnob_followPrinter (r : Status) (previous : Option Status) :
    (followPrinter r previous).SparesKnob := by
  have hrest (probeEntered : Bool) : (do
      followHoming r
      if !probeEntered then refreshStatus r previous : Act Unit).SparesKnob := by
    apply (sparesKnob_followHoming r).bind
    intro _
    exact (sparesKnob_refreshStatus r previous).ite (sparesKnob_pure ())
  apply (sparesKnob_followJob r).bind
  intro _
  apply (sparesKnob_followProbe r).bind
  intro probeEntered
  refine .panel_bind (fun _ _ => rfl) fun p => .ite ?_ (hrest probeEntered)
  exact (sparesKnob_refreshPrint r).bind fun _ => hrest probeEntered

/-- Following a report leaves the knob alone. -/
theorem sparesKnob_reconcile (r : Status) (previous : Option Status) :
    (reconcile r previous).SparesKnob := by
  rw [reconcile_eq_followPrinter]
  exact (sparesKnob_followPrinter r previous).bind fun _ => sparesKnob_followMessage r

/-- Counting an idle tick leaves the knob alone. -/
theorem sparesKnob_countIdleTick : countIdleTick.SparesKnob := by
  apply (sparesKnob_change fun _ _ => rfl).bind
  intro _
  refine .panel_bind (fun _ _ => rfl) fun p => .ite ?_ (sparesKnob_pure ())
  exact (sparesKnob_change fun _ _ => rfl).bind fun _ => sparesKnob_drawIfPossible _

/-- Hearing from the printer leaves the knob alone. -/
theorem sparesKnob_hear : hear.SparesKnob := by
  apply sparesKnob_look.bind
  intro report
  cases report with
  | none => exact sparesKnob_pure ()
  | some r =>
    refine .panel_bind (fun _ _ => rfl) fun p => ?_
    apply (sparesKnob_change fun _ _ => rfl).bind
    intro _
    exact (sparesKnob_reconcile _ _).recovering.bind fun _ => sparesKnob_countIdleTick

end Act

/-! ### Operations -/

/-- What the knob makes of an operation: its key, if there is one, and the knob after it. A tick
looks at the clock as a poll does. -/
def Knob.decode (k : Knob) : Operation → Option Key × Knob
  | .rotate r now => (some (k.rotate r now).1, (k.rotate r now).2)
  | .sample x y now => k.sample x y now
  | .button down now => k.button down now
  | .poll now | .tick now => k.poll now
  | .start | .key _ | .message _ | .iconFinder => (none, k)

namespace Operation

/-- What an operation does apart from the key of the knob. -/
def rest : Operation → Act Unit
  | start => Act.start
  | key k => Act.key k
  | rotate .. | sample .. | button .. | poll _ => pure ()
  | tick _ => Act.hear
  | message text => Act.showMessage text
  | iconFinder => Act.openIconFinder

/-- What an operation does apart from the key of the knob leaves the knob alone. -/
theorem sparesKnob_rest (op : Operation) : op.rest.SparesKnob := by
  cases op with
  | start => exact Act.sparesKnob_start
  | key k => exact Act.sparesKnob_key k
  | rotate | sample | button | poll => exact Act.sparesKnob_pure ()
  | tick now => exact Act.sparesKnob_hear
  | message text => exact Act.sparesKnob_showMessage text
  | iconFinder => exact Act.sparesKnob_openIconFinder

/-- An operation with a key that the knob may have given for it. -/
def afterKey (op : Operation) (k : Option Key) : Act Unit :=
  Act.keyIfAny k >>= fun _ => op.rest

/-- An operation with a key for it leaves the knob alone. -/
theorem sparesKnob_afterKey (op : Operation) (k : Option Key) : (op.afterKey k).SparesKnob :=
  (Act.sparesKnob_keyIfAny k).bind fun _ => op.sparesKnob_rest

/-- An operation is the key that the knob gives for it, and then its rest. -/
theorem act_eq (op : Operation) (a : Answers) (s : Scene) :
    op.act a s = op.afterKey (s.panel.knob.decode op).1 a
      (s.withKnob (s.panel.knob.decode op).2) := by
  have hnone (hdecode : s.panel.knob.decode op = (none, s.panel.knob)) (hact : op.act = op.rest) :
      op.act a s = op.afterKey (s.panel.knob.decode op).1 a
        (s.withKnob (s.panel.knob.decode op).2) := by
    have hsame : s.withKnob s.panel.knob = s := rfl
    rw [hdecode, hsame, hact, afterKey, Act.keyIfAny, pure_bind]
  have hknob (decode : Knob → Option Key × Knob) :
      Act.keyOfKnob decode a s = (Act.keyIfAny (decode s.panel.knob).1 >>= fun _ => pure ()) a
        (s.withKnob (decode s.panel.knob).2) := by
    rw [Act.keyOfKnob_eq, bind_pure_unit]
    rfl
  cases op with
  | start | key | message | iconFinder => exact hnone rfl rfl
  | rotate r now => exact hknob fun k => (some (k.rotate r now).1, (k.rotate r now).2)
  | sample x y now => exact hknob (·.sample x y now)
  | button down now => exact hknob (·.button down now)
  | poll now => exact hknob (·.poll now)
  | tick now =>
    have hpoll : Act.keyOfKnob (·.poll now) a s =
        Act.keyIfAny (s.panel.knob.poll now).1 a (s.withKnob (s.panel.knob.poll now).2) :=
      Act.keyOfKnob_eq _
    rw [act, Act.tick_eq]
    simp only [afterKey, bind, ReaderT.bind, EStateM.bind, hpoll]
    rfl

end Operation

namespace Panel

/-- Two operations with the same rest do the same on panels whose knobs give the same key. -/
theorem perform_withKnob {p : Panel} {op other : Operation} {k : Knob}
    (hrest : other.rest = op.rest) (hkey : (k.decode other).1 = (p.knob.decode op).1)
    (a : Answers) :
    (p.withKnob k).perform other a = (p.perform op a).withKnob (k.decode other).2 := by
  have hother : other.act a (.opening (p.withKnob k)) =
      op.afterKey (p.knob.decode op).1 a ((Scene.opening p).withKnob (k.decode other).2) := by
    rw [other.act_eq, Operation.afterKey, Operation.afterKey, hrest, ← hkey]
    rfl
  have hop : op.act a (.opening p) =
      op.afterKey (p.knob.decode op).1 a ((Scene.opening p).withKnob (p.knob.decode op).2) :=
    op.act_eq a _
  unfold Panel.perform EStateM.run
  rw [hother, hop, op.sparesKnob_afterKey, op.sparesKnob_afterKey]
  cases op.afterKey (p.knob.decode op).1 a (.opening p) <;> rfl

/-- After an operation the knob is what it made of it. -/
theorem perform_knob (p : Panel) (op : Operation) (a : Answers) :
    (p.perform op a).panel.knob = (p.knob.decode op).2 := by
  have hsame : p.perform op a = (p.perform op a).withKnob (p.knob.decode op).2 :=
    p.perform_withKnob (k := p.knob) rfl rfl a
  rw [hsame]
  rfl

end Panel

end PrinterPanel
