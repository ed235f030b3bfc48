import PrinterPanel.Panel.Operation

/-!
# Outcomes of acts

An act ends with a result or with a fault, and what was done before a fault stays done. The
judgement `Ensures` says what holds after either end, and each kind of step that an act is made
of has one rule for it. `Leaves` is the weaker judgement that a property of the panel holds at the
end, whichever it is.
-/

namespace PrinterPanel

open Display (Drawing)

/-- Answers without a failure, from a printer that reports nothing. -/
def Answers.smooth : Answers where
  display _ := none
  command _ := none
  status _ := none
  files := none

namespace Scene

/-- The scene after display calls, of which the display took those in `shown`. -/
def afterCalls (s : Scene) (shown : Drawing) (calls : Nat) : Scene :=
  { s with events := s.events ++ shown.map .drawn, displayCalls := s.displayCalls + calls }

/-- Every call to the display is counted. -/
@[simp] theorem afterCalls_displayCalls (s : Scene) (shown : Drawing) (calls : Nat) :
    (s.afterCalls shown calls).displayCalls = s.displayCalls + calls := rfl

/-- Calls to the display leave the panel alone. -/
@[simp] theorem afterCalls_panel (s : Scene) (shown : Drawing) (calls : Nat) :
    (s.afterCalls shown calls).panel = s.panel := rfl

/-- A scene after no calls is as it was. -/
@[simp] theorem afterCalls_nil (s : Scene) : s.afterCalls [] 0 = s := by
  simp [afterCalls]

/-- Calls made in two goes are calls made in one. -/
theorem afterCalls_afterCalls (s : Scene) (first second : Drawing) (m n : Nat) :
    (s.afterCalls first m).afterCalls second n = s.afterCalls (first ++ second) (m + n) := by
  simp [afterCalls, Nat.add_assoc]

/-- A scene that differs from another one in later drawings only. -/
def Redrawn (s t : Scene) : Prop :=
  ∃ shown calls, t = s.afterCalls shown calls

/-- A scene differs from itself in no drawing. -/
theorem Redrawn.refl (s : Scene) : s.Redrawn s := ⟨[], 0, by simp⟩

/-- A scene differs in drawings only after calls to the display. -/
theorem redrawn_afterCalls (s : Scene) (shown : Drawing) (calls : Nat) :
    s.Redrawn (s.afterCalls shown calls) := ⟨shown, calls, rfl⟩

/-- Drawings that come one after the other are drawings. -/
theorem Redrawn.trans {s t u : Scene} (hst : s.Redrawn t) (htu : t.Redrawn u) :
    s.Redrawn u := by
  obtain ⟨first, m, rfl⟩ := hst
  obtain ⟨second, n, rfl⟩ := htu
  rw [afterCalls_afterCalls]
  exact redrawn_afterCalls _ _ _

/-- Drawings commute with changes of the panel. -/
theorem Redrawn.change {s t : Scene} (h : s.Redrawn t) (p : Panel) :
    ({ s with panel := p }).Redrawn { t with panel := p } := by
  obtain ⟨shown, calls, rfl⟩ := h
  exact ⟨shown, calls, rfl⟩

/-- Drawings leave the panel alone. -/
theorem Redrawn.panel_eq {s t : Scene} (h : s.Redrawn t) : t.panel = s.panel := by
  obtain ⟨shown, calls, rfl⟩ := h
  rfl

/-- The scene after a command was sent. -/
def afterCommand (s : Scene) (c : Command) (accepted : Bool) : Scene :=
  { s with commands := s.commands + 1, events := s.events ++ [.sent c accepted] }

/-- A command leaves the panel alone. -/
@[simp] theorem afterCommand_panel (s : Scene) (c : Command) (accepted : Bool) :
    (s.afterCommand c accepted).panel = s.panel := rfl

/-- A command is no call to the display. -/
@[simp] theorem afterCommand_displayCalls (s : Scene) (c : Command) (accepted : Bool) :
    (s.afterCommand c accepted).displayCalls = s.displayCalls := rfl

end Scene

namespace Act

variable {α β : Type} {a : Answers} {s : Scene} {cut : Fault → Scene → Prop}

/-- An act that ends with a result makes `done` true, and one that ends with a fault `cut`. -/
def Ensures (act : Act α) (done : α → Scene → Prop) (cut : Fault → Scene → Prop)
    (a : Answers) (s : Scene) : Prop :=
  match act a s with
  | .ok x t => done x t
  | .error f t => cut f t

/-! ### One rule for each kind of step -/

/-- A result that is given ends at once. -/
@[simp] theorem ensures_pure (x : α) {done : α → Scene → Prop} :
    (pure x : Act α).Ensures done cut a s ↔ done x s := Iff.rfl

/-- Two steps ensure what the second ensures after every result of the first. -/
@[simp] theorem ensures_bind (act : Act α) (next : α → Act β) {done : β → Scene → Prop} :
    (act >>= next).Ensures done cut a s ↔
      act.Ensures (fun x t => (next x).Ensures done cut a t) cut a s := by
  simp only [Ensures, bind, ReaderT.bind, EStateM.bind]
  cases act a s <;> rfl

/-- To look at the panel gives the panel. -/
@[simp] theorem ensures_panel {done : Panel → Scene → Prop} :
    panel.Ensures done cut a s ↔ done s.panel s := Iff.rfl

/-- A change is made to the panel and to nothing else. -/
@[simp] theorem ensures_change (f : Panel → Panel) {done : Unit → Scene → Prop} :
    (change f).Ensures done cut a s ↔ done () { s with panel := f s.panel } := Iff.rfl

/-- A look at the printer gives its next report. -/
@[simp] theorem ensures_look {done : Option Status → Scene → Prop} :
    look.Ensures done cut a s ↔ done (a.status s.looks) { s with looks := s.looks + 1 } := Iff.rfl

/-- The listing is the one that the printer answers with. -/
@[simp] theorem ensures_listFiles {done : Option (List String) → Scene → Prop} :
    listFiles.Ensures done cut a s ↔ done a.files s := Iff.rfl

/-- A report is what a look gives, or else what the last tick read. -/
@[simp] theorem ensures_report {done : Status → Scene → Prop} :
    report.Ensures done cut a s ↔
      done ((a.status s.looks).getD (s.panel.lastStatus.getD .atRest))
        { s with looks := s.looks + 1 } := by
  simp only [report, ensures_bind, ensures_look]
  cases a.status s.looks <;> rfl

/-- A fault goes to the handler with the scene that it left. -/
@[simp] theorem ensures_tryCatch (act : Act α) (handler : Fault → Act α)
    {done : α → Scene → Prop} :
    (tryCatch act handler).Ensures done cut a s ↔
      act.Ensures done (fun f t => (handler f).Ensures done cut a t) a s := by
  simp only [Ensures, tryCatch, tryCatchThe, MonadExcept.tryCatch, MonadExceptOf.tryCatch]
  unfold EStateM.tryCatch
  cases act a s <;> rfl

/-- The answers can be read. -/
private theorem ensures_read {done : Answers → Scene → Prop} :
    (read : Act Answers).Ensures done cut a s ↔ done a s := Iff.rfl

/-- The scene can be read. -/
private theorem ensures_get {done : Scene → Scene → Prop} :
    (get : Act Scene).Ensures done cut a s ↔ done s s := Iff.rfl

/-- The scene can be replaced. -/
private theorem ensures_set (t : Scene) {done : PUnit → Scene → Prop} :
    (set t : Act PUnit).Ensures done cut a s ↔ done () t := Iff.rfl

/-- A fault that is thrown is the end. -/
private theorem ensures_throw (f : Fault) {done : α → Scene → Prop} :
    (throw f : Act α).Ensures done cut a s ↔ cut f s := Iff.rfl

/-- A command is sent whether it is accepted or not, and a refusal ends the act. -/
@[simp] theorem ensures_send (c : Command) {done : Unit → Scene → Prop} :
    (send c).Ensures done cut a s ↔
      (a.command s.commands = none → done () (s.afterCommand c true)) ∧
      ∀ r, a.command s.commands = some r → cut (.refused r) (s.afterCommand c false) := by
  simp only [send, ensures_bind, ensures_read, ensures_get]
  cases h : a.command s.commands <;>
    simp [ensures_bind, ensures_set, ensures_throw, Scene.afterCommand]

/-- A display call shows what it draws, or fails and shows nothing. -/
@[simp] theorem ensures_call (c : Display.Call) {done : Unit → Scene → Prop} :
    (call c).Ensures done cut a s ↔
      (a.display s.displayCalls = none → done () (s.afterCalls [c] 1)) ∧
      ∀ f, a.display s.displayCalls = some f → cut (.display f) (s.afterCalls [] 1) := by
  simp only [call, ensures_bind, ensures_read, ensures_get]
  cases h : a.display s.displayCalls <;>
    simp [ensures_bind, ensures_set, ensures_throw, Scene.afterCalls]

/-- A drawing is made as a whole, or up to the call that fails. -/
theorem ensures_draw {d : Drawing} {done : Unit → Scene → Prop}
    (hdone : done () (s.afterCalls d d.length))
    (hcut : ∀ f shown, shown <+: d → a.display (s.displayCalls + shown.length) = some f →
      cut (.display f) (s.afterCalls shown (shown.length + 1))) :
    (draw d).Ensures done cut a s := by
  induction d generalizing s with
  | nil => simpa [draw] using hdone
  | cons c rest ih =>
    rw [draw, ensures_bind, ensures_call]
    constructor
    · intro _
      apply ih
      · simpa [Scene.afterCalls_afterCalls, Nat.add_comm] using hdone
      · intro f shown hshown hfailed
        have h := hcut f (c :: shown) (by simpa using hshown)
          (by simpa [Nat.add_assoc, Nat.add_comm 1] using hfailed)
        simpa [Scene.afterCalls_afterCalls, Nat.add_comm, Nat.add_left_comm] using h
    · intro f hfailed
      simpa using hcut f [] List.nil_prefix (by simpa using hfailed)

/-- A display that never fails makes every drawing as a whole. -/
theorem ensures_draw_iff (h : ∀ n, a.display n = none) {d : Drawing} {done : Unit → Scene → Prop} :
    (draw d).Ensures done cut a s ↔ done () (s.afterCalls d d.length) := by
  induction d generalizing s with
  | nil => simp [draw]
  | cons c rest ih =>
    rw [draw, ensures_bind, ensures_call]
    simp [h, ih, Scene.afterCalls_afterCalls, Nat.add_comm]

/-- A drawing that may fail ends without a fault. -/
theorem ensures_drawIfPossible {d : Drawing} {done : Unit → Scene → Prop}
    (h : ∀ shown calls, shown <+: d → done () (s.afterCalls shown calls)) :
    (drawIfPossible d).Ensures done cut a s := by
  rw [drawIfPossible, ensures_tryCatch]
  exact ensures_draw (h _ _ (List.prefix_refl d)) fun _ shown hshown _ => h shown _ hshown

/-! ### Steps that come first -/

section First

variable {done : β → Scene → Prop}

/-- A look at the panel finds the panel of the scene. -/
theorem ensures_panel_bind (next : Panel → Act β) :
    (panel >>= next).Ensures done cut a s ↔ (next s.panel).Ensures done cut a s := Iff.rfl

/-- A change of the panel is made before anything else. -/
theorem ensures_change_bind (f : Panel → Panel) (next : Unit → Act β) :
    (change f >>= next).Ensures done cut a s ↔
      (next ()).Ensures done cut a { s with panel := f s.panel } := Iff.rfl

/-- A listing of the files is what the printer answers. -/
theorem ensures_listFiles_bind (next : Option (List String) → Act β) :
    (listFiles >>= next).Ensures done cut a s ↔ (next a.files).Ensures done cut a s := Iff.rfl

/-- A report counts as a look at the printer. -/
theorem ensures_report_bind (next : Status → Act β) :
    (report >>= next).Ensures done cut a s ↔
      (next ((a.status s.looks).getD (s.panel.lastStatus.getD .atRest))).Ensures done cut a
        { s with looks := s.looks + 1 } := by
  rw [ensures_bind, ensures_report]

/-- What comes after a command is done if the command is accepted. -/
theorem ensures_send_bind (c : Command) (next : Unit → Act β) :
    (send c >>= next).Ensures done cut a s ↔
      (a.command s.commands = none → (next ()).Ensures done cut a (s.afterCommand c true)) ∧
      ∀ r, a.command s.commands = some r → cut (.refused r) (s.afterCommand c false) := by
  rw [ensures_bind, ensures_send]

end First

/-! ### Several judgements of one act -/

/-- A stronger judgement gives a weaker one. -/
theorem Ensures.mono {act : Act α} {done done' : α → Scene → Prop} {cut' : Fault → Scene → Prop}
    (h : act.Ensures done cut a s) (hdone : ∀ x t, done x t → done' x t)
    (hcut : ∀ f t, cut f t → cut' f t) : act.Ensures done' cut' a s := by
  unfold Ensures at h ⊢
  cases hact : act a s with
  | ok x t => exact hdone x t (by simpa only [hact] using h)
  | error f t => exact hcut f t (by simpa only [hact] using h)

/-- Two judgements of an act hold together. -/
theorem Ensures.and {act : Act α} {done' : α → Scene → Prop} {cut' : Fault → Scene → Prop}
    (h : act.Ensures done cut a s) (h' : act.Ensures done' cut' a s) :
    act.Ensures (fun x t => done x t ∧ done' x t) (fun f t => cut f t ∧ cut' f t) a s := by
  unfold Ensures at h h' ⊢
  cases hact : act a s <;> simp only [hact] at h h' <;> exact ⟨h, h'⟩

/-- An act recovers from a failed display call by nothing, and from a declined command by showing
the reason. -/
theorem Ensures.recovering {act : Act Unit} {done : Unit → Scene → Prop}
    {cut' : Fault → Scene → Prop} (h : act.Ensures done cut' a s)
    (hfailed : ∀ f t, cut' (.display f) t → done () t)
    (hrefused : ∀ r t, cut' (.refused r) t →
      (showMessage ("Error: " ++ r.message)).Ensures done cut a t) :
    (recovering act).Ensures done cut a s := by
  rw [Act.recovering, ensures_tryCatch]
  apply h.mono
  · exact fun _ _ ht => ht
  · intro f t ht
    cases f with
    | display f => exact hfailed f t ht
    | refused r => exact hrefused r t ht

/-- An act that can only end with one result and scene does so. -/
theorem eq_ok {act : Act α} {x : α} {t : Scene}
    (h : act.Ensures (fun y u => y = x ∧ u = t) (fun _ _ => False) a s) : act a s = .ok x t := by
  unfold Ensures at h
  cases hact : act a s with
  | ok y u =>
    simp only [hact] at h
    rw [h.1, h.2]
  | error f u => simp only [hact] at h

/-- An act that can only end with one fault and scene does so. -/
theorem eq_error {act : Act α} {f : Fault} {t : Scene}
    (h : act.Ensures (fun _ _ => False) (fun g u => g = f ∧ u = t) a s) :
    act a s = .error f t := by
  unfold Ensures at h
  cases hact : act a s with
  | ok y u => simp only [hact] at h
  | error g u =>
    simp only [hact] at h
    rw [h.1, h.2]

/-- An act that cannot end with a fault ends with a result. -/
theorem exists_eq_ok {act : Act α} {done : α → Scene → Prop}
    (h : act.Ensures done (fun _ _ => False) a s) : ∃ x t, act a s = .ok x t ∧ done x t := by
  unfold Ensures at h
  cases hact : act a s with
  | ok x t =>
    simp only [hact] at h
    exact ⟨x, t, rfl, h⟩
  | error f t => simp only [hact] at h

/-- An act goes on with what comes after a step that ends with a result. -/
theorem bind_eq {act : Act α} {next : α → Act β} {x : α} {t : Scene} (h : act a s = .ok x t) :
    (act >>= next) a s = next x a t := by
  simp only [bind, ReaderT.bind, EStateM.bind, h]

/-- An act ends with the fault of its first step. -/
theorem bind_eq_error {act : Act α} {next : α → Act β} {f : Fault} {t : Scene}
    (h : act a s = .error f t) : (act >>= next) a s = .error f t := by
  simp only [bind, ReaderT.bind, EStateM.bind, h]

/-! ### What holds at the end -/

variable {I : Panel → Prop}

/-- A property of the panel holds at the end of an act, with a fault or without one. -/
def Leaves (act : Act α) (I : Panel → Prop) (a : Answers) (s : Scene) : Prop :=
  act.Ensures (fun _ t => I t.panel) (fun _ t => I t.panel) a s

/-- A result that is given leaves the panel as it is. -/
@[simp] theorem leaves_pure (x : α) : (pure x : Act α).Leaves I a s ↔ I s.panel := Iff.rfl

/-- Two steps leave what the second leaves, and what the first leaves if it fails. -/
@[simp] theorem leaves_bind (act : Act α) (next : α → Act β) :
    (act >>= next).Leaves I a s ↔
      act.Ensures (fun x t => (next x).Leaves I a t) (fun _ t => I t.panel) a s :=
  ensures_bind act next

/-- What holds of the panel after one act holds where the next one begins. -/
theorem Leaves.bind {act : Act α} {next : α → Act β} (h : act.Leaves I a s)
    (hnext : ∀ x t, I t.panel → (next x).Leaves I a t) : (act >>= next).Leaves I a s := by
  rw [leaves_bind]
  exact h.mono hnext fun _ _ ht => ht

/-- Two properties that hold at the end hold together. -/
theorem Leaves.and {J : Panel → Prop} {act : Act α} (hI : act.Leaves I a s)
    (hJ : act.Leaves J a s) : act.Leaves (fun p => I p ∧ J p) a s :=
  Ensures.and hI hJ

/-- A command does not touch the panel. -/
@[simp] theorem leaves_send (c : Command) : (send c).Leaves I a s ↔ I s.panel := by
  rw [Leaves, ensures_send]
  cases a.command s.commands <;> simp

/-- A drawing does not touch the panel. -/
@[simp] theorem leaves_draw (d : Drawing) : (draw d).Leaves I a s ↔ I s.panel := by
  constructor
  · induction d generalizing s with
    | nil => simp [draw]
    | cons c rest ih =>
      intro h
      rw [draw, leaves_bind, ensures_call] at h
      cases hanswer : a.display s.displayCalls with
      | none =>
        have hrest := ih (h.1 hanswer)
        exact hrest
      | some f => exact h.2 f hanswer
  · intro h
    exact ensures_draw h fun _ _ _ _ => h

/-- Going to a screen changes nothing else. -/
@[simp] theorem leaves_goTo (screen : Screen) :
    (goTo screen).Leaves I a s ↔ I { s.panel with screen := screen } := by
  simp only [goTo, leaves_bind, ensures_change, ensures_panel, leaves_draw]

/-- A drawing that is allowed to fail leaves the panel as it is. -/
@[simp] theorem leaves_drawIfPossible (d : Drawing) :
    (drawIfPossible d).Leaves I a s ↔ I s.panel := by
  rw [drawIfPossible, Leaves, ensures_tryCatch]
  exact leaves_draw d

/-- The act ends without a fault, in a scene of some kind. -/
def Ends (act : Act α) (J : α → Scene → Prop) (a : Answers) (s : Scene) : Prop :=
  act.Ensures J (fun _ _ => False) a s

/-- Two acts that cannot fail end as the second does after the first. -/
theorem Ends.bind {act : Act α} {next : α → Act β} {J : α → Scene → Prop} {K : β → Scene → Prop}
    (h : act.Ends J a s) (hnext : ∀ x t, J x t → (next x).Ends K a t) :
    (act >>= next).Ends K a s := by
  rw [Ends, ensures_bind]
  exact h.mono hnext fun _ _ ht => ht

/-- Two properties of the end hold together. -/
theorem Ends.and {act : Act α} {J K : α → Scene → Prop} (hJ : act.Ends J a s)
    (hK : act.Ends K a s) : act.Ends (fun x t => J x t ∧ K x t) a s := by
  unfold Ends Ensures at *
  cases hact : act a s with
  | ok x t =>
    simp only [hact] at hJ hK
    exact ⟨hJ, hK⟩
  | error f t => simp only [hact] at hJ

/-- An act whose outcome is known ends with it. -/
theorem ends_of_eq {act : Act α} {J : α → Scene → Prop} {x : α} {t : Scene}
    (hact : act a s = .ok x t) (ht : J x t) : act.Ends J a s := by
  rwa [Ends, Ensures, hact]

/-- Where there is no fault, there is nothing to recover from. -/
theorem Ends.recovering {act : Act Unit} {J : Unit → Scene → Prop} (h : act.Ends J a s) :
    (recovering act).Ends J a s := by
  rw [Ends, Act.recovering, ensures_tryCatch]
  exact h.mono (fun _ _ ht => ht) fun _ _ ht => ht.elim

/-! ### Keys -/

end Act

/-- The panel that has taken a symbol from its latch, with the user at work. -/
def Panel.awake (p : Panel) : Panel :=
  { p with latch := .empty, idleTicks := 0, dimmed := false }

/-- The symbol that a key stands for. -/
def Panel.symbolOf (p : Panel) (k : Key) : Symbol :=
  if p.rateLimited then (Symbol.ofKey k).slowed else Symbol.ofKey k

/-- The key that an operation delivers. -/
def Panel.keyOf (p : Panel) : Operation → Option Key
  | .key k => some k
  | .rotate r now => some (p.knob.rotate r now).1
  | .sample x y now => (p.knob.sample x y now).1
  | .button down now => (p.knob.button down now).1
  | .poll now | .tick now => (p.knob.poll now).1
  | .start | .message _ | .iconFinder => none

/-- A key that is heard is never taken for none. -/
theorem Panel.symbolOf_ne_idle (p : Panel) (k : Key) : p.symbolOf k ≠ .idle := by
  unfold symbolOf
  split <;> cases k <;> decide

/-- Only a click is taken for a press. -/
theorem Panel.symbolOf_eq_enter {p : Panel} {k : Key} (h : p.symbolOf k = .enter) :
    k = .click := by
  unfold symbolOf at h
  split at h <;> cases k <;> first | rfl | contradiction

/-- Slowing a symbol keeps its direction. -/
@[simp] theorem Panel.symbolOf_isTurn (p : Panel) (k : Key) :
    (p.symbolOf k).isTurn = (Symbol.ofKey k).isTurn := by
  unfold symbolOf
  split <;> cases k <;> rfl

/-- No latch turns a step forwards into something else. -/
@[simp] theorem Panel.symbolOf_isCw (p : Panel) (k : Key) :
    (p.symbolOf k).isCw = (Symbol.ofKey k).isCw := by
  unfold symbolOf
  split <;> cases k <;> rfl

/-- No latch turns a step backwards into something else. -/
@[simp] theorem Panel.symbolOf_isCcw (p : Panel) (k : Key) :
    (p.symbolOf k).isCcw = (Symbol.ofKey k).isCcw := by
  unfold symbolOf
  split <;> cases k <;> rfl

/-- A click is taken for a press. -/
@[simp] theorem Panel.symbolOf_click (p : Panel) : p.symbolOf .click = .enter := by
  unfold symbolOf
  split <;> rfl

/-- A long click is taken for a long press. -/
@[simp] theorem Panel.symbolOf_longClick (p : Panel) : p.symbolOf .longClick = .longEnter := by
  unfold symbolOf
  split <;> rfl

/-- What the n-th display call shows if it sets the backlight. -/
def Answers.lit (a : Answers) (n level : Nat) : Drawing :=
  if a.display n = none then [.light level] else []

/-- A call that sets the backlight shows its level or nothing. -/
theorem Answers.lit_subset (a : Answers) (n level : Nat) : a.lit n level ⊆ [.light level] := by
  unfold lit
  split
  · exact List.Subset.refl _
  · exact List.nil_subset _

/-- What waking the display shows: a display that is not dimmed is lit already. -/
def Scene.waking (s : Scene) (a : Answers) : Drawing :=
  if s.panel.dimmed then a.lit s.displayCalls s.panel.settings.screen.brightness else []

/-- Waking the display shows its full level or nothing. -/
theorem Scene.waking_subset (s : Scene) (a : Answers) :
    s.waking a ⊆ [.light s.panel.settings.screen.brightness] := by
  unfold waking
  split
  · exact a.lit_subset _ _
  · exact List.nil_subset _

namespace Act

variable {a : Answers} {s : Scene}

/-- Lighting the display is one call, and it is passed over if it fails. -/
theorem light_eq (level : Nat) :
    drawIfPossible [.light level] a s = .ok () (s.afterCalls (a.lit s.displayCalls level) 1) := by
  apply eq_ok
  unfold Answers.lit
  cases hanswer : a.display s.displayCalls <;> simp [drawIfPossible, draw, hanswer]

/-- A choice between two acts is the act that is chosen. -/
private theorem ite_eq {α : Type} {c : Prop} [Decidable c] (first second : Act α) :
    (if c then first else second) a s = if c then first a s else second a s := by
  split <;> rfl

/-- The user is at work, and a dimmed display is lit by one call. -/
private theorem wake_eq :
    wake a s = .ok () (({ s with
      panel := { s.panel with idleTicks := 0, dimmed := false } }).afterCalls (s.waking a)
        (if s.panel.dimmed then 1 else 0)) := by
  unfold Scene.waking
  by_cases hdimmed : s.panel.dimmed = true
  · have h := light_eq (a := a) s.panel.settings.screen.brightness
      (s := { s with panel := { s.panel with idleTicks := 0, dimmed := false } })
    rw [if_pos hdimmed, if_pos hdimmed]
    exact ((ite_eq _ _).trans (if_pos hdimmed)).trans h
  · rw [if_neg hdimmed, if_neg hdimmed, Scene.afterCalls_nil]
    exact (ite_eq _ _).trans (if_neg hdimmed)

/-- A symbol that waits is handled by the screen that is up. -/
private theorem dispatch_eq (h : s.panel.latch.pending ≠ .idle) :
    dispatch a s = recovering (handle s.panel.screen s.panel.latch.pending) a
      { s with panel := { s.panel with latch := .empty } } :=
  (ite_eq _ _).trans (if_pos h)

/-- A key lights the display if that is dimmed, and then the screen handles its symbol. -/
theorem key_eq_waking (k : Key) :
    key k a s =
      recovering (handle s.panel.screen (s.panel.symbolOf k)) a
        (({ s with panel := s.panel.awake }).afterCalls (s.waking a)
          (if s.panel.dimmed then 1 else 0)) := by
  have hwake := wake_eq (a := a) (s := { s with
    panel := { s.panel with latch := s.panel.latch.put (s.panel.symbolOf k) } })
  have hrest : (wake >>= fun _ => dispatch) a _ = dispatch a _ := bind_eq hwake
  exact hrest.trans (dispatch_eq (s.panel.symbolOf_ne_idle k))

/-- Whatever lighting the display shows, the screen handles the symbol of a key. -/
theorem key_eq (k : Key) :
    ∃ shown, shown ⊆ [.light s.panel.settings.screen.brightness] ∧ key k a s =
      recovering (handle s.panel.screen (s.panel.symbolOf k)) a
        (({ s with panel := s.panel.awake }).afterCalls shown
          (if s.panel.dimmed then 1 else 0)) :=
  ⟨s.waking a, s.waking_subset a, key_eq_waking k⟩

/-- A key that does not accept an edit draws its value just if that is a new one. -/
theorem valueEdit_eq (symbol : Symbol) :
    valueEdit symbol = (do
      let p ← panel
      match p.edit with
      | none => goTo .mainMenu
      | some e =>
        if symbol = .enter then acceptEdit e
        else if (e.turn symbol).value ≠ e.value then
          change ({ · with edit := some (e.turn symbol) })
          draw (p.canvas.figure e.row ⟨e.field.decimals, (e.turn symbol).value⟩ true)) := by
  simp only [valueEdit, Edit.apply_fst_iff]
  rfl

end Act

end PrinterPanel
