import PrinterPanel.Proofs.Messages

/-!
# What lies below a message

A message always covers a screen that is no message itself, and the notice that a function is
missing always covers the motion menu. Until a message is answered, keys, further messages and
reports that bring up no other screen leave alone what lies below it, and a click gives way to
that.
-/

namespace PrinterPanel

namespace Panel

variable {p q : Panel} {r : Status} {op : Operation} {a : Answers}

/-! ### What a message covers -/

/-- A message covers a screen that is no message itself. -/
def MessageCovers (p : Panel) : Prop :=
  p.screen = .messagePopup → ∃ below, p.popupCaller = some below ∧ below ≠ .messagePopup

/-- Without a message there is nothing to cover. -/
theorem messageCovers_of_ne (h : p.screen ≠ .messagePopup) : p.MessageCovers :=
  fun hup => absurd hup h

/-- So does the message that comes next. -/
theorem MessageCovers.covered (h : p.MessageCovers) (hedits : p.EditsInMenus) :
    ∃ below, p.covered = some below ∧ below ≠ .messagePopup := by
  unfold Panel.covered
  split
  · next hup =>
    cases hedit : p.edit with
    | none =>
      rw [abandonEdit_of_none hedit] at hup ⊢
      exact h hup
    | some e =>
      simp only [abandonEdit, hedit] at hup
      exact absurd hup (hedits.returnTo_ne (by decide) e hedit)
  · next hother => exact ⟨_, rfl, hother⟩

/-- A message that comes up covers a screen that is none. -/
theorem MessageCovers.withMessage (h : p.MessageCovers) (hedits : p.EditsInMenus) (text : String) :
    (p.withMessage text).MessageCovers := by
  unfold Panel.withMessage
  split
  · exact h
  · exact fun _ => h.covered hedits

/-- What a report brings up covers a screen that is no message, if it is one. -/
theorem MessageCovers.brings {up : Option Screen} (h : p.MessageCovers) (hedits : p.EditsInMenus)
    (hq : p.Brings up q) : q.MessageCovers := by
  intro hup
  cases up with
  | none =>
    have halone : p.LeftAlone q := hq.alone rfl
    rw [halone.caller]
    exact h (halone.screen.symm.trans hup)
  | some screen =>
    obtain ⟨hscreen, hcaller⟩ := showing_eq_iff.mp (hq.shown screen rfl)
    rw [hcaller, hscreen.symm.trans hup]
    exact h.covered hedits

/-- No key puts up a message that was not up before. -/
theorem MessageCovers.of_exits (h : p.MessageCovers) (hcaller : p.CallerFits)
    (hq : q.showing ∈ p.exits) : q.MessageCovers := by
  intro hup
  unfold exits at hq
  cases hscreen : p.screen <;> simp only [hscreen] at hq
  case messagePopup =>
    have hreturn : Screen.messagePopup ≠ Act.messageReturn p.popupCaller :=
      (Act.messageReturn_ne rfl (by decide)).symm
    have hstays : q.popupCaller = p.popupCaller := by
      simpa [hup, hreturn, ways, showing, hscreen] using hq
    rw [hstays]
    exact h hscreen
  case featureNotAvailable => simp [hup, hscreen, hcaller.notice hscreen] at hq
  case moveX | moveY | moveZ | extruder | hotendTemp | zOffset | bedTemp | fanSpeed | printSpeed =>
    have hreturn : Screen.messagePopup ≠ (p.edit.map (·.returnTo)).getD .mainMenu :=
      hcaller.edits.editReturn_ne (by decide) (by decide)
    simp [hup, hscreen, hreturn] at hq
  all_goals simp [hup, hscreen] at hq

/-- What lies below a popup fits the edits, the keys and the reports that may follow. -/
structure PopupsFit (p : Panel) : Prop where
  session : p.EditSession
  caller : p.CallerFits
  covers : p.MessageCovers

/-- That popups fit what lies below survives everything that is no key. -/
theorem persists_popupsFit : Persists PopupsFit where
  attends latch knob idleTicks dimmed h hlatch :=
    ⟨invariant_editSession.attends latch knob idleTicks dimmed h.session hlatch,
      persists_callerFits.attends latch knob idleTicks dimmed h.caller hlatch, h.covers⟩
  hears hr h :=
    ⟨invariant_editSession.persists.hears _ h.session, persists_callerFits.hears _ h.caller,
      h.covers⟩
  warns text h :=
    ⟨invariant_editSession.withMessage text h.session, persists_callerFits.warns text h.caller,
      h.covers.withMessage h.caller.edits text⟩
  follows {p r change} hchange h := by
    refine ⟨invariant_editSession.change hchange h.session,
      persists_callerFits.follows hchange h.caller, ?_⟩
    have hbrings : ∃ up, p.Brings up (change p) := by
      simp only [changesFor, List.mem_cons, List.not_mem_nil, or_false] at hchange
      obtain rfl | rfl | rfl | rfl | rfl := hchange
      · exact ⟨_, p.followingJob_brings r⟩
      · exact ⟨_, followingProbe_brings h.session h.caller r⟩
      · exact ⟨_, p.followingPrint_brings r⟩
      · exact ⟨_, p.followingHoming_brings r⟩
      · exact ⟨_, p.followingMessage_brings r⟩
    obtain ⟨up, hup⟩ := hbrings
    exact h.covers.brings h.caller.edits hup
  browses h :=
    ⟨invariant_editSession.persists.browses h.session, persists_callerFits.browses h.caller,
      messageCovers_of_ne (by simp)⟩

/-- A panel that is switched on has no popup. -/
theorem popupsFit_ofSettings (s : Settings) (width height : Nat) :
    (ofSettings s width height).PopupsFit :=
  ⟨editSession_ofSettings s width height, callerFits_ofSettings s width height,
    messageCovers_of_ne (by simp [ofSettings])⟩

/-- That popups fit what lies below survives a key on any screen. -/
theorem popupsFit_handle {s : Scene} (h : s.panel.PopupsFit) (symbol : Symbol) :
    (Act.handle s.panel.screen symbol).Leaves PopupsFit a s := by
  have hsession := Act.leaves_handle (a := a) (s := s) invariant_editSession h.session symbol
  have hcaller := Act.callerFits_handle (a := a) h.caller symbol
  apply ((hsession.and hcaller).and (Act.leadsTo_handle symbol)).mono
  · exact fun _ _ ht => ⟨ht.1.1, ht.1.2, h.covers.of_exits h.caller ht.2⟩
  · exact fun _ _ ht => ⟨ht.1.1, ht.1.2, h.covers.of_exits h.caller ht.2⟩

/-- Popups always fit what lies below. -/
theorem Reachable.popupsFit (h : p.Reachable) : p.PopupsFit := by
  induction h with
  | started s width height a =>
    have hnew := popupsFit_ofSettings s width height
    exact persists_popupsFit.perform (fun _ => hnew) (by simp [keyOf]) fun _ => hnew
  | operated a _ hop ih =>
    have hhandle (s : Scene) (symbol : Symbol) (hs : s.panel.PopupsFit) :
        (Act.handle s.panel.screen symbol).Leaves PopupsFit a s :=
      popupsFit_handle hs symbol
    exact persists_popupsFit.perform_of_handle hhandle (absurd · hop) ih

end Panel

/-! ### While a message is up -/

/-- What lies below a popup. -/
structure Beneath where
  /-- The screen that the popup gives way to. -/
  caller : Option Screen
  /-- The places in the lists. -/
  places : Places
  /-- The file browser. -/
  browser : Files.Browser
  /-- The print. -/
  print : PrintSession
  /-- The settings with the presets. -/
  settings : Settings

namespace Panel

variable {p q : Panel} {b : Beneath} {r : Status} {op : Operation} {a : Answers}

/-- What lies below a popup on the panel. -/
def beneath (p : Panel) : Beneath := ⟨p.popupCaller, p.places, p.browser, p.print, p.settings⟩

/-- A message is up, and this lies below it. -/
structure Over (p : Panel) (b : Beneath) : Prop where
  screen : p.screen = .messagePopup
  closed : p.edit = none
  beneath : p.beneath = b

/-- An edit that is abandoned leaves alone what lies below a popup. -/
theorem abandonEdit_beneath (p : Panel) : p.abandonEdit.beneath = p.beneath := by
  rw [abandonEdit_eq]
  rfl

/-- A message with text comes up over what was there. -/
theorem over_withMessage {text : String} (h : Text.allBlank text.toList = false) :
    (p.withMessage text).Over { p.beneath with caller := p.covered } := by
  unfold withMessage
  rw [if_neg (by simp [h])]
  refine ⟨rfl, p.abandonEdit_edit, ?_⟩
  rw [← p.abandonEdit_beneath]
  rfl

/-- What passes a message by changes nothing below it. -/
theorem outlasting_over (b : Beneath) : Outlasting (·.Over b) where
  screen h := h.screen
  attends _ _ _ _ h := ⟨h.screen, h.closed, h.beneath⟩
  notes _ _ _ _ h := ⟨h.screen, h.closed, h.beneath⟩
  warns {p} text h := by
    cases hblank : Text.allBlank text.toList with
    | true => rwa [Panel.withMessage, if_pos hblank]
    | false =>
      have hsame : { p.beneath with caller := p.covered } = p.beneath := by
        rw [covered_of_none h.closed, if_pos h.screen]
        rfl
      rw [← h.beneath, ← hsame]
      exact over_withMessage hblank

/-! ### From a message to its answer -/

/-- A message has given way to what lay below it. -/
structure Uncovered (p : Panel) (b : Beneath) : Prop where
  screen : p.screen = Act.messageReturn b.caller
  closed : p.edit = none
  beneath : p.beneath = { b with caller := none }

/-- A click on a message gives way to what lies below it. -/
theorem Over.click (h : p.Over b) (hk : p.keyOf op = some .click) :
    (p.perform op a).panel.Uncovered b := by
  obtain ⟨knob, hact⟩ := act_of_click hk
  let s : Scene := .opening { p with knob := knob }
  obtain ⟨lights, -, hkey⟩ := Act.key_eq (a := a) (s := s) .click
  have hwoken : (Act.woken s lights).panel.Over b :=
    (outlasting_over b).attends (p := p) .empty knob 0 false h
  have hanswered : (Act.messagePopup .enter).Arrives (·.Uncovered b) a (Act.woken s lights) := by
    simp only [Act.messagePopup, if_true, Act.arrives_panel_bind, Act.arrives_change_bind]
    apply Act.arrives_goTo
    rw [← hwoken.beneath]
    exact ⟨rfl, hwoken.closed, rfl⟩
  have hscreen : s.panel.screen = .messagePopup := h.screen
  apply (perform_iff (h := fun t => t.panel.Uncovered b) p op a).mpr
  rw [Act.Ensures, hact, hkey, symbolOf_click, hscreen]
  exact hanswered.recovering

/-- Nothing is sent while a message is up. -/
theorem Over.commandsOf_eq_nil (h : p.Over b) (op : Operation) (a : Answers) :
    p.commandsOf op a = [] := by
  have hsilent : p.Silent := .inl (by simp [h.screen, silentScreens])
  unfold commandsOf
  cases p.keyOf op with
  | none => rfl
  | some k => exact commandsFor_of_silent hsilent _

/-- A message outlasts a run that passes it by, and then a click gives way to what lies below it. -/
theorem Over.answered {ops : List (Operation × Answers)} (h : p.Over b)
    (hpass : p.Throughout PassesBy ops) (hk : (p.run ops).1.keyOf op = some .click) :
    (p.run (ops ++ [(op, a)])).1.Uncovered b ∧ submitted (p.run (ops ++ [(op, a)])).2 = [] := by
  induction ops generalizing p with
  | nil =>
    refine ⟨h.click hk, ?_⟩
    simpa [run] using submitted_eq_nil (h.commandsOf_eq_nil op a)
  | cons x rest ih =>
    obtain ⟨hfirst, hrest⟩ := hpass
    obtain ⟨hanswered, hsent⟩ := ih ((outlasting_over b).perform hfirst h) hrest hk
    refine ⟨hanswered, ?_⟩
    rw [List.cons_append, run, submitted_append, hsent]
    simpa using submitted_eq_nil (h.commandsOf_eq_nil x.1 x.2)

/-- Without an edit, a message gives way to the screen below it if that accepts it. -/
theorem messageReturn_of_closed (hedit : p.edit = none) (hother : p.screen ≠ .messagePopup) :
    Act.messageReturn p.covered = if p.screen.acceptsReturn then p.screen else .mainMenu := by
  rw [covered_of_none hedit, if_neg hother]
  rfl

/-- With an edit, it gives way to the menu of the edit if that accepts it. -/
theorem messageReturn_of_edit {e : Edit} (hedits : p.EditsInMenus) (he : p.edit = some e) :
    Act.messageReturn p.covered =
      if e.returnTo.acceptsReturn then e.returnTo else .mainMenu := by
  have hscreen : p.abandonEdit.screen = e.returnTo := by simp [abandonEdit, he]
  have hother : e.returnTo ≠ .messagePopup := hedits.returnTo_ne (by decide) e he
  rw [covered, hscreen, if_neg hother]
  rfl

/-- In every panel that is reached, a message covers a screen that is neither a message nor an
editor, and the notice that a function is missing covers the motion menu. A message that comes up
stays through keys, further messages and reports that bring up no other screen. The click that
answers it leads back to the screen below, if that accepts it, and else to the main menu; an edit
that was open counts as the menu that it was opened from, and nothing is sent for it. Lists, file
browser, settings and print are as they were. -/
theorem Reachable.popup_returns (h : p.Reachable) :
    (p.screen = .messagePopup → ∃ below, p.popupCaller = some below ∧
      below ≠ .messagePopup ∧ below.isEditor = false) ∧
    (p.screen = .featureNotAvailable → p.popupCaller = some .motion) ∧
    ∀ (text : String) (a : Answers) (ops : List (Operation × Answers)) (op : Operation)
      (c : Answers), Text.allBlank text.toList = false →
      let shown := (p.perform (.message text) a).panel
      shown.Throughout PassesBy ops → (shown.run ops).1.keyOf op = some .click →
      let run := p.run ((.message text, a) :: (ops ++ [(op, c)]))
      let q := run.1
      q.popupCaller = none ∧ q.edit = none ∧ q.places = p.places ∧ q.browser = p.browser ∧
        q.print = p.print ∧ q.settings = p.settings ∧ submitted run.2 = [] ∧
        (p.screen.acceptsReturn = true → q.screen = p.screen) ∧
        (p.screen.acceptsReturn = false → p.screen.isEditor = false → p.screen ≠ .messagePopup →
          q.screen = .mainMenu) ∧
        ∀ e, p.edit = some e →
          q.screen = if e.returnTo.acceptsReturn then e.returnTo else .mainMenu := by
  have hfit : p.PopupsFit := h.popupsFit
  have hcovers : p.screen = .messagePopup → ∃ below, p.popupCaller = some below ∧
      below ≠ .messagePopup ∧ below.isEditor = false := by
    intro hup
    obtain ⟨below, hbelow, hother⟩ := hfit.covers hup
    exact ⟨below, hbelow, hother, hfit.session.below below hbelow⟩
  refine ⟨hcovers, hfit.caller.notice, ?_⟩
  intro text a ops op c htext shown hpass hk run q
  have hshown : shown = p.withMessage text := by
    obtain ⟨t, ht, hdrawn⟩ := Act.showMessage_eq (a := a) (s := .opening p) text
    have hperform : p.perform (.message text) a = t := perform_eq ht
    exact (congrArg Scene.panel hperform).trans hdrawn.panel_eq
  have hover : shown.Over { p.beneath with caller := p.covered } := hshown ▸ over_withMessage htext
  obtain ⟨hanswered, hsent⟩ := hover.answered (a := c) hpass hk
  have hnothing : submitted run.2 = [] := by
    have hmessage : submitted (p.perform (.message text) a).events = [] := submitted_eq_nil rfl
    simp only [run, Panel.run, submitted_append, hmessage, List.nil_append]
    exact hsent
  have hscreen : q.screen = Act.messageReturn p.covered := hanswered.screen
  have hbeneath : q.beneath = { p.beneath with caller := none } := hanswered.beneath
  have hclosed (hfree : p.screen.isEditor = false) : p.edit = none :=
    hfit.session.edit_eq_none (free_of_isEditor_eq_false hfree)
  refine ⟨congrArg Beneath.caller hbeneath, hanswered.closed, congrArg Beneath.places hbeneath,
    congrArg Beneath.browser hbeneath, congrArg Beneath.print hbeneath,
    congrArg Beneath.settings hbeneath, hnothing, ?_, ?_, ?_⟩
  · intro haccepts
    obtain ⟨hfree, hother⟩ : p.screen.isEditor = false ∧ p.screen ≠ .messagePopup := by
      revert haccepts
      cases p.screen <;> decide
    rw [hscreen, messageReturn_of_closed (hclosed hfree) hother, if_pos haccepts]
  · intro hrefuses hfree hother
    rw [hscreen, messageReturn_of_closed (hclosed hfree) hother, if_neg (by simp [hrefuses])]
  · intro e he
    rw [hscreen, messageReturn_of_edit hfit.caller.edits he]

/-- A message over the control menu, one more message, a turn of the knob and a tick, and then a
click that leads back to that menu. -/
theorem popup_returns_control :
    let turns := [Key.down, .down, .click].map fun k => (Operation.key k, Answers.smooth)
    let p := (((Panel.ofSettings .standard 240 320).perform .start .smooth).panel.run turns).1
    let reports : Answers := { Answers.smooth with status := fun _ => some .atRest }
    let ops := [(Operation.message "Filament low", Answers.smooth), (.key .up, .smooth),
      (.tick 0, reports)]
    let q := (p.run ((.message "Door open", .smooth) :: (ops ++ [(.key .click, .smooth)]))).1
    p.Reachable ∧ p.screen = .control ∧
      (p.perform (.message "Door open") .smooth).panel.Throughout PassesBy ops ∧
      q.screen = .control ∧ q.places = p.places := by
  intro turns p reports ops q
  have hp : p.Reachable := (Reachable.started .standard 240 320 .smooth).run (by decide)
  have hscreen : p.screen = .control := by decide +kernel
  let shown := (p.perform (.message "Door open") .smooth).panel
  have hpass : shown.Throughout PassesBy ops := by decide +kernel
  obtain ⟨-, -, hreturns⟩ := hp.popup_returns
  obtain ⟨-, -, hplaces, -, -, -, -, haccepts, -⟩ :=
    hreturns "Door open" .smooth ops (.key .click) .smooth (by decide) hpass rfl
  exact ⟨hp, hscreen, hpass, (haccepts (by rw [hscreen]; rfl)).trans hscreen, hplaces⟩

end Panel

end PrinterPanel
