import PrinterPanel.Proofs.StatusArea

/-!
# The status area is never stale

Whenever a screen with a status area is up, that area was last drawn for the last report that a tick
has read, and it was not taken away since. Keys keep this, because they draw every screen anew that
has no status area to stay in. A tick keeps it, because the values that it compares are those that
the area shows.
-/

namespace PrinterPanel

open Display (Drawing)
open Menu

/-- Screens that are put over the status area of the screen before them. -/
def Screen.overStatus : Screen → Bool
  | printWindow | featureNotAvailable | homing | tooCold => true
  | maxSpeed | maxSpeedValue | maxAcceleration | maxAccelerationValue | maxJerk | maxJerkValue
  | step | stepValue => true
  | s => s.isEditor

/-- A message gives way to screens that are drawn as a whole. -/
theorem Act.overStatus_messageReturn (caller : Option Screen) :
    (messageReturn caller).overStatus = false := by
  unfold messageReturn
  split
  · next screen =>
    split
    · next haccepts =>
      revert haccepts
      cases screen <;> decide
    · rfl
  · rfl

namespace Panel

variable {p q : Panel} {r : Status} {screen : Screen} {calls d : Drawing}

/-! ### Pictures -/

/-- A screen with a status area of its own ends with that area. -/
theorem exists_picture_eq (hreport : p.lastStatus = some r) (hshows : screen.showsStatus)
    (hwhole : screen.overStatus = false) :
    ∃ above, p.picture screen = above ++ p.canvas.statusArea r := by
  have hstatus : p.statusPicture = p.canvas.statusArea r := by rw [statusPicture, hreport]
  have hlist (m : ListMenu) (hm : m ≠ .misc) :
      ∃ above, p.listPicture m = above ++ p.canvas.statusArea r :=
    ⟨p.listTitle m ++ p.listRows m, by rw [listPicture, if_neg hm, hstatus]⟩
  cases screen
  case selectFile => exact hlist .files (by decide)
  case prepare => exact hlist .prepare (by decide)
  case control => exact hlist .control (by decide)
  case axisMove => exact hlist .axes (by decide)
  case temperature => exact hlist .temperature (by decide)
  case motion => exact hlist .motion (by decide)
  case tune => exact hlist .tune (by decide)
  case plaPreheat => exact hlist (.preset .pla) (by decide)
  case tpuPreheat => exact hlist (.preset .tpu) (by decide)
  case info => exact ⟨_, congrArg (_ ++ ·) hstatus⟩
  case printProcess => exact ⟨_, congrArg (_ ++ ·) hstatus⟩
  all_goals first | exact absurd hshows (by decide) | exact absurd hwhole (by decide)

/-- A screen that is put over the status area leaves that alone. -/
theorem spares_picture (hover : screen.overStatus) : p.canvas.Spares (p.picture screen) := by
  obtain ⟨hhoming, hcold, hmissing⟩ := Display.Canvas.spares_notices (c := p.canvas)
  cases screen
  case printWindow => exact Display.Canvas.spares_pauseOrStop
  case featureNotAvailable => exact hmissing
  case homing => exact hhoming
  case tooCold => exact hcold
  all_goals first | exact Display.Canvas.spares_nil | exact absurd hover (by decide)

/-- A row of a list leaves the status area alone. -/
theorem spares_entryRow (m : ListMenu) (item row : Nat) :
    p.canvas.Spares (p.entryRow m item row) := by
  cases m with
  | files =>
    simp only [entryRow, fileRow]
    split
    · exact Display.Canvas.spares_nil
    · exact Display.Canvas.spares_row
    · exact Display.Canvas.spares_row
  | misc =>
    simp only [entryRow, macroRow]
    split
    · exact Display.Canvas.spares_nil
    · exact Display.Canvas.spares_row
  | prepare | control | axes | temperature | motion | tune | preset _ =>
    simp only [entryRow]
    exact Display.Canvas.spares_itemRow

/-! ### Keys -/

/-- The status area, where it is shown, was last drawn for the last report. -/
def AreaFresh (p : Panel) (calls : Drawing) : Prop :=
  ∀ r, p.lastStatus = some r → p.screen.showsStatus → p.canvas.LastArea r calls

/-- On a screen without a status area there is nothing to be fresh. -/
theorem areaFresh_of_hidden (h : p.screen.showsStatus = false) : p.AreaFresh calls := by
  intro r _ hshows
  rw [h] at hshows
  contradiction

/-- What leaves the status area alone keeps it fresh on the same screen. -/
theorem AreaFresh.append (h : p.AreaFresh calls) (hd : p.canvas.Spares d) :
    p.AreaFresh (calls ++ d) :=
  fun r hr hshows => (h r hr hshows).append hd

/-- A key puts a screen over the status area only where there is one. -/
theorem showsStatus_of_exits (hq : q.showing ∈ p.exits) (hover : q.screen.overStatus) :
    p.screen.showsStatus := by
  unfold exits at hq
  cases hscreen : p.screen <;> simp only [hscreen] at hq
  case mainMenu =>
    obtain ⟨-, hsame | hmem⟩ := showing_mem_ways.mp hq
    · rw [hsame, hscreen] at hover
      contradiction
    · revert hmem hover
      cases q.screen <;> decide
  case misc | manualProbe | iconFinder =>
    obtain ⟨-, hsame | hmem⟩ := showing_mem_ways.mp hq
    · rw [hsame, hscreen] at hover
      contradiction
    · rw [List.mem_singleton.mp hmem] at hover
      contradiction
  case messagePopup =>
    obtain hreturns | hstays := List.mem_cons.mp hq
    · rw [(showing_eq_iff.mp hreturns).1, Act.overStatus_messageReturn] at hover
      contradiction
    · obtain ⟨-, hsame | hmem⟩ := showing_mem_ways.mp hstays
      · rw [hsame, hscreen] at hover
        contradiction
      · contradiction
  all_goals rfl

/-- A key keeps the status area fresh. -/
theorem AreaFresh.draws (h : p.AreaFresh calls) (hkept : q.background = p.background)
    (hway : q.showing ∈ p.exits) (hdraws : p.Draws q d) : q.AreaFresh (calls ++ d) := by
  intro r hr hshows
  have hcanvas : q.canvas = p.canvas := congrArg Background.canvas hkept
  have hreport : p.lastStatus = some r := (congrArg Background.report hkept).symm.trans hr
  have hkeeps (hup : p.screen.showsStatus) (hd : q.canvas.Spares d) :
      q.canvas.LastArea r (calls ++ d) := by
    rw [hcanvas] at hd ⊢
    exact (h r hreport hup).append hd
  have hpart (hstays : q.screen = p.screen) (hd : p.canvas.Spares d) :
      q.canvas.LastArea r (calls ++ d) :=
    hkeeps (hstays ▸ hshows) (hcanvas ▸ hd)
  cases hdraws with
  | nothing hstays => exact hpart hstays Display.Canvas.spares_nil
  | screen =>
    cases hover : q.screen.overStatus with
    | true => exact hkeeps (showsStatus_of_exits hway hover) (spares_picture hover)
    | false =>
      obtain ⟨above, habove⟩ := exists_picture_eq hr hshows hover
      rw [habove, ← List.append_assoc]
      exact Display.Canvas.lastArea_append _
  | scroll m _ s _ _ hstays =>
    exact hpart hstays (Display.Canvas.spares_scrollWith (spares_entryRow m))
  | buttons _ hstays =>
    exact hpart hstays (Display.Canvas.spares_append.mpr
      ⟨Display.Canvas.spares_printButton, Display.Canvas.spares_printButton⟩)
  | resumed _ hstays =>
    exact hkeeps (hstays ▸ hshows) Display.Canvas.spares_printButton
  | answers confirm _ hstays => exact hpart hstays Display.Canvas.spares_confirmOrCancel
  | edited e _ hup => exact hkeeps hup Display.Canvas.spares_figure
  | settled e _ hup => exact hkeeps hup Display.Canvas.spares_figure
  | tiles hup hstays | icon hup hstays | probe hup hstays =>
    rw [hstays, hup] at hshows
    contradiction

end Panel

/-- The status area is fresh after the calls made so far. -/
def Scene.AreaFresh (s : Scene) (shown : Drawing) : Prop :=
  s.panel.AreaFresh (shown ++ drawnCalls s.events)

/-- A drawing that leaves the status area alone keeps it fresh. -/
theorem Scene.AreaFresh.afterCalls {s : Scene} {shown d : Drawing} (h : s.AreaFresh shown)
    (hd : s.panel.canvas.Spares d) (calls : Nat) : (s.afterCalls d calls).AreaFresh shown := by
  rw [Scene.AreaFresh, Scene.drawnCalls_afterCalls, ← List.append_assoc]
  exact Panel.AreaFresh.append h hd

/-- The backlight is not drawn on the status area. -/
theorem Display.Canvas.spares_lights {c : Display.Canvas} {d : Drawing} {level : Nat}
    (h : d ⊆ [.light level]) : c.Spares d := by
  intro call hcall
  rw [List.mem_singleton.mp (h hcall)]
  exact id

namespace Act

variable {a : Answers} {s : Scene} {shown : Drawing}

/-- A message covers the status area, or it is blank. -/
theorem showMessage_areaFresh (text : String) (hs : s.AreaFresh shown) :
    (showMessage text).Ends (fun _ t => t.AreaFresh shown) a s := by
  cases hblank : Text.allBlank text.toList with
  | true => simpa [Ends, showMessage, hblank] using hs
  | false =>
    obtain ⟨t, ht, hdrawn⟩ := showMessage_eq (a := a) (s := s) text
    refine ends_of_eq ht (Panel.areaFresh_of_hidden ?_)
    rw [hdrawn.panel_eq]
    change (s.panel.withMessage text).screen.showsStatus = false
    rw [withMessage_screen hblank]
    rfl

section Drawing

variable (h : ∀ n, a.display n = none)
include h

/-- Whatever a screen makes of a key, the status area stays fresh. -/
theorem handle_areaFresh (symbol : Symbol) (hs : s.AreaFresh shown) :
    (recovering (handle s.panel.screen symbol)).Ends (fun _ t => t.AreaFresh shown) a s := by
  have hdraws : (handle s.panel.screen symbol).Handles s.panel a s := handles_handle symbol
  have hleads : (handle s.panel.screen symbol).LeadsTo s.panel.exits a s := leadsTo_handle symbol
  unfold Handles Ensures at hdraws
  unfold LeadsTo Leaves Ensures at hleads
  rw [Ends, recovering, ensures_tryCatch, Ensures]
  cases hact : handle s.panel.screen symbol a s with
  | ok _ t =>
    simp only [hact] at hdraws hleads ⊢
    obtain ⟨hkept, d, hd, hevents, -⟩ := hdraws
    rw [Scene.AreaFresh, hevents, ← List.append_assoc]
    exact Panel.AreaFresh.draws hs hkept hleads hd
  | error f t =>
    simp only [hact] at hdraws ⊢
    obtain ⟨-, ⟨r, rfl⟩ | ⟨n, failure, -, hfailed⟩, -⟩ := hdraws
    · obtain ⟨u, hu, hdrawn⟩ := showMessage_eq (a := a) (s := t) ("Error: " ++ r.message)
      refine ends_of_eq hu (Panel.areaFresh_of_hidden ?_)
      rw [hdrawn.panel_eq]
      change (t.panel.withMessage _).screen.showsStatus = false
      rw [withMessage_screen (not_allBlank_error _)]
      rfl
    · rw [h n] at hfailed
      contradiction

/-- A key keeps the status area fresh. -/
theorem key_areaFresh (k : Key) (hs : s.AreaFresh shown) :
    (key k).Ends (fun _ t => t.AreaFresh shown) a s := by
  obtain ⟨lights, hlights, hkey⟩ := key_eq (a := a) (s := s) k
  have hwoken : (woken s lights).AreaFresh shown :=
    Scene.AreaFresh.afterCalls (s := { s with panel := s.panel.awake }) hs
      (Display.Canvas.spares_lights hlights) _
  rw [Ends, Ensures, hkey]
  exact handle_areaFresh h (s.panel.symbolOf k) hwoken

/-- A key that the knob makes keeps the status area fresh. -/
theorem keyOfKnob_areaFresh (decode : Knob → Option Key × Knob) (hs : s.AreaFresh shown) :
    (keyOfKnob decode).Ends (fun _ t => t.AreaFresh shown) a s := by
  rw [Ends, Ensures, keyOfKnob_eq]
  cases (decode s.panel.knob).1 with
  | none => exact hs
  | some k =>
    exact key_areaFresh (s := { s with panel :=
      { s.panel with knob := (decode s.panel.knob).2 } }) h k hs

end Drawing

end Act

/-! ### Reports -/

/-- While a report is followed, the status area is the one of that report or of the report
before. -/
structure Scene.AreaKnown (s : Scene) (shown : Drawing) (r : Status) (previous : Option Status) :
    Prop where
  report : s.panel.lastStatus = some r
  edits : s.panel.EditsInMenus
  area : ∀ old, previous = some old → s.panel.screen.showsStatus →
    s.panel.canvas.LastArea old (shown ++ drawnCalls s.events) ∨
      s.panel.canvas.LastArea r (shown ++ drawnCalls s.events)

/-- Without an edit there is none outside of the lists. -/
theorem Panel.editsInMenus_of_none {p : Panel} (h : p.edit = none) : p.EditsInMenus := by
  intro e he
  rw [h] at he
  contradiction

/-- Probing that ends leads back to the main menu, or to the list of an edit that it has put
away. -/
theorem Panel.EditsInMenus.overStatus_probeEnded {p : Panel} (h : p.EditsInMenus)
    (hscreen : p.screen = .manualProbe) :
    (p.abandonEdit.screen.after .probeEnded).overStatus = false := by
  unfold abandonEdit
  cases hedit : p.edit with
  | none =>
    rw [hscreen]
    rfl
  | some e =>
    obtain ⟨m, hm⟩ := h e hedit
    dsimp only
    rw [← hm]
    rcases m with _ | _ | _ | _ | _ | _ | _ | _ | _ | _ <;> rfl

/-- Abandoning an edit keeps the last report. -/
@[simp] theorem Panel.abandonEdit_lastStatus (p : Panel) :
    p.abandonEdit.lastStatus = p.lastStatus := congrArg Records.report p.abandonEdit_records

/-- Reports that agree in the values of the status area have the same one. -/
theorem Display.Canvas.statusArea_eq {c : Display.Canvas} {old new : Status}
    (h : old.areaDiffers new = false) : c.statusArea old = c.statusArea new := by
  simp only [Status.areaDiffers, Bool.or_eq_false_iff, bne_eq_false_iff_eq] at h
  obtain ⟨⟨⟨⟨⟨hhotend, hbed⟩, hfan⟩, hfeedrate⟩, hflow⟩, hoffset⟩ := h
  simp only [statusArea, hhotend, hbed, hfan, hfeedrate, hflow, hoffset]

namespace Scene.AreaKnown

variable {s : Scene} {shown d : Drawing} {r : Status} {previous : Option Status} {q : Panel}

/-- On a screen without a status area there is nothing to know of it. -/
theorem of_hidden (hreport : s.panel.lastStatus = some r) (hedits : s.panel.EditsInMenus)
    (hhidden : s.panel.screen.showsStatus = false) : s.AreaKnown shown r previous where
  report := hreport
  edits := hedits
  area _ _ hshows := by
    rw [hhidden] at hshows
    contradiction

/-- What is neither drawn nor kept for the status area may change. -/
theorem change (h : s.AreaKnown shown r previous) (hreport : q.lastStatus = s.panel.lastStatus)
    (hedit : q.edit = s.panel.edit) (hscreen : q.screen = s.panel.screen)
    (hcanvas : q.canvas = s.panel.canvas) :
    ({ s with panel := q } : Scene).AreaKnown shown r previous where
  report := hreport.trans h.report
  edits e he := h.edits e (hedit ▸ he)
  area old hold hshows := by
    rw [hcanvas]
    exact h.area old hold (hscreen ▸ hshows)

/-- A drawing that leaves the status area alone keeps what is known of it. -/
theorem afterCalls (h : s.AreaKnown shown r previous) (hd : s.panel.canvas.Spares d)
    (calls : Nat) : (s.afterCalls d calls).AreaKnown shown r previous where
  report := h.report
  edits := h.edits
  area old hold hshows := by
    rw [Scene.drawnCalls_afterCalls, ← List.append_assoc]
    exact (h.area old hold hshows).imp (·.append hd) (·.append hd)

end Scene.AreaKnown

namespace Act

variable {α β : Type} {a : Answers} {s : Scene} {shown : Drawing} {r : Status}
  {previous : Option Status}

/-- A message hides the status area. -/
theorem showMessage_areaKnown (text : String) (hs : s.AreaKnown shown r previous) :
    (showMessage text).Ends (fun _ t => t.AreaKnown shown r previous) a s := by
  cases hblank : Text.allBlank text.toList with
  | true => simpa [Ends, showMessage, hblank] using hs
  | false =>
    obtain ⟨t, ht, hdrawn⟩ := showMessage_eq (a := a) (s := s) text
    have hpanel : t.panel = s.panel.withMessage text := hdrawn.panel_eq
    have hreport : t.panel.lastStatus = s.panel.lastStatus :=
      hpanel ▸ congrArg Records.report (s.panel.withMessage_records text)
    rw [Ends, Ensures, ht]
    refine .of_hidden (hreport.trans hs.report) ?_ ?_
    · rw [hpanel]
      exact Panel.invariant_editsInMenus.withMessage text hs.edits
    · rw [hpanel, withMessage_screen hblank]
      rfl

section Drawing

variable (h : ∀ n, a.display n = none)
include h

/-- A screen that is drawn as a whole shows the new report. -/
theorem goTo_areaKnown {screen : Screen} (hreport : s.panel.lastStatus = some r)
    (hedits : s.panel.EditsInMenus) (hwhole : screen.overStatus = false) :
    (goTo screen).Ends (fun _ t => t.AreaKnown shown r previous) a s := by
  let q : Panel := { s.panel with screen := screen }
  have hdrawn : (draw (q.picture screen)).Ends (fun _ t => t.AreaKnown shown r previous) a
      { s with panel := q } := by
    rw [Ends, ensures_draw_iff h]
    refine ⟨hreport, hedits, fun old _ hshows => .inr ?_⟩
    obtain ⟨above, habove⟩ : ∃ above, q.picture screen = above ++ q.canvas.statusArea r :=
      Panel.exists_picture_eq hreport hshows hwhole
    rw [Scene.drawnCalls_afterCalls, habove, ← List.append_assoc, ← List.append_assoc]
    exact Display.Canvas.lastArea_append _
  exact hdrawn

/-- A demand of the printer leads to a screen without a status area, or draws all of it. -/
theorem force_areaKnown {d : Demand} (hs : s.AreaKnown shown r previous)
    (hwhole : (s.panel.abandonEdit.screen.after d).overStatus = false) :
    (force d).Ends (fun _ t => t.AreaKnown shown r previous) a s := by
  simp only [force, Ends, ensures_bind, ensures_change, ensures_panel]
  split
  · apply goTo_areaKnown h _ _ hwhole
    · exact s.panel.abandonEdit_lastStatus.trans hs.report
    · exact Panel.editsInMenus_of_none s.panel.abandonEdit_edit
  · next hstays =>
    have hnone : s.panel.edit = none := by simpa using (not_or.mp hstays).2
    rw [ensures_pure, Panel.abandonEdit_of_none hnone]
    exact hs.change rfl rfl rfl rfl

/-- Following the job keeps what is known of the status area. -/
theorem followJob_areaKnown (hs : s.AreaKnown shown r previous) :
    (followJob r).Ends (fun _ t => t.AreaKnown shown r previous) a s := by
  have hnoted (job : Job) : ({ s with panel := { s.panel with lastJob := job } } : Scene).AreaKnown
      shown r previous := hs.change rfl rfl rfl rfl
  have hend (job : Job) : (do
      change ({ · with print := .fresh })
      force .jobEnded : Act Unit).Ends (fun _ t => t.AreaKnown shown r previous) a
        { s with panel := { s.panel with lastJob := job } } :=
    force_areaKnown h ((hnoted job).change rfl rfl rfl rfl) rfl
  simp only [followJob, Ends, ensures_bind, ensures_panel, ensures_change]
  split
  · cases r.job with
    | printing =>
      dsimp only
      split
      · rw [ensures_bind, ensures_change]
        exact force_areaKnown h ((hnoted _).change rfl rfl rfl rfl) rfl
      · exact hnoted _
    | paused => exact hnoted _
    | standby | complete | cancelled => exact hend _
    | error => exact showMessage_areaKnown _ (hnoted _)
  · exact hnoted _

/-- Following the probing keeps what is known of the status area, and leads to the screen for
probing when that comes up. -/
theorem followProbe_areaKnown (hs : s.AreaKnown shown r previous) :
    (followProbe r).Ends (fun entered t => t.AreaKnown shown r previous ∧
      (entered = true → t.panel.screen = .manualProbe)) a s := by
  have hfresh : ({ s with panel := { s.panel with probe := .fresh } } : Scene).AreaKnown shown r
      previous := hs.change rfl rfl rfl rfl
  simp only [followProbe, Ends, ensures_bind, ensures_panel]
  cases hprobing : s.panel.screen == .manualProbe with
  | true =>
    have hscreen : s.panel.screen = .manualProbe := beq_iff_eq.mp hprobing
    have hhidden : s.panel.screen.showsStatus = false := by rw [hscreen]; rfl
    cases r.probe.isSome with
    | true =>
      dsimp only
      rw [ensures_bind, ensures_panel, ensures_bind, ensures_draw_iff h, ensures_pure]
      exact ⟨.of_hidden hs.report hs.edits hhidden, fun hentered => nomatch hentered⟩
    | false =>
      have hended : (force .probeEnded).Ends (fun _ t => t.AreaKnown shown r previous) a
          { s with panel := { s.panel with probe := .fresh } } :=
        force_areaKnown h hfresh (hfresh.edits.overStatus_probeEnded hscreen)
      dsimp only
      rw [ensures_bind, ensures_change]
      exact hended.bind fun _ _ ht => ⟨ht, fun hentered => nomatch hentered⟩
  | false =>
    cases r.probe.isSome with
    | true =>
      have hstarted := (force_areaKnown (d := .probeStarted) h hfresh rfl).and
        (((becomes_force (a := a) _).mpr rfl).ends h)
      dsimp only
      rw [ensures_bind, ensures_change]
      refine hstarted.bind fun _ t ht => ⟨ht.1, fun _ => ?_⟩
      rw [ht.2]
      rfl
    | false => exact ⟨hs, fun hentered => nomatch hentered⟩

/-- Refreshing the print screen keeps what is known of the status area. -/
theorem refreshPrint_areaKnown (hs : s.AreaKnown shown r previous) :
    (refreshPrint r).Ends (fun _ t => t.AreaKnown shown r previous) a s := by
  have hprint (print : PrintSession) :
      ({ s with panel := { s.panel with print := print } } : Scene).AreaKnown shown r previous :=
    hs.change rfl rfl rfl rfl
  have hprogress (t : Scene) (ht : t.AreaKnown shown r previous) :
      (panel >>= fun p => draw (p.canvas.progress r.progress)).Ends
        (fun _ u => u.AreaKnown shown r previous) a t := by
    simp only [Ends, ensures_bind, ensures_panel, ensures_draw_iff h]
    exact ht.afterCalls Display.Canvas.spares_progress _
  simp only [refreshPrint, Ends, ensures_bind, ensures_panel, ensures_change]
  split
  · simp only [ensures_bind, ensures_panel, ensures_change, ensures_draw_iff h]
    exact (hprint _).afterCalls Display.Canvas.spares_printFinished _
  · split
    · split
      · rw [ensures_bind, ensures_change, ensures_bind, ensures_panel, ensures_bind,
          ensures_draw_iff h]
        exact hprogress _ ((hprint _).afterCalls Display.Canvas.spares_printButton _)
      · exact hprogress _ (hprint _)
    · exact hprint _

/-- Following the homing keeps what is known of the status area. -/
theorem followHoming_areaKnown (hs : s.AreaKnown shown r previous) :
    (followHoming r).Ends (fun _ t => t.AreaKnown shown r previous) a s := by
  simp only [followHoming, Ends, ensures_bind, ensures_panel]
  cases s.panel.homing with
  | none => exact hs
  | some request =>
    by_cases hall : r.homed.all = true
    · by_cases hscreen : s.panel.screen = .homing
      · simp only [hall, hscreen, if_true, ensures_bind, ensures_change]
        exact goTo_areaKnown h hs.report hs.edits rfl
      · simp only [hall, hscreen, if_true, if_false, ensures_bind, ensures_change]
        exact hs.change rfl rfl rfl rfl
    · simp only [hall]
      exact hs

/-- The status area is drawn anew if it was not drawn for the new report and differs. -/
theorem refreshStatus_areaFresh (hs : s.AreaKnown shown r previous) :
    (refreshStatus r previous).Ends (fun _ t => t.AreaFresh shown) a s := by
  simp only [refreshStatus, Ends, ensures_bind, ensures_panel]
  split
  · rw [ensures_draw_iff h]
    intro r' hr' _
    obtain rfl : r = r' := Option.some.inj (hs.report.symm.trans hr')
    rw [Scene.drawnCalls_afterCalls, ← List.append_assoc]
    exact Display.Canvas.lastArea_append _
  · next hkeeps =>
    intro r' hr' hshows
    obtain rfl : r = r' := Option.some.inj (hs.report.symm.trans hr')
    cases hprevious : previous with
    | none => exact absurd (by simp [hshows, hprevious]) hkeeps
    | some old =>
      have hsame : old.areaDiffers r = false := by simpa [hshows, hprevious] using hkeeps
      obtain hold | hnew := hs.area old hprevious hshows
      · unfold Display.Canvas.LastArea at hold
        rw [Display.Canvas.statusArea_eq hsame] at hold
        exact hold
      · exact hnew

omit h in
/-- Following the message of a report keeps the status area fresh. -/
theorem followMessage_areaFresh (hs : s.AreaFresh shown) :
    (followMessage r).Ends (fun _ t => t.AreaFresh shown) a s := by
  simp only [followMessage, Ends, ensures_bind, ensures_panel]
  split
  · rw [ensures_bind, ensures_change]
    exact showMessage_areaFresh r.message hs
  · exact hs

/-- The status area is fresh once it has been refreshed. -/
theorem followRest_areaFresh (hs : s.AreaKnown shown r previous) :
    (followRest r previous).Ends (fun _ t => t.AreaFresh shown) a s := by
  unfold followRest
  apply (followProbe_areaKnown h hs).bind
  rintro entered t ⟨ht, hentered⟩
  have hlast (u : Scene) (hu : u.AreaKnown shown r previous)
      (hup : entered = true → u.panel.screen = .manualProbe) : (do
        followHoming r
        if !entered then refreshStatus r previous
        followMessage r : Act Unit).Ends (fun _ v => v.AreaFresh shown) a u := by
    have hhomed := (followHoming_areaKnown h hu).and ((becomes_followHoming (a := a) r).ends h)
    apply hhomed.bind
    rintro _ v ⟨hv, hpanel⟩
    cases entered with
    | true =>
      have hscreen : v.panel.screen = .manualProbe := by
        rw [hpanel, (u.panel.followingHoming_brings r).screen]
        simp [Panel.homingBringsUp, hup rfl]
      exact followMessage_areaFresh (Panel.areaFresh_of_hidden (by rw [hscreen]; rfl))
    | false => exact (refreshStatus_areaFresh h hv).bind fun _ _ => followMessage_areaFresh
  rw [Ends, ensures_bind, ensures_panel]
  by_cases hscreen : t.panel.screen = .printProcess
  · rw [if_pos hscreen]
    apply (refreshPrint_areaKnown h ht).bind
    intro _ u hu
    apply hlast u hu
    intro hprobing
    rw [hentered hprobing] at hscreen
    contradiction
  · rw [if_neg hscreen]
    exact hlast t ht hentered

/-- The status area is fresh when the panel is in line with a report. -/
theorem reconcile_areaFresh (hs : s.AreaKnown shown r previous) :
    (reconcile r previous).Ends (fun _ t => t.AreaFresh shown) a s := by
  rw [reconcile_eq]
  exact (followJob_areaKnown h hs).bind fun _ _ => followRest_areaFresh h

omit h in
/-- Counting an idle tick keeps the status area fresh. -/
theorem countIdleTick_areaFresh (hs : s.AreaFresh shown) :
    countIdleTick.Ends (fun _ t => t.AreaFresh shown) a s := by
  have hidled : ({ s with panel := s.panel.idled } : Scene).AreaFresh shown := by
    rw [Panel.idled_eq]
    exact hs
  exact ends_of_eq countIdleTick_counted
    (hidled.afterCalls (Display.Canvas.spares_lights (s.dimming_subset a)) _)

/-- What a tick hears keeps the status area fresh. -/
theorem hear_areaFresh (hs : s.AreaFresh shown) (hedits : s.panel.EditsInMenus) :
    hear.Ends (fun _ t => t.AreaFresh shown) a s := by
  cases hreport : a.status s.looks with
  | none => exact ends_of_eq (hear_eq_of_none hreport) hs
  | some r =>
    have hknown : (s.heard r).AreaKnown shown r s.panel.lastStatus :=
      ⟨rfl, hedits, fun old hold hshows => .inl (hs old hold hshows)⟩
    rw [Ends, Ensures, hear_eq_of_some hreport]
    exact (reconcile_areaFresh h hknown).recovering.bind fun _ _ => countIdleTick_areaFresh

end Drawing

end Act

/-! ### Runs -/

namespace Panel

variable {p : Panel} {a : Answers} {shown : Drawing}

/-- An operation keeps the status area fresh. -/
theorem perform_areaFresh (h : ∀ n, a.display n = none) (hp : p.AreaFresh shown)
    (hedits : p.EditsInMenus) (op : Operation) : (p.perform op a).AreaFresh shown := by
  have hopening : (Scene.opening p).AreaFresh shown := by
    rw [Scene.AreaFresh, Scene.opening]
    simpa using hp
  apply perform_of_ends (J := fun t => t.AreaFresh shown)
  cases op with
  | start =>
    have hmenu : (Act.draw [.light p.settings.screen.brightness] >>= fun _ =>
        Act.goTo .mainMenu).Ends (fun _ t => t.AreaFresh shown) a (.opening p) := by
      simp only [Act.goTo, Act.Ends, Act.ensures_bind, Act.ensures_change, Act.ensures_panel,
        Act.ensures_draw_iff h]
      exact areaFresh_of_hidden rfl
    exact hmenu.recovering
  | key k => exact Act.key_areaFresh h k hopening
  | rotate r now =>
    exact Act.keyOfKnob_areaFresh h (fun k => (some (k.rotate r now).1, (k.rotate r now).2))
      hopening
  | sample x y now => exact Act.keyOfKnob_areaFresh h (·.sample x y now) hopening
  | button down now => exact Act.keyOfKnob_areaFresh h (·.button down now) hopening
  | poll now => exact Act.keyOfKnob_areaFresh h (·.poll now) hopening
  | tick now =>
    obtain ⟨s, hs, -⟩ := Act.keyOfKnob_ends (a := a) (s := .opening p) (·.poll now)
    have hpolled : p.perform (.poll now) a = s := perform_eq hs
    have hfresh : s.AreaFresh shown := by
      have hkey := Act.keyOfKnob_areaFresh h (·.poll now) hopening
      rwa [Act.Ends, Act.Ensures, hs] at hkey
    have hmenus : s.panel.EditsInMenus := by
      rw [← hpolled]
      exact invariant_editsInMenus.perform (fun _ => hedits) hedits
    change (Act.tick now).Ends (fun _ t => t.AreaFresh shown) a (.opening p)
    rw [Act.Ends, Act.Ensures, Act.tick_of_polled hs]
    exact Act.hear_areaFresh h hfresh hmenus
  | message text => exact Act.showMessage_areaFresh text hopening
  | iconFinder =>
    have hicons : (Act.goTo .iconFinder).Ends (fun _ t => t.AreaFresh shown) a
        (.opening { p.abandonEdit with
          places := { p.abandonEdit.places with icon := .first } }) := by
      simp only [Act.goTo, Act.Ends, Act.ensures_bind, Act.ensures_change, Act.ensures_panel,
        Act.ensures_draw_iff h]
      exact areaFresh_of_hidden rfl
    exact hicons.recovering

/-- A run keeps the status area fresh. -/
theorem run_areaFresh {ops : List (Operation × Answers)}
    (hops : ∀ x ∈ ops, ∀ n, x.2.display n = none) (hp : p.AreaFresh shown)
    (hedits : p.EditsInMenus) :
    (p.run ops).1.AreaFresh (shown ++ drawnCalls (p.run ops).2) := by
  induction ops generalizing p shown with
  | nil => simpa [run] using hp
  | cons x rest ih =>
    obtain ⟨op, a⟩ := x
    have hfirst : (p.perform op a).AreaFresh shown :=
      perform_areaFresh (hops _ List.mem_cons_self) hp hedits op
    have hrest := ih (fun y hy => hops y (List.mem_cons_of_mem _ hy)) hfirst
      (invariant_editsInMenus.perform (fun _ => hedits) hedits)
    simpa [run, List.append_assoc] using hrest

/-- On a display that never fails, whenever a tick has read a report and a screen is up that shows
the status area, the status area was last drawn for the last report that was read, and after every
drawing that took it away. -/
theorem run_statusArea_fresh (s : Settings) (width height : Nat) (ops : List (Operation × Answers))
    (hops : ∀ x ∈ ops, ∀ n, x.2.display n = none) :
    let p := Panel.ofSettings s width height
    let c : Display.Canvas := ⟨width, height, s.language⟩
    let calls := drawnCalls (p.run ops).2
    ∀ r, (p.readings ops).getLast? = some r → (p.run ops).1.screen.showsStatus →
      ∃ n, Display.MadeAt calls n (c.statusArea r) ∧
        (∀ r' k, Display.MadeAt calls k (c.statusArea r') → k ≤ n) ∧
        ∀ d k, c.TakesAway d → Display.MadeAt calls k d → k < n := by
  intro p c calls r hread hshows
  have hclosed : p.EditsInMenus := editsInMenus_of_none rfl
  have hfresh : (p.run ops).1.AreaFresh ([] ++ calls) :=
    run_areaFresh hops (areaFresh_of_hidden rfl) hclosed
  have hreport : (p.run ops).1.lastStatus = some r := by
    have hheard := run_heard p ops
    rw [hread] at hheard
    exact congrArg Prod.fst hheard
  have hcanvas : (p.run ops).1.canvas = c :=
    ((invariant_fixed c s).run (fun _ _ _ _ hq => hq) ⟨rfl, rfl⟩).1
  have hlast : c.LastArea r calls := hcanvas ▸ hfresh r hreport hshows
  exact hlast.exists_madeAt

/-- The prepare menu shows the status area of the report that was read before it was opened. -/
theorem statusArea_fresh_prepare :
    let p := Panel.ofSettings .standard 240 320
    let c : Display.Canvas := ⟨240, 320, Settings.standard.language⟩
    let reports : Answers := { Answers.smooth with status := fun _ => some .atRest }
    let ops := [(Operation.start, Answers.smooth), (.tick 0, reports), (.key .down, .smooth),
      (.key .click, .smooth)]
    let calls := drawnCalls (p.run ops).2
    (∀ x ∈ ops, ∀ n, x.2.display n = none) ∧ (p.readings ops).getLast? = some .atRest ∧
      (p.run ops).1.screen = .prepare ∧
      ∃ n, Display.MadeAt calls n (c.statusArea .atRest) ∧
        ∀ d k, c.TakesAway d → Display.MadeAt calls k d → k < n := by
  intro p c reports ops calls
  have hops : ∀ x ∈ ops, ∀ n, x.2.display n = none := by simp [ops, reports, Answers.smooth]
  have hread : (p.readings ops).getLast? = some .atRest := by decide +kernel
  have hscreen : (p.run ops).1.screen = .prepare := by decide +kernel
  have hfresh := run_statusArea_fresh .standard 240 320 ops hops .atRest hread
  -- The run is not to be computed once more.
  clear_value ops
  obtain ⟨n, hmade, -, htaken⟩ := hfresh (by rw [hscreen]; rfl)
  exact ⟨hops, hread, hscreen, n, hmade, htaken⟩

end Panel

end PrinterPanel
