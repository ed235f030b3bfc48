import PrinterPanel.Proofs.Acceptance
import PrinterPanel.Proofs.Readings

/-!
# The highlighted value

While a value is edited, it is the highlighted number that was drawn last: opening an edit and
turning its value draw it so, and nothing else draws a highlighted number while the edit stays open.
A display call that fails can break this, and a command that is declined cannot.
-/

namespace PrinterPanel

open Display (Drawing)
open Menu

namespace Display

/-- The number that a call draws, if it draws one highlighted. -/
def Call.highlighted? : Call → Option Int
  | int style _ _ _ value | fixed style _ _ _ _ value =>
    if style.background = .selected then some value else none
  | _ => none

/-- The highlighted number that was drawn last. -/
def highlighted (calls : Drawing) : Option Int := (calls.filterMap Call.highlighted?).getLast?

/-- A drawing without a highlighted number. -/
def Plain (d : Drawing) : Prop := ∀ call ∈ d, call.highlighted? = none

variable {calls d d' : Drawing}

/-- Two plain drawings are plain together. -/
theorem plain_append (h : Plain d) (h' : Plain d') : Plain (d ++ d') :=
  List.forall_mem_append.mpr ⟨h, h'⟩

/-- A plain drawing does not change which number is highlighted. -/
theorem highlighted_append (hd : Plain d) : highlighted (calls ++ d) = highlighted calls := by
  rw [highlighted, List.filterMap_append, List.filterMap_eq_nil_iff.mpr hd, List.append_nil]
  rfl

/-- A value that is drawn highlighted is the highlighted one. -/
theorem highlighted_figure {c : Canvas} {row decimals : Nat} {value : Int} :
    highlighted (calls ++ c.figure row ⟨decimals, value⟩ true) = some value := by
  have hvalue : (c.figure row ⟨decimals, value⟩ true).filterMap Call.highlighted? = [value] := by
    by_cases hdecimals : decimals = 0 <;> simp [Canvas.figure, hdecimals, Call.highlighted?]
  rw [highlighted, List.filterMap_append, hvalue, List.getLast?_concat]

/-- The backlight highlights nothing. -/
theorem plain_light {level : Nat} {shown : Drawing} (h : shown ⊆ [.light level]) : Plain shown := by
  intro call hcall
  rw [List.mem_singleton.mp (h hcall)]
  rfl

/-- The status area has no highlighted number. -/
theorem plain_statusArea {c : Canvas} {r : Status} : Plain (c.statusArea r) := by
  have hheater {y : Int} {animation icon : Nat} {h : Heater} :
      Plain (c.heater y animation icon h) := by
    unfold Canvas.heater
    split <;> simp [Plain, Call.highlighted?, pictogram, menuText, Color.black, Color.selected]
  have hpercentage {x y : Int} {icon : Nat} {value : Int} :
      Plain (c.percentage x y icon value) := by
    simp [Plain, Canvas.percentage, Call.highlighted?, pictogram, menuText, Color.black,
      Color.selected]
  have hclear : Plain c.clearStatus := by
    simp [Plain, Canvas.clearStatus, Canvas.band, Call.highlighted?]
  have hoffset : Plain [pictogram Icon.zOffset 165 294, .fixed menuText 1 3 191 300 r.zOffset] := by
    simp [Plain, Call.highlighted?, pictogram, menuText, Color.black, Color.selected]
  unfold Canvas.statusArea
  exact plain_append (plain_append (plain_append (plain_append (plain_append (plain_append hclear
    hheater) hheater) hpercentage) hpercentage) hpercentage) hoffset

end Display

/-- The value of an open edit is the highlighted number that was drawn last. -/
def Panel.ShowsEdit (p : Panel) (shown : Drawing) : Prop :=
  ∀ e, p.edit = some e → Display.highlighted shown = some e.value

/-- The value of an open edit is the highlighted number that was drawn last, during an operation or
before it, and its editor is up. -/
def Scene.ShowsEdit (shown : Drawing) (s : Scene) : Prop :=
  s.panel.ShowsEdit (shown ++ drawnCalls s.events) ∧
    (s.panel.edit.isSome → s.panel.screen.isEditor = true)

namespace Scene

variable {shown d : Drawing} {s : Scene}

/-- Without an edit there is nothing to show. -/
theorem showsEdit_of_none (h : s.panel.edit = none) : s.ShowsEdit shown :=
  ⟨fun e he => (nomatch h.symm.trans he), fun hopen => by simp [h] at hopen⟩

/-- An edit is not open while a screen is up that is no editor. -/
theorem ShowsEdit.edit_eq_none (h : s.ShowsEdit shown) (hscreen : s.panel.screen.isEditor = false) :
    s.panel.edit = none := by
  cases he : s.panel.edit with
  | none => rfl
  | some e =>
    have heditor := h.2 (by rw [he]; rfl)
    rw [hscreen] at heditor
    contradiction

/-- A plain drawing keeps the value of an edit highlighted. -/
theorem ShowsEdit.afterCalls (h : s.ShowsEdit shown) (hd : Display.Plain d) (calls : Nat) :
    (s.afterCalls d calls).ShowsEdit shown := by
  refine ⟨fun e he => ?_, h.2⟩
  rw [drawnCalls_afterCalls, ← List.append_assoc, Display.highlighted_append hd]
  exact h.1 e he

end Scene

namespace Act

variable {α β : Type} {a : Answers} {s : Scene} {shown : Drawing} {r : Status}

/-- However it ends, the act leaves the value of an open edit highlighted. -/
def ShowsEdit (act : Act α) (shown : Drawing) (a : Answers) (s : Scene) : Prop :=
  act.Ensures (fun _ t => t.ShowsEdit shown) (fun _ t => t.ShowsEdit shown) a s

/-! ### One rule for each kind of step -/

/-- An act that does nothing shows what was shown. -/
@[simp] theorem showsEdit_pure (x : α) :
    (pure x : Act α).ShowsEdit shown a s ↔ s.ShowsEdit shown := Iff.rfl

/-- A look at the panel shows nothing. -/
@[simp] theorem showsEdit_panel_bind (next : Panel → Act β) :
    (panel >>= next).ShowsEdit shown a s ↔ (next s.panel).ShowsEdit shown a s :=
  ensures_panel_bind next

/-- A change of the panel counts from then on. -/
@[simp] theorem showsEdit_change_bind (f : Panel → Panel) (next : Unit → Act β) :
    (change f >>= next).ShowsEdit shown a s ↔
      (next ()).ShowsEdit shown a { s with panel := f s.panel } :=
  ensures_change_bind f next

/-- Asking for a report shows nothing. -/
@[simp] theorem showsEdit_report_bind (next : Status → Act β) :
    (report >>= next).ShowsEdit shown a s ↔
      (next (s.panel.reportAt a s.looks)).ShowsEdit shown a { s with looks := s.looks + 1 } :=
  ensures_report_bind next

/-- Each of two acts keeps the value of an edit highlighted. -/
theorem ShowsEdit.bind {act : Act α} {next : α → Act β} (h : act.ShowsEdit shown a s)
    (hnext : ∀ x t, t.ShowsEdit shown → (next x).ShowsEdit shown a t) :
    (act >>= next).ShowsEdit shown a s := by
  rw [ShowsEdit, ensures_bind]
  exact h.mono hnext fun _ _ ht => ht

/-- Where no edit is open at the end, there is nothing to show. -/
theorem Leaves.showsEdit {act : Act α} (h : act.Leaves (·.edit = none) a s) :
    act.ShowsEdit shown a s :=
  h.mono (fun _ _ ht => Scene.showsEdit_of_none ht) fun _ _ ht => Scene.showsEdit_of_none ht

/-- An act that ends without an edit has nothing to show. -/
theorem Becomes.showsEdit {act : Act α} {q : Panel} (h : act.Becomes q a s)
    (hq : q.edit = none) : act.ShowsEdit shown a s :=
  (h.leaves_iff.mpr hq).showsEdit

/-- A message puts an edit away, if there is anything to show. -/
theorem showsEdit_showMessage (hs : s.ShowsEdit shown) (text : String) :
    (showMessage text).ShowsEdit shown a s := by
  by_cases hblank : Text.allBlank text.toList = true
  · rw [showMessage, if_pos hblank]
    exact hs
  · refine ((becomes_showMessage text).mpr rfl).showsEdit ?_
    rw [Panel.withMessage, if_neg hblank]
    exact s.panel.abandonEdit_edit

/-- Recovering from a fault shows a message at most. -/
theorem ShowsEdit.recovering {act : Act Unit} (h : act.ShowsEdit shown a s) :
    (recovering act).ShowsEdit shown a s := by
  apply Ensures.recovering h
  · exact fun _ _ ht => ht
  · exact fun r t ht => showsEdit_showMessage ht _

/-- A demand of the printer puts an edit away. -/
theorem showsEdit_force (d : Demand) : (force d).ShowsEdit shown a s :=
  ((becomes_force d).mpr rfl).showsEdit s.panel.abandonEdit_edit

/-- A press on the entry of a list shows the value of the edit that the entry opens. -/
theorem showsEdit_withEntry {ι : Type} {m : ListMenu} {items : Features → List ι}
    {act : ι → Act Unit} {begins : ι → Option (Field × Int)} {e : Edit}
    (hopened : s.panel.opensAt m items begins = some e)
    (hact : ∀ item, (begins item).isSome → (act item).ShowsEdit shown a s) :
    (withEntry m items act).ShowsEdit shown a s := by
  obtain ⟨begun, hbegun, -⟩ := Option.map_eq_some_iff.mp hopened
  obtain ⟨item, hitem, hbegins⟩ := Option.bind_eq_some_iff.mp hbegun
  simp only [withEntry, showsEdit_panel_bind, hitem]
  exact hact item (by rw [hbegins]; rfl)

/-! ### What follows a report without drawing a value -/

/-- Following the job keeps the value of an edit highlighted, or puts the edit away. -/
theorem showsEdit_followJob (hs : s.ShowsEdit shown) : (followJob r).ShowsEdit shown a s := by
  have hnoted (job : Job) :
      ({ s with panel := { s.panel with lastJob := job } } : Scene).ShowsEdit shown := hs
  simp only [followJob, showsEdit_panel_bind, showsEdit_change_bind]
  split
  · cases r.job with
    | printing =>
      dsimp only
      split
      · rw [showsEdit_change_bind]
        exact showsEdit_force _
      · exact hs
    | paused => exact hs
    | standby | complete | cancelled =>
      dsimp only
      rw [showsEdit_change_bind]
      exact showsEdit_force _
    | error => exact showsEdit_showMessage (hnoted _) _
  · exact hs

/-- The probing page is drawn only while it is up, when no edit is open. -/
theorem showsEdit_followProbe (hs : s.ShowsEdit shown) :
    (followProbe r).ShowsEdit shown a s := by
  have hentered (entered : Bool) (t : Scene) (ht : t.ShowsEdit shown) :
      (pure entered : Act Bool).ShowsEdit shown a t := (showsEdit_pure entered).mpr ht
  simp only [followProbe, showsEdit_panel_bind]
  split
  · rw [showsEdit_change_bind]
    exact (showsEdit_force _).bind fun _ => hentered true
  · rw [showsEdit_change_bind]
    exact (showsEdit_force _).bind fun _ => hentered false
  · next hprobing =>
    have hscreen : s.panel.screen.isEditor = false := by rw [beq_iff_eq.mp hprobing]; rfl
    have hdrawn : (draw (s.panel.probePicture false)).ShowsEdit shown a s :=
      ((becomes_draw _).mpr rfl).showsEdit (hs.edit_eq_none hscreen)
    rw [showsEdit_panel_bind]
    exact hdrawn.bind fun _ => hentered false
  · exact hs

/-- The print screen has no edit to show. -/
theorem showsEdit_refreshPrint (hs : s.ShowsEdit shown)
    (hscreen : s.panel.screen = .printProcess) : (refreshPrint r).ShowsEdit shown a s :=
  (becomes_refreshPrint r).showsEdit (hs.edit_eq_none (by rw [hscreen]; rfl))

/-- Following the homing keeps the value of an edit highlighted. -/
theorem showsEdit_followHoming (hs : s.ShowsEdit shown) :
    (followHoming r).ShowsEdit shown a s := by
  simp only [followHoming, showsEdit_panel_bind]
  split
  · exact hs
  · split
    · rw [showsEdit_change_bind]
      split
      · next hscreen =>
        rw [showsEdit_change_bind]
        exact ((becomes_goTo _).mpr rfl).showsEdit (hs.edit_eq_none (by rw [hscreen]; rfl))
      · exact hs
    · exact hs

/-- Following the message of a report keeps the value of an edit highlighted, or puts the edit
away. -/
theorem showsEdit_followMessage (hs : s.ShowsEdit shown) :
    (followMessage r).ShowsEdit shown a s := by
  simp only [followMessage, showsEdit_panel_bind]
  split
  · rw [showsEdit_change_bind]
    have hnoted : ({ s with panel := { s.panel with lastMessage := r.message } } : Scene).ShowsEdit
        shown := hs
    exact showsEdit_showMessage hnoted _
  · exact hs

section Drawing

variable (h : ∀ n, a.display n = none)
include h

/-- A drawing is made as a whole. -/
theorem showsEdit_draw {d : Drawing} :
    (draw d).ShowsEdit shown a s ↔ (s.afterCalls d d.length).ShowsEdit shown :=
  ensures_draw_iff h

/-- A field that is opened shows its first value. -/
theorem showsEdit_beginEdit (field : Field) (initial : Int) (returnTo : Screen) (row : Nat) :
    (beginEdit field initial returnTo row).ShowsEdit shown a s := by
  simp only [beginEdit, showsEdit_change_bind, showsEdit_panel_bind, showsEdit_draw h]
  refine ⟨?_, fun _ => field.isEditor_screen⟩
  rintro _ ⟨⟩
  rw [Scene.drawnCalls_afterCalls, ← List.append_assoc, Display.highlighted_figure]
  rfl

/-- An open edit shows its value after each symbol that it survives. -/
theorem showsEdit_valueEdit (hs : s.ShowsEdit shown) (symbol : Symbol) :
    (valueEdit symbol).ShowsEdit shown a s := by
  simp only [valueEdit_eq, showsEdit_panel_bind]
  cases he : s.panel.edit with
  | none => exact ((leaves_goTo _).mpr he).showsEdit
  | some e =>
    dsimp only
    split
    · have hclosed {p : Panel} (hp : p.draft ∈ [(none, s.panel.settings),
          (none, s.panel.settings.accepting e.effect)]) : p.edit = none := by
        simp only [List.mem_cons, List.not_mem_nil, or_false, Panel.draft_eq_iff] at hp
        exact hp.elim And.left And.left
      have hleft : (acceptEdit e).Leaves (·.edit = none) a s :=
        (draft_acceptEdit e).mono (fun _ _ ht => hclosed ht.1) fun _ _ ht => hclosed ht.1
      exact hleft.showsEdit
    · split
      · rw [showsEdit_change_bind, showsEdit_draw h]
        refine ⟨?_, fun _ => hs.2 (by rw [he]; rfl)⟩
        rintro _ ⟨⟩
        rw [Scene.drawnCalls_afterCalls, ← List.append_assoc, Display.highlighted_figure]
      · exact hs

/-- A press that opens an edit shows its value. -/
theorem showsEdit_opened {e : Edit} (hr : s.panel.reportAt a s.looks = r)
    (hopened : s.panel.opened r = some e) :
    (handle s.panel.screen .enter).ShowsEdit shown a s := by
  unfold Panel.opened at hopened
  dsimp only at hopened
  split at hopened
  · next hscreen =>
    rw [hscreen]
    refine showsEdit_withEntry hopened fun item hitem => ?_
    cases item with
    | zOffset =>
      simp only [showsEdit_report_bind, showsEdit_panel_bind]
      exact showsEdit_beginEdit h _ _ _ _
    | back | move | disableSteppers | home | preheatPla | preheatTpu | cooldown => contradiction
  · next hscreen =>
    rw [hscreen]
    refine showsEdit_withEntry hopened fun item hitem => ?_
    cases item with
    | back => contradiction
    | x | y | z =>
      simp only [AxisItem.axis?, beginMove, showsEdit_report_bind, showsEdit_panel_bind]
      exact showsEdit_beginEdit h _ _ _ _
    | e =>
      have hwarm : ¬ s.panel.settings.TooCold r := by
        intro hcold
        simp [AxisItem.begins, hcold] at hitem
      subst hr
      simp only [AxisItem.axis?, beginMove, showsEdit_report_bind, showsEdit_panel_bind]
      split
      · next hcold => exact absurd hcold hwarm
      · exact showsEdit_beginEdit h _ _ _ _
  · next hscreen =>
    rw [hscreen]
    refine showsEdit_withEntry hopened fun item hitem => ?_
    simp only [showsEdit_report_bind, showsEdit_panel_bind]
    cases item with
    | hotend | bed | fan => exact showsEdit_beginEdit h _ _ _ _
    | back | plaPreset | tpuPreset => contradiction
  · next hscreen =>
    rw [hscreen]
    refine showsEdit_withEntry hopened fun item hitem => ?_
    simp only [showsEdit_report_bind, showsEdit_panel_bind]
    cases item with
    | back => contradiction
    | speed | hotend | bed | fan | zOffset => exact showsEdit_beginEdit h _ _ _ _
  · next hscreen =>
    rw [hscreen]
    refine showsEdit_withEntry hopened fun item hitem => ?_
    rw [showsEdit_panel_bind]
    cases item with
    | hotend | bed | fan => exact showsEdit_beginEdit h _ _ _ _
    | back | save => contradiction
  · next hscreen =>
    rw [hscreen]
    refine showsEdit_withEntry hopened fun item hitem => ?_
    rw [showsEdit_panel_bind]
    cases item with
    | hotend | bed | fan => exact showsEdit_beginEdit h _ _ _ _
    | back | save => contradiction
  · contradiction

/-- The handling of a key shows the value of the edit that it turns or opens. -/
theorem showsEdit_handle (hs : s.ShowsEdit shown) (hsession : s.panel.EditSession)
    (symbol : Symbol) : (handle s.panel.screen symbol).ShowsEdit shown a s := by
  cases heditor : s.panel.screen.isEditor with
  | true =>
    rw [handle_eq_valueEdit heditor]
    exact showsEdit_valueEdit h hs symbol
  | false =>
    have hdrafts := draft_handle (a := a) hsession symbol
    rw [Panel.draftsAfter, hs.edit_eq_none heditor] at hdrafts
    cases hopened :
      if symbol = .enter then s.panel.opened (s.panel.reportAt a s.looks) else none with
    | none =>
      have hclosed : (handle s.panel.screen symbol).Leaves (·.edit = none) a s := by
        rw [hopened] at hdrafts
        refine hdrafts.mono (fun _ _ ht => ?_) fun _ _ ht => ?_
        all_goals exact (Panel.draft_eq_iff.mp (List.mem_singleton.mp ht.1)).1
      exact hclosed.showsEdit
    | some e =>
      split at hopened
      · next henter =>
        rw [henter]
        exact showsEdit_opened h rfl hopened
      · contradiction

/-! ### Keys and reports -/

/-- A key keeps the value of an edit highlighted. -/
theorem showsEdit_key (hs : s.ShowsEdit shown) (hsession : s.panel.EditSession) (k : Key) :
    (key k).ShowsEdit shown a s := by
  obtain ⟨lights, hlights, hkey⟩ := key_eq (a := a) (s := s) k
  have hwoken : (woken s lights).ShowsEdit shown :=
    Scene.ShowsEdit.afterCalls (s := { s with panel := s.panel.awake }) hs
      (Display.plain_light hlights) _
  have hawake : (woken s lights).panel.EditSession :=
    Panel.invariant_editSession.persists.awake hsession s.panel.knob
  rw [ShowsEdit, Ensures, hkey]
  exact (showsEdit_handle h hwoken hawake (s.panel.symbolOf k)).recovering

/-- A key that the knob makes keeps the value of an edit highlighted. -/
theorem showsEdit_keyOfKnob (hs : s.ShowsEdit shown) (hsession : s.panel.EditSession)
    (decode : Knob → Option Key × Knob) : (keyOfKnob decode).ShowsEdit shown a s := by
  rw [ShowsEdit, Ensures, keyOfKnob_eq]
  cases (decode s.panel.knob).1 with
  | none => exact hs
  | some k =>
    have hsession' : ({ s.panel with knob := (decode s.panel.knob).2 } : Panel).EditSession :=
      Panel.invariant_editSession.attends s.panel.latch _ s.panel.idleTicks s.panel.dimmed hsession
        (.inr rfl)
    exact showsEdit_key (s := { s with panel :=
      { s.panel with knob := (decode s.panel.knob).2 } }) h hs hsession' k

/-- The status area has no highlighted number. -/
theorem showsEdit_refreshStatus (hs : s.ShowsEdit shown) (previous : Option Status) :
    (refreshStatus r previous).ShowsEdit shown a s := by
  simp only [refreshStatus, showsEdit_panel_bind]
  split
  · rw [showsEdit_draw h]
    exact hs.afterCalls Display.plain_statusArea _
  · exact hs

/-- Following a report leaves the value of an open edit highlighted, or it puts the edit away. -/
theorem showsEdit_reconcile (hs : s.ShowsEdit shown) (previous : Option Status) :
    (reconcile r previous).ShowsEdit shown a s := by
  have hlast (entered : Bool) (t : Scene) (ht : t.ShowsEdit shown) : (do
      followHoming r
      if !entered then refreshStatus r previous
      followMessage r : Act Unit).ShowsEdit shown a t := by
    apply (showsEdit_followHoming ht).bind
    intro _ u hu
    cases entered with
    | true => exact showsEdit_followMessage hu
    | false =>
      exact (showsEdit_refreshStatus h hu previous).bind fun _ _ => showsEdit_followMessage
  rw [reconcile_eq]
  apply (showsEdit_followJob hs).bind
  intro _ t ht
  unfold followRest
  apply (showsEdit_followProbe ht).bind
  intro entered u hu
  rw [showsEdit_panel_bind]
  by_cases hscreen : u.panel.screen = .printProcess
  · rw [if_pos hscreen]
    exact (showsEdit_refreshPrint hu hscreen).bind fun _ => hlast entered
  · rw [if_neg hscreen]
    exact hlast entered u hu

/-- Hearing a report keeps the value of an edit highlighted. -/
theorem showsEdit_hear (hs : s.ShowsEdit shown) : hear.ShowsEdit shown a s := by
  cases hreport : a.status s.looks with
  | none =>
    rw [ShowsEdit, Ensures, hear_eq_of_none hreport]
    exact hs
  | some r =>
    have hheard : (s.heard r).ShowsEdit shown := hs
    rw [ShowsEdit, Ensures, hear_eq_of_some hreport]
    refine (showsEdit_reconcile h hheard _).recovering.bind fun _ t ht => ?_
    have hidled : ({ t with panel := t.panel.idled } : Scene).ShowsEdit shown := by
      rw [Panel.idled_eq]
      exact ht
    rw [ShowsEdit, Ensures, countIdleTick_counted]
    exact hidled.afterCalls (Display.plain_light (t.dimming_subset a)) _

end Drawing

end Act

/-! ### Operations -/

namespace Panel

variable {p : Panel} {op : Operation} {a : Answers} {shown : Drawing}

/-- A panel without an edit has nothing to show. -/
theorem showsEdit_of_none (h : p.edit = none) : p.ShowsEdit shown :=
  fun _ he => (nomatch h.symm.trans he)

/-- While no display call fails, an operation leaves the value of an open edit highlighted, whether
it was open before or not. -/
theorem EditSession.showsEdit_perform (hsession : p.EditSession) (hop : op ≠ .start)
    (h : ∀ n, a.display n = none) (hp : p.ShowsEdit shown) :
    (p.perform op a).panel.ShowsEdit (shown ++ drawnCalls (p.perform op a).events) := by
  have hopening : (Scene.opening p).ShowsEdit shown := by
    refine ⟨by simpa [Scene.opening] using hp, fun hopen => ?_⟩
    obtain ⟨e, he⟩ := Option.isSome_iff_exists.mp hopen
    exact hsession.isEditor_of_edit he
  have hknob (decode : Knob → Option Key × Knob) :
      (Act.keyOfKnob decode).ShowsEdit shown a (.opening p) :=
    Act.showsEdit_keyOfKnob h hopening hsession decode
  suffices hact : op.act.ShowsEdit shown a (.opening p) from
    ((perform_iff (h := fun s => s.ShowsEdit shown) p op a).mpr hact).1
  cases op with
  | start => exact absurd rfl hop
  | key k => exact Act.showsEdit_key h hopening hsession k
  | rotate r now => exact hknob fun k => (some (k.rotate r now).1, (k.rotate r now).2)
  | sample x y now => exact hknob (·.sample x y now)
  | button down now => exact hknob (·.button down now)
  | poll now => exact hknob (·.poll now)
  | tick now =>
    have htick : (Act.tick now).ShowsEdit shown a (.opening p) := by
      rw [Act.tick_eq]
      exact (hknob (·.poll now)).bind fun _ _ => Act.showsEdit_hear h
    exact htick
  | message text => exact Act.showsEdit_showMessage hopening text
  | iconFinder =>
    let q : Panel := { p.abandonEdit with places := { p.abandonEdit.places with icon := .first } }
    have hicons : (Act.goTo .iconFinder).ShowsEdit shown a (.opening q) :=
      ((Act.becomes_goTo _).mpr rfl).showsEdit p.abandonEdit_edit
    exact hicons.recovering

/-- A run without a failing display call leaves the value of an open edit highlighted. -/
theorem Reachable.showsEdit_run (hreached : p.Reachable) {ops : List (Operation × Answers)}
    (hops : ∀ x ∈ ops, x.1 ≠ .start) (h : ∀ x ∈ ops, ∀ n, x.2.display n = none)
    (hp : p.ShowsEdit shown) : (p.run ops).1.ShowsEdit (shown ++ drawnCalls (p.run ops).2) := by
  induction ops generalizing p shown with
  | nil => simpa [Panel.run] using hp
  | cons x rest ih =>
    have hop := hops x List.mem_cons_self
    have hfirst := hreached.editSession.showsEdit_perform hop (h x List.mem_cons_self) hp
    have hrest := ih (hreached.operated x.2 hop) (fun y hy => hops y (List.mem_cons_of_mem _ hy))
      (fun y hy => h y (List.mem_cons_of_mem _ hy)) hfirst
    simpa [Panel.run, List.append_assoc] using hrest

/-- From a moment on at which the value of an open edit was the highlighted number that was drawn
last, it is so while no display call fails. Such a moment is any at which no edit is open. -/
theorem run_showsEdit {s : Settings} {width height : Nat}
    {ops before later : List (Operation × Answers)} (hops : ∀ x ∈ ops, x.1 ≠ .start)
    (hrun : (.start, a) :: ops = before ++ later) (h : ∀ x ∈ later, ∀ n, x.2.display n = none)
    (hbefore : ((ofSettings s width height).run before).1.ShowsEdit
      (drawnCalls ((ofSettings s width height).run before).2)) :
    ((ofSettings s width height).run ((.start, a) :: ops)).1.ShowsEdit
      (drawnCalls ((ofSettings s width height).run ((.start, a) :: ops)).2) := by
  cases before with
  | nil =>
    -- Switching the display on opens no edit.
    obtain rfl := hrun
    have hstarted : ((ofSettings s width height).perform .start a).panel.ShowsEdit
        (drawnCalls ((ofSettings s width height).perform .start a).events) :=
      showsEdit_of_none (draft_eq_iff.mp (started_draft s width height a)).1
    have hlater := (Reachable.started s width height a).showsEdit_run hops
      (fun x hx => h x (List.mem_cons_of_mem _ hx)) hstarted
    simpa [Panel.run] using hlater
  | cons started rest =>
    obtain ⟨rfl, rfl⟩ := List.cons.inj hrun
    have hreached : ((ofSettings s width height).run ((.start, a) :: rest)).1.Reachable :=
      reachable_of_start s width height a fun x hx => hops x (by simp [hx])
    have hlater := hreached.showsEdit_run (fun x hx => hops x (by simp [hx])) h hbefore
    rw [hrun, run_append, run_append_events]
    simpa using hlater

end Panel

end PrinterPanel
