import PrinterPanel.Proofs.Walks

/-!
# Which screens are near a print

A print can be controlled from its screen, and keys lead back to it from its question, from the tune
menu and from a message above that menu. Elsewhere no key leads back without a command: a message
above the print screen gives way to the main menu, and an edit that was opened in the tune menu can
be left only by accepting it.
-/

namespace PrinterPanel

/-! ### Acts that lead somewhere unless they send -/

namespace Act

variable {α β : Type} {a : Answers} {s : Scene} {I J : Panel → Prop}

/-- An act that ends in a property unless something was sent. -/
def UnlessSent (act : Act α) (I : Panel → Prop) (a : Answers) (s : Scene) : Prop :=
  act.Ensures (fun _ t => submitted t.events = [] → I t.panel)
    (fun _ t => submitted t.events = [] → I t.panel) a s

/-- To look at the panel first makes no difference. -/
@[simp] theorem unlessSent_panel_bind (next : Panel → Act β) :
    (panel >>= next).UnlessSent I a s ↔ (next s.panel).UnlessSent I a s :=
  ensures_panel_bind next

/-- After a change of the panel, the rest has to end in the property. -/
@[simp] theorem unlessSent_change_bind (f : Panel → Panel) (next : Unit → Act β) :
    (change f >>= next).UnlessSent I a s ↔
      (next ()).UnlessSent I a { s with panel := f s.panel } :=
  ensures_change_bind f next

/-- An act that ends in a property does so whether or not something was sent. -/
theorem Leaves.unlessSent {act : Act α} (h : act.Leaves I a s) : act.UnlessSent I a s :=
  Ensures.mono h (fun _ _ ht _ => ht) fun _ _ ht _ => ht

/-- A property that holds at any end holds also if nothing was sent. -/
theorem UnlessSent.and_leaves {act : Act α} (h : act.UnlessSent I a s) (hJ : act.Leaves J a s) :
    act.UnlessSent (fun p => I p ∧ J p) a s := by
  unfold UnlessSent Leaves Ensures at *
  cases hact : act a s <;> simp only [hact] at h hJ <;> exact fun hsent => ⟨h hsent, hJ⟩

/-- After a command nothing is left to show. -/
theorem unlessSent_send_bind {c : Command} {next : Unit → Act β}
    (hnext : ∀ t, (next ()).Sends [] a t) : (send c >>= next).UnlessSent I a s := by
  have hsent (accepted : Bool) : submitted (s.afterCommand c accepted).events ≠ [] := by
    simp [Scene.afterCommand]
  rw [UnlessSent, ensures_send_bind]
  constructor
  · intro _
    apply (hnext _).atMost.mono <;>
      · rintro _ t ⟨done, hdone, ht⟩ hnone
        rw [Scene.Submits, hnone] at ht
        exact absurd (List.append_eq_nil_iff.mp ht.symm).1 (hsent true)
  · exact fun _ _ hnone => absurd hnone (hsent false)

/-- To say what was declined keeps a property that messages keep. -/
theorem UnlessSent.recovering {act : Act Unit} (hwarns : ∀ {p} text, I p → I (p.withMessage text))
    (h : act.UnlessSent I a s) : (recovering act).UnlessSent I a s := by
  apply Ensures.recovering h
  · exact fun _ _ ht => ht
  · intro r t ht
    have hshown : (showMessage ("Error: " ++ r.message)).Becomes _ a t :=
      (becomes_showMessage _).mpr rfl
    have hsame {u : Scene} (hu : Scene.Redrawn
        { t with panel := t.panel.withMessage ("Error: " ++ r.message) } u)
        (hnone : submitted u.events = []) : I u.panel := by
      have hsubmits := hu.submits
      rw [Scene.Submits, List.append_nil] at hsubmits
      rw [hu.panel_eq]
      exact hwarns _ (ht (hsubmits ▸ hnone))
    exact Ensures.mono hshown (fun _ _ hu => hsame hu) fun _ _ hu => hsame hu.2

/-- The file browser leads to the print screen only by starting a print. -/
theorem unlessSent_files {symbol : Symbol} (hscreen : s.panel.screen = .selectFile) :
    (listKey .files enterFiles symbol).UnlessSent (·.screen ≠ .printProcess) a s := by
  have hstays : s.panel.screen ≠ .printProcess := by simp [hscreen]
  unfold listKey
  split
  · apply Leaves.unlessSent
    simp only [turnList, leaves_bind, ensures_panel, ensures_change]
    split
    · exact (leaves_draw _).mpr hstays
    · exact hstays
  · split
    · simp only [enterFiles, unlessSent_panel_bind]
      split
      · apply Leaves.unlessSent
        rw [leaves_bind, ensures_change]
        split <;> simp [openList, backToMainMenu, ListMenu.screen]
      · simp only [unlessSent_change_bind]
        split
        · exact Leaves.unlessSent hstays
        · exact Leaves.unlessSent (by simp [openList, ListMenu.screen])
        · exact unlessSent_send_bind fun _ => by simp
    · exact Leaves.unlessSent hstays

end Act

/-! ### Near a print and far from it -/

/-- The screens of a print. -/
def printScreens : List Screen := [.printProcess, .printWindow, .tune]

namespace Panel

/-- A screen of a print is up, or a message that gives way to the tune menu. -/
def NearPrint (p : Panel) : Prop :=
  p.screen ∈ printScreens ∨ p.screen = .messagePopup ∧ p.popupCaller = some .tune

instance (p : Panel) : Decidable p.NearPrint := inferInstanceAs (Decidable (_ ∨ _))

/-- No screen of a print is up, nor does what is up give way to one. -/
structure FarFromPrint (p : Panel) : Prop where
  screen : p.screen ∉ printScreens
  caller : p.screen = .messagePopup → p.popupCaller ≠ some .tune
  edit : ∀ e, p.edit = some e → e.returnTo ≠ .tune
  fits : p.CallerFits

variable {p q : Panel} {e : Edit} {k : Key} {a : Answers}

/-- A panel far from the print is not near it. -/
theorem FarFromPrint.not_nearPrint (h : p.FarFromPrint) : ¬ p.NearPrint := by
  rintro (hscreen | ⟨hscreen, hcaller⟩)
  · exact h.screen hscreen
  · exact h.caller hscreen hcaller

/-- A panel that is not near the print, nor edits from the tune menu, is far from it. -/
theorem farFromPrint_of_not_nearPrint (h : ¬ p.NearPrint)
    (hedit : ∀ e, p.edit = some e → e.returnTo ≠ .tune) (hfits : p.CallerFits) :
    p.FarFromPrint :=
  ⟨fun hscreen => h (.inl hscreen), fun hscreen hcaller => h (.inr ⟨hscreen, hcaller⟩), hedit,
    hfits⟩

/-- To wake the display does not lead to the print. -/
theorem FarFromPrint.awake (h : p.FarFromPrint) : p.awake.FarFromPrint :=
  ⟨h.screen, h.caller, h.edit, persists_callerFits.awake h.fits p.knob⟩

/-- An edit far from the print does not return to it. -/
theorem FarFromPrint.returnTo_notMem (h : p.FarFromPrint) (he : p.edit = some e) :
    e.returnTo ∉ .messagePopup :: printScreens := by
  have hlist {screen : Screen} (hscreen : screen ∈ screensWithoutList) : e.returnTo ≠ screen :=
    h.fits.edits.returnTo_ne hscreen e he
  simp only [printScreens, List.mem_cons, List.not_mem_nil, or_false, not_or]
  exact ⟨hlist (by decide), hlist (by decide), hlist (by decide), h.edit e he⟩

/-- Putting an edit away leads to no screen of a print. -/
theorem FarFromPrint.not_near_abandonEdit (h : p.FarFromPrint) : ¬ p.abandonEdit.NearPrint := by
  cases he : p.edit with
  | none =>
    rw [abandonEdit_of_none he]
    exact h.not_nearPrint
  | some e =>
    have hscreen : p.abandonEdit.screen = e.returnTo := by rw [abandonEdit, he]
    have hreturn := h.returnTo_notMem he
    rintro (hprint | ⟨hmessage, -⟩)
    · exact hreturn (List.mem_cons_of_mem _ (hscreen ▸ hprint))
    · exact hreturn (hscreen ▸ hmessage ▸ List.mem_cons_self)

/-- A message far from the print gives way to no screen of it. -/
theorem FarFromPrint.withMessage (h : p.FarFromPrint) (text : String) :
    (p.withMessage text).FarFromPrint := by
  have hfits := persists_callerFits.warns text h.fits
  have hnear := h.not_near_abandonEdit
  unfold Panel.withMessage at hfits ⊢
  split
  · exact h
  · next hshown =>
    rw [if_neg hshown] at hfits
    have hover : Screen.messagePopup ∉ printScreens := by decide
    refine ⟨hover, fun _ => ?_, ?_, hfits⟩
    · dsimp only
      split
      · next hmessage => exact fun hcaller => hnear (.inr ⟨hmessage, hcaller⟩)
      · intro hcaller
        rw [NearPrint, Option.some.inj hcaller] at hnear
        exact hnear (.inl (by decide))
    · intro e he
      have hnone : p.abandonEdit.edit = some e := he
      rw [p.abandonEdit_edit] at hnone
      contradiction

/-- A message that is not above the tune menu gives way to no screen of a print. -/
theorem messageReturn_notMem {caller : Option Screen} (h : caller ≠ some .tune) :
    Act.messageReturn caller ∉ .messagePopup :: printScreens := by
  unfold Act.messageReturn
  split
  · next screen =>
    cases screen <;> first | decide | exact absurd rfl h
  · decide

/-- The exits of a screen far from a print are far from it. Only the file browser leads to the print
screen. -/
theorem FarFromPrint.of_exits (h : p.FarFromPrint) (hq : q.showing ∈ p.exits)
    (hfiles : p.screen = .selectFile → q.screen ≠ .printProcess) : ¬ q.NearPrint := by
  have hways {screens : List Screen} (hother : ∀ s ∈ .messagePopup :: printScreens, s ∉ screens)
      (hq : q.showing ∈ p.ways screens) : ¬ q.NearPrint := by
    obtain ⟨hcaller, hscreen | hscreen⟩ := showing_mem_ways.mp hq
    · have hsame := h.not_nearPrint
      rwa [NearPrint, ← hscreen, ← hcaller] at hsame
    · rintro (hprint | ⟨hmessage, -⟩)
      · exact hother _ (List.mem_cons_of_mem _ hprint) hscreen
      · exact hother _ List.mem_cons_self (hmessage ▸ hscreen)
  have hcloses {screen : Screen} {caller : Option Screen} {screens : List Screen}
      (hscreen : screen ∉ .messagePopup :: printScreens)
      (hother : ∀ s ∈ .messagePopup :: printScreens, s ∉ screens)
      (hq : q.showing ∈ (screen, caller) :: p.ways screens) : ¬ q.NearPrint := by
    obtain hq | hq := List.mem_cons.mp hq
    · obtain ⟨rfl, -⟩ := showing_eq_iff.mp hq
      rintro (hprint | ⟨hmessage, -⟩)
      · exact hscreen (List.mem_cons_of_mem _ hprint)
      · exact hscreen (hmessage ▸ List.mem_cons_self)
    · exact hways hother hq
  unfold exits at hq
  cases hscreen : p.screen <;> simp only [hscreen] at hq
  case printProcess | printWindow | tune => exact absurd (by rw [hscreen]; decide) h.screen
  case selectFile =>
    have hother := hfiles hscreen
    have hless : q.showing ∈ p.ways [.selectFile, .mainMenu] := by
      simp only [showing_mem_ways, List.mem_cons, List.not_mem_nil, or_false] at hq ⊢
      tauto
    exact hways (by decide) hless
  case motion => exact hcloses (by decide) (by decide) hq
  case maxSpeed | maxSpeedValue | maxAcceleration | maxAccelerationValue | maxJerk | maxJerkValue |
      step | stepValue =>
    exact hcloses (by decide) (by simp) hq
  case featureNotAvailable =>
    rw [h.fits.notice hscreen] at hq
    exact hcloses (by decide) (by simp) hq
  case messagePopup =>
    have hreturn := messageReturn_notMem (h.caller hscreen)
    exact hcloses hreturn (by simp) hq
  case moveX | moveY | moveZ | extruder | hotendTemp | zOffset | bedTemp | fanSpeed | printSpeed =>
    have hreturn : (p.edit.map (·.returnTo)).getD .mainMenu ∉ .messagePopup :: printScreens := by
      cases he : p.edit with
      | none => decide
      | some e => exact h.returnTo_notMem he
    refine hways (fun s hs hmem => hreturn ?_) hq
    rwa [← List.mem_singleton.mp hmem]
  all_goals exact hways (by decide) hq

/-- A key opens no edit above the tune menu while that is not up. -/
theorem FarFromPrint.edit_of_draft (h : p.FarFromPrint) {r : Status} {symbol : Symbol}
    (hq : q.draft ∈ p.draftsAfter r symbol) : ∀ e, q.edit = some e → e.returnTo ≠ .tune := by
  intro e he
  unfold draftsAfter at hq
  cases hedit : p.edit with
  | none =>
    rw [hedit] at hq
    obtain ⟨hsame, -⟩ := draft_eq_iff.mp (List.mem_singleton.mp hq)
    rw [he] at hsame
    split at hsame
    · obtain ⟨-, hreturn⟩ := fresh_of_opened hsame.symm
      rintro htune
      exact h.screen (by rw [← hreturn, htune]; decide)
    · contradiction
  | some first =>
    rw [hedit] at hq
    dsimp only at hq
    split at hq
    · simp only [List.mem_cons, List.not_mem_nil, or_false, draft_eq_iff, he] at hq
      simp at hq
    · obtain ⟨hsame, -⟩ := draft_eq_iff.mp (List.mem_singleton.mp hq)
      rw [he, Edit.turn_eq] at hsame
      rw [Option.some.inj hsame]
      exact h.edit first hedit

end Panel

/-- Far from a print, a key stays far from it unless it sends something. -/
theorem Act.unlessSent_handle {a : Answers} {s : Scene} (h : s.panel.FarFromPrint)
    (hsession : s.panel.EditSession) (symbol : Symbol) :
    (handle s.panel.screen symbol).UnlessSent Panel.FarFromPrint a s := by
  have hfiles : (handle s.panel.screen symbol).UnlessSent
      (fun q => s.panel.screen = .selectFile → q.screen ≠ .printProcess) a s := by
    by_cases hscreen : s.panel.screen = .selectFile
    · have hstarts : (handle .selectFile symbol).UnlessSent (·.screen ≠ .printProcess) a s :=
        unlessSent_files hscreen
      rw [← hscreen] at hstarts
      exact Ensures.mono hstarts (fun _ _ ht hsent _ => ht hsent) fun _ _ ht hsent _ => ht hsent
    · apply Leaves.unlessSent
      exact (leadsTo_handle symbol).mono (fun _ _ _ hfile => absurd hfile hscreen)
        fun _ _ _ hfile => absurd hfile hscreen
  have hrest := ((leadsTo_handle (a := a) (s := s) symbol).and
    (draft_handle hsession symbol)).and (callerFits_handle h.fits symbol)
  have hfar {q : Panel}
      (hq : (s.panel.screen = .selectFile → q.screen ≠ .printProcess) ∧
        (q.showing ∈ s.panel.exits ∧
          q.draft ∈ s.panel.draftsAfter (s.panel.reportAt a s.looks) symbol ∧
          q.lastStatus = s.panel.lastStatus) ∧ q.CallerFits) : q.FarFromPrint := by
    obtain ⟨hfile, ⟨hexit, hdraft, -⟩, hfits⟩ := hq
    exact Panel.farFromPrint_of_not_nearPrint (h.of_exits hexit hfile) (h.edit_of_draft hdraft)
      hfits
  exact Ensures.mono (hfiles.and_leaves hrest) (fun _ _ ht hsent => hfar (ht hsent))
    fun _ _ ht hsent => hfar (ht hsent)

/-! ### Keys far from a print, and on an edit above the tune menu -/

/-- The entries of the tune menu open no edit of a preset. -/
theorem Menu.TuneItem.effect_of_opens {item : Menu.TuneItem} {e : Edit}
    (h : item.opens e.field = true) : ∃ c, e.effect = .command c := by
  have hlive (m : Material) : e.field ≠ .hotend (.preset m) ∧ e.field ≠ .bed (.preset m) ∧
      e.field ≠ .fan (.preset m) := by
    refine ⟨?_, ?_, ?_⟩ <;> intro hfield <;> rw [hfield] at h <;> cases item <;> contradiction
  unfold Edit.effect
  split
  case h_6 m hfield => exact absurd hfield (hlive m).1
  case h_7 m hfield => exact absurd hfield (hlive m).2.1
  case h_8 m hfield => exact absurd hfield (hlive m).2.2
  all_goals exact ⟨_, rfl⟩

namespace Panel

/-- No value is edited, and the tune menu is up or a message gives way to it. -/
def AtTune (p : Panel) : Prop :=
  p.edit = none ∧ (p.screen = .tune ∨ p.screen = .messagePopup ∧ p.popupCaller = some .tune)

/-- A message over the tune menu gives way to it. -/
theorem AtTune.withMessage {p : Panel} (h : p.AtTune) (text : String) :
    (p.withMessage text).AtTune := by
  obtain ⟨hedit, hscreen⟩ := h
  unfold Panel.withMessage
  rw [abandonEdit_of_none hedit]
  split
  · exact ⟨hedit, hscreen⟩
  · refine ⟨hedit, .inr ⟨rfl, ?_⟩⟩
    obtain hup | ⟨hup, hcaller⟩ := hscreen
    · simp [hup]
    · simp [hup, hcaller]

/-- The tune menu is near the print. -/
theorem AtTune.nearPrint {p : Panel} (h : p.AtTune) : p.NearPrint := by
  obtain ⟨-, hscreen | hmessage⟩ := h
  · exact .inl (by rw [hscreen]; decide)
  · exact .inr hmessage

variable {p : Panel} {e : Edit} {k : Key} {a : Answers}

/-- A key that sends nothing does not lead to the print from far away. -/
theorem FarFromPrint.perform_key (h : p.FarFromPrint) (hsession : p.EditSession)
    (hsent : submitted (p.perform (.key k) a).events = []) :
    (p.perform (.key k) a).panel.FarFromPrint := by
  refine perform_key_of_handle (J := fun t => submitted t.events = [] → t.panel.FarFromPrint)
    (fun t ht _ => ?_) hsent
  have hfar : t.panel.FarFromPrint := ht ▸ h.awake
  have hopen : t.panel.EditSession :=
    ht ▸ invariant_editSession.persists.awake hsession p.knob
  have hscreen : t.panel.screen = p.screen := by rw [ht]; rfl
  rw [← hscreen]
  exact (Act.unlessSent_handle hfar hopen _).recovering fun text hp => hp.withMessage text

/-- What is edited above the tune menu goes to the printer. -/
theorem EditSession.effect_of_tune (h : p.EditSession) (he : p.edit = some e)
    (hreturn : e.returnTo = .tune) : ∃ c, e.effect = .command c := by
  obtain ⟨-, -, m, hscreen, hopens, -⟩ := h.opened e he
  rw [hreturn] at hscreen
  cases m with
  | tune =>
    obtain ⟨item, -, hitem⟩ := (Option.any_eq_true _ _).mp hopens
    exact item.effect_of_opens hitem
  | preset m => cases m <;> contradiction
  | _ => contradiction

/-- An edit stays open until a click. -/
theorem EditSession.edit_of_key (h : p.EditSession) (he : p.edit = some e) (hother : k ≠ .click) :
    (p.perform (.key k) a).panel.edit.isSome := by
  refine Panel.perform_key (I := (·.edit.isSome)) fun t ht => ?_
  have hedit : t.panel.edit = some e := by rw [ht]; exact he
  have hsymbol : p.symbolOf k ≠ .enter := fun henter => hother (symbolOf_eq_enter henter)
  rw [Act.handle_eq_valueEdit (h.isEditor_of_edit he)]
  simp only [Act.valueEdit_eq, Act.arrives_panel_bind, hedit, if_neg hsymbol]
  split
  · rw [Act.arrives_change_bind]
    apply Act.arrives_draw
    rfl
  · rw [Act.arrives_pure, hedit]
    rfl

/-- While an edit is open, no print is near. -/
theorem EditSession.not_nearPrint (h : p.EditSession) (hopen : p.edit.isSome) : ¬ p.NearPrint := by
  obtain ⟨e, he⟩ := Option.isSome_iff_exists.mp hopen
  have heditor := h.isEditor_of_edit he
  rintro (hscreen | ⟨hscreen, -⟩)
  · simp only [printScreens, List.mem_cons, List.not_mem_nil, or_false] at hscreen
    obtain hscreen | hscreen | hscreen := hscreen <;> rw [hscreen] at heditor <;> contradiction
  · rw [hscreen] at heditor
    contradiction

/-- A click on an edit above the tune menu sends its command and leads back near the print. -/
theorem EditSession.click_above_tune (h : p.EditSession) (he : p.edit = some e)
    (hreturn : e.returnTo = .tune) (hdisplay : ∀ n, a.display n = none) :
    ∃ c, e.effect = .command c ∧ submitted (p.perform (.key .click) a).events = [c] ∧
      (p.perform (.key .click) a).panel.NearPrint := by
  obtain ⟨c, hc⟩ := h.effect_of_tune he hreturn
  have hsent : submitted (p.perform (.key .click) a).events = e.effect.commands :=
    (h.submitted_click he rfl).trans (if_pos (hdisplay _))
  rw [hc] at hsent
  refine ⟨c, hc, hsent, ?_⟩
  have hback : (p.perform (.key .click) a).panel.AtTune := by
    refine perform_key_of_handle (J := (AtTune ·.panel)) fun t ht _ => ?_
    have hedit : t.panel.edit = some e := by rw [ht]; exact he
    rw [symbolOf_click, Act.handle_eq_valueEdit (h.isEditor_of_edit he)]
    -- A command that is declined puts a message over the tune menu.
    refine Act.Leaves.recovering (fun text hq => hq.withMessage text) ?_
    rw [Act.Leaves, Act.Ensures, Act.valueEdit_enter hedit]
    change (Act.acceptEdit e).Leaves AtTune a t
    rw [Act.acceptEdit, Act.leaves_bind, Act.ensures_change, Act.leaves_bind, Act.ensures_panel]
    apply Act.Leaves.bind
    · exact (Act.leaves_draw _).mpr ⟨rfl, .inl hreturn⟩
    · intro _ u hu
      rw [hc]
      exact (Act.leaves_send c).mpr hu
  exact hback.nearPrint

/-- Without a command, a key leads no nearer to a print. -/
theorem Reachable.not_nearPrint_key (h : p.Reachable) (hfar : ¬ p.NearPrint)
    (hdisplay : ∀ n, a.display n = none)
    (hsent : submitted (p.perform (.key k) a).events = []) :
    ¬ (p.perform (.key k) a).panel.NearPrint := by
  by_cases habove : ∃ e, p.edit = some e ∧ e.returnTo = .tune
  · obtain ⟨e, he, hreturn⟩ := habove
    have hother : k ≠ .click := by
      rintro rfl
      obtain ⟨c, -, hc, -⟩ := h.editSession.click_above_tune he hreturn hdisplay
      rw [hsent] at hc
      contradiction
    have hnext : (p.perform (.key k) a).panel.EditSession := (h.operated a (by simp)).editSession
    exact hnext.not_nearPrint (h.editSession.edit_of_key he hother)
  · have hedit (e : Edit) (he : p.edit = some e) : e.returnTo ≠ .tune :=
      fun hreturn => habove ⟨e, he, hreturn⟩
    have hstays := (farFromPrint_of_not_nearPrint hfar hedit h.callerFits).perform_key
      h.editSession hsent
    exact hstays.not_nearPrint

/-- Keys that send nothing do not lead to the print from far away. -/
theorem Reachable.not_nearPrint_keys (h : p.Reachable) (hfar : ¬ p.NearPrint)
    {ops : List (Operation × Answers)} (hkeys : ∀ x ∈ ops, ∃ k, x.1 = .key k)
    (hdisplay : ∀ x ∈ ops, ∀ n, x.2.display n = none) (hsent : submitted (p.run ops).2 = []) :
    ¬ (p.run ops).1.NearPrint := by
  induction ops generalizing p with
  | nil => exact hfar
  | cons x rest ih =>
    obtain ⟨op, a⟩ := x
    obtain ⟨k, rfl⟩ := hkeys (op, a) List.mem_cons_self
    rw [Panel.run, submitted_append, List.append_eq_nil_iff] at hsent
    have hnext := h.not_nearPrint_key hfar (hdisplay (.key k, a) List.mem_cons_self) hsent.1
    exact ih (h.operated a (by simp)) hnext (fun x hx => hkeys x (List.mem_cons_of_mem _ hx))
      (fun x hx => hdisplay x (List.mem_cons_of_mem _ hx)) hsent.2

/-- Near a print, keys lead back to its screen without a command, and there to each of its buttons
unless the notice is shown that the print is finished. From an edit above the tune menu a click
leads near the print and sends nothing but the command of the edit. From all other screens, keys
lead near the print only with a command. -/
theorem Reachable.keys_reach_print (h : p.Reachable) :
    (p.NearPrint → ∃ keys, p.Walks keys (·.screen = .printProcess)) ∧
    (p.screen = .printProcess → p.print.completionShown = false →
      ∀ button < Act.printButtonCount, ∃ keys, p.Walks keys (OnButton button)) ∧
    (∀ e, p.edit = some e → e.returnTo = .tune → ∀ a : Answers, (∀ n, a.display n = none) →
      ∃ c, e.effect = .command c ∧ submitted (p.perform (.key .click) a).events = [c] ∧
        (p.perform (.key .click) a).panel.NearPrint) ∧
    (¬ p.NearPrint → ∀ ops : List (Operation × Answers), (∀ x ∈ ops, ∃ k, x.1 = .key k) →
      (∀ x ∈ ops, ∀ n, x.2.display n = none) → submitted (p.run ops).2 = [] →
      ¬ (p.run ops).1.NearPrint) := by
  refine ⟨?_, ?_, ?_, ?_⟩
  · rintro (hscreen | ⟨hscreen, hcaller⟩)
    · simp only [printScreens, List.mem_cons, List.not_mem_nil, or_false] at hscreen
      obtain hprint | hquestion | htune := hscreen
      · exact ⟨[], walks_nil hprint⟩
      · exact ⟨_, walks_question hquestion⟩
      · exact ⟨_, walks_tune htune rfl⟩
    · exact ⟨_, walks_message hscreen hcaller⟩
  · intro hscreen hshown button hbutton
    exact OnButton.walks ⟨hscreen, hshown, rfl⟩ hbutton
  · intro e he hreturn a hdisplay
    exact h.editSession.click_above_tune he hreturn hdisplay
  · intro hfar ops hkeys hdisplay hsent
    exact h.not_nearPrint_keys hfar hkeys hdisplay hsent

/-- From the tune menu, keys lead back to the print screen. -/
theorem keys_reach_print_tune :
    let a := { Answers.smooth with
      status := fun _ => some { Status.atRest with job := .printing } }
    let p := ((ofSettings .standard 240 320).run
      [(.start, a), (.tick 0, a), (.key .click, a), (.key .down, a)]).1
    p.Reachable ∧ p.screen = .tune ∧ p.NearPrint ∧
      ∃ keys, p.Walks keys (·.screen = .printProcess) := by
  intro a p
  have hp : p.Reachable := reachable_of_start .standard 240 320 a (by decide)
  have hscreen : p.screen = .tune := by decide +kernel
  have hnear : p.NearPrint := .inl (by rw [hscreen]; decide)
  exact ⟨hp, hscreen, hnear, hp.keys_reach_print.1 hnear⟩

/-- A message above the print screen gives way to the main menu. From there no key leads back
without a command, although the print goes on. -/
theorem print_out_of_reach :
    let a := { Answers.smooth with
      status := fun _ => some { Status.atRest with job := .printing } }
    let p := ((ofSettings .standard 240 320).run
      [(.start, a), (.tick 0, a), (.message "filament", a), (.key .click, a)]).1
    p.Reachable ∧ p.lastJob = .printing ∧ p.screen = .mainMenu ∧
      ∀ ops : List (Operation × Answers), (∀ x ∈ ops, ∃ k, x.1 = .key k) →
        (∀ x ∈ ops, ∀ n, x.2.display n = none) → submitted (p.run ops).2 = [] →
        (p.run ops).1.screen ≠ .printProcess := by
  intro a p
  have hp : p.Reachable := reachable_of_start .standard 240 320 a (by decide)
  have hjob : p.lastJob = .printing := by decide +kernel
  have hscreen : p.screen = .mainMenu := by decide +kernel
  have hfar : ¬ p.NearPrint := by
    rw [NearPrint, hscreen]
    decide
  refine ⟨hp, hjob, hscreen, fun ops hkeys hdisplay hsent hprint => ?_⟩
  exact hp.not_nearPrint_keys hfar hkeys hdisplay hsent (.inl (by rw [hprint]; decide))

end Panel

end PrinterPanel
