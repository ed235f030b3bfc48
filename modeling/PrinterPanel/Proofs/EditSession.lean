import PrinterPanel.Proofs.Invariant

/-!
# Edits in progress

While a value is edited, the screen is the editor of its field, fast turning counts as slow
turning, and the list from which the field was opened stays where it was. At all other times the
screen is no editor. A popup, a forced screen or a failing display call does not part the one from
the other.
-/

namespace PrinterPanel

open Menu

/-- The screen of a field is an editor. -/
theorem Field.isEditor_screen (f : Field) : f.screen.isEditor = true := by
  cases f with
  | axis a => cases a <;> rfl
  | _ => rfl

/-- The screens from which a value can be edited. -/
def editingMenus : List Screen :=
  [.prepare, .axisMove, .temperature, .tune, .plaPreheat, .tpuPreheat]

/-- Only these menus have entries that open a field. -/
theorem ListMenu.screen_mem_editingMenus {m : ListMenu} {f : Features} {position : Nat}
    {field : Field} (h : m.opens f position field) : m.screen ∈ editingMenus := by
  cases m with
  | files | control | misc | motion => simp [ListMenu.opens] at h
  | prepare | axes | temperature | tune => decide
  | preset material => cases material <;> decide

/-- Screens that show no list. -/
def screensWithoutList : List Screen :=
  [.mainMenu, .printProcess, .printWindow, .featureNotAvailable, .homing, .manualProbe,
    .messagePopup, .iconFinder]

/-- Every list is shown on a screen for lists. -/
theorem ListMenu.screen_notMem (m : ListMenu) : m.screen ∉ screensWithoutList := by
  rcases m with _ | _ | _ | _ | _ | _ | _ | _ | _ | _ <;> decide

/-- The main menu is no list. -/
theorem ListMenu.screen_ne_mainMenu (m : ListMenu) : m.screen ≠ .mainMenu := by
  intro h
  exact m.screen_notMem (by rw [h]; decide)

/-- Every list has a screen of its own. -/
theorem ListMenu.screen_injective : Function.Injective ListMenu.screen := by
  intro m m' h
  rcases m with _ | _ | _ | _ | _ | _ | _ | _ | _ | _ <;>
    rcases m' with _ | _ | _ | _ | _ | _ | _ | _ | _ | _ <;> first | rfl | contradiction

namespace Panel

/-- An edit that is open belongs to a list. -/
def EditsInMenus (p : Panel) : Prop := ∀ e, p.edit = some e → ∃ m : ListMenu, m.screen = e.returnTo

/-- Edits are opened in lists only. -/
theorem invariant_editsInMenus : Invariant EditsInMenus where
  attends _ _ _ _ h _ := h
  notes _ _ _ h := h
  tracks _ _ h := h
  homes h _ := h
  homed h := h
  moves h _ := h
  lists _ h _ _ := h
  goes _ h _ _ := h
  covers _ h _ _ := h
  returns _ h _ _ := h
  edits m _ _ _ _ _ := by
    rintro _ ⟨⟩
    exact ⟨m, rfl⟩
  adjusts e _ h he := by
    rintro _ ⟨⟩
    exact h e he
  leaves {p} _ := by
    intro e he
    rw [p.abandonEdit_edit] at he
    contradiction
  stores _ h := h

/-- No edit returns to a screen without a list. -/
theorem EditsInMenus.returnTo_ne {p : Panel} (h : p.EditsInMenus) {screen : Screen}
    (hscreen : screen ∈ screensWithoutList) (e : Edit) (he : p.edit = some e) :
    e.returnTo ≠ screen := by
  obtain ⟨m, hm⟩ := h e he
  rintro rfl
  exact m.screen_notMem (hm ▸ hscreen)

/-- A value is edited: the screen is its editor, and the list that opened it is still on the entry
that opens it. -/
def Editing (p : Panel) (e : Edit) : Prop :=
  p.rateLimited = false ∧ p.screen = e.field.screen ∧
    ∃ m : ListMenu, m.screen = e.returnTo ∧
      m.opens p.settings.features (p.places.get m).position e.field ∧
      e.row = (p.places.get m).row

/-- Screen, edit, rate limit and latch agree with each other. -/
structure EditSession (p : Panel) : Prop where
  /-- Without an edit, the screen is no editor and fast turning is not slowed down. -/
  closed : p.edit = none → p.screen.isEditor = false ∧ p.rateLimited = true
  /-- With an edit, that value is edited. -/
  opened : ∀ e, p.edit = some e → p.Editing e
  /-- A popup never gives way to an editor. -/
  below : ∀ s, p.popupCaller = some s → s.isEditor = false
  /-- No symbol waits. -/
  taken : p.latch = .empty

namespace EditSession

variable {p : Panel}

/-- On a screen that is free no edit is open. -/
theorem edit_eq_none (h : p.EditSession) (hfree : p.Free) : p.edit = none := by
  cases hedit : p.edit with
  | none => rfl
  | some e =>
    obtain ⟨-, hscreen, -⟩ := h.opened e hedit
    have hnone : p.edit = none := hfree (by rw [hscreen]; exact e.field.isEditor_screen)
    rw [hedit] at hnone
    contradiction

/-- A screen that is free is no editor. -/
theorem isEditor_eq_false (h : p.EditSession) (hfree : p.Free) : p.screen.isEditor = false :=
  (h.closed (h.edit_eq_none hfree)).1

/-- Without an edit, any changes of the screens that lead to no editor are fine. -/
theorem of_closed {q : Panel} (h : p.EditSession) (hfree : p.Free)
    (hedit : q.edit = p.edit) (hlimited : q.rateLimited = p.rateLimited)
    (hscreen : q.screen.isEditor = false)
    (hbelow : ∀ s, q.popupCaller = some s → s.isEditor = false) (hlatch : q.latch = p.latch) :
    q.EditSession where
  closed _ := ⟨hscreen, hlimited.trans (h.closed (h.edit_eq_none hfree)).2⟩
  opened e he := by
    rw [hedit, h.edit_eq_none hfree] at he
    contradiction
  below := hbelow
  taken := hlatch.trans h.taken

/-- An edit may be abandoned at any time. -/
theorem abandonEdit (h : p.EditSession) : p.abandonEdit.EditSession := by
  unfold Panel.abandonEdit
  split
  · exact h
  · next e he =>
    obtain ⟨-, -, m, hreturn, -⟩ := h.opened e he
    refine ⟨fun _ => ⟨?_, rfl⟩, by simp, h.below, h.taken⟩
    rw [← hreturn]
    exact m.isEditor_screen

/-- Cursors may move as long as the lists stay where they are. -/
theorem of_get_eq (h : p.EditSession) {places : Places}
    (hget : ∀ m, places.get m = p.places.get m) :
    ({ p with places := places }).EditSession := by
  refine ⟨h.closed, ?_, h.below, h.taken⟩
  intro e he
  obtain ⟨hlimited, hscreen, m, hreturn, hopens, hrow⟩ := h.opened e he
  exact ⟨hlimited, hscreen, m, hreturn, by rw [hget]; exact hopens, by rw [hget]; exact hrow⟩

end EditSession

/-- Every move keeps screen, edit, rate limit and latch in agreement. -/
theorem invariant_editSession : Invariant EditSession where
  attends latch knob idleTicks dimmed h hlatch := by
    refine ⟨h.closed, h.opened, h.below, ?_⟩
    obtain rfl | rfl := hlatch
    · rfl
    · exact h.taken
  notes job report message h := ⟨h.closed, h.opened, h.below, h.taken⟩
  tracks print probe h := ⟨h.closed, h.opened, h.below, h.taken⟩
  homes h _ := ⟨h.closed, h.opened, h.below, h.taken⟩
  homed h := ⟨h.closed, h.opened, h.below, h.taken⟩
  moves {p places} h hmoves := by
    have hmoved (hfree : p.Free) : ({ p with places := places }).EditSession :=
      h.of_closed hfree rfl rfl (h.isEditor_eq_false hfree) h.below rfl
    cases hmoves with
    | turn _ _ hfree => exact hmoved hfree
    | rewind _ hfree => exact hmoved hfree
    | select _ _ hfree => exact hmoved hfree
    | page => exact h.of_get_eq fun m => by cases m <;> rfl
    | print => exact h.of_get_eq fun m => by cases m <;> rfl
    | confirm => exact h.of_get_eq fun m => by cases m <;> rfl
    | icon => exact h.of_get_eq fun m => by cases m <;> rfl
  lists browser h hfree _ :=
    h.of_closed hfree rfl rfl (h.isEditor_eq_false hfree) h.below rfl
  goes screen h hfree hscreen := by
    refine h.of_closed hfree rfl rfl ?_ h.below rfl
    obtain hscreen | rfl := hscreen
    · exact hscreen
    · exact h.isEditor_eq_false hfree
  covers caller h hfree hcaller := by
    refine h.of_closed hfree rfl rfl (h.isEditor_eq_false hfree) ?_ rfl
    intro screen hscreen
    obtain hscreen | rfl := hcaller screen hscreen
    · exact hscreen
    · exact h.isEditor_eq_false hfree
  returns screen h hfree hcaller :=
    h.of_closed hfree rfl rfl (h.below screen hcaller) (fun _ hs => nomatch hs) rfl
  edits m field value h hfree hopens := by
    refine ⟨by simp, ?_, h.below, h.taken⟩
    rintro e ⟨⟩
    exact ⟨rfl, rfl, m, rfl, hopens, rfl⟩
  adjusts e value h he := by
    refine ⟨by simp, ?_, h.below, h.taken⟩
    rintro _ ⟨⟩
    exact h.opened e he
  leaves h := h.abandonEdit
  stores presets h := ⟨h.closed, h.opened, h.below, h.taken⟩

/-- After every operation of a run that switches the display on once, an edit is open exactly on
the editors and exactly while fast turning is slowed down. An open edit belongs to its screen, and
the list that it returns to is still on the entry that opens its field. -/
theorem run_editing_agrees (s : Settings) (width height : Nat) (a : Answers)
    (ops : List (Operation × Answers)) (hops : ∀ x ∈ ops, x.1 ≠ .start) :
    let p := ((Panel.ofSettings s width height).run ((.start, a) :: ops)).1
    (p.edit.isSome ↔ p.screen.isEditor) ∧ (p.edit.isSome ↔ p.rateLimited = false) ∧
      (∀ e, p.edit = some e →
        p.screen = e.field.screen ∧ e.returnTo ∈ editingMenus ∧
          ∃ m : ListMenu, m.screen = e.returnTo ∧
            m.opens p.settings.features (p.places.get m).position e.field ∧
            e.row = (p.places.get m).row) ∧
      p.latch = .empty := by
  intro p
  have hnew : (Panel.ofSettings s width height).EditSession :=
    ⟨fun _ => ⟨rfl, rfl⟩, by simp [ofSettings], by simp [ofSettings], rfl⟩
  have hstarted : ((Panel.ofSettings s width height).perform .start a).panel.EditSession :=
    invariant_editSession.perform (fun _ => hnew) hnew
  have hrun {q : Panel} (hq : q.EditSession) : (q.run ops).1.EditSession :=
    invariant_editSession.run (fun x hx hstart => absurd hstart (hops x hx)) hq
  have h : p.EditSession := hrun hstarted
  cases hedit : p.edit with
  | none =>
    obtain ⟨hscreen, hlimited⟩ := h.closed hedit
    simp [hscreen, hlimited, h.taken]
  | some e =>
    obtain ⟨hlimited, hscreen, m, hreturn, hopens, hrow⟩ := h.opened e hedit
    have heditor : p.screen.isEditor = true := by rw [hscreen]; exact e.field.isEditor_screen
    refine ⟨by simp [heditor], by simp [hlimited], ?_, h.taken⟩
    rintro _ ⟨⟩
    exact ⟨hscreen, hreturn ▸ ListMenu.screen_mem_editingMenus hopens, m, hreturn, hopens, hrow⟩

/-- The Z offset is edited after it was chosen in the prepare menu. -/
theorem editing_zOffset :
    let ops := [.down, .click, .down, .down, .down, .down, .click].map fun k =>
      (Operation.key k, Answers.smooth)
    let p := ((Panel.ofSettings .standard 240 320).run ((.start, .smooth) :: ops)).1
    (∀ x ∈ ops, x.1 ≠ .start) ∧ p.screen = .zOffset ∧ p.edit.isSome ∧ p.rateLimited = false := by
  intro ops p
  have hops : ∀ x ∈ ops, x.1 ≠ .start := by decide
  have hscreen : p.screen = .zOffset := by decide +kernel
  obtain ⟨hedit, hlimited, -⟩ := run_editing_agrees .standard 240 320 .smooth ops hops
  have hopen : p.edit.isSome := hedit.mpr (by rw [hscreen]; rfl)
  exact ⟨hops, hscreen, hopen, hlimited.mp hopen⟩

end Panel

end PrinterPanel
