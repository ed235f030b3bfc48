import PrinterPanel.Proofs.Popups

/-!
# What a popup leaves behind

A popup remembers the screen below it, and whatever takes the popup away forgets that screen: a
click that answers it, and a report that brings up another screen. The browser for pictograms does
not. Opened over a popup, it leaves the screen below remembered while no popup is up.
-/

namespace PrinterPanel

namespace Panel

variable {p q : Panel} {op : Operation} {a : Answers}

/-- A popup is up: a message, or the notice that a function is missing. -/
def PopupUp (p : Panel) : Prop := p.screen = .messagePopup ∨ p.screen = .featureNotAvailable

instance : Decidable p.PopupUp := inferInstanceAs (Decidable (_ ∨ _))

/-- No screen is remembered without a popup above it. -/
def CallerCleared (p : Panel) : Prop := ¬ p.PopupUp → p.popupCaller = none

instance : Decidable p.CallerCleared := inferInstanceAs (Decidable (_ → _))

/-- A popup may remember any screen. -/
theorem PopupUp.cleared (h : p.PopupUp) : p.CallerCleared := fun hnone => absurd h hnone

/-- No screen is remembered at all. -/
theorem callerCleared_of_none (h : p.popupCaller = none) : p.CallerCleared := fun _ => h

/-- A popup above a remembered screen, or none without one, is told by what is shown. -/
theorem CallerCleared.of_showing (h : p.CallerCleared) (hq : q.showing = p.showing) :
    q.CallerCleared := by
  obtain ⟨hscreen, hcaller⟩ := showing_eq_iff.mp hq
  unfold CallerCleared PopupUp
  rw [hscreen, hcaller]
  exact h

/-! ### Keys -/

/-- A key that closes a popup forgets the screen below it, and no other key opens one without
remembering that. -/
theorem CallerCleared.of_exits (h : p.CallerCleared) (hq : q.showing ∈ p.exits) :
    q.CallerCleared := by
  have hways {screens : List Screen} (hup : ¬ p.PopupUp) (hq : q.showing ∈ p.ways screens) :
      q.CallerCleared := by
    obtain ⟨hcaller, -⟩ := showing_mem_ways.mp hq
    exact callerCleared_of_none (hcaller.trans (h hup))
  have hcloses {screen : Screen} (hq : q.showing ∈ (screen, none) :: p.ways []) :
      q.CallerCleared := by
    obtain hq | hq := List.mem_cons.mp hq
    · exact callerCleared_of_none (showing_eq_iff.mp hq).2
    · exact h.of_showing (by simpa [ways] using hq)
  have hopens {screens : List Screen} (hup : ¬ p.PopupUp)
      (hq : q.showing ∈ (.featureNotAvailable, some .motion) :: p.ways screens) :
      q.CallerCleared := by
    obtain hq | hq := List.mem_cons.mp hq
    · exact PopupUp.cleared (.inr (showing_eq_iff.mp hq).1)
    · exact hways hup hq
  unfold exits at hq
  unfold PopupUp at hways hopens
  cases hscreen : p.screen <;> simp only [hscreen] at hq
  case messagePopup | featureNotAvailable => exact hcloses hq
  case motion | maxSpeed | maxSpeedValue | maxAcceleration | maxAccelerationValue | maxJerk |
      maxJerkValue | step | stepValue =>
    exact hopens (by simp [hscreen]) hq
  all_goals exact hways (by simp [hscreen]) hq

/-! ### Messages and reports -/

/-- A message remembers the screen below it, and it is a popup. -/
theorem CallerCleared.withMessage (h : p.CallerCleared) (text : String) :
    (p.withMessage text).CallerCleared := by
  obtain hsame | hup := p.withMessage_cases text
  · rwa [hsame]
  · exact PopupUp.cleared (.inl hup)

/-- A screen that is brought up is a message, or forgets what a popup would have given way to, or
comes after homing, while there is no popup. -/
theorem CallerCleared.brings {up : Option Screen} (h : p.CallerCleared) (hq : p.Brings up q)
    (hprepare : up = some .prepare → ¬ p.PopupUp) : q.CallerCleared := by
  cases up with
  | none => exact h.of_showing (hq.alone rfl).showing
  | some screen =>
    obtain ⟨hscreen, hcaller⟩ := showing_eq_iff.mp (hq.shown screen rfl)
    unfold callerBelow at hcaller
    split at hcaller
    · exact callerCleared_of_none (hcaller.trans (h (hprepare rfl)))
    · exact PopupUp.cleared (.inl hscreen)
    · exact callerCleared_of_none hcaller

/-- Hearing from the printer leaves no screen remembered without a popup. -/
theorem endures_callerCleared : EnduresHearing (fun _ => True) CallerCleared where
  attends _ _ _ _ h _ := h
  hears _ h := h
  warns text h := h.withMessage text
  follows {p r change} hchange h := by
    simp only [changesFor, List.mem_cons, List.not_mem_nil, or_false] at hchange
    obtain rfl | rfl | rfl | rfl | rfl := hchange
    · refine h.brings (p.followingJob_brings r) fun hup => ?_
      exact absurd (Job.bringsUp_mem hup) (by decide)
    · unfold followingProbe
      split
      · exact h
      · exact callerCleared_of_none rfl
    · exact h.of_showing (p.followingPrint_leftAlone r).showing
    · refine h.brings (p.followingHoming_brings r) fun hup => ?_
      unfold homingBringsUp at hup
      split at hup
      · next hhoming => simp [PopupUp, hhoming.1]
      · contradiction
    · refine h.brings (p.followingMessage_brings r) fun hup => ?_
      split at hup <;> contradiction

/-! ### Operations -/

/-- An edit that is abandoned leaves alone what a popup gives way to. -/
theorem abandonEdit_popupCaller (p : Panel) : p.abandonEdit.popupCaller = p.popupCaller := by
  rw [abandonEdit_eq]

/-- The browser for pictograms comes up, and what a popup would give way to stays remembered. -/
theorem showing_perform_iconFinder (p : Panel) (a : Answers) :
    (p.perform .iconFinder a).panel.showing = (.iconFinder, p.popupCaller) := by
  let q : Panel := { p.abandonEdit with
    places := { p.abandonEdit.places with icon := .first } }
  have hcaller : q.popupCaller = p.popupCaller := p.abandonEdit_popupCaller
  have harrives : (Act.goTo .iconFinder).Arrives (·.showing = (.iconFinder, p.popupCaller)) a
      (.opening q) := Act.arrives_goTo _ (showing_eq_iff.mpr ⟨rfl, hcaller⟩)
  exact (perform_iff p .iconFinder a
    (h := fun t => t.panel.showing = (.iconFinder, p.popupCaller))).mpr harrives.recovering

/-- Every operation keeps the remembered screen cleared, unless it opens the browser for pictograms
over a popup. -/
theorem CallerCleared.perform (h : p.CallerCleared) (hop : op ≠ .start)
    (hbrowses : op = .iconFinder → ¬ p.PopupUp) : (p.perform op a).panel.CallerCleared := by
  refine endures_callerCleared.perform (fun _ _ _ => trivial) (absurd · hop) ?_ ?_ fun _ => h
  · intro k _ s knob hs _
    have hscreen : s.panel.screen = p.screen := by rw [hs]; rfl
    have hcleared : s.panel.CallerCleared := h.of_showing (by rw [hs]; rfl)
    have hleads := Act.leadsTo_handle (a := a) (s := s) (p.symbolOf k)
    rw [hscreen] at hleads
    exact hleads.mono (fun _ _ ht => hcleared.of_exits ht) fun _ _ ht => hcleared.of_exits ht
  · intro hiconFinder
    exact callerCleared_of_none (p.abandonEdit_popupCaller.trans (h (hbrowses hiconFinder)))

/-- A popup remembers the screen below it. -/
theorem PopupsFit.caller_ne_none (h : p.PopupsFit) (hup : p.PopupUp) : p.popupCaller ≠ none := by
  obtain hmessage | hnotice := hup
  · obtain ⟨below, hbelow, -⟩ := h.covers hmessage
    simp [hbelow]
  · simp [h.caller.notice hnotice]

/-- The browser for pictograms leaves the screen below a popup remembered. -/
theorem PopupsFit.not_callerCleared (h : p.PopupsFit) (hup : p.PopupUp) (a : Answers) :
    ¬ (p.perform .iconFinder a).panel.CallerCleared := by
  obtain ⟨hscreen, hcaller⟩ := showing_eq_iff.mp (p.showing_perform_iconFinder a)
  intro hcleared
  have hnone := hcleared (by simp [PopupUp, hscreen])
  exact h.caller_ne_none hup (hcaller.symm.trans hnone)

/-- The browser for pictograms is not opened over a popup. -/
def BrowsesFreely (p : Panel) (op : Operation) (_ : Answers) : Prop :=
  op = .iconFinder → ¬ p.PopupUp

instance : Decidable (p.BrowsesFreely op a) := inferInstanceAs (Decidable (_ → _))

/-- On a panel that has been reached, an operation keeps the remembered screen cleared exactly if it
does not open the browser for pictograms over a popup. -/
theorem Reachable.perform_callerCleared_iff (h : p.Reachable) (hcleared : p.CallerCleared)
    (hop : op ≠ .start) :
    (p.perform op a).panel.CallerCleared ↔ p.BrowsesFreely op a := by
  refine ⟨fun hafter hiconFinder hup => ?_, hcleared.perform hop⟩
  subst hiconFinder
  exact h.popupsFit.not_callerCleared hup a hafter

/-- From a panel that has been reached, the remembered screen is cleared all along a run exactly if
the browser for pictograms is never opened over a popup. -/
theorem Reachable.forall_callerCleared_iff (h : p.Reachable) (hcleared : p.CallerCleared)
    {ops : List (Operation × Answers)} (hops : ∀ x ∈ ops, x.1 ≠ .start) :
    (∀ before, before <+: ops → (p.run before).1.CallerCleared) ↔
      p.Throughout BrowsesFreely ops := by
  induction ops generalizing p with
  | nil =>
    refine ⟨fun _ => trivial, fun _ before hbefore => ?_⟩
    rw [List.prefix_nil.mp hbefore]
    exact hcleared
  | cons x rest ih =>
    obtain ⟨op, a⟩ := x
    obtain ⟨hop, hrest⟩ := List.forall_mem_cons.mp hops
    have hnext (hfirst : (p.perform op a).panel.CallerCleared) := ih (h.operated a hop) hfirst hrest
    have hstep : (p.perform op a).panel.CallerCleared ↔ p.BrowsesFreely op a :=
      h.perform_callerCleared_iff hcleared hop
    constructor
    · intro hall
      have hfirst : (p.perform op a).panel.CallerCleared :=
        hall [(op, a)] (List.prefix_append [(op, a)] rest)
      exact ⟨hstep.mp hfirst, (hnext hfirst).mp fun before hbefore =>
        hall ((op, a) :: before) (List.cons_prefix_cons.mpr ⟨rfl, hbefore⟩)⟩
    · rintro ⟨hfree, hlater⟩ before hbefore
      cases before with
      | nil => exact hcleared
      | cons y before =>
        obtain ⟨rfl, hprefix⟩ := List.cons_prefix_cons.mp hbefore
        exact (hnext (hstep.mpr hfree)).mpr hlater before hprefix

/-- No screen is remembered after the start. -/
theorem callerCleared_started (s : Settings) (width height : Nat) (a : Answers) :
    ((ofSettings s width height).perform .start a).panel.CallerCleared :=
  endures_callerCleared.perform (fun _ _ _ => trivial) (fun _ => callerCleared_of_none rfl)
    (by simp [keyOf]) (by simp) fun _ => callerCleared_of_none rfl

/-- A panel is switched on and then operated in any way, whatever display and printer answer. In all
its states no screen is remembered without a popup above it, exactly if the browser for pictograms
is never opened over a popup. -/
theorem run_callerCleared_iff (s : Settings) (width height : Nat) (a : Answers)
    {ops : List (Operation × Answers)} (hops : ∀ x ∈ ops, x.1 ≠ .start) :
    let p := ((ofSettings s width height).perform .start a).panel
    (∀ before, before <+: ops → (p.run before).1.CallerCleared) ↔
      p.Throughout BrowsesFreely ops :=
  (Reachable.started s width height a).forall_callerCleared_iff
    (callerCleared_started s width height a) hops

/-- A message is answered before the browser for pictograms is opened: nothing stays remembered. -/
theorem callerCleared_answered :
    let p := ((ofSettings .standard 240 320).perform .start .smooth).panel
    let ops := [(Operation.message "Door open", Answers.smooth), (.key .click, .smooth),
      (.iconFinder, .smooth)]
    (∀ x ∈ ops, x.1 ≠ .start) ∧ p.Throughout BrowsesFreely ops ∧
      ∀ before, before <+: ops → (p.run before).1.CallerCleared := by
  intro p ops
  have hops : ∀ x ∈ ops, x.1 ≠ .start := by decide
  have hfree : p.Throughout BrowsesFreely ops := by decide +kernel
  exact ⟨hops, hfree, (run_callerCleared_iff .standard 240 320 .smooth hops).mpr hfree⟩

/-- The browser for pictograms is opened over a message: it shows no popup, and the main menu below
the message stays remembered. -/
theorem caller_remembered :
    let p := ((ofSettings .standard 240 320).perform .start .smooth).panel
    let q := (p.run [(.message "Door open", .smooth), (.iconFinder, .smooth)]).1
    q.screen = .iconFinder ∧ ¬ q.PopupUp ∧ q.popupCaller = some .mainMenu := by
  decide +kernel

end Panel

end PrinterPanel
