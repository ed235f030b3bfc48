import PrinterPanel.Proofs.Acceptance

/-!
# Ways back to the print screen

Some keys send nothing to the printer and lead on whatever display and printer answer. From the
question of the print screen, from the tune menu and from a message above that menu, such keys lead
back to the print screen, and there they lead to each of its buttons.
-/

namespace PrinterPanel

open Menu

namespace Act

variable {α β : Type} {a : Answers} {s : Scene} {I : Panel → Prop}

/-- An act that ends in a property and fails in nothing but a display call. -/
def Arrives (act : Act α) (I : Panel → Prop) (a : Answers) (s : Scene) : Prop :=
  act.Ensures (fun _ t => I t.panel) (fun f t => FailedCall a f ∧ I t.panel) a s

/-- A result that is given leaves the panel as it is. -/
@[simp] theorem arrives_pure (x : α) : (pure x : Act α).Arrives I a s ↔ I s.panel := Iff.rfl

/-- A look at the panel may come first. -/
@[simp] theorem arrives_panel_bind (next : Panel → Act β) :
    (panel >>= next).Arrives I a s ↔ (next s.panel).Arrives I a s :=
  ensures_panel_bind next

/-- A change of the panel may come first. -/
@[simp] theorem arrives_change_bind (f : Panel → Panel) (next : Unit → Act β) :
    (change f >>= next).Arrives I a s ↔
      (next ()).Arrives I a { s with panel := f s.panel } :=
  ensures_change_bind f next

/-- Asking for a report may come first. -/
@[simp] theorem arrives_report_bind (next : Status → Act β) :
    (report >>= next).Arrives I a s ↔
      (next (s.panel.reportAt a s.looks)).Arrives I a { s with looks := s.looks + 1 } :=
  ensures_report_bind next

/-- An act that makes a panel arrives there, whether or not a call fails. -/
theorem Becomes.arrives {act : Act α} {q : Panel} (h : act.Becomes q a s) (hq : I q) :
    act.Arrives I a s := by
  apply Ensures.mono h
  · intro _ t ht
    exact ht.panel_eq ▸ hq
  · rintro f t ⟨hfailed, ht⟩
    exact ⟨hfailed, ht.panel_eq ▸ hq⟩

/-- A drawing leaves the panel as it is, whether or not it fails. -/
theorem arrives_draw (d : Display.Drawing) (h : I s.panel) : (draw d).Arrives I a s :=
  ((becomes_draw d).mpr rfl).arrives h

/-- Going to a screen arrives there, whether or not a call fails. -/
theorem arrives_goTo (screen : Screen) (h : I { s.panel with screen := screen }) :
    (goTo screen).Arrives I a s := ((becomes_goTo screen).mpr rfl).arrives h

/-- Turning the knob on a list moves its cursor. -/
theorem arrives_turnList {m : ListMenu} {symbol : Symbol}
    (h : I { s.panel with
      places := s.panel.places.set m
        ((s.panel.places.get m).step symbol.isCw (s.panel.entryCount m)).2 }) :
    (turnList m symbol).Arrives I a s := by
  simp only [turnList, arrives_panel_bind, arrives_change_bind]
  split
  · exact arrives_draw _ h
  · exact h

/-- Where nothing but a display call fails, no message is shown. -/
theorem Arrives.recovering {act : Act Unit} (h : act.Arrives I a s) :
    (recovering act).Leaves I a s := by
  apply Ensures.recovering h
  · exact fun _ _ ht => ht.2
  · rintro r t ⟨⟨_, _, hrefused, -⟩, -⟩
    contradiction

end Act

/-- A step back goes to the entry before, or stays on the first one. -/
theorem Menu.ListView.position_step_back (l : ListView) (count : Nat) :
    (l.step false count).2.position = l.position - 1 := by
  unfold step
  dsimp only
  split
  · next hsame => exact congrArg Cursor.position hsame.symm
  · rfl

namespace Panel

variable {p : Panel} {k : Key} {a : Answers} {keys : List Key} {I goal : Panel → Prop}

/-- What holds once the handling of a key is over holds after the key. -/
theorem perform_key_of_handle {J : Scene → Prop}
    (h : ∀ t : Scene, t.panel = p.awake → submitted t.events = [] →
      (Act.recovering (Act.handle p.screen (p.symbolOf k))).Ensures (fun _ => J) (fun _ => J) a t) :
    J (p.perform (.key k) a) := by
  obtain ⟨shown, -, hkey⟩ := Act.key_eq (a := a) (s := .opening p) k
  apply (perform_iff p (.key k) a).mpr
  change (Act.key k).Ensures (fun _ => J) (fun _ => J) a (.opening p)
  rw [Act.Ensures, hkey]
  exact h _ rfl (by simp [Scene.afterCalls, Scene.opening, submitted, sentCommands])

/-- A property that the handling of a key arrives at. -/
theorem perform_key (h : ∀ t : Scene, t.panel = p.awake →
    (Act.handle p.screen (p.symbolOf k)).Arrives I a t) : I (p.perform (.key k) a).panel :=
  perform_key_of_handle (J := (I ·.panel)) fun t ht _ => (h t ht).recovering

/-- Keys lead to a goal without a command, whatever display and printer answer. -/
def Walks (p : Panel) (keys : List Key) (goal : Panel → Prop) : Prop :=
  ∀ ops : List (Operation × Answers), ops.map Prod.fst = keys.map .key →
    goal (p.run ops).1 ∧ submitted (p.run ops).2 = []

/-- No key is needed where the goal is reached. -/
theorem walks_nil (h : goal p) : p.Walks [] goal := by
  intro ops hops
  rw [List.map_eq_nil_iff.mp hops]
  exact ⟨h, rfl⟩

/-- One key that sends nothing, and then others. -/
theorem walks_cons (hsilent : ∀ r, p.commandsFor r (p.symbolOf k) = [])
    (hkey : ∀ (a : Answers) (t : Scene), t.panel = p.awake →
      (Act.handle p.screen (p.symbolOf k)).Arrives (·.Walks keys goal) a t) :
    p.Walks (k :: keys) goal := by
  intro ops hops
  cases ops with
  | nil => contradiction
  | cons x rest =>
    obtain ⟨op, a⟩ := x
    obtain ⟨hop, hrest⟩ := List.cons.inj hops
    have hop : op = .key k := hop
    subst hop
    obtain ⟨hgoal, hsent⟩ := perform_key (hkey a) rest hrest
    have hnone : submitted (p.perform (.key k) a).events = [] := by
      apply submitted_eq_nil
      rw [commandsOf, keyOf, Option.elim_some, hsilent]
    exact ⟨hgoal, by rw [run, submitted_append, hnone, hsent, List.append_nil]⟩

/-- Turning the knob, while the bed is not probed. -/
theorem walks_turn (hscreen : p.screen ≠ .manualProbe) (hturn : (Symbol.ofKey k).isTurn = true)
    (hkey : ∀ (a : Answers) (t : Scene), t.panel = p.awake →
      (Act.handle p.screen (p.symbolOf k)).Arrives (·.Walks keys goal) a t) :
    p.Walks (k :: keys) goal := by
  refine walks_cons (fun r => commandsFor_of_ne hscreen r ?_) hkey
  intro henter
  have hnone : (p.symbolOf k).isTurn = false := by rw [henter]; rfl
  rw [symbolOf_isTurn, hturn] at hnone
  contradiction

/-- A press that sends nothing. -/
theorem walks_click (hscreen : p.screen ≠ .manualProbe) (hpress : p.pressCommands = [])
    (hkey : ∀ (a : Answers) (t : Scene), t.panel = p.awake →
      (Act.handle p.screen .enter).Arrives (·.Walks keys goal) a t) :
    p.Walks (.click :: keys) goal := by
  refine walks_cons ?_ ?_
  · intro r
    rw [symbolOf_click, commandsFor_enter hscreen, hpress]
  · rw [symbolOf_click]
    exact hkey

/-! ### The buttons of the print screen -/

/-- The print screen is up with the cursor on a button, and it shows no notice that the print is
finished. -/
structure OnButton (button : Nat) (p : Panel) : Prop where
  screen : p.screen = .printProcess
  shown : p.print.completionShown = false
  position : p.places.print.position = button

/-- Turning the knob on the print screen. -/
theorem OnButton.turn {button : Nat} (h : p.OnButton button) {t : Scene} (ht : t.panel = p.awake)
    (hturn : (Symbol.ofKey k).isTurn = true) :
    (Act.handle p.screen (p.symbolOf k)).Arrives
      (OnButton ((⟨button⟩ : Cursor).step (Symbol.ofKey k).isCw Act.printButtonCount).position)
      a t := by
  obtain ⟨hscreen, hshown, rfl⟩ := h
  have hshown' : t.panel.print.completionShown = false := by rw [ht]; exact hshown
  have hscreen' : t.panel.screen = .printProcess := by rw [ht]; exact hscreen
  have hprint : t.panel.places.print = p.places.print := by rw [ht]; rfl
  rw [hscreen]
  simp only [Act.handle, Act.printProcess, Act.arrives_panel_bind, hshown', Bool.false_eq_true,
    if_false, symbolOf_isTurn, hturn, if_true, symbolOf_isCw, hprint]
  split
  · exact Act.arrives_draw _ ⟨hscreen', hshown', rfl⟩
  · next hsame =>
    refine ⟨hscreen', hshown', ?_⟩
    rw [hprint]
    exact congrArg Cursor.position (Classical.not_not.mp hsame).symm

/-- Steps back lead to the first button. -/
theorem OnButton.walks_up {button : Nat} (h : p.OnButton button) {rest : List Key}
    (hrest : ∀ q : Panel, q.OnButton 0 → q.Walks rest goal) :
    p.Walks (List.replicate button .up ++ rest) goal := by
  induction button generalizing p with
  | zero => exact hrest p h
  | succ button ih =>
    refine walks_turn (by simp [h.screen]) rfl fun a t ht => ?_
    exact (h.turn ht rfl).mono (fun _ _ hu => ih hu) fun _ _ hu => ⟨hu.1, ih hu.2⟩

/-- Steps forwards lead to a button further on. -/
theorem OnButton.walks_down {button count : Nat} (h : p.OnButton button)
    (hcount : button + count < Act.printButtonCount) :
    p.Walks (List.replicate count .down) (OnButton (button + count)) := by
  induction count generalizing p button with
  | zero => exact walks_nil h
  | succ count ih =>
    have hnext : (⟨button⟩ : Cursor).step true Act.printButtonCount = ⟨button + 1⟩ := by
      have hlater : button < Act.printButtonCount - 1 := by omega
      exact if_pos hlater
    have hsum : button + (count + 1) = button + 1 + count := by omega
    rw [hsum] at hcount ⊢
    refine walks_turn (by simp [h.screen]) rfl fun a t ht => ?_
    have hturn := h.turn (a := a) ht (k := .down) rfl
    change (Act.handle p.screen (p.symbolOf .down)).Arrives
      (OnButton ((⟨button⟩ : Cursor).step true Act.printButtonCount).position) a t at hturn
    rw [hnext] at hturn
    exact hturn.mono (fun _ _ hu => ih hu hcount) fun _ _ hu => ⟨hu.1, ih hu.2 hcount⟩

/-- Every button of the print screen can be reached from every other one. -/
theorem OnButton.walks {button other : Nat} (h : p.OnButton button)
    (hother : other < Act.printButtonCount) : ∃ keys, p.Walks keys (OnButton other) := by
  refine ⟨List.replicate button .up ++ List.replicate other .down, h.walks_up fun q hq => ?_⟩
  have hdown : q.Walks (List.replicate other .down) (OnButton (0 + other)) :=
    hq.walks_down (by omega)
  rwa [Nat.zero_add] at hdown

/-! ### Back to the print screen -/

/-- The answer under the cursor declines the question, and the print screen is back. -/
theorem walks_decline (h : p.screen = .printWindow) (hdecline : p.places.confirm.position ≠ 0) :
    p.Walks [.click] (·.screen = .printProcess) := by
  refine walks_click (by simp [h]) (by simp [pressCommands, h, hdecline]) fun a t ht => ?_
  have hdecline' : t.panel.places.confirm.position ≠ 0 := by rw [ht]; exact hdecline
  rw [h]
  change Act.giveAnswer.Arrives _ a t
  simp only [Act.giveAnswer, Act.arrives_panel_bind, Act.arrives_change_bind]
  split
  · contradiction
  · contradiction
  · exact Act.arrives_goTo _ (walks_nil rfl)

/-- One turn to the right leads to the answer that declines, wherever the cursor was. -/
theorem walks_question (h : p.screen = .printWindow) :
    p.Walks [.down, .click] (·.screen = .printProcess) := by
  have hstep (c : Cursor) : (c.step true 2).position ≠ 0 := by
    simp only [Cursor.step, if_true, Cursor.forward]
    split <;> simp
  refine walks_turn (by simp [h]) rfl fun a t ht => ?_
  have hscreen : t.panel.screen = .printWindow := by rw [ht]; exact h
  have hturns : Act.handle p.screen (p.symbolOf .down) = Act.turnAnswer (p.symbolOf .down) := by
    rw [h]
    exact if_pos (p.symbolOf_isTurn .down)
  rw [hturns]
  simp only [Act.turnAnswer, Act.arrives_panel_bind, symbolOf_isCw]
  split
  · rw [Act.arrives_change_bind]
    apply Act.arrives_draw
    exact walks_decline hscreen (hstep _)
  · next hsame =>
    refine walks_decline hscreen ?_
    rw [← Classical.not_not.mp hsame]
    exact hstep _

/-- The first entry of the tune menu leads back. -/
theorem walks_leave_tune (h : p.screen = .tune) (hfirst : (p.places.get .tune).position = 0) :
    p.Walks [.click] (·.screen = .printProcess) := by
  refine walks_click (by simp [h]) (by simp [pressCommands, h]) fun a t ht => ?_
  have hfirst' : (t.panel.places.get .tune).position = 0 := by rw [ht]; exact hfirst
  rw [h]
  change Act.enterTune.Arrives _ a t
  simp only [Act.enterTune, Act.withEntry, Act.arrives_panel_bind, hfirst', TuneItem.list]
  change Act.Arrives (Act.report >>= _) _ a t
  simp only [Act.arrives_report_bind, Act.arrives_panel_bind, Act.arrives_change_bind]
  exact Act.arrives_goTo _ (walks_nil rfl)

/-- From the tune menu, steps back and a click lead to the print screen. -/
theorem walks_tune {position : Nat} (h : p.screen = .tune)
    (hposition : (p.places.get .tune).position = position) :
    p.Walks (List.replicate position .up ++ [.click]) (·.screen = .printProcess) := by
  induction position generalizing p with
  | zero => exact walks_leave_tune h hposition
  | succ position ih =>
    refine walks_turn (by simp [h]) rfl fun a t ht => ?_
    have hscreen : t.panel.screen = .tune := by rw [ht]; exact h
    have hturns : Act.handle p.screen (p.symbolOf .up) = Act.turnList .tune (p.symbolOf .up) := by
      rw [h]
      exact if_pos (p.symbolOf_isTurn .up)
    rw [hturns]
    refine Act.arrives_turnList (ih hscreen ?_)
    rw [Places.get_set, if_pos rfl, symbolOf_isCw, ht]
    exact (ListView.position_step_back _ _).trans (congrArg (· - 1) hposition)

/-- A message above the tune menu gives way to it. -/
theorem walks_message (h : p.screen = .messagePopup) (hcaller : p.popupCaller = some .tune) :
    p.Walks (.click :: (List.replicate (p.places.get .tune).position .up ++ [.click]))
      (·.screen = .printProcess) := by
  refine walks_click (by simp [h]) (by simp [pressCommands, h]) fun a t ht => ?_
  rw [h]
  change (Act.messagePopup .enter).Arrives _ a t
  have hcaller' : t.panel.popupCaller = some .tune := by rw [ht]; exact hcaller
  simp only [Act.messagePopup, if_true, Act.arrives_panel_bind, Act.arrives_change_bind, hcaller']
  exact Act.arrives_goTo _ (walks_tune rfl (by rw [ht]; rfl))

end Panel

end PrinterPanel
