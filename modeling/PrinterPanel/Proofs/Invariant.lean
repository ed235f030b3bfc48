import PrinterPanel.Proofs.Moves

/-!
# Invariants of the panel

What an operation does besides handling a key is the same for every screen: it reads the knob,
passes on a message, opens the browser for pictograms, or brings the panel in line with a report. A
property that persists through these is kept by every operation whose key is handled well, whether
calls fail or commands are declined. A property that survives the moves of the panel is kept by
every operation, and so by every run.
-/

namespace PrinterPanel

namespace Panel

/-- What a property has to survive besides the handling of keys and the browser for pictograms,
while the printer reports nothing but what may be heard. -/
structure EnduresHearing (heard : Status → Prop) (I : Panel → Prop) : Prop where
  /-- The knob is read, a symbol is taken, and the display is lit or dimmed. -/
  attends : ∀ {p} latch knob idleTicks dimmed, I p → latch = .empty ∨ latch = p.latch →
    I { p with latch := latch, knob := knob, idleTicks := idleTicks, dimmed := dimmed }
  /-- A report is heard. -/
  hears : ∀ {p r}, heard r → I p → I { p with lastStatus := some r }
  /-- A message is shown. -/
  warns : ∀ {p} text, I p → I (p.withMessage text)
  /-- The panel is brought in line with a report, step by step. -/
  follows : ∀ {p} {r : Status} {change}, change ∈ changesFor r → I p → I (change p)

/-- What a property has to survive besides the handling of keys, while the printer reports nothing
but what may be heard. -/
structure PersistsHearing (heard : Status → Prop) (I : Panel → Prop) : Prop
    extends EnduresHearing heard I where
  /-- The browser for pictograms is opened. -/
  browses : ∀ {p}, I p →
    I { p.abandonEdit with
      places := { p.abandonEdit.places with icon := .first }
      screen := .iconFinder }

/-- What a property has to survive besides the handling of keys, whatever the printer reports. -/
abbrev Persists (I : Panel → Prop) : Prop := PersistsHearing (fun _ => True) I

variable {heard : Status → Prop} {loaded : List Files.Path → Prop} {I : Panel → Prop}
  {p : Panel}

/-- Hearing a report keeps what persists. -/
theorem Persists.hears (hI : Persists I) (r : Status) (h : I p) :
    I { p with lastStatus := some r } := hI.toEnduresHearing.hears trivial h

/-- An invariant of the moves of the panel persists. -/
theorem InvariantLoading.persists (hI : InvariantLoading loaded I) : Persists I where
  attends := hI.attends
  hears {p r} _ h := hI.notes p.lastJob (some r) p.lastMessage h
  warns := hI.withMessage
  follows hchange h := hI.change hchange h
  browses {p} h := by
    have hfirst := hI.moves (hI.leaves h) (.icon .first (.inl (by decide)))
    exact hI.goes .iconFinder hfirst p.free_abandonEdit (.inl rfl)

/-- Some of the changes for a report keep what endures. -/
theorem EnduresHearing.after (hI : EnduresHearing heard I) {r : Status}
    {changes : List (Panel → Panel)} (hchanges : changes ⊆ changesFor r) (h : I p) :
    I (p.after changes) := by
  induction changes generalizing p with
  | nil => exact h
  | cons change rest ih =>
    obtain ⟨hchange, hrest⟩ := List.cons_subset.mp hchanges
    exact ih hrest (hI.follows hchange h)

end Panel

/-- The printer reports nothing but this. -/
def Answers.Report (a : Answers) (heard : Status → Prop) : Prop :=
  ∀ n r, a.status n = some r → heard r

namespace Act

variable {α β : Type} {a : Answers} {s : Scene} {heard : Status → Prop} {I : Panel → Prop}

/-- What holds after an act that draws only is what holds of the panel it leads to. -/
theorem Becomes.leaves_iff {act : Act α} {q : Panel} (h : act.Becomes q a s) :
    act.Leaves I a s ↔ I q := by
  unfold Becomes Ensures at h
  unfold Leaves Ensures
  cases hact : act a s with
  | ok x t =>
    simp only [hact] at h ⊢
    rw [h.panel_eq]
  | error f t =>
    simp only [hact] at h ⊢
    rw [h.2.panel_eq]

/-- Showing a message changes the panel by the message. -/
@[simp] theorem leaves_showMessage (text : String) :
    (showMessage text).Leaves I a s ↔ I (s.panel.withMessage text) :=
  ((becomes_showMessage text).mpr rfl).leaves_iff

/-- Recovering from a fault shows a message at most. -/
theorem Leaves.recovering {act : Act Unit} (hwarns : ∀ {p} text, I p → I (p.withMessage text))
    (h : act.Leaves I a s) : (recovering act).Leaves I a s := by
  apply Ensures.recovering h
  · exact fun _ _ ht => ht
  · exact fun r t ht => (leaves_showMessage _).mpr (hwarns _ ht)

/-- A key reaches the screen that is up, before anything is asked of the printer. -/
theorem leaves_key (hI : Panel.EnduresHearing heard I) (k : Key)
    (h : ∀ t, t.panel = s.panel.awake → t.looks = s.looks →
      (handle s.panel.screen (s.panel.symbolOf k)).Leaves I a t) : (key k).Leaves I a s := by
  obtain ⟨shown, -, hkey⟩ := key_eq (a := a) (s := s) k
  rw [Leaves, Ensures, hkey]
  exact Leaves.recovering hI.warns (h _ rfl rfl)

/-- The knob keeps what its key keeps; without a key nothing but the knob changes. -/
theorem leaves_keyOfKnob (hI : Panel.EnduresHearing heard I) (decode : Knob → Option Key × Knob)
    (hkey : ∀ k, (decode s.panel.knob).1 = some k → ∀ t knob,
      t.panel = { s.panel.awake with knob := knob } → t.looks = s.looks →
      (handle s.panel.screen (s.panel.symbolOf k)).Leaves I a t)
    (hnone : (decode s.panel.knob).1 = none → I s.panel) : (keyOfKnob decode).Leaves I a s := by
  simp only [keyOfKnob, leaves_bind, ensures_panel, ensures_change]
  cases hdecode : (decode s.panel.knob).1 with
  | none =>
    exact hI.attends s.panel.latch _ s.panel.idleTicks s.panel.dimmed (hnone hdecode) (.inr rfl)
  | some k => exact leaves_key hI k fun t ht hlooks => hkey k hdecode t _ ht hlooks

/-- Bringing the panel in line with a report keeps what endures, also if it is cut short. -/
theorem leaves_reconcile (hI : Panel.EnduresHearing heard I) (r : Status)
    (previous : Option Status) (h : I s.panel) : (reconcile r previous).Leaves I a s := by
  apply (makes_reconcile r previous).mono
  · intro _ t ht
    rw [ht.panel_eq]
    exact hI.after (List.Subset.refl _) h
  · rintro f t ⟨_, made, hmade, ht⟩
    rw [ht.panel_eq]
    exact hI.after hmade.subset h

/-- Counting an idle tick keeps what endures. -/
theorem leaves_countIdleTick (hI : Panel.EnduresHearing heard I) (h : I s.panel) :
    countIdleTick.Leaves I a s := by
  have hidle (idleTicks : Nat) (dimmed : Bool) :
      I { s.panel with idleTicks := idleTicks, dimmed := dimmed } :=
    hI.attends s.panel.latch s.panel.knob idleTicks dimmed h (.inr rfl)
  simp only [countIdleTick, leaves_bind, ensures_panel, ensures_change]
  split
  · simpa using hidle _ true
  · exact hidle _ s.panel.dimmed

/-- Hearing a report keeps what endures. -/
theorem leaves_hear (hI : Panel.EnduresHearing heard I) (ha : a.Report heard) (h : I s.panel) :
    hear.Leaves I a s := by
  unfold Leaves Ensures
  cases hstatus : a.status s.looks with
  | none =>
    rw [hear_eq_of_none hstatus]
    exact h
  | some r =>
    have hreport : (recovering (reconcile r s.panel.lastStatus)).Leaves I a (s.heard r) :=
      Leaves.recovering hI.warns (leaves_reconcile hI r _ (hI.hears (ha _ r hstatus) h))
    rw [hear_eq_of_some hstatus]
    exact hreport.bind fun _ u hu => leaves_countIdleTick hI hu

end Act

namespace Panel

variable {heard : Status → Prop} {I : Panel → Prop}

/-- What holds after an operation holds at the end of its act, however that ends. -/
theorem perform_iff {h : Scene → Prop} (p : Panel) (op : Operation) (a : Answers) :
    h (p.perform op a) ↔
      op.act.Ensures (fun _ t => h t) (fun _ t => h t) a (.opening p) := by
  unfold Panel.perform EStateM.run Act.Ensures
  cases op.act a (.opening p) <;> rfl

/-- An operation does what its act does. -/
theorem perform_eq {p : Panel} {op : Operation} {a : Answers} {t : Scene}
    (h : op.act a (.opening p) = .ok () t) : p.perform op a = t := by
  apply (perform_iff (h := (· = t)) p op a).mpr
  rw [Act.Ensures, h]

/-- What holds at the end of an act without a fault holds after the operation. -/
theorem perform_of_ends {p : Panel} {op : Operation} {a : Answers} {J : Scene → Prop}
    (h : op.act.Ends (fun _ t => J t) a (.opening p)) : J (p.perform op a) :=
  (perform_iff (h := J) p op a).mpr (h.mono (fun _ _ ht => ht) fun _ _ ht => ht.elim)

/-- A property that endures holds after an operation if it holds after the key that the operation
delivers, or before it if there is no key. Switching the display on shows the main menu, and opening
the browser for pictograms shows that. -/
theorem EnduresHearing.perform (hI : EnduresHearing heard I) {p : Panel} {op : Operation}
    {a : Answers} (ha : a.Report heard)
    (hstart : op = .start → I { p with screen := .mainMenu })
    (hkey : ∀ k, p.keyOf op = some k → ∀ s knob, s.panel = { p.awake with knob := knob } →
      s.looks = 0 → (Act.handle p.screen (p.symbolOf k)).Leaves I a s)
    (hbrowses : op = .iconFinder → I { p.abandonEdit with
      places := { p.abandonEdit.places with icon := .first }
      screen := .iconFinder })
    (hnone : p.keyOf op = none → I p) : I (p.perform op a).panel := by
  have hknob (decode : Knob → Option Key × Knob) (hdecode : (decode p.knob).1 = p.keyOf op) :
      (Act.keyOfKnob decode).Leaves I a (.opening p) :=
    Act.leaves_keyOfKnob hI decode (fun k hk => hkey k (hdecode ▸ hk))
      fun hk => hnone (hdecode ▸ hk)
  apply (perform_iff p op a (h := fun s => I s.panel)).mpr
  cases op with
  | start =>
    have hlight : (Act.draw [.light p.settings.screen.brightness]).Becomes p a (.opening p) :=
      (Act.becomes_draw _).mpr rfl
    apply Act.Leaves.recovering hI.warns
    rw [Act.leaves_bind, Act.ensures_panel, Act.leaves_bind]
    apply hlight.mono
    · intro _ t ht
      rw [Act.leaves_goTo, ht.panel_eq]
      exact hstart rfl
    · rintro f t ⟨_, ht⟩
      rw [ht.panel_eq]
      exact hnone rfl
  | key k => exact Act.leaves_key hI k fun t ht hlooks => hkey k rfl t p.knob ht hlooks
  | rotate r now => exact hknob (fun k => (some (k.rotate r now).1, (k.rotate r now).2)) rfl
  | sample x y now => exact hknob (·.sample x y now) rfl
  | button down now => exact hknob (·.button down now) rfl
  | poll now => exact hknob (·.poll now) rfl
  | tick now =>
    have htick : (Act.tick now).Leaves I a (.opening p) := by
      rw [Act.tick_eq]
      exact (hknob (·.poll now) rfl).bind fun _ _ ht => Act.leaves_hear hI ha ht
    exact htick
  | message text => exact (Act.leaves_showMessage text).mpr (hI.warns text (hnone rfl))
  | iconFinder =>
    apply Act.Leaves.recovering hI.warns
    exact (Act.leaves_goTo _).mpr (hbrowses rfl)

/-- A property that persists holds after an operation if it holds after the key that the operation
delivers, or before it if there is no key. -/
theorem PersistsHearing.perform (hI : PersistsHearing heard I) {p : Panel} {op : Operation}
    {a : Answers} (ha : a.Report heard)
    (hstart : op = .start → I { p with screen := .mainMenu })
    (hkey : ∀ k, p.keyOf op = some k → ∀ s knob, s.panel = { p.awake with knob := knob } →
      s.looks = 0 → (Act.handle p.screen (p.symbolOf k)).Leaves I a s)
    (hnone : p.keyOf op = none → I p) : I (p.perform op a).panel := by
  refine hI.toEnduresHearing.perform ha hstart hkey (fun hop => hI.browses (hnone ?_)) hnone
  rw [hop]
  rfl

/-- A property that persists, whatever is reported, holds after an operation if it holds after its
key. -/
theorem Persists.perform (hI : Persists I) {p : Panel} {op : Operation} {a : Answers}
    (hstart : op = .start → I { p with screen := .mainMenu })
    (hkey : ∀ k, p.keyOf op = some k → ∀ s knob, s.panel = { p.awake with knob := knob } →
      s.looks = 0 → (Act.handle p.screen (p.symbolOf k)).Leaves I a s)
    (hnone : p.keyOf op = none → I p) : I (p.perform op a).panel :=
  PersistsHearing.perform hI (fun _ _ _ => trivial) hstart hkey hnone

/-- A panel that a key has woken. -/
theorem PersistsHearing.awake (hI : PersistsHearing heard I) {p : Panel} (h : I p) (knob : Knob) :
    I { p.awake with knob := knob } := hI.attends (p := p) .empty knob 0 false h (.inl rfl)

/-- A property that persists, and that the handling of every key keeps, is kept by an operation. -/
theorem Persists.perform_of_handle (hI : Persists I) {p : Panel} {op : Operation} {a : Answers}
    (hhandle : ∀ s symbol, I s.panel → (Act.handle s.panel.screen symbol).Leaves I a s)
    (hstart : op = .start → I { p with screen := .mainMenu }) (h : I p) :
    I (p.perform op a).panel := by
  refine hI.perform hstart (fun k _ s knob hs _ => ?_) fun _ => h
  have hawake : I s.panel := hs ▸ hI.awake h knob
  have hscreen : s.panel.screen = p.screen := by rw [hs]; rfl
  rw [← hscreen]
  exact hhandle s _ hawake

/-- An operation keeps an invariant. Switching the display on keeps it if showing the main menu
does. -/
theorem Invariant.perform (hI : Invariant I) {p : Panel} {op : Operation} {a : Answers}
    (hstart : op = .start → I { p with screen := .mainMenu }) (h : I p) :
    I (p.perform op a).panel :=
  hI.persists.perform_of_handle (fun _ symbol hs => Act.leaves_handle hI hs symbol) hstart h

/-- A run keeps an invariant. -/
theorem Invariant.run (hI : Invariant I) {p : Panel} {ops : List (Operation × Answers)}
    (hstart : ∀ x ∈ ops, x.1 = .start → ∀ q, I q → I { q with screen := .mainMenu }) (h : I p) :
    I (p.run ops).1 := by
  induction ops generalizing p with
  | nil => exact h
  | cons x rest ih =>
    apply ih
    · intro y hy
      exact hstart y (List.mem_cons_of_mem _ hy)
    · exact hI.perform (fun hop => hstart x List.mem_cons_self hop p h) h

/-- Nothing changes the canvas, and of the settings only the presets change. -/
theorem invariant_fixed (c : Display.Canvas) (s : Settings) :
    Invariant fun p => p.canvas = c ∧ { p.settings with presets := s.presets } = s where
  attends _ _ _ _ h _ := h
  notes _ _ _ h := h
  tracks _ _ h := h
  homes h _ := h
  homed h := h
  moves h _ := h
  lists _ h _ _ := h
  goes _ h _ _ := h
  covers _ h _ _ := h
  returns _ h _ _ := h
  edits _ _ _ h _ _ := h
  adjusts _ _ h _ := h
  leaves h := by
    unfold abandonEdit
    split <;> exact h
  stores _ h := h

/-- No operation changes the display or the settings but for the presets. -/
theorem perform_fixed (p : Panel) (op : Operation) (a : Answers) :
    (p.perform op a).panel.canvas = p.canvas ∧
      { (p.perform op a).panel.settings with presets := p.settings.presets } = p.settings :=
  (invariant_fixed p.canvas p.settings).perform (fun _ => ⟨rfl, rfl⟩) ⟨rfl, rfl⟩

/-- What the printer is equipped with stays. -/
theorem perform_features (p : Panel) (op : Operation) (a : Answers) :
    (p.perform op a).panel.settings.features = p.settings.features := by
  have hfeatures := congrArg Settings.features (p.perform_fixed op a).2
  exact hfeatures

end Panel

end PrinterPanel
