import PrinterPanel.Proofs.Messages

/-!
# Probing the bed by hand

While the bed is probed, turning the knob moves the nozzle by the chosen step, unless it would leave
the travel of its axis. That is decided by the height which the printer reports at that moment, or,
if it reports nothing, by the one that the last tick read. So the nozzle keeps to its travel while
the printer can be read, and leaves it only where it has been moved since the last tick and is moved
once more without a report.
-/

namespace PrinterPanel

/-! ### What the printer accepts -/

/-- The commands among events that were accepted. -/
def accepted (events : List Event) : List Command :=
  ((sentCommands events).filter (·.2)).map (·.1)

/-- The commands accepted in two lists of events come one after the other. -/
@[simp] theorem accepted_append (first second : List Event) :
    accepted (first ++ second) = accepted first ++ accepted second := by
  simp [accepted]

/-- Nothing is accepted in a drawing. -/
@[simp] theorem accepted_drawn (d : Display.Drawing) : accepted (d.map .drawn) = [] := by
  simp [accepted]

/-- A command that is sent is accepted if the printer takes it. -/
@[simp] theorem accepted_sent (c : Command) (taken : Bool) :
    accepted [.sent c taken] = if taken then [c] else [] := by
  cases taken <;> rfl

/-- Nothing is accepted by drawing. -/
theorem Scene.Redrawn.accepted_eq {s t : Scene} (h : s.Redrawn t) :
    accepted t.events = accepted s.events := by
  obtain ⟨shown, calls, rfl⟩ := h
  simp [Scene.afterCalls]

namespace Act

variable {α β : Type} {a : Answers} {s : Scene} {commands : List Command}

/-- An act of which the printer accepts some commands, however it ends. -/
def Accepts (act : Act α) (commands : List Command) (a : Answers) (s : Scene) : Prop :=
  act.Ensures (fun _ t => accepted t.events = accepted s.events ++ commands)
    (fun _ t => accepted t.events = accepted s.events ++ commands) a s

/-- Of an act that draws only, nothing is accepted. -/
theorem Becomes.accepts {act : Act α} {q : Panel} (h : act.Becomes q a s) :
    act.Accepts [] a s := by
  simp only [Accepts, List.append_nil]
  apply Ensures.mono h
  · exact fun _ _ ht => ht.accepted_eq
  · exact fun _ _ ht => ht.2.accepted_eq

/-! ### One rule for each kind of step -/

/-- A result that is given sends nothing. -/
@[simp] theorem accepts_pure (x : α) : (pure x : Act α).Accepts [] a s := by
  simp [Accepts]

/-- To look at the panel first sends nothing. -/
@[simp] theorem accepts_panel_bind (next : Panel → Act β) :
    (panel >>= next).Accepts commands a s ↔ (next s.panel).Accepts commands a s :=
  ensures_panel_bind next

/-- To change the panel first sends nothing. -/
@[simp] theorem accepts_change_bind (f : Panel → Panel) (next : Unit → Act β) :
    (change f >>= next).Accepts commands a s ↔
      (next ()).Accepts commands a { s with panel := f s.panel } :=
  ensures_change_bind f next

/-- To ask for a report first sends nothing. -/
@[simp] theorem accepts_report_bind (next : Status → Act β) :
    (report >>= next).Accepts commands a s ↔
      (next (s.panel.reportAt a s.looks)).Accepts commands a { s with looks := s.looks + 1 } :=
  ensures_report_bind next

/-- A drawing sends nothing. -/
@[simp] theorem accepts_draw (d : Display.Drawing) : (draw d).Accepts [] a s :=
  ((becomes_draw (q := s.panel) d).mpr rfl).accepts

/-- Going to a screen sends nothing. -/
@[simp] theorem accepts_goTo (screen : Screen) : (goTo screen).Accepts [] a s :=
  ((becomes_goTo screen).mpr rfl).accepts

/-- A message sends nothing to the printer. -/
@[simp] theorem accepts_showMessage (text : String) : (showMessage text).Accepts [] a s :=
  ((becomes_showMessage text).mpr rfl).accepts

/-- What only draws may come after what the printer accepts. -/
theorem Accepts.bind {act : Act α} {next : α → Act β} (h : act.Accepts commands a s)
    (hnext : ∀ x t, (next x).Accepts [] a t) : (act >>= next).Accepts commands a s := by
  rw [Accepts, ensures_bind]
  apply Ensures.mono h
  · intro x t ht
    have hrest := hnext x t
    simpa only [Accepts, List.append_nil, ht] using hrest
  · exact fun _ _ ht => ht

/-- Nothing is accepted by recovering from a fault. -/
theorem Accepts.recovering {act : Act Unit} (h : act.Accepts commands a s) :
    (recovering act).Accepts commands a s := by
  apply Ensures.recovering h
  · exact fun _ _ ht => ht
  · intro r t ht
    have hmessage : (showMessage ("Error: " ++ r.message)).Accepts [] a t :=
      accepts_showMessage _
    simpa only [Accepts, List.append_nil, ht] using hmessage

/-- One command, and then what draws only. -/
theorem accepts_send_bind {c : Command} {next : Unit → Act β}
    (h : (next ()).Accepts [] a (s.afterCommand c true)) :
    (send c >>= next).Accepts (if a.command s.commands = none then [c] else []) a s := by
  rw [Accepts, ensures_send_bind]
  constructor
  · intro haccepted
    apply Ensures.mono h
    all_goals
      intro _ t ht
      simpa [haccepted, Scene.afterCommand] using ht
  · intro r hrefused
    simp [hrefused, Scene.afterCommand]

/-! ### Probing -/

/-- A step of the nozzle is accepted if it is allowed and the printer takes it. -/
theorem accepts_moveProbe (allowed : Prop) [Decidable allowed] (um : Int) :
    (moveProbe allowed um).Accepts
      (if a.command s.commands = none then if allowed then [.probeAdjust um] else [] else [])
      a s := by
  unfold moveProbe
  by_cases hallowed : allowed
  · simpa [hallowed] using accepts_send_bind (by simp)
  · simp [hallowed]

/-- While the bed is probed, the commands of a symbol are accepted if the printer takes them. -/
theorem accepts_manualProbe {symbol : Symbol} :
    (manualProbe symbol).Accepts
      (if a.command s.commands = none then
        s.panel.probeCommands ((s.panel.reportAt a s.looks).probe.getD 0) symbol
      else []) a s := by
  simp only [manualProbe, accepts_report_bind, accepts_panel_bind]
  cases symbol with
  | cw | fastCw | ccw | fastCcw => exact accepts_moveProbe _ _
  | enter => simp [Panel.probeCommands]
  | longEnter => exact accepts_send_bind (by simp)
  | idle => simp [Panel.probeCommands]

/-- Of what a key sends while the bed is probed, the printer accepts all or nothing. -/
theorem accepts_key (hscreen : s.panel.screen = .manualProbe) (k : Key) :
    (key k).Accepts
      (if a.command s.commands = none then
        s.panel.commandsFor (s.panel.reportAt a s.looks) (s.panel.symbolOf k)
      else []) a s := by
  obtain ⟨lights, -, hkey⟩ := key_eq (a := a) (s := s) k
  have hhandle : (manualProbe (s.panel.symbolOf k)).Accepts _ a (woken s lights) :=
    accepts_manualProbe
  have hwoken : accepted (woken s lights).events = accepted s.events := by
    simp [woken, Scene.afterCalls]
  have hcommands : s.panel.commandsFor (s.panel.reportAt a s.looks) (s.panel.symbolOf k) =
      s.panel.probeCommands ((s.panel.reportAt a s.looks).probe.getD 0) (s.panel.symbolOf k) :=
    if_pos hscreen
  have hrecovered := hhandle.recovering
  unfold Accepts Ensures at hrecovered ⊢
  rw [hwoken] at hrecovered
  rw [hkey, hscreen, hcommands]
  exact hrecovered

/-- Of what a key of the knob sends while the bed is probed, the printer accepts all or nothing. -/
theorem accepts_keyOfKnob (hscreen : s.panel.screen = .manualProbe)
    (decode : Knob → Option Key × Knob) :
    (keyOfKnob decode).Accepts
      (if a.command s.commands = none then
        (decode s.panel.knob).1.elim [] fun k =>
          s.panel.commandsFor (s.panel.reportAt a s.looks) (s.panel.symbolOf k)
      else []) a s := by
  let turned : Scene := { s with panel := { s.panel with knob := (decode s.panel.knob).2 } }
  unfold Accepts Ensures
  rw [keyOfKnob_eq]
  cases (decode s.panel.knob).1 with
  | none =>
    rw [Option.elim_none, ite_self]
    exact accepts_pure (a := a) (s := turned) ()
  | some k => exact accepts_key (s := turned) hscreen k

/-- Nothing is accepted by following a report. -/
theorem accepts_hear : hear.Accepts [] a s := by
  obtain ⟨t, p, ht, hdrawn⟩ := hear_draws (a := a) (s := s)
  rw [Accepts, Ensures, ht, List.append_nil]
  exact hdrawn.accepted_eq

end Act

namespace Panel

variable {p : Panel} {op : Operation} {a : Answers}

/-- While the bed is probed, the commands of the key are accepted if the printer takes them. -/
theorem accepted_perform (hscreen : p.screen = .manualProbe) :
    accepted (p.perform op a).events = if a.command 0 = none then p.commandsOf op a else [] := by
  have hact : op.act.Accepts (if a.command 0 = none then p.commandsOf op a else []) a
      (.opening p) := by
    have hknob (decode : Knob → Option Key × Knob) (hdecode : (decode p.knob).1 = p.keyOf op) :
        (Act.keyOfKnob decode).Accepts (if a.command 0 = none then p.commandsOf op a else []) a
          (.opening p) := by
      rw [commandsOf, ← hdecode]
      exact Act.accepts_keyOfKnob (s := .opening p) hscreen decode
    have hsilent {act : Act Unit} (hkey : p.keyOf op = none) (h : act.Accepts [] a (.opening p)) :
        act.Accepts (if a.command 0 = none then p.commandsOf op a else []) a (.opening p) := by
      simpa [commandsOf, hkey] using h
    cases op with
    | start =>
      apply hsilent rfl
      exact ((Act.accepts_draw _).bind fun _ _ => Act.accepts_goTo _).recovering
    | key k => exact Act.accepts_key (s := .opening p) hscreen k
    | rotate r now => exact hknob (fun k => (some (k.rotate r now).1, (k.rotate r now).2)) rfl
    | sample x y now => exact hknob (·.sample x y now) rfl
    | button down now => exact hknob (·.button down now) rfl
    | poll now => exact hknob (·.poll now) rfl
    | tick now => exact (hknob (·.poll now) rfl).bind fun _ _ => Act.accepts_hear
    | message text => exact hsilent rfl (Act.accepts_showMessage text)
    | iconFinder => exact hsilent rfl (Act.accepts_goTo _).recovering
  exact (perform_iff (h := fun t =>
    accepted t.events = if a.command 0 = none then p.commandsOf op a else []) p op a).mpr hact

end Panel

/-! ### Moves of the nozzle -/

/-- How far a command moves the nozzle that probes the bed (µm). -/
def Command.probeMove : Command → Int
  | .probeAdjust um => um
  | _ => 0

/-- How far commands move the nozzle that probes the bed (µm). -/
def probeMoves : List Command → Int
  | [] => 0
  | c :: rest => c.probeMove + probeMoves rest

/-- Without commands the nozzle does not move. -/
@[simp] theorem probeMoves_nil : probeMoves [] = 0 := rfl

/-- One command moves the nozzle as far as it says. -/
@[simp] theorem probeMoves_singleton (c : Command) : probeMoves [c] = c.probeMove :=
  Int.add_zero _

/-- A step that is taken only if it is allowed. -/
theorem probeMoves_ite (allowed : Prop) [Decidable allowed] (um : Int) :
    probeMoves (if allowed then [.probeAdjust um] else []) = if allowed then um else 0 := by
  split
  · exact probeMoves_singleton _
  · rfl

/-! ### The travel of the axis -/

/-- A height in the travel of the Z axis (µm). -/
def Limits.Reaches (l : Limits) (um : Int) : Prop := 1000 * l.z.min ≤ um ∧ um ≤ 1000 * l.z.max

instance (l : Limits) (um : Int) : Decidable (l.Reaches um) := inferInstanceAs (Decidable (_ ∧ _))

namespace Panel

variable {p : Panel}

/-- Every step size is more than nothing. -/
theorem probeStep_pos (p : Panel) : 0 < p.probeStep := by
  have hsteps : ∀ i < Act.probeSteps.length, 0 < Act.probeSteps.getD i 0 := by decide
  exact hsteps _ (Nat.mod_lt _ (by decide))

/-- A key that goes by the height of the nozzle keeps it in the travel of its axis. -/
theorem reaches_probeCommands {um : Int} (h : p.settings.limits.Reaches um) (symbol : Symbol) :
    p.settings.limits.Reaches (um + probeMoves (p.probeCommands um symbol)) := by
  have hstep : 0 < p.probeStep := p.probeStep_pos
  have ⟨hlow, hhigh⟩ := h
  unfold probeCommands Act.floorMm Act.ceilMm
  cases symbol with
  | cw | fastCw | ccw | fastCcw =>
    simp only [probeMoves_ite]
    split
    · constructor <;> omega
    · simpa using h
  | enter | longEnter | idle => simpa [Command.probeMove] using h

end Panel

/-! ### A run of probing -/

/-- A printer that cannot be read reports nothing but what is true. -/
theorem report_smooth (heard : Status → Prop) : Answers.smooth.Report heard :=
  fun _ _ h => nomatch h

/-- A panel, and the height of the nozzle that probes the bed (µm). -/
structure Rig where
  /-- The panel. -/
  panel : Panel
  /-- The height of the nozzle. -/
  height : Int

namespace Rig

variable {g : Rig} {op : Operation} {a : Answers} {ops : List (Operation × Answers)}

/-- The nozzle follows the moves that the printer accepts. -/
def perform (g : Rig) (op : Operation) (a : Answers) : Rig :=
  ⟨(g.panel.perform op a).panel, g.height + probeMoves (accepted (g.panel.perform op a).events)⟩

/-- Something holds of every operation of a run, where the operation finds panel and nozzle. -/
abbrev Throughout (holds : Rig → Operation → Answers → Prop) (g : Rig)
    (ops : List (Operation × Answers)) : Prop :=
  PrinterPanel.Throughout perform holds g ops

/-- The bed is probed, and a report gives the height of the nozzle. -/
def Probes (g : Rig) (a : Answers) : Prop :=
  g.panel.screen = .manualProbe ∧ a.Report (·.probe = some g.height)

/-- A report of the height where the nozzle is lets it be probed from there. -/
theorem probes_of_height {um : Int} (hscreen : g.panel.screen = .manualProbe) (h : g.height = um)
    (ha : a.Report (·.probe = some um)) : g.Probes a := ⟨hscreen, h ▸ ha⟩

/-- The nozzle is in the travel of its axis. -/
def InTravel (g : Rig) : Prop := g.panel.settings.limits.Reaches g.height

instance : Decidable g.InTravel := inferInstanceAs (Decidable (Limits.Reaches _ _))

/-- A key is handled without a report, the nozzle is not where the last tick found it, and the
printer accepts a move that leads out of the travel. -/
def Strays (g : Rig) (op : Operation) (a : Answers) : Prop :=
  a.status 0 = none ∧ (g.panel.lastStatus.getD .atRest).probe.getD 0 ≠ g.height ∧
    a.command 0 = none ∧
      ¬ g.panel.settings.limits.Reaches (g.height + probeMoves (g.panel.commandsOf op a))

instance : Decidable (g.Strays op a) := inferInstanceAs (Decidable (_ ∧ _ ∧ _ ∧ _))

/-- Nothing changes the travel. -/
theorem perform_limits (g : Rig) (op : Operation) (a : Answers) :
    (g.perform op a).panel.settings.limits = g.panel.settings.limits := by
  have hfixed : (g.perform op a).panel.canvas = g.panel.canvas ∧
      { (g.perform op a).panel.settings with presets := g.panel.settings.presets } =
        g.panel.settings :=
    (Panel.invariant_fixed g.panel.canvas g.panel.settings).perform (fun _ => ⟨rfl, rfl⟩)
      ⟨rfl, rfl⟩
  have hlimits := congrArg Settings.limits hfixed.2
  exact hlimits

/-- A move that goes by the height of the nozzle does not lead out of the travel. -/
theorem reaches_of_known (hscreen : g.panel.screen = .manualProbe) (h : g.InTravel)
    (hknown : (g.panel.reportAt a 0).probe.getD 0 = g.height) :
    g.panel.settings.limits.Reaches (g.height + probeMoves (g.panel.commandsOf op a)) := by
  unfold Panel.commandsOf
  cases g.panel.keyOf op with
  | none => simpa [InTravel] using h
  | some k =>
    rw [Option.elim_some, Panel.commandsFor, if_pos hscreen, hknown]
    exact Panel.reaches_probeCommands h _

/-- An operation leads out of the travel exactly if it strays. -/
theorem inTravel_perform_iff (hprobes : g.Probes a) (h : g.InTravel) :
    (g.perform op a).InTravel ↔ ¬ g.Strays op a := by
  obtain ⟨hscreen, hreport⟩ := hprobes
  have hheight : (g.perform op a).height =
      g.height + probeMoves (if a.command 0 = none then g.panel.commandsOf op a else []) :=
    congrArg (g.height + probeMoves ·) (Panel.accepted_perform hscreen)
  rw [InTravel, perform_limits, hheight]
  by_cases haccepted : a.command 0 = none
  · rw [if_pos haccepted]
    by_cases hstray : a.status 0 = none ∧
        (g.panel.lastStatus.getD .atRest).probe.getD 0 ≠ g.height
    · obtain ⟨hunread, hmoved⟩ := hstray
      simp [Strays, hunread, hmoved, haccepted]
    · -- The key goes by the height of the nozzle: it is reported, or still what the last tick read.
      have hknown : (g.panel.reportAt a 0).probe.getD 0 = g.height := by
        cases hread : a.status 0 with
        | none =>
          have hkept : (g.panel.lastStatus.getD .atRest).probe.getD 0 = g.height :=
            Classical.not_not.mp fun hmoved => hstray ⟨hread, hmoved⟩
          simpa [Panel.reportAt, hread] using hkept
        | some r => simp [Panel.reportAt, hread, hreport 0 r hread]
      refine iff_of_true (reaches_of_known hscreen h hknown) fun hstrays => ?_
      exact hstray ⟨hstrays.1, hstrays.2.1⟩
  · rw [if_neg haccepted, probeMoves_nil, Int.add_zero]
    exact iff_of_true h fun hstrays => haccepted hstrays.2.2.1

/-- While the bed is probed, the nozzle keeps to its travel exactly as long as no operation strays.
If every key can read the printer, none does. -/
theorem run_inTravel_iff (hprobes : g.Throughout (fun g _ a => g.Probes a) ops) (h : g.InTravel) :
    (g.Throughout (fun g op a => (g.perform op a).InTravel) ops ↔
      g.Throughout (fun g op a => ¬ g.Strays op a) ops) ∧
    ((∀ x ∈ ops, x.2.status 0 ≠ none) →
      g.Throughout (fun g op a => (g.perform op a).InTravel) ops) := by
  induction ops generalizing g with
  | nil => exact ⟨Iff.rfl, fun _ => trivial⟩
  | cons x rest ih =>
    obtain ⟨op, a⟩ := x
    obtain ⟨hfirst, hrest⟩ := hprobes
    have hstep : (g.perform op a).InTravel ↔ ¬ g.Strays op a := inTravel_perform_iff hfirst h
    refine ⟨⟨?_, ?_⟩, ?_⟩
    · rintro ⟨hin, hafter⟩
      exact ⟨hstep.mp hin, (ih hrest hin).1.mp hafter⟩
    · rintro ⟨hkept, hafter⟩
      have hin := hstep.mpr hkept
      exact ⟨hin, (ih hrest hin).1.mpr hafter⟩
    · intro hread
      have hin := hstep.mpr fun hstrays => hread _ List.mem_cons_self hstrays.1
      exact ⟨hin, (ih hrest hin).2 fun x hx => hread x (List.mem_cons_of_mem _ hx)⟩

/-- The nozzle keeps to its travel: the second step would lead below it. The third one is taken
without a report, where the last tick found the nozzle higher up. -/
theorem inTravel_lowered :
    let reporting (um : Int) : Answers :=
      { Answers.smooth with status := fun _ => some { Status.atRest with probe := some um } }
    let p := ((Panel.ofSettings .standard 240 320).run
      [(.start, .smooth), (.tick 0, reporting 2500)]).1
    let g : Rig := ⟨p, 2500⟩
    let ops := [(Operation.key .down, reporting 2500), (.key .down, reporting 1500),
      (.key .click, reporting 1500), (.key .down, .smooth)]
    g.Throughout (fun g _ a => g.Probes a) ops ∧ g.InTravel ∧
      g.Throughout (fun g op a => ¬ g.Strays op a) ops ∧
      g.Throughout (fun g op a => (g.perform op a).InTravel) ops := by
  intro reporting p g ops
  have hreport (um : Int) : (reporting um).Report (·.probe = some um) := by
    rintro n r ⟨⟩
    rfl
  have hprobes : g.Throughout (fun g _ a => g.Probes a) ops :=
    ⟨probes_of_height (by decide +kernel) (by decide +kernel) (hreport 2500),
      probes_of_height (by decide +kernel) (by decide +kernel) (hreport 1500),
      probes_of_height (by decide +kernel) (by decide +kernel) (hreport 1500),
      ⟨by decide +kernel, report_smooth _⟩, trivial⟩
  have htravel : g.InTravel := by decide +kernel
  have hstays : g.Throughout (fun g op a => ¬ g.Strays op a) ops := by decide +kernel
  exact ⟨hprobes, htravel, hstays, (run_inTravel_iff hprobes htravel).1.mpr hstays⟩

/-- The nozzle leaves its travel: three steps down are taken without a report, and each of them goes
by the height that the last tick read. -/
theorem leaves_travel_unread :
    let reporting (um : Int) : Answers :=
      { Answers.smooth with status := fun _ => some { Status.atRest with probe := some um } }
    let p := ((Panel.ofSettings .standard 240 320).run
      [(.start, .smooth), (.tick 0, reporting 2500)]).1
    let g : Rig := ⟨p, 2500⟩
    let ops := List.replicate 3 (Operation.key .down, Answers.smooth)
    Limits.standard.check = .ok () ∧ p.lastStatus.bind (·.probe) = some g.height ∧
      g.Throughout (fun g _ a => g.Probes a) ops ∧ g.InTravel ∧
      (p.run ops).1.screen = .manualProbe ∧
      (ops.foldl (fun g x => g.perform x.1 x.2) g).height = -500 ∧
      ¬ g.Throughout (fun g op a => (g.perform op a).InTravel) ops := by
  intro reporting p g ops
  have hprobes : g.Throughout (fun g _ a => g.Probes a) ops :=
    ⟨⟨by decide +kernel, report_smooth _⟩, ⟨by decide +kernel, report_smooth _⟩,
      ⟨by decide +kernel, report_smooth _⟩, trivial⟩
  refine ⟨rfl, ?_, hprobes, ?_⟩ <;> decide +kernel

end Rig

end PrinterPanel
