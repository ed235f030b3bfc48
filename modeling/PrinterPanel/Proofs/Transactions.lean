import PrinterPanel.Proofs.Highlight
import PrinterPanel.Proofs.PresetEdits
import PrinterPanel.Proofs.Walks

/-!
# Edits as transactions

While an edit is open, the keys of the knob change nothing but its value, and the value is the
highlighted number on the display. The click that accepts the edit closes it, goes back to the menu
from which it was opened, and does one thing: it sends the value to the printer, or it stores the
value in a preset.
-/

namespace PrinterPanel

open Menu

/-! ### What a value is accepted as -/

namespace Field

/-- What is left of a value when it is accepted: temperatures are kept in 16 bits, and the fan has
no more than one hundred percent. -/
def accepted (f : Field) (v : Int) : Int :=
  match f with
  | hotend _ | bed _ => Bounds.halfWord.nearest v
  | fan _ => Bounds.nearest ⟨0, 100⟩ v
  | axis _ | extruder _ | printSpeed | zOffset => v

/-- The command that gives the printer the value of a live field. A position is edited in steps of
0.1 mm and sent in micrometres, as far as these go. -/
def command (f : Field) (v : Int) : Option Command :=
  match f with
  | axis a => some (.moveAxis a (Bounds.word.nearest (100 * v)) a.feedrate)
  | extruder _ => some (.moveAxis .e (Bounds.word.nearest (100 * v)) Axis.e.feedrate)
  | hotend .live => some (.hotendTarget v)
  | bed .live => some (.bedTarget v)
  | fan .live => some (.fanSpeed v.toNat)
  | printSpeed => some (.feedrate v)
  | zOffset => some (.zOffset v)
  | hotend (.preset _) | bed (.preset _) | fan (.preset _) => none

/-- A value in the range of its field is accepted as it is. -/
theorem accepted_of_contains {f : Field} {l : Limits} {v : Int} (hwords : l.InWords)
    (h : (f.bounds l).Contains v) : f.accepted v = v := by
  cases f with
  | hotend _ => exact Bounds.nearest_eq (Settings.contains_between hwords.hotend h)
  | bed _ => exact Bounds.nearest_eq (Settings.contains_between hwords.bed h)
  | fan _ => exact Bounds.nearest_eq h
  | axis _ | extruder _ | printSpeed | zOffset => rfl

end Field

/-- Accepting an edit sends the value of a live field, or it stores the value of a preset. -/
theorem Edit.effect_cases (e : Edit) :
    (∃ c, e.field.command (e.field.accepted e.value) = some c ∧ e.effect = .command c) ∨
      ∃ m f, e.field = f.field m ∧ e.effect = .preset m f e.value := by
  obtain ⟨field, value, bounds, returnTo, row⟩ := e
  cases field with
  | axis a =>
    refine .inl ⟨_, rfl, ?_⟩
    rw [effect, um, positionUnit, Int.mul_comm]
    rfl
  | extruder origin =>
    refine .inl ⟨_, rfl, ?_⟩
    rw [effect, um, positionUnit, Int.mul_comm]
    rfl
  | hotend target =>
    cases target with
    | live => exact .inl ⟨_, rfl, rfl⟩
    | preset m => exact .inr ⟨m, .hotend, rfl, rfl⟩
  | bed target =>
    cases target with
    | live => exact .inl ⟨_, rfl, rfl⟩
    | preset m => exact .inr ⟨m, .bed, rfl, rfl⟩
  | fan target =>
    cases target with
    | live => exact .inl ⟨_, rfl, rfl⟩
    | preset m => exact .inr ⟨m, .fan, rfl, rfl⟩
  | printSpeed | zOffset => exact .inl ⟨_, rfl, rfl⟩

/-! ### Turning -/

/-- From one panel to the next, an edit has become another one, and settings and lists are as they
were. -/
structure Panel.TurnsTo (p q : Panel) (e : Edit) : Prop where
  edit : q.edit = some e
  settings : q.settings = p.settings
  places : q.places = p.places

namespace Act

variable {a : Answers} {s : Scene} {e : Edit}

/-- A key other than a click turns the value of an edit. -/
theorem leaves_key_turns (h : s.panel.EditSession) (he : s.panel.edit = some e) {k : Key}
    (hk : k ≠ .click) : (key k).Leaves (s.panel.TurnsTo · (e.turn (.ofKey k))) a s := by
  obtain ⟨shown, -, hkey⟩ := key_eq (a := a) (s := s) k
  have hsymbol : s.panel.symbolOf k ≠ .enter := fun henter => hk (Panel.symbolOf_eq_enter henter)
  have hturned : s.panel.TurnsTo { s.panel.awake with edit := some (e.turn (s.panel.symbolOf k)) }
      (e.turn (.ofKey k)) :=
    ⟨by rw [h.symbolOf_eq he], rfl, rfl⟩
  have hbecomes := becomes_valueEdit (a := a) (s := woken s shown) he hsymbol
  rw [Leaves, Ensures, hkey, handle_eq_valueEdit (h.isEditor_of_edit he)]
  exact (hbecomes.arrives (I := (s.panel.TurnsTo · _)) hturned).recovering

end Act

namespace Panel

variable {p q : Panel} {e : Edit} {op : Operation} {a : Answers}

/-- Without a click, the knob turns the value of an edit at most. -/
theorem EditSession.perform_turns (h : p.EditSession) (he : p.edit = some e) (hknob : op.ofKnob)
    (hother : p.keyOf op ≠ some .click) :
    p.TurnsTo (p.perform op a).panel (e.after (p.keyOf op).toList) := by
  obtain ⟨knob, hact⟩ := act_of_ofKnob hknob
  apply (perform_iff (h := fun t => p.TurnsTo t.panel (e.after (p.keyOf op).toList)) p op a).mpr
  rw [Act.Ensures, hact]
  cases hk : p.keyOf op with
  | none => exact ⟨he, rfl, rfl⟩
  | some k =>
    have hsession : ({ p with knob := knob } : Panel).EditSession :=
      invariant_editSession.attends p.latch knob p.idleTicks p.dimmed h (.inr rfl)
    have hclick : k ≠ .click := by
      rintro rfl
      exact hother hk
    have hturned : (Act.key k).Leaves _ a (.opening { p with knob := knob }) :=
      Act.leaves_key_turns hsession he hclick
    exact hturned.mono (fun _ _ ht => ⟨ht.edit, ht.settings, ht.places⟩)
      fun _ _ ht => ⟨ht.edit, ht.settings, ht.places⟩

/-- The keys of a run, as long as there is no click, turn the value of an edit one after the other,
and nothing is sent. -/
theorem Reachable.run_turns (h : p.Reachable) (he : p.edit = some e)
    {turns : List (Operation × Answers)} (hknob : ∀ x ∈ turns, x.1.ofKnob)
    (hother : .click ∉ p.keysOf turns) :
    p.TurnsTo (p.run turns).1 (e.after (p.keysOf turns)) ∧ submitted (p.run turns).2 = [] := by
  induction turns generalizing p e with
  | nil => exact ⟨⟨he, rfl, rfl⟩, rfl⟩
  | cons x rest ih =>
    obtain ⟨op, a⟩ := x
    rw [keysOf, List.mem_append, not_or] at hother
    have hop : op.ofKnob := hknob _ List.mem_cons_self
    have hkey : p.keyOf op ≠ some .click := by
      intro hclick
      simp [hclick] at hother
    have hstart : op ≠ .start := by
      rintro rfl
      contradiction
    have hfirst := h.editSession.perform_turns (a := a) he hop hkey
    have hsilent : submitted (p.perform op a).events = [] :=
      submitted_eq_nil (h.editSession.commandsOf_eq_nil he hkey)
    obtain ⟨hrest, hsent⟩ := ih (h.operated a hstart) hfirst.edit
      (fun y hy => hknob y (List.mem_cons_of_mem _ hy)) hother.2
    constructor
    · rw [keysOf, Edit.after_append]
      exact ⟨hrest.edit, hrest.settings.trans hfirst.settings,
        hrest.places.trans hfirst.places⟩
    · rw [Panel.run, submitted_append, hsilent, hsent, List.append_nil]

/-! ### Accepting -/

/-- The panel after an edit was accepted, with the answer to its command. -/
def accepting (p : Panel) (e : Edit) (answer : Option Refusal) : Panel :=
  let q := { p.leaving e with settings := p.settings.accepting e.effect }
  match e.effect, answer with
  | .command _, some _ => { q with popupCaller := some e.returnTo, screen := .messagePopup }
  | _, _ => q

end Panel

namespace Act

variable {a : Answers} {s : Scene} {e : Edit}

/-- An edit that is accepted is closed and has its effect, and a message says so if its command is
declined. -/
theorem leaves_recovering_acceptEdit (hreturn : e.returnTo ≠ .messagePopup)
    (h : a.display s.displayCalls = none) :
    (recovering (acceptEdit e)).Leaves (· = s.panel.accepting e (a.command s.commands)) a s := by
  obtain ⟨call, haccept⟩ := acceptEdit_shown e h
  let shown : Scene := ({ s with panel := s.panel.leaving e }).afterCalls [call] 1
  have heq : recovering (acceptEdit e) a s = recovering (takeEffect e.effect) a shown := by
    rw [recovering_eq, recovering_eq, haccept]
  rw [Leaves, Ensures, heq]
  unfold Panel.accepting
  cases e.effect with
  | preset m f i => rfl
  | command c =>
    rw [recovering_eq, takeEffect]
    cases hanswer : a.command s.commands with
    | none =>
      rw [send_eq_ok (s := shown) hanswer]
      rfl
    | some r =>
      obtain ⟨u, hu, hdrawn⟩ := showMessage_eq (a := a) (s := shown.afterCommand c false)
        ("Error: " ++ r.message)
      have hpanel : u.panel = (s.panel.leaving e).withMessage ("Error: " ++ r.message) :=
        hdrawn.panel_eq
      rw [Panel.withMessage, if_neg (by rw [not_allBlank_error]; decide),
        Panel.abandonEdit_of_none rfl] at hpanel
      rw [send_eq_error (s := shown) hanswer]
      dsimp only [recover]
      rw [hu]
      simpa [Panel.leaving, hreturn, Settings.accepting] using hpanel

end Act

namespace Panel

variable {p q : Panel} {e : Edit} {op : Operation} {a : Answers}

/-- A click on an edit accepts it, if its settled value can be shown. -/
theorem EditSession.panel_click (h : p.EditSession) (he : p.edit = some e)
    (hreturn : e.returnTo ≠ .messagePopup) (hclick : p.keyOf op = some .click)
    (hshown : p.ShowsSettled a) :
    ∃ knob, (p.perform op a).panel =
      ({ p.awake with knob := knob } : Panel).accepting e (a.command 0) := by
  obtain ⟨knob, hact⟩ := act_of_click hclick
  let s : Scene := .opening { p with knob := knob }
  obtain ⟨shown, -, hkey⟩ := Act.key_click_eq (a := a) (s := s) (h.isEditor_of_edit he) he
  have haccept := Act.leaves_recovering_acceptEdit (s := Act.woken s shown) hreturn
    ((Act.display_woken rfl shown).mpr hshown)
  refine ⟨knob, ?_⟩
  apply (perform_iff (h := fun t => t.panel = _) p op a).mpr
  rw [Act.Ensures, hact, hkey]
  exact haccept

/-- An edit that is accepted is closed. -/
@[simp] theorem accepting_edit (p : Panel) (e : Edit) (answer : Option Refusal) :
    (p.accepting e answer).edit = none := by
  unfold accepting
  split <;> rfl

/-- Accepting an edit moves no cursor. -/
@[simp] theorem accepting_places (p : Panel) (e : Edit) (answer : Option Refusal) :
    (p.accepting e answer).places = p.places := by
  unfold accepting
  split <;> rfl

/-- Accepting an edit changes the settings by what the edit is for, whatever the answer. -/
@[simp] theorem accepting_settings (p : Panel) (e : Edit) (answer : Option Refusal) :
    (p.accepting e answer).settings = p.settings.accepting e.effect := by
  unfold accepting
  split <;> rfl

/-- An edit whose command is taken goes back to its menu. -/
theorem accepting_taken (p : Panel) (e : Edit) : (p.accepting e none).screen = e.returnTo := by
  unfold accepting
  cases e.effect <;> rfl

/-- An edit whose command is declined leaves a message over its menu. -/
theorem accepting_declined {c : Command} (h : e.effect = .command c) (p : Panel) (r : Refusal) :
    (p.accepting e (some r)).screen = .messagePopup ∧
      (p.accepting e (some r)).popupCaller = some e.returnTo := by
  unfold accepting
  rw [h]
  exact ⟨rfl, rfl⟩

/-- An edit of a preset goes back to its menu. -/
theorem accepting_preset {m : Material} {f : PresetField} {i : Int} (h : e.effect = .preset m f i)
    (p : Panel) (answer : Option Refusal) : (p.accepting e answer).screen = e.returnTo := by
  unfold accepting
  rw [h]
  rfl

/-- An edit has sent its value to the printer, and it has stored nothing. The panel is back in the
menu of the edit, or a message over that menu tells that the command was declined. -/
structure SendsEdit (p : Panel) (e : Edit) (a : Answers) (t : Scene) : Prop where
  command : ∃ c, submitted t.events = [c] ∧
    e.field.command (e.field.accepted e.value) = some c
  settings : t.panel.settings = p.settings
  taken : a.command 0 = none → t.panel.screen = e.returnTo
  declined : a.command 0 ≠ none →
    t.panel.screen = .messagePopup ∧ t.panel.popupCaller = some e.returnTo

/-- An edit has stored its value in its preset, and it has sent nothing. The panel is back in the
menu of the edit. -/
structure StoresEdit (p : Panel) (e : Edit) (m : Material) (f : PresetField) (t : Scene) :
    Prop where
  field : e.field = f.field m
  silent : submitted t.events = []
  stores : p.settings.Stores t.panel.settings m f e.value
  number : t.panel.settings.presets.number m f = if f = .fan then min 100 e.value else e.value
  screen : t.panel.screen = e.returnTo

/-- A click whose drawing succeeds closes an edit and does one thing. -/
theorem EditSession.click_settles (h : p.EditSession) (he : p.edit = some e)
    (hclick : p.keyOf op = some .click) (hshown : p.ShowsSettled a) {s : Settings}
    (hwords : s.InWords) (hpermits : ∀ m f, e.field = f.field m → s.Permits m f e.value) :
    let t := p.perform op a
    t.panel.edit = none ∧ t.panel.places = p.places ∧
      (p.SendsEdit e a t ∨ ∃ m f, p.StoresEdit e m f t) := by
  intro t
  have hreturn : e.returnTo ≠ .messagePopup := by
    obtain ⟨-, -, m, hm, -⟩ := h.opened e he
    rintro hmessage
    exact m.screen_notMem (by rw [hm, hmessage]; decide)
  obtain ⟨knob, hpanel⟩ : ∃ knob, t.panel = _ := h.panel_click he hreturn hclick hshown
  have hsent : submitted t.events = e.effect.commands :=
    (h.submitted_click he hclick).trans (if_pos hshown)
  refine ⟨by rw [hpanel, accepting_edit], by rw [hpanel, accepting_places]; rfl, ?_⟩
  obtain ⟨c, hcommand, heffect⟩ | ⟨m, f, hfield, heffect⟩ := e.effect_cases
  · refine .inl ⟨⟨c, by rw [hsent, heffect]; rfl, hcommand⟩, ?_, fun htaken => ?_,
      fun hdeclined => ?_⟩
    · rw [hpanel, accepting_settings, heffect]
      rfl
    · rw [hpanel, htaken, accepting_taken]
    · obtain ⟨r, hr⟩ := Option.ne_none_iff_exists'.mp hdeclined
      rw [hpanel, hr]
      exact accepting_declined heffect _ r
  · have hstores : p.settings.Stores t.panel.settings m f e.value := by
      rw [hpanel, accepting_settings, heffect]
      exact p.settings.stores_accepting m f e.value
    refine .inr ⟨m, f, hfield, by rw [hsent, heffect]; rfl, hstores, ?_, ?_⟩
    · rw [hstores.stored, (hpermits m f hfield).nearest_eq hwords]
    · rw [hpanel, accepting_preset heffect]

/-! ### Whole transactions -/

/-- The edit that is open after these operations has been open ever since a click in a menu. -/
def OpenedFrom (p : Panel) (ops : List (Operation × Answers)) (menu : Screen) : Prop :=
  ∃ before opener later, ops = before ++ opener :: later ∧
    (p.run before).1.edit = none ∧ (p.run before).1.keyOf opener.1 = some .click ∧
    (p.run before).1.screen = menu ∧
    ∀ seen, seen <+: later → (p.run (before ++ opener :: seen)).1.edit.isSome

/-- An edit returns to the menu from which it was opened. -/
theorem openedFrom_returnTo {s : Settings} {width height : Nat}
    {ops : List (Operation × Answers)} (hops : ∀ x ∈ ops, x.1 ≠ .start)
    (he : ((ofSettings s width height).run ((.start, a) :: ops)).1.edit = some e) :
    (ofSettings s width height).OpenedFrom ((.start, a) :: ops) e.returnTo := by
  have hwhole : (.start, a) :: ops = ((.start, a) :: ops) ++ [] := (List.append_nil _).symm
  obtain ⟨first, r, keys, presets, hsince, rfl, -⟩ := started_edit hops hwhole he
  obtain ⟨before, opener, later, hrun, hclosed, hclick, -, hfirst, hopen, -⟩ := hsince
  refine ⟨before, opener, later, hrun, hclosed, hclick, ?_, hopen⟩
  have hstart : opener.1 ≠ .start := by
    intro hstart
    rw [hstart] at hclick
    contradiction
  have hreached : ((ofSettings s width height).run before).1.Reachable := by
    cases before with
    | nil =>
      obtain ⟨rfl, -⟩ := List.cons.inj hrun
      exact absurd rfl hstart
    | cons started rest =>
      obtain ⟨rfl, rfl⟩ := List.cons.inj hrun
      exact reachable_of_start s width height a fun x hx => hops x (by simp [hx])
  rw [run_append] at hfirst
  obtain ⟨-, -, hopened⟩ | ⟨earlier, hearlier, -⟩ := hreached.edit_cases hstart hfirst
  · rw [first.after_returnTo]
    exact (fresh_of_opened hopened).2.symm
  · rw [hclosed] at hearlier
    contradiction

/-- An edit that is open at any moment of a run is a transaction. Whatever keys follow but a click,
they turn its value and do nothing else, and while no display call fails, the highlighted number
that was drawn last is that value. A click whose drawing succeeds closes the edit and does one
thing: it sends the value, or it stores the value in the preset, and the panel is back in the menu
from which the edit was opened. If the command is declined, a message is over that menu, and of a
percentage above one hundred a preset stores one hundred. -/
theorem run_edit_transaction (s : Settings) (width height : Nat) (a : Answers)
    (ops turns : List (Operation × Answers)) (hops : ∀ x ∈ ops, x.1 ≠ .start)
    (hknob : ∀ x ∈ turns, x.1.ofKnob) (hwords : s.InWords) :
    let p := ofSettings s width height
    let opened := (.start, a) :: ops
    let q := (p.run opened).1
    let turned := (p.run (opened ++ turns)).1
    ∀ first, q.edit = some first → .click ∉ q.keysOf turns →
      let final := first.after (q.keysOf turns)
      p.OpenedFrom opened final.returnTo ∧
      q.TurnsTo turned final ∧ submitted (q.run turns).2 = [] ∧
      (∀ before later, opened ++ turns = before ++ later →
        (∀ x ∈ later, ∀ n, x.2.display n = none) →
        (p.run before).1.ShowsEdit (drawnCalls (p.run before).2) →
        Display.highlighted (drawnCalls (p.run (opened ++ turns)).2) = some final.value) ∧
      ((final.field.bounds s.limits).Contains final.value →
        final.field.accepted final.value = final.value) ∧
      ∀ op b, turned.keyOf op = some .click → turned.ShowsSettled b →
        let t := turned.perform op b
        t.panel.edit = none ∧ t.panel.places = q.places ∧
          (turned.SendsEdit final b t ∨ ∃ m f, turned.StoresEdit final m f t) := by
  intro p opened q turned first hfirst hother final
  have hall : ∀ x ∈ ops ++ turns, x.1 ≠ .start := by
    intro x hx
    obtain hx | hx := List.mem_append.mp hx
    · exact hops x hx
    · rintro hstart
      have := hknob x hx
      rw [hstart] at this
      contradiction
  have hreached : q.Reachable := reachable_of_start s width height a hops
  have hrun : turned = (q.run turns).1 := p.run_append opened turns
  obtain ⟨hturns, hsent⟩ := hreached.run_turns hfirst hknob hother
  rw [← hrun] at hturns
  have hreached' : turned.Reachable := reachable_of_start s width height a hall
  have hkeeps : turned.KeepsPresets s :=
    (keepsPresets_of_closed (started_draft s width height a)).run hwords
      (Reachable.started s width height a) hall
  refine ⟨?_, hturns, hsent, ?_, Field.accepted_of_contains hwords.limits, ?_⟩
  · rw [first.after_returnTo]
    exact openedFrom_returnTo hops hfirst
  · intro before later hsplit hdisplay hbefore
    exact run_showsEdit hall hsplit hdisplay hbefore final hturns.edit
  · intro op b hclick hshown
    have hsettles := hreached'.editSession.click_settles hturns.edit hclick hshown hwords
      fun m f hfield => (hkeeps.edit final hturns.edit m f hfield).2
    rw [hturns.places] at hsettles
    exact hsettles

/-- The target of the hotend is turned up and down, with a long press in between, and accepted. -/
theorem edit_transaction_hotend :
    let hot := { Status.atRest with hotend := ⟨200, 200⟩ }
    let a := { Answers.smooth with status := fun _ => some hot }
    let ops := [.down, .down, .click, .down, .click, .down, .click].map fun k =>
      (Operation.key k, a)
    let turns := [.fastDown, .longClick, .up].map fun k => (Operation.key k, a)
    let first : Edit := ⟨.hotend .live, 200, ⟨5, 260⟩, .temperature, 1⟩
    (∀ x ∈ ops, x.1 ≠ .start) ∧ (∀ x ∈ turns, x.1.ofKnob) ∧ Settings.standard.InWords ∧
      ((ofSettings .standard 240 320).run ((.start, a) :: ops)).1.edit = some first ∧
      .click ∉ ((ofSettings .standard 240 320).run ((.start, a) :: ops)).1.keysOf turns ∧
      (ofSettings .standard 240 320).OpenedFrom ((.start, a) :: ops) .temperature ∧
      ((ofSettings .standard 240 320).run ((.start, a) :: ops ++ turns)).1.edit =
        some { first with value := 209 } ∧
      ((ofSettings .standard 240 320).run ((.start, a) :: ops ++ turns)).1.SendsEdit
        { first with value := 209 } a
        (((ofSettings .standard 240 320).run ((.start, a) :: ops ++ turns)).1.perform
          (.key .click) a) := by
  intro hot a ops turns first
  have hops : ∀ x ∈ ops, x.1 ≠ .start := by decide
  have hknob : ∀ x ∈ turns, x.1.ofKnob := by decide
  have hwords : Settings.standard.InWords := ⟨inWords_standard_limits, inWords_standard_presets⟩
  have hfirst : ((ofSettings .standard 240 320).run ((.start, a) :: ops)).1.edit = some first := by
    decide +kernel
  have hother :
      .click ∉ ((ofSettings .standard 240 320).run ((.start, a) :: ops)).1.keysOf turns := by
    decide +kernel
  have hfinal : first.after
      (((ofSettings .standard 240 320).run ((.start, a) :: ops)).1.keysOf turns) =
        { first with value := 209 } := by
    decide +kernel
  have hshown : ((ofSettings .standard 240 320).run ((.start, a) :: ops ++ turns)).1.ShowsSettled
      a := by
    decide +kernel
  -- The runs are not to be computed once more.
  clear_value ops turns
  obtain ⟨hfrom, hturns, -, -, -, hclick⟩ :=
    run_edit_transaction .standard 240 320 a ops turns hops hknob hwords first hfirst hother
  rw [hfinal] at hfrom hturns hclick
  obtain ⟨-, -, hsends | ⟨m, f, hstores⟩⟩ := hclick (.key .click) a rfl hshown
  · exact ⟨hops, hknob, hwords, hfirst, hother, hfrom, hturns.edit, hsends⟩
  · have hfield : Field.hotend .live = f.field m := hstores.field
    cases f <;> cases hfield

/-- An edit does not lead back to its menu if its command is declined, and a preset does not store
a percentage above one hundred. -/
theorem edit_transaction_exceptions :
    let hot := { Status.atRest with hotend := ⟨200, 200⟩ }
    let a := { Answers.smooth with status := fun _ => some hot }
    let busy := { a with command := fun _ => some .busy }
    let windy := { Settings.standard with
      features := { Features.standard with fan := true }
      presets := { Presets.standard with pla := ⟨"PLA", 200, 60, 150⟩ } }
    let toMenu : List Key := [.down, .down, .click, .down, .click]
    let toHotend : List Key := [.down, .click]
    let toFan : List Key := [.down, .down, .down, .down, .click, .down, .down, .down, .click]
    let q := ((ofSettings .standard 240 320).run
      ((.start, a) :: (toMenu ++ toHotend).map fun k => (Operation.key k, a))).1
    let q' := ((ofSettings windy 240 320).run
      ((.start, a) :: (toMenu ++ toFan).map fun k => (Operation.key k, a))).1
    (∃ e, q.edit = some e ∧ q.ShowsSettled busy ∧
      (q.perform (.key .click) busy).panel.screen ≠ e.returnTo) ∧
    ∃ e, q'.edit = some e ∧ e.field = PresetField.fan.field .pla ∧ q'.ShowsSettled a ∧
      (q'.perform (.key .click) a).panel.settings.presets.number .pla .fan ≠ e.value := by
  intro hot a busy windy toMenu toHotend toFan q q'
  let heats : Edit := ⟨.hotend .live, 200, ⟨5, 260⟩, .temperature, 1⟩
  let blows : Edit := ⟨.fan (.preset .pla), 150, ⟨0, 100⟩, .plaPreheat, 3⟩
  refine ⟨⟨heats, ?_, ?_, ?_⟩, blows, ?_, rfl, ?_, ?_⟩ <;> decide +kernel

end Panel

end PrinterPanel
