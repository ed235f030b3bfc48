import PrinterPanel.Proofs.Walks

/-!
# Ways back to the main menu

While the printer accepts what it is sent, keys alone lead from every screen to the main menu, but
from the notice of homing, which waits for the printer. A list is left by its first entry, a notice
or an edit by a press, a print by the button that stops it, and probing by a long press. Which keys
are needed depends on the places in the lists, on the folder in the browser and on the print, and on
nothing that the printer answers.
-/

namespace PrinterPanel

open Menu

/-- A printer that accepts every command. -/
def Answers.Willing (a : Answers) : Prop := ∀ n, a.command n = none

namespace Menu

/-- The cursor goes to the entry that is selected. -/
@[simp] theorem ListView.position_select (l : ListView) (item : Nat) :
    (l.select item).position = item := rfl

end Menu

/-- Placing a list where it is changes nothing. -/
@[simp] theorem Places.set_get_self (places : Places) (m : ListMenu) :
    places.set m (places.get m) = places := by
  rcases m with _ | _ | _ | _ | _ | _ | _ | _ | _ | _ <;> rfl

/-- A list that is placed twice is where it was placed last. -/
@[simp] theorem Places.set_set (places : Places) (m : ListMenu) (l l' : ListView) :
    (places.set m l).set m l' = places.set m l' := by
  rcases m with _ | _ | _ | _ | _ | _ | _ | _ | _ | _ <;> rfl

namespace Act

variable {α β : Type} {a : Answers} {s : Scene} {I : Panel → Prop}

/-- A command that the printer accepts does not touch the panel. -/
theorem arrives_send (ha : a.Willing) (c : Command) (h : I s.panel) : (send c).Arrives I a s := by
  rw [Arrives, ensures_send]
  refine ⟨fun _ => h, fun r hr => ?_⟩
  rw [ha] at hr
  contradiction

/-- After a command that is accepted the act goes on. -/
theorem arrives_send_bind (ha : a.Willing) {c : Command} {next : Unit → Act β}
    (h : (next ()).Arrives I a (s.afterCommand c true)) : (send c >>= next).Arrives I a s := by
  rw [Arrives, ensures_send_bind]
  refine ⟨fun _ => h, fun r hr => ?_⟩
  rw [ha] at hr
  contradiction

/-- The second act starts where the first one arrives. -/
theorem Arrives.bind {act : Act α} {next : α → Act β} (h : act.Arrives I a s)
    (hnext : ∀ x t, I t.panel → (next x).Arrives I a t) : (act >>= next).Arrives I a s := by
  rw [Arrives, ensures_bind]
  exact h.mono hnext fun _ _ ht => ht

end Act

namespace Panel

/-- What the way out of a screen depends on. -/
structure Bearings where
  places : Places
  /-- The folder in the file browser. -/
  folder : Files.Path
  print : PrintSession
  features : Features

/-- Where a panel stands. -/
def bearings (p : Panel) : Bearings := ⟨p.places, p.browser.folder, p.print, p.settings.features⟩

/-- A screen is up, and the panel stands at these bearings. -/
structure At (screen : Screen) (b : Bearings) (p : Panel) : Prop where
  screen : p.screen = screen
  bearings : p.bearings = b

/-- Keys lead to a goal if the printer accepts every command, whatever it reports and whether the
display takes the calls or not. -/
def Leads (p : Panel) (keys : List Key) (goal : Panel → Prop) : Prop :=
  ∀ ops : List (Operation × Answers), ops.map Prod.fst = keys.map .key →
    (∀ x ∈ ops, x.2.Willing) → goal (p.run ops).1

variable {p : Panel} {k : Key} {keys more : List Key} {goal : Panel → Prop}

/-- Without a key the panel stays at the goal. -/
theorem leads_nil (h : goal p) : p.Leads [] goal := by
  intro ops hops _
  rw [List.map_eq_nil_iff.mp hops]
  exact h

/-- A key leads to the goal, if the other keys lead there from wherever it arrives. -/
theorem leads_cons (hkey : ∀ (a : Answers) (t : Scene), a.Willing → t.panel = p.awake →
    (Act.handle p.screen (p.symbolOf k)).Arrives (·.Leads keys goal) a t) :
    p.Leads (k :: keys) goal := by
  intro ops hops hwilling
  cases ops with
  | nil => contradiction
  | cons x rest =>
    obtain ⟨op, a⟩ := x
    obtain ⟨hop, hrest⟩ := List.cons.inj hops
    obtain rfl : op = .key k := hop
    have hfirst := perform_key fun t ht => hkey a t (hwilling (.key k, a) List.mem_cons_self) ht
    exact hfirst rest hrest fun y hy => hwilling y (List.mem_cons_of_mem _ hy)

/-- Keys that lead on whatever the printer answers, and then others. -/
theorem Walks.leads_append {near : Panel → Prop} (h : p.Walks keys near)
    (hnear : ∀ q, near q → q.Leads more goal) : p.Leads (keys ++ more) goal := by
  intro ops hops hwilling
  rw [List.map_append] at hops
  obtain ⟨first, later, rfl, hfirst, hlater⟩ := List.map_eq_append_iff.mp hops
  rw [run_append]
  exact hnear _ (h first hfirst).1 later hlater fun x hx =>
    hwilling x (List.mem_append_right _ hx)

/-- Keys lead from a screen to the main menu, wherever else the panel differs. -/
def Bearings.Escapes (b : Bearings) (screen : Screen) (keys : List Key) : Prop :=
  ∀ p : Panel, p.At screen b → p.Leads keys (·.screen = .mainMenu)

/-- Waking the panel does not change where it stands. -/
theorem At.awake {screen : Screen} {b : Bearings} (h : p.At screen b) : p.awake.At screen b :=
  ⟨h.screen, h.bearings⟩

namespace Bearings

variable {b c : Bearings} {screen next : Screen}

/-- From the main menu no key is needed. -/
theorem escapes_mainMenu : b.Escapes .mainMenu [] := fun _ hp => leads_nil hp.screen

/-- One key that is not subject to the rate limit, and then others. -/
theorem Escapes.key (hslow : (Symbol.ofKey k).slowed = Symbol.ofKey k)
    (h : ∀ (a : Answers) (s : Scene), a.Willing → s.panel.At screen b →
      (Act.handle screen (Symbol.ofKey k)).Arrives (·.Leads keys (·.screen = .mainMenu)) a s) :
    b.Escapes screen (k :: keys) := by
  intro p hp
  have hsymbol : p.symbolOf k = Symbol.ofKey k := by
    unfold symbolOf
    rw [hslow, ite_self]
  refine leads_cons fun a t ha ht => ?_
  rw [hsymbol, hp.screen]
  exact h a t ha (ht ▸ hp.awake)

/-- A press that leads to a screen, and then the keys that lead on from there. -/
theorem Escapes.click (hnext : c.Escapes next keys)
    (h : ∀ (a : Answers) (s : Scene), a.Willing → s.panel.At screen b →
      (Act.handle screen .enter).Arrives (At next c) a s) :
    b.Escapes screen (.click :: keys) :=
  .key rfl fun a s ha hs => (h a s ha hs).mono (fun _ t ht => hnext t.panel ht)
    fun _ t ht => ⟨ht.1, hnext t.panel ht.2⟩

/-! ### Lists -/

/-- The cursor of a list moves to its first entry, and to no other end. -/
theorem escapes_up (m : ListMenu) {n : Nat} (hn : (b.places.get m).position ≤ n)
    (h : ∀ l : ListView, l.position = 0 →
      ({ b with places := b.places.set m l }).Escapes m.screen keys) :
    b.Escapes m.screen (List.replicate n Key.up ++ keys) := by
  induction n generalizing b with
  | zero =>
    have hfirst := h (b.places.get m) (by omega)
    rwa [Places.set_get_self] at hfirst
  | succ n ih =>
    have hturns : Act.handle m.screen .ccw = Act.turnList m .ccw := by
      rcases m with _ | _ | _ | _ | _ | _ | _ | _ | _ | _ <;> rfl
    refine Escapes.key rfl fun a s _ hs => ?_
    rw [Symbol.ofKey, hturns]
    apply Act.arrives_turnList
    let l := ((s.panel.places.get m).step false (s.panel.entryCount m)).2
    have hplaces : s.panel.places = b.places := congrArg Bearings.places hs.bearings
    have hposition : l.position ≤ n := by
      have hback := (s.panel.places.get m).position_step_back (s.panel.entryCount m)
      rw [hplaces] at hback
      simp only [l, hplaces]
      omega
    have hlater : ({ b with places := b.places.set m l }).Escapes m.screen
        (List.replicate n Key.up ++ keys) := by
      apply ih
      · rw [Places.get_set, if_pos rfl]
        exact hposition
      · intro l' hl'
        rw [Places.set_set]
        exact h l' hl'
    refine hlater _ ⟨hs.screen, ?_⟩
    rw [← hs.bearings]
    rfl

/-- Where the first entry of a list leads. -/
def back (b : Bearings) : ListMenu → Screen × Bearings
  | .files =>
    if b.folder.isEmpty then (.mainMenu, { b with places := { b.places with page := ⟨0⟩ } })
    else
      (.selectFile,
        { b with folder := Files.Browser.parent b.folder, places := b.places.rewind .files })
  | .prepare => (.mainMenu, { b with places := { b.places with page := ⟨1⟩ } })
  | .control => (.mainMenu, { b with places := { b.places with page := ⟨2⟩ } })
  | .misc =>
    (.mainMenu, { b with places := { b.places.rewind .misc with page := ⟨3⟩ } })
  | .axes =>
    (.prepare,
      { b with
        places := b.places.select .prepare (positionOf (PrepareItem.list b.features) .move) })
  | .temperature =>
    (.control,
      { b with places := b.places.select .control (positionOf ControlItem.list .temperature) })
  | .motion =>
    (.control, { b with places := b.places.select .control (positionOf ControlItem.list .motion) })
  | .tune => (.printProcess, { b with places := { b.places with print := .first } })
  | .preset m =>
    (.temperature,
      { b with
        places := b.places.select .temperature
          (positionOf (TemperatureItem.list b.features) (Act.presetEntry m)) })

variable {a : Answers} {s : Scene}

/-- Going back to the main menu turns to a page of it. -/
theorem arrives_backToMainMenu {page : Nat} (hs : s.panel.bearings = b) :
    (Act.backToMainMenu page).Arrives
      (At .mainMenu { b with places := { b.places with page := ⟨page⟩ } }) a s := by
  rw [Act.backToMainMenu, Act.arrives_change_bind]
  apply Act.arrives_goTo
  exact ⟨rfl, by rw [← hs]; rfl⟩

/-- Going back to a list selects an entry of it. -/
theorem arrives_backToList {m : ListMenu} {item : Nat} (hs : s.panel.bearings = b) :
    (Act.backToList m item).Arrives (At m.screen { b with places := b.places.select m item })
      a s := by
  rw [Act.backToList, Act.arrives_change_bind]
  apply Act.arrives_goTo
  exact ⟨rfl, by rw [← hs]; rfl⟩

/-- A list opens at its first entry. -/
theorem arrives_openList {m : ListMenu} (hs : s.panel.bearings = b) :
    (Act.openList m).Arrives (At m.screen { b with places := b.places.rewind m }) a s := by
  rw [Act.openList, Act.arrives_change_bind]
  apply Act.arrives_goTo
  exact ⟨rfl, by rw [← hs]; rfl⟩

/-- A press on the first entry of a list leads back. -/
theorem arrives_back (m : ListMenu) (hfirst : (b.places.get m).position = 0)
    (hs : s.panel.bearings = b) :
    (Act.handle m.screen .enter).Arrives (At (b.back m).1 (b.back m).2) a s := by
  subst hs
  have hfirst' : (s.panel.places.get m).position = 0 := hfirst
  cases m with
  | files =>
    change Act.enterFiles.Arrives _ a s
    have hposition : s.panel.places.files.position = 0 := hfirst
    simp only [Act.enterFiles, Act.arrives_panel_bind, hposition, Act.arrives_change_bind]
    cases htop : s.panel.browser.isTop with
    | true =>
      have hback : (s.panel.bearings.back .files) =
          (.mainMenu, { s.panel.bearings with places := { s.panel.places with page := ⟨0⟩ } }) :=
        if_pos htop
      rw [hback]
      simp only [Files.Browser.up, htop, if_true, Bool.false_eq_true, if_false]
      exact arrives_backToMainMenu rfl
    | false =>
      have hback : (s.panel.bearings.back .files) =
          (.selectFile,
            { s.panel.bearings with
              folder := Files.Browser.parent s.panel.browser.folder
              places := s.panel.places.rewind .files }) :=
        if_neg (by rw [Bool.not_eq_true]; exact htop)
      rw [hback]
      simp only [Files.Browser.up, htop, if_true, Bool.false_eq_true, if_false]
      exact arrives_openList rfl
  | prepare =>
    change Act.enterPrepare.Arrives _ a s
    simp only [Act.enterPrepare, Act.withEntry, Act.arrives_panel_bind, hfirst', PrepareItem.list]
    exact arrives_backToMainMenu rfl
  | control =>
    change Act.enterControl.Arrives _ a s
    simp only [Act.enterControl, Act.withEntry, Act.arrives_panel_bind, hfirst', ControlItem.list]
    exact arrives_backToMainMenu rfl
  | misc =>
    change Act.enterMisc.Arrives _ a s
    have hposition : s.panel.places.misc.position = 0 := hfirst
    simp only [Act.enterMisc, Act.arrives_panel_bind, hposition, Act.arrives_change_bind]
    exact arrives_backToMainMenu rfl
  | axes =>
    change Act.enterAxes.Arrives _ a s
    simp only [Act.enterAxes, Act.withEntry, Act.arrives_panel_bind, hfirst', AxisItem.list]
    exact arrives_backToList rfl
  | temperature =>
    change Act.enterTemperature.Arrives _ a s
    simp only [Act.enterTemperature, Act.withEntry, Act.arrives_panel_bind, hfirst',
      TemperatureItem.list]
    change (Act.report >>= _).Arrives _ a s
    simp only [Act.arrives_report_bind, Act.arrives_panel_bind]
    exact arrives_backToList rfl
  | motion =>
    change Act.enterMotion.Arrives _ a s
    simp only [Act.enterMotion, Act.withEntry, Act.arrives_panel_bind, hfirst', MotionItem.list]
    exact arrives_backToList rfl
  | tune =>
    change Act.enterTune.Arrives _ a s
    simp only [Act.enterTune, Act.withEntry, Act.arrives_panel_bind, hfirst', TuneItem.list]
    change (Act.report >>= _).Arrives _ a s
    simp only [Act.arrives_report_bind, Act.arrives_panel_bind, Act.arrives_change_bind]
    exact Act.arrives_goTo _ ⟨rfl, rfl⟩
  | preset material =>
    have hhandle : Act.handle (ListMenu.preset material).screen .enter =
        Act.enterPreset material := by
      cases material <;> rfl
    rw [hhandle]
    simp only [Act.enterPreset, Act.withEntry, Act.arrives_panel_bind, hfirst', PreheatItem.list]
    change (Act.panel >>= _).Arrives _ a s
    rw [Act.arrives_panel_bind]
    exact arrives_backToList rfl

/-- A press on the first entry of a list leads out of it. -/
theorem escapes_press (m : ListMenu) (hfirst : (b.places.get m).position = 0)
    (h : (b.back m).2.Escapes (b.back m).1 keys) : b.Escapes m.screen (.click :: keys) :=
  h.click fun _ _ _ hs => arrives_back m hfirst hs.bearings

/-- A list is left by its first entry. -/
theorem escapes_back (m : ListMenu)
    (h : ∀ l : ListView, l.position = 0 →
      (({ b with places := b.places.set m l }).back m).2.Escapes
        (({ b with places := b.places.set m l }).back m).1 keys) :
    b.Escapes m.screen (List.replicate (b.places.get m).position Key.up ++ .click :: keys) := by
  refine escapes_up m (Nat.le_refl _) fun l hl => ?_
  apply escapes_press m
  · simpa [Places.get_set] using hl
  · exact h l hl

/-- Keys that press the first entry of a list whose cursor is on an entry. -/
def keysBack (position : Nat) : List Key := List.replicate position .up ++ [.click]

/-- The way out of the prepare menu leads up to its first entry. -/
theorem escapes_prepare : b.Escapes .prepare (keysBack (b.places.get .prepare).position) :=
  escapes_back .prepare fun _ _ => escapes_mainMenu

/-- The way out of the control menu leads up to its first entry. -/
theorem escapes_control : b.Escapes .control (keysBack (b.places.get .control).position) :=
  escapes_back .control fun _ _ => escapes_mainMenu

/-- The way out of the temperature menu goes through the control menu. -/
theorem escapes_temperature :
    b.Escapes .temperature (List.replicate (b.places.get .temperature).position Key.up ++
      .click :: keysBack (positionOf ControlItem.list .temperature)) :=
  escapes_back .temperature fun _ _ => escapes_control

/-- In the file browser, pressing the way back again and again leads to the main menu: every press
makes the name of the folder shorter, until the top folder is left. -/
theorem escapes_files (folder : Files.Path) :
    ∃ n, 0 < n ∧ n ≤ folder.length + 1 ∧ ∀ b : Bearings, b.folder = folder →
      (b.places.get .files).position = 0 → b.Escapes .selectFile (List.replicate n .click) := by
  induction hn : folder.length using Nat.strongRecOn generalizing folder with
  | ind length ih =>
    by_cases htop : folder = []
    · refine ⟨1, by omega, by omega, fun b hb hfirst => ?_⟩
      apply escapes_press .files hfirst
      have hback : (b.back .files).1 = .mainMenu := by simp [back, hb, htop]
      rw [hback]
      exact escapes_mainMenu
    · have hshorter := Files.Browser.length_parent_lt htop
      obtain ⟨n, -, hle, hparent⟩ := ih _ (hn ▸ hshorter) (Files.Browser.parent folder) rfl
      refine ⟨n + 1, by omega, by omega, fun b hb hfirst => ?_⟩
      apply escapes_press .files hfirst
      simp only [back, hb, List.isEmpty_iff, htop, if_false]
      exact hparent _ rfl rfl

end Bearings

/-! ### A print -/

namespace Bearings

variable {b : Bearings} {screen : Screen} {a : Answers} {s : Scene}

/-- Where the answer that confirms a question leads. -/
def confirmed (b : Bearings) : Screen × Bearings :=
  match b.print.action with
  | some .pause =>
    (.printProcess, { b with print := { b.print with action := none, paused := true } })
  | some .stop =>
    (.mainMenu, { b with print := .fresh, places := { b.places with page := .first } })
  | none => (.printProcess, { b with print := { b.print with action := none } })

/-- A press on the first answer confirms the question. -/
theorem arrives_confirmed (ha : a.Willing) (hconfirm : b.places.confirm.position = 0)
    (hs : s.panel.bearings = b) :
    (Act.handle .printWindow .enter).Arrives (At b.confirmed.1 b.confirmed.2) a s := by
  subst hs
  have hconfirm' : s.panel.places.confirm.position = 0 := hconfirm
  have hprint : s.panel.bearings.print.action = s.panel.print.action := rfl
  change Act.giveAnswer.Arrives _ a s
  simp only [Act.giveAnswer, Act.arrives_panel_bind, Act.arrives_change_bind, hconfirm', confirmed,
    hprint]
  cases s.panel.print.action with
  | none => exact Act.arrives_goTo _ ⟨rfl, rfl⟩
  | some action =>
    cases action with
    | pause =>
      apply Act.arrives_send_bind ha
      rw [Act.arrives_change_bind]
      exact Act.arrives_goTo _ ⟨rfl, rfl⟩
    | stop =>
      apply Act.arrives_send_bind ha
      rw [Act.arrives_change_bind]
      exact Act.arrives_goTo _ ⟨rfl, rfl⟩

/-- One turn back leads to the answer that confirms. -/
theorem arrives_confirm (hconfirm : b.places.confirm.position < 2)
    (hs : s.panel.At .printWindow b) :
    (Act.handle .printWindow .ccw).Arrives
      (At .printWindow { b with places := { b.places with confirm := ⟨0⟩ } }) a s := by
  obtain ⟨hscreen, rfl⟩ := hs
  have hback : s.panel.places.confirm.step false 2 = ⟨0⟩ := by
    have hposition : s.panel.places.confirm.position < 2 := hconfirm
    simp only [Cursor.step, Bool.false_eq_true, if_false, Cursor.back, Cursor.mk.injEq]
    omega
  change (Act.turnAnswer .ccw).Arrives _ a s
  simp only [Act.turnAnswer, Act.arrives_panel_bind, Symbol.isCw, hback]
  split
  · rw [Act.arrives_change_bind]
    exact Act.arrives_draw _ ⟨hscreen, rfl⟩
  · next hsame =>
    have hplaces : { s.panel.places with confirm := ⟨0⟩ } = s.panel.places := by
      rw [Classical.not_not.mp hsame]
    exact ⟨hscreen, by simp only [bearings, hplaces]⟩

/-- A question is left by the answer that confirms it. -/
theorem escapes_question (hconfirm : b.places.confirm.position < 2)
    (h : ({ b with places := { b.places with confirm := ⟨0⟩ } }).confirmed.2.Escapes
      ({ b with places := { b.places with confirm := ⟨0⟩ } }).confirmed.1 keys) :
    b.Escapes .printWindow (.up :: .click :: keys) := by
  have hanswer : ({ b with places := { b.places with confirm := ⟨0⟩ } }).Escapes .printWindow
      (.click :: keys) := h.click fun _ _ ha hs => arrives_confirmed ha rfl hs.bearings
  refine Escapes.key rfl fun a s _ hs => ?_
  exact (arrives_confirm hconfirm hs).mono (fun _ t ht => hanswer t.panel ht)
    fun _ t ht => ⟨ht.1, hanswer t.panel ht.2⟩

/-- The last button of the print screen stops the print. -/
theorem escapes_stop (hshown : b.print.completionShown = false)
    (hbutton : b.places.print.position = 2) :
    b.Escapes .printProcess [.click, .up, .click] := by
  have hasked : ({ b with
      print := { b.print with action := some .stop }
      places := { b.places with confirm := ⟨1⟩ } }).Escapes .printWindow [.up, .click] :=
    escapes_question Nat.one_lt_two escapes_mainMenu
  refine hasked.click fun a s _ hs => ?_
  obtain ⟨-, rfl⟩ := hs
  have hshown' : s.panel.print.completionShown = false := hshown
  have hbutton' : s.panel.places.print.position = 2 := hbutton
  change (Act.printProcess .enter).Arrives _ a s
  simp only [Act.printProcess, Act.arrives_panel_bind, hshown', hbutton', Symbol.isTurn,
    Symbol.isCw, Symbol.isCcw, Bool.or_self, Bool.false_eq_true, if_false, if_true]
  change (Act.ask .stop).Arrives _ a s
  simp only [Act.ask, Act.arrives_change_bind]
  exact Act.arrives_goTo _ ⟨rfl, rfl⟩

/-- Keys that end a print. -/
def keysToStop (b : Bearings) : List Key :=
  if b.print.completionShown then [.click]
  else List.replicate (2 - b.places.print.position) .down ++ [.click, .up, .click]

/-- The print screen is left by the button that stops the print, or by a press once the print is
finished. -/
theorem escapes_print (hbutton : b.places.print.position < Act.printButtonCount) :
    b.Escapes .printProcess b.keysToStop := by
  unfold keysToStop
  split
  · next hshown =>
    refine (escapes_mainMenu
      (b := { b with print := .fresh, places := { b.places with page := .first } })).click ?_
    rintro a s - ⟨-, rfl⟩
    have hshown' : s.panel.print.completionShown = true := hshown
    change (Act.printProcess .enter).Arrives _ a s
    simp only [Act.printProcess, Act.arrives_panel_bind, hshown', if_true, Act.arrives_change_bind]
    exact Act.arrives_goTo _ ⟨rfl, rfl⟩
  · next hshown =>
    rintro p ⟨hscreen, rfl⟩
    have hon : p.OnButton p.places.print.position := ⟨hscreen, (Bool.not_eq_true _).mp hshown, rfl⟩
    have hlast : p.places.print.position + (2 - p.places.print.position) = 2 := by
      have hlt : p.places.print.position < 3 := hbutton
      omega
    have hdown : p.Walks (List.replicate (2 - p.places.print.position) .down)
        (OnButton (p.places.print.position + (2 - p.places.print.position))) :=
      hon.walks_down (by rw [hlast]; decide)
    rw [hlast] at hdown
    exact hdown.leads_append fun q hq => escapes_stop hq.shown hq.position q ⟨hq.screen, rfl⟩

/-- A question is left by way of the print, or with it. -/
theorem exists_escapes_question (hconfirm : b.places.confirm.position < 2)
    (hbutton : b.places.print.position < Act.printButtonCount) :
    ∃ keys, b.Escapes .printWindow keys := by
  have hconfirmed (c : Bearings) (hc : c.places.print.position < Act.printButtonCount) :
      ∃ keys, c.confirmed.2.Escapes c.confirmed.1 keys := by
    unfold confirmed
    cases c.print.action with
    | none => exact ⟨_, escapes_print hc⟩
    | some action =>
      cases action with
      | pause => exact ⟨_, escapes_print hc⟩
      | stop => exact ⟨_, escapes_mainMenu⟩
  obtain ⟨keys, hkeys⟩ :=
    hconfirmed { b with places := { b.places with confirm := ⟨0⟩ } } hbutton
  exact ⟨_, escapes_question hconfirm hkeys⟩

/-! ### Every list -/

/-- Every list is left by keys that depend on the bearings alone. -/
theorem exists_escapes (m : ListMenu) : ∃ keys, b.Escapes m.screen keys := by
  cases m with
  | files =>
    obtain ⟨n, -, -, hfiles⟩ := escapes_files b.folder
    exact ⟨_, escapes_up .files (Nat.le_refl _) fun l hl => hfiles _ rfl hl⟩
  | prepare => exact ⟨_, escapes_prepare⟩
  | control => exact ⟨_, escapes_control⟩
  | misc => exact ⟨_, escapes_back .misc fun _ _ => escapes_mainMenu⟩
  | axes => exact ⟨_, escapes_back .axes fun _ _ => escapes_prepare⟩
  | temperature => exact ⟨_, escapes_temperature⟩
  | motion => exact ⟨_, escapes_back .motion fun _ _ => escapes_control⟩
  | tune =>
    have hprint (l : ListView) :
        (({ b with places := b.places.set .tune l }).back .tune).2.Escapes .printProcess
          ({ b with places := { b.places with print := .first } }).keysToStop :=
      escapes_print (Nat.zero_lt_succ _)
    exact ⟨_, escapes_back .tune fun l _ => hprint l⟩
  | preset material =>
    have htemperature (l : ListView) :
        (({ b with places := b.places.set (.preset material) l }).back (.preset material)).2.Escapes
          .temperature
          (List.replicate
              (positionOf (TemperatureItem.list b.features) (Act.presetEntry material)) Key.up ++
            Key.click :: keysBack (positionOf ControlItem.list .temperature)) :=
      escapes_temperature
    exact ⟨_, escapes_back (.preset material) fun l _ => htemperature l⟩

/-! ### Notices, messages and edits -/

/-- The page of machine data gives way to the control menu or to the main menu. -/
theorem exists_escapes_info : ∃ keys, b.Escapes .info keys := by
  cases hmisc : b.features.miscPage with
  | true =>
    let c : Bearings :=
      { b with places := b.places.select .control (positionOf ControlItem.list .info) }
    refine ⟨_, (escapes_control (b := c)).click ?_⟩
    rintro a s - ⟨-, rfl⟩
    have hmisc' : s.panel.settings.features.miscPage = true := hmisc
    change (Act.info .enter).Arrives _ a s
    simp only [Act.info, if_true, Act.arrives_panel_bind, hmisc']
    exact arrives_backToList rfl
  | false =>
    refine ⟨_, (escapes_mainMenu
      (b := { b with places := { b.places with page := ⟨3⟩ } })).click ?_⟩
    rintro a s - ⟨-, rfl⟩
    have hmisc' : s.panel.settings.features.miscPage = false := hmisc
    change (Act.info .enter).Arrives _ a s
    simp only [Act.info, if_true, Act.arrives_panel_bind, hmisc', Bool.false_eq_true, if_false]
    exact arrives_backToMainMenu rfl

/-- A message gives way to a list, to the page of machine data or to the main menu. -/
theorem exists_escapes_messageReturn (caller : Option Screen) :
    ∃ keys, b.Escapes (Act.messageReturn caller) keys := by
  unfold Act.messageReturn
  split
  · next screen =>
    split
    · next haccepts =>
      cases screen <;> simp only [Screen.acceptsReturn, Bool.false_eq_true] at haccepts
      case motion => exact exists_escapes .motion
      case misc => exact exists_escapes .misc
      case info => exact exists_escapes_info
      case temperature => exact exists_escapes .temperature
      case prepare => exact exists_escapes .prepare
      case control => exact exists_escapes .control
      case tune => exact exists_escapes .tune
    · exact ⟨_, escapes_mainMenu⟩
  · exact ⟨_, escapes_mainMenu⟩

end Bearings

variable {a : Answers} {s : Scene}

/-- An edit that is accepted gives way to the list that it was opened from. -/
theorem arrives_acceptEdit (ha : a.Willing) (e : Edit) :
    (Act.acceptEdit e).Arrives (At e.returnTo s.panel.bearings) a s := by
  rw [Act.acceptEdit, Act.arrives_change_bind, Act.arrives_panel_bind]
  refine (Act.arrives_draw _ ⟨rfl, rfl⟩).bind fun _ t ht => ?_
  cases e.effect with
  | command c => exact Act.arrives_send ha c ht
  | preset m field value => exact ⟨ht.screen, ht.bearings⟩

/-- A press, and then the keys that lead on from the screen that it gives way to. -/
theorem leads_click (next : Screen)
    (h : ∀ (a : Answers) (t : Scene), a.Willing → t.panel = p.awake →
      (Act.handle p.screen .enter).Arrives (At next p.bearings) a t)
    (hnext : ∃ keys, p.bearings.Escapes next keys) :
    ∃ keys, p.Leads keys (·.screen = .mainMenu) := by
  obtain ⟨keys, hkeys⟩ := hnext
  refine ⟨.click :: keys, leads_cons fun a t ha ht => ?_⟩
  rw [symbolOf_click]
  exact (h a t ha ht).mono (fun _ u hu => hkeys u.panel hu) fun _ u hu => ⟨hu.1, hkeys u.panel hu.2⟩

/-- Where the bearings are all that matters, the keys lead out from the panel. -/
theorem leads_of_escapes (h : ∃ keys, p.bearings.Escapes p.screen keys) :
    ∃ keys, p.Leads keys (·.screen = .mainMenu) := by
  obtain ⟨keys, hkeys⟩ := h
  exact ⟨keys, hkeys p ⟨rfl, rfl⟩⟩

/-- A notice that a function is missing gives way to the motion menu. -/
theorem leads_notAvailable {b : Bearings} (hkeys : b.Escapes .motion keys)
    (hp : p.At .featureNotAvailable b) (hcaller : p.popupCaller = some .motion) :
    p.Leads (.click :: keys) (·.screen = .mainMenu) := by
  refine leads_cons fun a t _ ht => ?_
  have hcaller' : t.panel.popupCaller = some .motion := by rw [ht]; exact hcaller
  rw [symbolOf_click, hp.screen]
  change (Act.featureNotAvailable .enter).Arrives _ a t
  simp only [Act.featureNotAvailable, if_true, Act.arrives_panel_bind, Act.arrives_change_bind,
    hcaller']
  apply Act.arrives_goTo
  refine hkeys _ ⟨rfl, ?_⟩
  rw [← hp.bearings, ht]
  rfl

/-- The editors of the motion limits give way to the notice that they are missing. -/
theorem leads_motionEditor (h : Act.handle p.screen = Act.motionEditor) :
    ∃ keys, p.Leads keys (·.screen = .mainMenu) := by
  obtain ⟨keys, hkeys⟩ := Bearings.exists_escapes (b := p.bearings) .motion
  refine ⟨.click :: .click :: keys, leads_cons fun a t _ ht => ?_⟩
  rw [symbolOf_click, h]
  change Act.notAvailable.Arrives _ a t
  rw [Act.notAvailable, Act.arrives_change_bind]
  apply Act.arrives_goTo
  refine leads_notAvailable hkeys ⟨rfl, ?_⟩ rfl
  rw [ht]
  rfl

/-- From every screen but the notice of homing keys lead to the main menu. -/
theorem Reachable.exists_leads (h : p.Reachable) (hscreen : p.screen ≠ .homing) :
    ∃ keys, p.Leads keys (·.screen = .mainMenu) := by
  have hlist (m : ListMenu) (hm : p.screen = m.screen) :
      ∃ keys, p.Leads keys (·.screen = .mainMenu) :=
    leads_of_escapes (hm ▸ Bearings.exists_escapes m)
  have heditor (heditor : p.screen.isEditor = true) :
      ∃ keys, p.Leads keys (·.screen = .mainMenu) := by
    cases hedit : p.edit with
    | none =>
      have hclosed := (h.editSession.closed hedit).1
      rw [heditor] at hclosed
      contradiction
    | some e =>
      obtain ⟨-, -, m, hreturn, -⟩ := h.editSession.opened e hedit
      refine leads_click e.returnTo (fun a t ha ht => ?_)
        (hreturn ▸ Bearings.exists_escapes m)
      have hedit' : t.panel.edit = some e := by rw [ht]; exact hedit
      have hbearings : t.panel.bearings = p.bearings := by rw [ht]; rfl
      rw [Act.handle_eq_valueEdit heditor, Act.Arrives, Act.Ensures, Act.valueEdit_enter hedit',
        ← hbearings]
      exact arrives_acceptEdit ha e
  cases hp : p.screen
  case mainMenu => exact ⟨[], leads_nil hp⟩
  case selectFile => exact hlist .files hp
  case prepare => exact hlist .prepare hp
  case control => exact hlist .control hp
  case misc => exact hlist .misc hp
  case axisMove => exact hlist .axes hp
  case temperature => exact hlist .temperature hp
  case motion => exact hlist .motion hp
  case tune => exact hlist .tune hp
  case plaPreheat => exact hlist (.preset .pla) hp
  case tpuPreheat => exact hlist (.preset .tpu) hp
  case printProcess =>
    exact leads_of_escapes (hp ▸ ⟨_, Bearings.escapes_print h.placed.print⟩)
  case printWindow =>
    exact leads_of_escapes
      (hp ▸ Bearings.exists_escapes_question h.placed.confirm h.placed.print)
  case info => exact leads_of_escapes (hp ▸ Bearings.exists_escapes_info)
  case featureNotAvailable =>
    obtain ⟨keys, hkeys⟩ := Bearings.exists_escapes (b := p.bearings) .motion
    exact ⟨_, leads_notAvailable hkeys ⟨hp, rfl⟩ (h.callerFits.notice hp)⟩
  case homing => contradiction
  case tooCold =>
    refine leads_click .axisMove (fun a t _ ht => ?_) (Bearings.exists_escapes .axes)
    rw [hp]
    exact Act.arrives_goTo _ ⟨rfl, by rw [ht]; rfl⟩
  case messagePopup =>
    refine leads_click _ (fun a t _ ht => ?_)
      (Bearings.exists_escapes_messageReturn p.popupCaller)
    rw [hp]
    change (Act.messagePopup .enter).Arrives _ a t
    simp only [Act.messagePopup, if_true, Act.arrives_panel_bind, Act.arrives_change_bind]
    exact Act.arrives_goTo _ ⟨by rw [ht]; rfl, by rw [ht]; rfl⟩
  case iconFinder =>
    refine leads_click .mainMenu (fun a t _ ht => ?_) ⟨_, Bearings.escapes_mainMenu⟩
    rw [hp]
    exact Act.arrives_goTo _ ⟨rfl, by rw [ht]; rfl⟩
  case manualProbe =>
    refine ⟨[.longClick], leads_cons fun a t ha ht => ?_⟩
    rw [symbolOf_longClick, hp]
    change (Act.manualProbe .longEnter).Arrives _ a t
    simp only [Act.manualProbe, Act.arrives_report_bind, Act.arrives_panel_bind]
    apply Act.arrives_send_bind ha
    rw [Act.arrives_change_bind]
    exact Act.arrives_goTo _ (leads_nil rfl)
  case maxSpeed | maxSpeedValue | maxAcceleration | maxAccelerationValue | maxJerk | maxJerkValue |
      step | stepValue =>
    exact leads_motionEditor (by rw [hp]; rfl)
  all_goals exact heditor (by rw [hp]; rfl)

/-- **No screen is a trap.** From every panel that is reached, but for the notice of homing, keys
alone lead to the main menu while the printer accepts what it is sent; which keys they are does not
depend on what the printer answers. From the file browser it is enough to press the way back, no
more often than the name of the folder is long, because going up makes that name shorter. -/
theorem Reachable.keys_reach_mainMenu (h : p.Reachable) (hscreen : p.screen ≠ .homing) :
    (∃ keys, p.Leads keys (·.screen = .mainMenu)) ∧
    (p.screen = .selectFile →
      ∃ presses, 0 < presses ∧ presses ≤ p.browser.folder.length + 1 ∧
        p.Leads
          (List.replicate p.places.files.position .up ++ List.replicate presses .click)
          (·.screen = .mainMenu)) ∧
    ∀ b : Files.Browser, b.isTop = false →
      b.up.1 = true ∧ b.up.2.folder.length < b.folder.length := by
  refine ⟨h.exists_leads hscreen, fun hfiles => ?_, fun b => Files.Browser.up_shortens⟩
  obtain ⟨presses, hsome, hfew, hleads⟩ := Bearings.escapes_files p.browser.folder
  refine ⟨presses, hsome, hfew, ?_⟩
  have hup := Bearings.escapes_up (b := p.bearings) .files (Nat.le_refl _) fun l hl =>
    hleads { p.bearings with places := p.places.set .files l } rfl hl
  exact hup p ⟨hfiles, rfl⟩

/-- The browser in a folder of a folder, with the cursor on its file. -/
theorem keys_reach_mainMenu_folders :
    let a := { Answers.smooth with files := some ["a/b/c.gcode"] }
    let p := ((ofSettings .standard 240 320).run
      [(.start, a), (.key .click, a), (.key .down, a), (.key .click, a), (.key .down, a),
        (.key .click, a), (.key .down, a)]).1
    p.Reachable ∧ p.screen = .selectFile ∧ p.browser.folder = "a/b/".toList ∧
      p.places.files.position = 1 ∧
      ∃ presses, 0 < presses ∧ presses ≤ p.browser.folder.length + 1 ∧
        p.Leads (List.replicate p.places.files.position .up ++ List.replicate presses .click)
          (·.screen = .mainMenu) := by
  intro a p
  have hp : p.Reachable := reachable_of_start .standard 240 320 a (by decide)
  have hplace : p.screen = .selectFile ∧ p.browser.folder = "a/b/".toList ∧
      p.places.files.position = 1 := by decide +kernel
  obtain ⟨hscreen, hfolder, hposition⟩ := hplace
  have hwaits : p.screen ≠ .homing := by rw [hscreen]; decide
  exact ⟨hp, hscreen, hfolder, hposition, (hp.keys_reach_mainMenu hwaits).2.1 hscreen⟩

end Panel

end PrinterPanel
