import PrinterPanel.Proofs.Messages
import PrinterPanel.Proofs.Refusals

/-!
# Messages of the printer

A message of the printer is put up once, by the tick that reads the first report with it. To say so,
a tick is told again with the texts that it hands to the popup for the message of its report. Apart
from that account it is the tick itself.
-/

namespace PrinterPanel

/-! ### An account of the messages -/

namespace Act

/-- Show a message, and give an account of it if there is one to show. -/
def showMessageTelling (text : String) : Act (List String) := do
  if Text.allBlank text.toList then return []
  showMessage text
  return [text]

/-- Show a message of the printer, once, and give an account of it. -/
def followMessageTelling (r : Status) : Act (List String) := do
  if r.message ≠ (← panel).lastMessage then
    change ({ · with lastMessage := r.message })
    showMessageTelling r.message
  else return []

/-- Bring the panel in line with a report, and give an account of its message. -/
def reconcileTelling (r : Status) (previous : Option Status) : Act (List String) := do
  followPrinter r previous
  followMessageTelling r

/-- What a tick does after it has looked at the knob, with an account of the message. -/
def hearTelling : Act (List String) := do
  match ← look with
  | none => return []
  | some r =>
    let previous := (← panel).lastStatus
    change ({ · with lastStatus := some r })
    let told ← tryCatch (reconcileTelling r previous) fun f => do
      recover f
      return []
    countIdleTick
    return told

/-- A tick with an account of the message. -/
def tickTelling (now : Nat) : Act (List String) := do
  keyOfKnob (·.poll now)
  hearTelling

/-- An act that gives an account, and otherwise is another act. -/
def Tells (telling : Act (List String)) (act : Act Unit) : Prop :=
  telling >>= (fun _ => pure ()) = act

variable {α : Type} {a : Answers} {s : Scene} {telling : Act (List String)} {act : Act Unit}

/-- Giving an account does nothing else. -/
theorem tells_pure (texts : List String) : Tells (pure texts) (pure ()) := by
  rw [Tells, pure_bind]

/-- What comes before is the same. -/
theorem Tells.after {before : Act α} {telling : α → Act (List String)} {act : α → Act Unit}
    (h : ∀ x, Tells (telling x) (act x)) : Tells (before >>= telling) (before >>= act) := by
  rw [Tells, bind_assoc]
  exact bind_congr h

/-- What comes afterwards is the same, and keeps the account. -/
theorem Tells.before (h : Tells telling act) (after : Act Unit) :
    Tells (telling >>= fun texts => after >>= fun _ => pure texts) (act >>= fun _ => after) := by
  rw [Tells, ← h]
  simp only [bind_assoc, pure_bind]
  rw [bind_pure_unit]

/-- The account may be forgotten before a fault is handled. -/
theorem tryCatch_forget (telling : Act (List String)) (handler : Fault → Act (List String)) :
    (tryCatch telling handler >>= fun _ => pure ()) =
      tryCatch (telling >>= fun _ => pure ()) fun f => handler f >>= fun _ => pure () := by
  funext a s
  simp only [bind, ReaderT.bind, EStateM.bind, tryCatch, tryCatchThe, MonadExcept.tryCatch,
    MonadExceptOf.tryCatch]
  unfold EStateM.tryCatch EStateM.bind
  cases telling a s <;> rfl

/-- Recovering from a fault is the same, and gives no account. -/
theorem Tells.recovering (h : Tells telling act) :
    Tells (tryCatch telling fun f => recover f >>= fun _ => pure []) (Act.recovering act) := by
  rw [Tells, tryCatch_forget, h, Act.recovering]
  congr
  funext f
  rw [bind_assoc]
  simp only [pure_bind]
  exact bind_pure_unit

/-- A message is shown the same way with an account of it. -/
theorem tells_showMessage (text : String) : Tells (showMessageTelling text) (showMessage text) := by
  unfold showMessageTelling
  by_cases hblank : Text.allBlank text.toList
  · simpa [hblank, showMessage] using tells_pure []
  · rw [Tells, if_neg hblank]
    simp only [bind_assoc, pure_bind]
    exact bind_pure_unit

/-- The message of a report is followed the same way with an account of it. -/
theorem tells_followMessage (r : Status) : Tells (followMessageTelling r) (followMessage r) := by
  refine .after fun p => ?_
  by_cases hsame : r.message = p.lastMessage
  · simpa [hsame] using tells_pure []
  · simpa [hsame] using Tells.after fun _ => tells_showMessage r.message

/-- A report is heard the same way with an account of its message. -/
theorem tells_hear : Tells hearTelling hear := by
  refine .after fun report => ?_
  cases report with
  | none => exact tells_pure []
  | some r =>
    refine .after fun p => .after fun _ => ?_
    have hreconcile : Tells (reconcileTelling r p.lastStatus) (reconcile r p.lastStatus) := by
      rw [reconcile_eq_followPrinter]
      exact .after fun _ => tells_followMessage r
    exact hreconcile.recovering.before countIdleTick

/-- An act ends as it does with an account. -/
theorem Tells.eq_ok {texts : List String} {t : Scene} (h : Tells telling act)
    (ht : telling a s = .ok texts t) : act a s = .ok () t := by
  rw [← h, bind_eq ht]
  rfl

/-- A tick with an account of the message is a tick. -/
theorem tells_tick (now : Nat) : Tells (tickTelling now) (tick now) :=
  .after fun _ => tells_hear

end Act

/-! ### Messages that are put up -/

/-- A message is up, and was drawn. -/
structure Scene.ShowsMessage (text : String) (t : Scene) : Prop where
  screen : t.panel.screen = .messagePopup
  drawn : (t.panel.canvas.messageBox text).map .drawn <:+: t.events

/-- What is drawn later leaves the message up. -/
theorem Scene.ShowsMessage.idled {text : String} {t u : Scene} (h : t.ShowsMessage text)
    (hu : Scene.Redrawn { t with panel := t.panel.idled } u) : u.ShowsMessage text := by
  obtain ⟨shown, calls, rfl⟩ := hu
  have hidled : (Scene.afterCalls { t with panel := t.panel.idled } shown calls).panel =
      { t.panel with idleTicks := t.panel.idled.idleTicks, dimmed := t.panel.idled.dimmed } :=
    t.panel.idled_eq
  constructor
  · rw [hidled]
    exact h.screen
  · rw [hidled]
    exact h.drawn.trans (List.prefix_append _ _).isInfix

/-- The message of a report, if it is not blank and differs from the last one. -/
def newMessage (last : String) (r : Status) : List String :=
  if r.message ≠ last ∧ Text.allBlank r.message.toList = false then [r.message] else []

/-- The messages of reports that are not blank and differ from the one of the report before. -/
def newMessages (last : String) : List Status → List String
  | [] => []
  | r :: rest => newMessage last r ++ newMessages r.message rest

namespace Act

/-- An act that tells these texts and shows each of them. -/
def Announces (telling : Act (List String)) (texts : List String) (a : Answers) (s : Scene) :
    Prop :=
  telling.Ends (fun told t => told = texts ∧ ∀ text ∈ told, t.ShowsMessage text) a s

section NeverFailing

variable {a : Answers} {s : Scene} {r : Status} (h : ∀ n, a.display n = none)

include h

/-- The account of a message is the message, if it has anything to show. -/
theorem announces_showMessageTelling (text : String) :
    (showMessageTelling text).Announces (if Text.allBlank text.toList then [] else [text]) a s := by
  unfold showMessageTelling Announces
  cases hblank : Text.allBlank text.toList with
  | true => simp [Ends]
  | false =>
    obtain ⟨shown, calls, -, hwhole, hshow⟩ := showMessage_shows (a := a) (s := s) hblank
    have hscreen : (s.panel.withMessage text).screen = .messagePopup := by
      simp [Panel.withMessage, hblank]
    have hbox : shown = (s.panel.withMessage text).canvas.messageBox text := by
      rw [Panel.withMessage_canvas, hwhole h]
    simp only [Bool.false_eq_true, if_false, Ends, ensures_bind]
    refine ends_of_eq hshow ⟨rfl, ?_⟩
    simp only [List.mem_singleton, forall_eq]
    exact ⟨hscreen, hbox ▸ (List.suffix_append _ _).isInfix⟩

/-- The message of a report is announced if it is a new one and not blank. -/
theorem announces_followMessageTelling (r : Status) :
    (followMessageTelling r).Announces (newMessage s.panel.lastMessage r) a s := by
  rw [followMessageTelling, Announces, Ends, ensures_bind, ensures_panel]
  by_cases hsame : r.message = s.panel.lastMessage
  · have hnone : newMessage s.panel.lastMessage r = [] := if_neg fun hnew => hnew.1 hsame
    simp [hsame, hnone]
  · have hnew : newMessage s.panel.lastMessage r =
        if Text.allBlank r.message.toList then [] else [r.message] := by
      cases hblank : Text.allBlank r.message.toList <;> simp [newMessage, hsame, hblank]
    rw [if_pos hsame, ensures_bind, ensures_change, hnew]
    exact announces_showMessageTelling h r.message

/-- With a display that never fails, the panel follows everything of a report but the message. -/
theorem ends_followPrinter (r : Status) (previous : Option Status) :
    (followPrinter r previous).Ends (fun _ t => t.panel = s.panel.beforeMessage r) a s := by
  apply (makes_followPrinter r previous).mono
  · exact fun _ t ht => ht.panel_eq
  · rintro f t ⟨⟨n, failure, rfl, hfailed⟩, -⟩
    rw [h n] at hfailed
    contradiction

/-- What is done before touches neither the last message nor the one of the report. -/
theorem announces_reconcileTelling (r : Status) (previous : Option Status) :
    (reconcileTelling r previous).Announces (newMessage s.panel.lastMessage r) a s := by
  apply (ends_followPrinter h r previous).bind
  intro _ t ht
  have hlast : t.panel.lastMessage = s.panel.lastMessage := by
    rw [ht, Panel.beforeMessage_lastMessage]
  rw [← hlast]
  exact announces_followMessageTelling h r

/-- A tick announces the message of the report that it reads. -/
theorem announces_hearTelling (hreport : a.status s.looks = some r) :
    hearTelling.Announces (newMessage s.panel.lastMessage r) a s := by
  have hhear : hearTelling a s = (do
      let told ← tryCatch (reconcileTelling r s.panel.lastStatus) fun f => do
        recover f
        return []
      countIdleTick
      return told : Act (List String)) a (s.heard r) := bind_eq (look_eq hreport)
  have hreconciled : (tryCatch (reconcileTelling r s.panel.lastStatus) fun f => do
      recover f
      return []).Announces (newMessage s.panel.lastMessage r) a (s.heard r) := by
    rw [Announces, Ends, ensures_tryCatch]
    exact (announces_reconcileTelling h r _).mono (fun _ _ ht => ht) fun _ _ ht => ht.elim
  rw [Announces, Ends, Ensures, hhear]
  apply hreconciled.bind
  rintro texts t ⟨htexts, hshows⟩
  obtain ⟨u, hu, hidled⟩ := countIdleTick_eq (a := a) (s := t)
  rw [Ends, ensures_bind]
  exact ends_of_eq hu ⟨htexts, fun text htext => (hshows text htext).idled hidled⟩

end NeverFailing

end Act

namespace Panel

variable {p : Panel} {op : Operation} {a : Answers} {r : Status}

/-- The texts that an operation hands to the popup for the message of a report: only a tick does
so. -/
def told (p : Panel) (op : Operation) (a : Answers) : List String :=
  match op with
  | .tick now =>
    match Act.tickTelling now a (.opening p) with
    | .ok texts _ => texts
    | .error _ _ => []
  | _ => []

/-- The texts that the ticks of a run hand to the popup for the messages of their reports. -/
def tellings (p : Panel) : List (Operation × Answers) → List String
  | [] => []
  | (op, a) :: rest => p.told op a ++ (p.perform op a).panel.tellings rest

/-- Without a report there is nothing to tell. -/
theorem told_eq_nil (h : p.reads op a = none) : p.told op a = [] := by
  cases op with
  | tick now =>
    obtain ⟨s, hs, -⟩ := Act.keyOfKnob_ends (a := a) (s := .opening p) (·.poll now)
    have hreport : a.status s.looks = none := by simpa only [reads, hs] using h
    have htick : Act.tickTelling now a (.opening p) = .ok [] { s with looks := s.looks + 1 } :=
      (Act.bind_eq hs).trans (Act.bind_eq (Act.look_eq hreport))
    rw [told, htick]
  | start | key _ | rotate _ _ | sample _ _ _ | button _ _ | poll _ | message _ | iconFinder => rfl

/-- With a report its message is told, if it is a new one and not blank. What is told is shown. -/
theorem told_eq (hdisplay : ∀ n, a.display n = none) (h : p.reads op a = some r) :
    p.told op a = newMessage p.lastMessage r ∧
      ∀ text ∈ p.told op a, (p.perform op a).ShowsMessage text := by
  obtain ⟨now, rfl, s, hs, hreport⟩ := reads_eq_some_iff.mp h
  obtain ⟨texts, t, hhear, htexts, hshows⟩ :=
    Act.exists_eq_ok (Act.announces_hearTelling hdisplay hreport)
  have htelling : Act.tickTelling now a (.opening p) = .ok texts t := (Act.bind_eq hs).trans hhear
  have htick : p.perform (.tick now) a = t := perform_eq ((Act.tells_tick now).eq_ok htelling)
  have htold : p.told (.tick now) a = texts := by rw [told, htelling]
  have hmessage : s.panel.lastMessage = p.lastMessage := by
    obtain ⟨u, hu, hattended⟩ := Act.keyOfKnob_ends (a := a) (s := .opening p) (·.poll now)
    obtain rfl : s = u := by
      rw [hs] at hu
      cases hu
      rfl
    exact congrArg (·.2.2) (known_of_attended (p := p) hattended)
  rw [htold, htick, ← hmessage]
  exact ⟨htexts, hshows⟩

/-- After a tick the message of its report is the last one. -/
theorem perform_lastMessage (hdisplay : ∀ n, a.display n = none) (h : p.reads op a = some r) :
    (p.perform op a).panel.lastMessage = r.message := by
  obtain ⟨now, rfl, s, hs, hreport⟩ := reads_eq_some_iff.mp h
  rw [tick_follows hdisplay hs hreport, idled_eq]
  exact congrArg Records.message ((s.heard r).panel.following_records r)

/-- What the ticks of a run tell are the messages that are new, and not blank. -/
theorem tellings_eq (p : Panel) {ops : List (Operation × Answers)}
    (hdisplay : ∀ x ∈ ops, ∀ n, x.2.display n = none) :
    p.tellings ops = newMessages p.lastMessage (p.readings ops) := by
  induction ops generalizing p with
  | nil => rfl
  | cons x rest ih =>
    obtain ⟨op, a⟩ := x
    have hsmooth : ∀ n, a.display n = none := hdisplay (op, a) List.mem_cons_self
    have hrest := ih (p.perform op a).panel fun y hy => hdisplay y (List.mem_cons_of_mem _ hy)
    rw [tellings, readings, hrest]
    cases hreads : p.reads op a with
    | none =>
      -- Whatever shows a message in between does not touch the last one of the printer.
      have hmessage : (p.perform op a).panel.lastMessage = p.lastMessage :=
        congrArg (·.2.2) (perform_known_of_unread hreads)
      rw [told_eq_nil hreads, hmessage]
      rfl
    | some r =>
      rw [(told_eq hsmooth hreads).1, perform_lastMessage hsmooth hreads]
      rfl

/-- Each message that is told is put up and drawn, and no operation tells more than one. -/
theorem told_shows (hdisplay : ∀ n, a.display n = none) :
    (p.told op a).length ≤ 1 ∧ ∀ text ∈ p.told op a, (p.perform op a).ShowsMessage text := by
  cases hreads : p.reads op a with
  | none => simp [told_eq_nil hreads]
  | some r =>
    obtain ⟨htold, hshows⟩ := told_eq hdisplay hreads
    refine ⟨?_, hshows⟩
    rw [htold, newMessage]
    split <;> simp

/-- The texts that ticks hand to the popup for messages of the printer are, in their order, the
messages that are not blank and differ from the one of the report that was read before, whatever is
done in between, if no display call fails. A tick hands over one at most, and that is put up and
drawn. Apart from the account of this a tick is what it was. -/
theorem run_tellings (s : Settings) (width height : Nat) {ops : List (Operation × Answers)}
    (hdisplay : ∀ x ∈ ops, ∀ n, x.2.display n = none) :
    let p := ofSettings s width height
    p.tellings ops = newMessages "" (p.readings ops) ∧
      p.Throughout (fun q op a => (q.told op a).length ≤ 1 ∧
        ∀ text ∈ q.told op a, (q.perform op a).ShowsMessage text) ops ∧
      ∀ now, (fun _ => ()) <$> Act.tickTelling now = Act.tick now := by
  intro p
  refine ⟨p.tellings_eq hdisplay, ?_, fun now => ?_⟩
  · exact throughout_of_forall (fun x hx q => told_shows (hdisplay x hx)) p
  · rw [← bind_pure_comp]
    exact Act.tells_tick now

/-- A message is put up again after a blank one, and not after a key, a tick that reads nothing or a
message that the printer has no part in. -/
theorem run_tellings_again :
    let hearing (text : String) :=
      { Answers.smooth with status := fun _ => some { Status.atRest with message := text } }
    let p := ofSettings .standard 240 320
    let ops := [(.start, .smooth), (.tick 0, hearing "Filament low"), (.key .click, .smooth),
      (.tick 1000, .smooth), (.message "Wait", .smooth), (.tick 2000, hearing "Filament low"),
      (.tick 3000, hearing " "), (.tick 4000, hearing "Filament low")]
    (∀ x ∈ ops, ∀ n, x.2.display n = none) ∧
      p.tellings ops = ["Filament low", "Filament low"] ∧ (p.readings ops).length = 4 := by
  intro hearing p ops
  have hdisplay : ∀ x ∈ ops, ∀ n, x.2.display n = none := by
    simp [ops, hearing, Answers.smooth]
  have hreadings : newMessages "" (p.readings ops) = ["Filament low", "Filament low"] := by
    decide +kernel
  have hcount : (p.readings ops).length = 4 := by decide +kernel
  obtain ⟨htellings, -, -⟩ := run_tellings .standard 240 320 hdisplay
  exact ⟨hdisplay, htellings.trans hreadings, hcount⟩

end Panel

end PrinterPanel
