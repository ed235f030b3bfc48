import PrinterPanel.Proofs.EditSession
import PrinterPanel.Proofs.Positions

/-!
# Panels that can be reached

A panel is switched on once, before anything else, and then operated in any way. What every move
keeps holds of each panel that is reached so.
-/

namespace PrinterPanel.Panel

/-- A panel that is reached by switching it on and then by other operations, whatever display and
printer answer. -/
inductive Reachable : Panel → Prop where
  | started (s : Settings) (width height : Nat) (a : Answers) :
    Reachable ((ofSettings s width height).perform .start a).panel
  | operated {p : Panel} {op : Operation} (a : Answers) (h : Reachable p) (hop : op ≠ .start) :
    Reachable (p.perform op a).panel

variable {p : Panel} {I : Panel → Prop}

/-- A run that is not started anew reaches panels that can be reached. -/
theorem Reachable.run (h : p.Reachable) {ops : List (Operation × Answers)}
    (hops : ∀ x ∈ ops, x.1 ≠ .start) : (p.run ops).1.Reachable := by
  induction ops generalizing p with
  | nil => exact h
  | cons x rest ih =>
    have hfirst := h.operated x.2 (hops x List.mem_cons_self)
    exact ih hfirst fun y hy => hops y (List.mem_cons_of_mem _ hy)

/-- A run that switches the display on leads to a panel that is reached. -/
theorem reachable_of_start (s : Settings) (width height : Nat) (a : Answers)
    {ops : List (Operation × Answers)} (hops : ∀ x ∈ ops, x.1 ≠ .start) :
    ((ofSettings s width height).run ((.start, a) :: ops)).1.Reachable :=
  (Reachable.started s width height a).run hops

/-- Every panel during a run that switches the display on has been reached, except for the one that
it begins with. -/
theorem reachable_or_nil {s : Settings} {width height : Nat} {a : Answers}
    {ops before later : List (Operation × Answers)} (hops : ∀ x ∈ ops, x.1 ≠ .start)
    (hrun : (.start, a) :: ops = before ++ later) :
    before = [] ∨ ((ofSettings s width height).run before).1.Reachable := by
  cases before with
  | nil => exact .inl rfl
  | cons started rest =>
    obtain ⟨rfl, rfl⟩ := List.cons.inj hrun
    exact .inr (reachable_of_start s width height a fun x hx => hops x (by simp [hx]))

/-- A new panel that is switched on stays as it is, since the main menu is up already. -/
theorem Invariant.reachable (hI : Invariant I)
    (hnew : ∀ s width height, I (ofSettings s width height)) (h : p.Reachable) : I p := by
  induction h with
  | started s width height a => exact hI.perform (fun _ => hnew s width height) (hnew _ _ _)
  | operated a _ hop ih => exact hI.perform (fun hstart => absurd hstart hop) ih

/-- A panel that is switched on has no edit. -/
theorem editSession_ofSettings (s : Settings) (width height : Nat) :
    (ofSettings s width height).EditSession :=
  ⟨fun _ => ⟨rfl, rfl⟩, by simp [ofSettings], by simp [ofSettings], rfl⟩

/-- An edit is always one that a menu has opened. -/
theorem Reachable.editSession (h : p.Reachable) : p.EditSession :=
  invariant_editSession.reachable editSession_ofSettings h

/-- An edit is one that a menu has opened all along a run, from before the start. -/
theorem editSession_of_run {s : Settings} {width height : Nat} {a : Answers}
    {ops before later : List (Operation × Answers)} (hops : ∀ x ∈ ops, x.1 ≠ .start)
    (hrun : (.start, a) :: ops = before ++ later) :
    ((ofSettings s width height).run before).1.EditSession := by
  obtain rfl | hreached := reachable_or_nil (s := s) hops hrun
  · exact editSession_ofSettings s width height
  · exact hreached.editSession

/-- Every list of a panel that is reached shows its cursor. -/
theorem Reachable.placed (h : p.Reachable) : p.Placed :=
  invariant_placed.reachable placed_ofSettings h

end PrinterPanel.Panel
