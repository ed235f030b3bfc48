import PrinterPanel.Proofs.Drafts
import PrinterPanel.Proofs.Question

/-!
# Where an edit comes from

An edit that is open during a run was opened by a click on the entry of its field. It began with a
value of the report or of the preset that was at hand then, and since then the knob was turned and
nothing else happened to it. A value that was turned lies in the range of its field.
-/

namespace PrinterPanel

open Menu

/-! ### What an edit begins with -/

/-- The value that a field begins with. -/
def Field.initial (s : Settings) (r : Status) : Field → Int
  | axis a => positionSteps (r.position.get a)
  | extruder _ => positionSteps r.position.e
  | hotend .live => r.hotend.target
  | bed .live => r.bed.target
  | fan .live => r.fan
  | hotend (.preset m) => (s.presets.get m).hotend
  | bed (.preset m) => (s.presets.get m).bed
  | fan (.preset m) => (s.presets.get m).fan
  | printSpeed => r.feedrate
  | zOffset => r.zOffset

/-- What a report has to say before a field is opened. The extruder is moved from where it stands,
while it is warm, and not as an axis. -/
def Field.Admits (s : Settings) (r : Status) : Field → Prop
  | axis a => a ≠ .e
  | extruder origin => origin = positionSteps r.position.e ∧ ¬ s.TooCold r
  | hotend _ | bed _ | fan _ | printSpeed | zOffset => True

/-- An edit as it begins. -/
structure Edit.Fresh (e : Edit) (s : Settings) (r : Status) : Prop where
  value : e.value = e.field.initial s r
  bounds : e.bounds = e.field.bounds s.limits
  admits : e.field.Admits s r

/-- A field and a value that an edit may begin with. -/
def Begins (s : Settings) (r : Status) (begun : Field × Int) : Prop :=
  begun.2 = begun.1.initial s r ∧ begun.1.Admits s r

namespace Menu

variable {s : Settings} {r : Status} {begun : Field × Int}

/-- An edit of the prepare menu begins with the value of the report. -/
theorem PrepareItem.begins_of_eq {item : PrepareItem} (h : item.begins r = some begun) :
    Begins s r begun := by
  cases item with
  | zOffset =>
    cases h
    exact ⟨rfl, trivial⟩
  | back | move | disableSteppers | home | preheatPla | preheatTpu | cooldown => contradiction

/-- The edit of an axis begins with its reported position. -/
theorem AxisItem.begins_of_eq {item : AxisItem} (h : item.begins s r = some begun) :
    Begins s r begun := by
  cases item with
  | back => contradiction
  | x | y | z =>
    cases h
    exact ⟨rfl, by simp [Field.Admits]⟩
  | e =>
    simp only [begins] at h
    split at h
    · contradiction
    · next hwarm =>
      cases h
      exact ⟨rfl, rfl, hwarm⟩

/-- An edit of the temperature menu begins with the value of the report. -/
theorem TemperatureItem.begins_of_eq {item : TemperatureItem} (h : item.begins r = some begun) :
    Begins s r begun := by
  cases item <;> cases h <;> exact ⟨rfl, trivial⟩

/-- An edit of the menu for tuning begins with the value of the report. -/
theorem TuneItem.begins_of_eq {item : TuneItem} (h : item.begins r = some begun) :
    Begins s r begun := by
  cases item <;> cases h <;> exact ⟨rfl, trivial⟩

/-- An edit of a preset begins with the number of the preset. -/
theorem PreheatItem.begins_of_eq {m : Material} {item : PreheatItem}
    (h : item.begins m (s.presets.get m) = some begun) : Begins s r begun := by
  cases item <;> cases h <;> exact ⟨rfl, trivial⟩

end Menu

namespace Panel

variable {p : Panel} {r : Status} {e : Edit}

/-- An edit that a list opens is the one of the entry that the cursor is on. -/
theorem opensAt_eq_some {α : Type} {m : ListMenu} {items : Features → List α}
    {begins : α → Option (Field × Int)} (h : p.opensAt m items begins = some e) :
    ∃ item begun, begins item = some begun ∧
      e = .start begun.1 begun.2 p.settings.limits m.screen (p.places.get m).row := by
  obtain ⟨begun, hbegun, rfl⟩ := Option.map_eq_some_iff.mp h
  obtain ⟨item, -, hitem⟩ := Option.bind_eq_some_iff.mp hbegun
  exact ⟨item, begun, hitem, rfl⟩

/-- An edit that is opened is fresh and returns to the menu of its entry. -/
theorem fresh_of_opened (h : p.opened r = some e) :
    e.Fresh p.settings r ∧ e.returnTo = p.screen := by
  have hbegun {α : Type} {m : ListMenu} {items : Features → List α}
      {begins : α → Option (Field × Int)} (hopens : p.opensAt m items begins = some e)
      (hscreen : p.screen = m.screen)
      (hbegins : ∀ item begun, begins item = some begun → Begins p.settings r begun) :
      e.Fresh p.settings r ∧ e.returnTo = p.screen := by
    obtain ⟨item, begun, hitem, rfl⟩ := opensAt_eq_some hopens
    obtain ⟨hvalue, hadmits⟩ := hbegins item begun hitem
    exact ⟨⟨hvalue, rfl, hadmits⟩, hscreen.symm⟩
  unfold opened at h
  dsimp only at h
  split at h
  · next hscreen => exact hbegun h hscreen fun _ _ => PrepareItem.begins_of_eq
  · next hscreen => exact hbegun h hscreen fun _ _ => AxisItem.begins_of_eq
  · next hscreen => exact hbegun h hscreen fun _ _ => TemperatureItem.begins_of_eq
  · next hscreen => exact hbegun h hscreen fun _ _ => TuneItem.begins_of_eq
  · next hscreen => exact hbegun h hscreen fun _ _ => PreheatItem.begins_of_eq
  · next hscreen => exact hbegun h hscreen fun _ _ => PreheatItem.begins_of_eq
  · contradiction

end Panel

/-! ### What turning the knob makes of a value -/

/-- The knob was not turned. -/
def Unturned (keys : List Key) : Prop := ∀ k ∈ keys, (Symbol.ofKey k).isTurn = false

instance (keys : List Key) : Decidable (Unturned keys) :=
  inferInstanceAs (Decidable (∀ k ∈ keys, _))

namespace Edit

/-- Keys change an edit by their symbols. -/
theorem after_eq_stepped (e : Edit) (keys : List Key) :
    e.after keys = e.stepped (keys.map Symbol.ofKey) :=
  List.foldl_map.symm

/-- Keys change nothing of an edit but its value. -/
theorem after_eq (e : Edit) (keys : List Key) :
    e.after keys = { e with value := (e.after keys).value } := by
  rw [after_eq_stepped]
  exact e.stepped_eq _

/-- Keys do not change the field of an edit. -/
theorem after_field (e : Edit) (keys : List Key) : (e.after keys).field = e.field := by
  rw [e.after_eq]

/-- Keys do not change where an edit returns to. -/
theorem after_returnTo (e : Edit) (keys : List Key) : (e.after keys).returnTo = e.returnTo := by
  rw [e.after_eq]

/-- After keys, an edit is as it was, or its value was turned into its range. -/
theorem after_cases {e : Edit} (h : e.bounds.min ≤ e.bounds.max) (keys : List Key) :
    Unturned keys ∧ e.after keys = e ∨ e.bounds.Contains (e.after keys).value := by
  rw [after_eq_stepped]
  by_cases hunturned : Unturned keys
  · exact .inl ⟨hunturned, e.stepped_of_unturned (List.forall_mem_map.mpr hunturned)⟩
  · exact .inr (contains_stepped_of_turn h (by simpa [Unturned] using hunturned))

/-- A value in the range stays there. -/
theorem contains_after {e : Edit} (h : e.bounds.Contains e.value) (keys : List Key) :
    e.bounds.Contains (e.after keys).value := by
  obtain ⟨-, hsame⟩ | hcontains := after_cases (Int.le_trans h.1 h.2) keys
  · rwa [hsame]
  · exact hcontains

end Edit

/-! ### The history of an edit -/

namespace Panel

variable {p : Panel} {first e : Edit} {r : Status} {keys : List Key}

/-- In a run, a click opened an edit with a report at hand, and an edit has been open ever since,
while these keys were delivered. -/
def EditedSince (p : Panel) (ops : List (Operation × Answers)) (first : Edit) (r : Status)
    (keys : List Key) : Prop :=
  ∃ before opener later, ops = before ++ opener :: later ∧
    (p.run before).1.edit = none ∧
    (p.run before).1.keyOf opener.1 = some .click ∧
    (p.run before).1.reportAt opener.2 0 = r ∧
    (p.run (before ++ [opener])).1.edit = some first ∧
    (∀ seen, seen <+: later → (p.run (before ++ opener :: seen)).1.edit.isSome) ∧
    (p.run (before ++ [opener])).1.keysOf later = keys

/-- An edit that has just been opened. -/
theorem editedSince_of_click {ops : List (Operation × Answers)} {x : Operation × Answers}
    (hclosed : (p.run ops).1.edit = none) (hclick : (p.run ops).1.keyOf x.1 = some .click)
    (hopen : (p.run (ops ++ [x])).1.edit = some e) :
    p.EditedSince (ops ++ [x]) e ((p.run ops).1.reportAt x.2 0) [] := by
  refine ⟨ops, x, [], rfl, hclosed, hclick, rfl, hopen, ?_, rfl⟩
  intro seen hseen
  rw [List.prefix_nil.mp hseen, hopen]
  rfl

/-- An edit that stays open. -/
theorem EditedSince.concat {ops : List (Operation × Answers)}
    (h : p.EditedSince ops first r keys) {x : Operation × Answers}
    (hopen : (p.run (ops ++ [x])).1.edit.isSome) :
    p.EditedSince (ops ++ [x]) first r (keys ++ ((p.run ops).1.keyOf x.1).toList) := by
  obtain ⟨before, opener, later, rfl, hclosed, hclick, hreport, hfirst, hsince, rfl⟩ := h
  refine ⟨before, opener, later ++ [x], by simp, hclosed, hclick, hreport, hfirst, ?_, ?_⟩
  · intro seen hseen
    obtain rfl | hseen := List.prefix_concat_iff.mp hseen
    · simpa using hopen
    · exact hsince seen hseen
  · have hsame : (p.run (before ++ opener :: later)).1 =
        ((p.run (before ++ [opener])).1.run later).1 := by
      rw [← run_append]
      simp
    rw [keysOf_concat, hsame]

/-- What came before a run does not matter to an edit of that run. -/
theorem EditedSince.cons {op : Operation} {a : Answers} {ops : List (Operation × Answers)}
    (h : (p.perform op a).panel.EditedSince ops first r keys) :
    p.EditedSince ((op, a) :: ops) first r keys := by
  obtain ⟨before, opener, later, rfl, hclosed, hclick, hreport, hfirst, hsince, hkeys⟩ := h
  exact ⟨(op, a) :: before, opener, later, rfl, hclosed, hclick, hreport, hfirst, hsince, hkeys⟩

/-- During a run nothing of the settings changes but the presets. -/
theorem Reachable.run_settings (h : p.Reachable) {ops : List (Operation × Answers)}
    (hops : ∀ x ∈ ops, x.1 ≠ .start) :
    ∃ presets, (p.run ops).1.settings = { p.settings with presets := presets } := by
  induction ops using List.reverseRecOn with
  | nil => exact ⟨p.settings.presets, rfl⟩
  | append_singleton ops x ih =>
    obtain ⟨presets, hsettings⟩ := ih fun y hy => hops y (by simp [hy])
    have hreached : (p.run ops).1.Reachable := h.run fun y hy => hops y (by simp [hy])
    rw [run_append]
    obtain hsame | ⟨-, e, -, -, haccepted⟩ :=
      hreached.settings_cases (a := x.2) (hops x (by simp))
    · exact ⟨presets, hsame.trans hsettings⟩
    · cases heffect : e.effect with
      | command c => exact ⟨presets, haccepted.trans (by rw [heffect]; exact hsettings)⟩
      | preset m field value =>
        refine ⟨presets.update m (·.store field value), haccepted.trans ?_⟩
        rw [heffect, hsettings]
        rfl

/-- Whenever an edit is open, it was opened by a click, and it is what the keys since then have made
of the fresh edit. -/
theorem Reachable.run_edit (h : p.Reachable) (hclosed : p.edit = none)
    {ops : List (Operation × Answers)} (hops : ∀ x ∈ ops, x.1 ≠ .start)
    (hopen : (p.run ops).1.edit = some e) :
    ∃ first r keys presets, p.EditedSince ops first r keys ∧ e = first.after keys ∧
      first.Fresh { p.settings with presets := presets } r := by
  -- By induction on the last operation, since it either opens the edit or finds it open.
  induction ops using List.reverseRecOn generalizing e with
  | nil =>
    have hnone : p.edit = some e := hopen
    rw [hclosed] at hnone
    contradiction
  | append_singleton ops x ih =>
    have hops' : ∀ y ∈ ops, y.1 ≠ .start := fun y hy => hops y (by simp [hy])
    have hstep : (p.run (ops ++ [x])).1 = ((p.run ops).1.perform x.1 x.2).panel :=
      p.run_append ops [x]
    have hreached : (p.run ops).1.Reachable := h.run hops'
    obtain ⟨hclick, hnone, hopened⟩ | ⟨before, hbefore, -, rfl⟩ :=
      hreached.edit_cases (hops x (by simp)) (hstep ▸ hopen)
    · obtain ⟨presets, hsettings⟩ := h.run_settings hops'
      obtain ⟨hfresh, -⟩ := fresh_of_opened hopened
      rw [hsettings] at hfresh
      exact ⟨e, _, [], presets, editedSince_of_click hnone hclick hopen, rfl, hfresh⟩
    · obtain ⟨first, r, keys, presets, hsince, rfl, hfresh⟩ := ih hops' hbefore
      refine ⟨first, r, _, presets, hsince.concat (by rw [hopen]; rfl), ?_, hfresh⟩
      rw [Edit.after_append]

/-- The last report of a run is one that was heard. -/
theorem Reachable.run_report (h : p.Reachable) {heard : Status → Prop}
    (hlast : ∀ r, p.lastStatus = some r → heard r) {ops : List (Operation × Answers)}
    (hops : ∀ x ∈ ops, x.1 ≠ .start) (hheard : ∀ x ∈ ops, x.2.Report heard) :
    ∀ r, (p.run ops).1.lastStatus = some r → heard r := by
  induction ops using List.reverseRecOn with
  | nil => exact hlast
  | append_singleton ops x ih =>
    have hreached : (p.run ops).1.Reachable := h.run fun y hy => hops y (by simp [hy])
    have hreport := ih (fun y hy => hops y (by simp [hy])) fun y hy => hheard y (by simp [hy])
    rw [run_append]
    exact (hreached.drafted_perform (hops x (by simp)) (hheard x (by simp)) hreport).report

/-- A report at hand is one that is heard now or before, or that of a printer at rest. -/
theorem reportAt_of_report {heard : Status → Prop} {a : Answers} (ha : a.Report heard)
    (hlast : ∀ r, p.lastStatus = some r → heard r) (hrest : heard .atRest) (look : Nat) :
    heard (p.reportAt a look) := by
  unfold reportAt
  cases hstatus : a.status look with
  | some r => exact ha look r hstatus
  | none =>
    cases hreport : p.lastStatus with
    | some r => exact hlast r hreport
    | none => exact hrest

variable {s : Settings} {width height : Nat} {a : Answers}
  {ops before later : List (Operation × Answers)}

/-- Switching the display on opens no edit, keeps the settings and hears no report. -/
theorem started_drafted {heard : Status → Prop} (ha : a.Report heard) :
    ((ofSettings s width height).perform .start a).panel.Drafted heard [(none, s)] := by
  have hnew : (ofSettings s width height).Drafted heard [(none, s)] :=
    drafted_of_mem (List.mem_singleton_self _) fun _ hr => nomatch hr
  exact (persists_drafted heard _).perform ha (fun _ => hnew) (fun _ hk => nomatch hk) fun _ => hnew

/-- A panel that was just switched on edits nothing and has the configured settings. -/
theorem started_draft (s : Settings) (width height : Nat) (a : Answers) :
    ((ofSettings s width height).perform .start a).panel.draft = (none, s) := by
  have hany : ((ofSettings s width height).perform .start a).panel.Drafted (fun _ => True) _ :=
    started_drafted fun _ _ _ => trivial
  obtain ⟨d, hd, hsettings, hedit⟩ := hany.draft
  rw [List.mem_singleton.mp hd] at hsettings hedit
  exact draft_eq_iff.mpr ⟨hedit.elim id id, hsettings⟩

/-- An edit that is open during a whole run has its history in that run. -/
theorem started_edit (hops : ∀ x ∈ ops, x.1 ≠ .start)
    (hrun : (.start, a) :: ops = before ++ later)
    (hopen : ((ofSettings s width height).run before).1.edit = some e) :
    ∃ first r keys presets, (ofSettings s width height).EditedSince before first r keys ∧
      e = first.after keys ∧ first.Fresh { s with presets := presets } r := by
  cases before with
  | nil => exact nomatch hopen
  | cons started rest =>
    obtain ⟨rfl, rfl⟩ := List.cons.inj hrun
    obtain ⟨hclosed, hsettings⟩ := draft_eq_iff.mp (started_draft s width height a)
    obtain ⟨first, r, keys, presets, hsince, hafter, hfresh⟩ :=
      (Reachable.started s width height a).run_edit hclosed
        (fun x hx => hops x (by simp [hx])) hopen
    rw [hsettings] at hfresh
    exact ⟨first, r, keys, presets, hsince.cons, hafter, hfresh⟩

/-- The report with which an edit was opened is one that was heard during the run, or that of a
printer at rest. -/
theorem EditedSince.report (h : (ofSettings s width height).EditedSince before first r keys)
    (hops : ∀ x ∈ ops, x.1 ≠ .start) (hrun : (.start, a) :: ops = before ++ later)
    {heard : Status → Prop} (hheard : ∀ x ∈ (.start, a) :: ops, x.2.Report heard)
    (hrest : heard .atRest) : heard r := by
  obtain ⟨earlier, opener, since, rfl, -, -, rfl, -⟩ := h
  have hopener : opener.2.Report heard := hheard opener (by simp [hrun])
  refine reportAt_of_report hopener ?_ hrest 0
  cases earlier with
  | nil => exact fun _ hr => nomatch hr
  | cons started rest =>
    obtain ⟨rfl, rfl⟩ := List.cons.inj hrun
    have hstarted :
        ((ofSettings s width height).perform .start a).panel.Drafted heard [(none, s)] :=
      started_drafted (hheard (.start, a) List.mem_cons_self)
    exact (Reachable.started s width height a).run_report hstarted.report
      (fun x hx => hops x (by simp [hx])) fun x hx => hheard x (by simp [hx])

end Panel

end PrinterPanel
