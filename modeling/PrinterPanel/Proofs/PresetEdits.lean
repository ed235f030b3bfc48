import PrinterPanel.Proofs.Acceptance

/-!
# Changes of the presets

Of the settings, only the six numbers of the presets can be changed from the panel. Each of them is
changed by a click that accepts the edit of that very number, and by nothing else. So a number is
always the one that was configured, or one in the range that was configured for it.
-/

namespace PrinterPanel

/-! ### The numbers of the presets -/

/-- A number of a preset. -/
def Preset.number (p : Preset) : PresetField → Int
  | .hotend => p.hotend
  | .bed => p.bed
  | .fan => p.fan

/-- A number of the presets. -/
def Presets.number (p : Presets) (m : Material) (f : PresetField) : Int := (p.get m).number f

namespace PresetField

/-- The field that edits a number of a preset. -/
def field (f : PresetField) (m : Material) : Field :=
  match f with
  | hotend => .hotend (.preset m)
  | bed => .bed (.preset m)
  | fan => .fan (.preset m)

/-- The range that the limits give to a number of a preset. -/
def range (f : PresetField) (l : Limits) : Bounds :=
  match f with
  | hotend => .between l.hotend.min l.hotend.max
  | bed => .between l.bed.min l.bed.max
  | fan => ⟨0, 100⟩

/-- The range of the numbers that a preset can store. -/
def room : PresetField → Bounds
  | hotend | bed => .halfWord
  | fan => ⟨0, 100⟩

variable {f g : PresetField} {m : Material}

/-- The field of a number is edited in the range of that number. -/
theorem bounds_field (f : PresetField) (m : Material) (l : Limits) :
    (f.field m).bounds l = f.range l := by cases f <;> rfl

/-- The field of a number is opened with that number. -/
theorem initial_field (f : PresetField) (m : Material) (s : Settings) (r : Status) :
    (f.field m).initial s r = s.presets.number m f := by cases f <;> rfl

/-- The range of a number is not empty. -/
theorem range_min_le_max (f : PresetField) (l : Limits) : (f.range l).min ≤ (f.range l).max := by
  cases f with
  | hotend | bed => exact Bounds.between_min_le_max _ _
  | fan => exact Int.le_of_lt (by decide : (0 : Int) < 100)

end PresetField

/-- An edit that stores a number is one of the field of that number. -/
theorem Edit.field_of_effect_preset {e : Edit} {m : Material} {f : PresetField} {i : Int}
    (h : e.effect = .preset m f i) : e.field = f.field m ∧ e.value = i := by
  unfold effect at h
  split at h <;> cases h
  all_goals next hfield => exact ⟨hfield, rfl⟩

/-- Storing a number changes that number and no other. -/
theorem Preset.number_store (p : Preset) (f g : PresetField) (i : Int) :
    (p.store f i).number g = if g = f then f.room.nearest i else p.number g := by
  have hpercent : ((clamp 0 100 i).toNat : Int) = clamp 0 100 i :=
    Int.toNat_of_nonneg (Bounds.min_le_nearest ⟨0, 100⟩ i)
  cases f <;> cases g <;> first | rfl | exact hpercent

/-- Storing a number leaves the name as it is. -/
theorem Preset.name_store (p : Preset) (f : PresetField) (i : Int) :
    (p.store f i).name = p.name := by cases f <;> rfl

/-- A change of one preset leaves the other one as it is. -/
theorem Presets.get_update (p : Presets) (m n : Material) (change : Preset → Preset) :
    (p.update m change).get n = if n = m then change (p.get m) else p.get n := by
  cases m <;> cases n <;> rfl

/-- The numbers after one of them is stored. -/
theorem Presets.number_update (p : Presets) (m n : Material) (f g : PresetField) (i : Int) :
    (p.update m (·.store f i)).number n g =
      if n = m ∧ g = f then f.room.nearest i else p.number n g := by
  unfold number
  rw [get_update]
  by_cases hn : n = m
  · subst hn
    simp [Preset.number_store]
  · simp [hn]

/-- Storing a number renames neither preset. -/
theorem Presets.name_update (p : Presets) (m n : Material) (f : PresetField) (i : Int) :
    ((p.update m (·.store f i)).get n).name = (p.get n).name := by
  rw [get_update]
  split
  · next hn => rw [hn, Preset.name_store]
  · rfl

/-! ### Settings with other numbers in the presets -/

/-- A preset whose temperatures fit in the words that they are kept in. -/
structure Preset.InWords (p : Preset) : Prop where
  hotend : Bounds.halfWord.Contains p.hotend
  bed : Bounds.halfWord.Contains p.bed

/-- The presets that nothing overrides fit in words. -/
theorem inWords_standard_presets (m : Material) : (Presets.standard.get m).InWords := by
  cases m <;> exact ⟨by decide, by decide⟩

namespace Settings

/-- From one settings to the next, nothing has changed but numbers of the presets. -/
structure SameButNumbers (s t : Settings) : Prop where
  others : t = { s with presets := t.presets }
  names : ∀ m, (t.presets.get m).name = (s.presets.get m).name

/-- From one settings to the next, nothing has changed but one number of the presets, which is now
a given one as far as it can be stored. -/
structure Stores (s t : Settings) (m : Material) (f : PresetField) (i : Int) : Prop
    extends SameButNumbers s t where
  stored : t.presets.number m f = f.room.nearest i
  kept : ∀ n g, ¬ (n = m ∧ g = f) → t.presets.number n g = s.presets.number n g

/-- A number that a preset may have, since it is configured or in the range of such numbers. -/
def Permits (s : Settings) (m : Material) (f : PresetField) (i : Int) : Prop :=
  i = s.presets.number m f ∨ (f.range s.limits).Contains i

/-- From settings that were configured, a run may have come to these. -/
structure Keeps (s t : Settings) : Prop extends SameButNumbers s t where
  permitted : ∀ m f, s.Permits m f (t.presets.number m f)

variable {s t u : Settings} {m : Material} {f : PresetField} {i : Int}

/-- What changes nothing but numbers twice changes nothing but numbers. -/
theorem SameButNumbers.trans (h : s.SameButNumbers t) (h' : t.SameButNumbers u) :
    s.SameButNumbers u where
  others := by rw [h'.others, h.others]
  names m := (h'.names m).trans (h.names m)

/-- Settings that are configured are kept as they are. -/
theorem Keeps.refl (s : Settings) : s.Keeps s := ⟨⟨rfl, fun _ => rfl⟩, fun _ _ => .inl rfl⟩

/-- An edit of a preset that is accepted stores its value as one number. -/
theorem stores_accepting (s : Settings) (m : Material) (f : PresetField) (i : Int) :
    s.Stores (s.accepting (.preset m f i)) m f i where
  others := rfl
  names n := s.presets.name_update m n f i
  stored := (s.presets.number_update m m f f i).trans (if_pos ⟨rfl, rfl⟩)
  kept n g hother := (s.presets.number_update m n f g i).trans (if_neg hother)

/-- Settings whose limits and presets fit in the words that they are kept in. -/
structure InWords (s : Settings) : Prop where
  limits : s.limits.InWords
  presets : ∀ m, (s.presets.get m).InWords

/-- A number between limits in words is in words. -/
theorem contains_between {l : Span} (h : l.InWords) {i : Int}
    (hi : (Bounds.between l.min l.max).Contains i) : Bounds.halfWord.Contains i := by
  unfold Bounds.between at hi
  simp only [Span.InWords, Bounds.Contains] at *
  split at hi <;> dsimp only at hi <;> omega

/-- A permitted number is stored as it is, except for a configured percentage above one hundred. -/
theorem Permits.nearest_eq (h : s.Permits m f i) (hwords : s.InWords) :
    f.room.nearest i = if f = .fan then min 100 i else i := by
  cases f with
  | hotend =>
    apply Bounds.nearest_eq
    obtain rfl | hrange := h
    · exact (hwords.presets m).hotend
    · exact contains_between hwords.limits.hotend hrange
  | bed =>
    apply Bounds.nearest_eq
    obtain rfl | hrange := h
    · exact (hwords.presets m).bed
    · exact contains_between hwords.limits.bed hrange
  | fan =>
    have hpositive : 0 ≤ i := by
      obtain rfl | hrange := h
      · exact Int.natCast_nonneg _
      · exact hrange.1
    simp only [PresetField.room, Bounds.nearest, clamp, if_true]
    omega

/-- What is stored of a permitted number is permitted, too. -/
theorem Permits.nearest (h : s.Permits m f i) (hwords : s.InWords) :
    s.Permits m f (f.room.nearest i) := by
  cases f with
  | hotend | bed =>
    rw [h.nearest_eq hwords]
    exact h
  | fan => exact .inr (Bounds.contains_nearest (PresetField.range_min_le_max .fan s.limits) i)

/-- Storing a permitted number. -/
theorem Keeps.accepting (h : s.Keeps t) (hwords : s.InWords) (hi : s.Permits m f i) :
    s.Keeps (t.accepting (.preset m f i)) where
  toSameButNumbers := h.toSameButNumbers.trans (t.stores_accepting m f i).toSameButNumbers
  permitted n g := by
    have hstores := t.stores_accepting m f i
    by_cases hsame : n = m ∧ g = f
    · obtain ⟨rfl, rfl⟩ := hsame
      rw [hstores.stored]
      exact hi.nearest hwords
    · rw [hstores.kept n g hsame]
      exact h.permitted n g

end Settings

/-! ### Presets during a run -/

namespace Panel

/-- The settings come from those that were configured, and an edit of a preset has a permitted
value. -/
structure KeepsPresets (p : Panel) (s : Settings) : Prop where
  settings : s.Keeps p.settings
  edit : ∀ e, p.edit = some e → ∀ m f, e.field = f.field m →
    e.bounds = f.range s.limits ∧ s.Permits m f e.value

variable {p : Panel} {s : Settings} {op : Operation} {a : Answers}

/-- An edit that is opened begins with the number of the preset. -/
theorem KeepsPresets.opened (h : p.KeepsPresets s) {e : Edit} {r : Status}
    (hopened : p.opened r = some e) {m : Material} {f : PresetField}
    (hfield : e.field = f.field m) : e.bounds = f.range s.limits ∧ s.Permits m f e.value := by
  obtain ⟨hfresh, -⟩ := fresh_of_opened hopened
  have hlimits : p.settings.limits = s.limits := by rw [h.settings.others]
  constructor
  · rw [hfresh.bounds, hfield, f.bounds_field, hlimits]
  · rw [hfresh.value, hfield, f.initial_field]
    exact h.settings.permitted m f

/-- Turning keeps the value of an edit permitted. -/
theorem permits_after {e : Edit} {m : Material} {f : PresetField}
    (h : e.bounds = f.range s.limits ∧ s.Permits m f e.value) (keys : List Key) :
    (e.after keys).bounds = f.range s.limits ∧ s.Permits m f (e.after keys).value := by
  obtain ⟨hbounds, hpermits⟩ := h
  have hends : e.bounds.min ≤ e.bounds.max := hbounds ▸ f.range_min_le_max s.limits
  constructor
  · rw [e.after_eq, hbounds]
  · obtain ⟨-, hsame⟩ | hcontains := Edit.after_cases hends keys
    · rwa [hsame]
    · exact .inr (hbounds ▸ hcontains)

/-- Each operation after the start keeps the presets. -/
theorem KeepsPresets.perform (h : p.KeepsPresets s) (hwords : s.InWords) (hp : p.Reachable)
    (hop : op ≠ .start) : (p.perform op a).panel.KeepsPresets s where
  settings := by
    obtain hsame | ⟨-, e, he, -, haccepted⟩ := hp.settings_cases (a := a) hop
    · exact hsame ▸ h.settings
    · rw [haccepted]
      cases heffect : e.effect with
      | command c => exact h.settings
      | preset m f i =>
        obtain ⟨hfield, rfl⟩ := Edit.field_of_effect_preset heffect
        exact h.settings.accepting hwords (h.edit e he m f hfield).2
  edit e he m f hfield := by
    obtain ⟨-, -, hopened⟩ | ⟨first, hfirst, -, rfl⟩ := hp.edit_cases hop he
    · exact h.opened hopened hfield
    · rw [Edit.after_field] at hfield
      exact permits_after (h.edit first hfirst m f hfield) _

/-- A run that is not started anew keeps the presets. -/
theorem KeepsPresets.run (h : p.KeepsPresets s) (hwords : s.InWords) (hp : p.Reachable)
    {ops : List (Operation × Answers)} (hops : ∀ x ∈ ops, x.1 ≠ .start) :
    (p.run ops).1.KeepsPresets s := by
  induction ops generalizing p with
  | nil => exact h
  | cons x rest ih =>
    have hop := hops x List.mem_cons_self
    exact ih (h.perform hwords hp hop) (hp.operated x.2 hop) fun y hy =>
      hops y (List.mem_cons_of_mem _ hy)

/-- A panel with its configured settings and no edit keeps the presets. -/
theorem keepsPresets_of_closed (h : p.draft = (none, s)) : p.KeepsPresets s := by
  obtain ⟨hedit, hsettings⟩ := draft_eq_iff.mp h
  exact ⟨hsettings ▸ .refl s, fun e he => nomatch hedit.symm.trans he⟩

/-- At every moment of a run, the settings are as configured but for permitted numbers of the
presets. -/
theorem started_keepsPresets {width height : Nat} {ops before later : List (Operation × Answers)}
    (hops : ∀ x ∈ ops, x.1 ≠ .start) (hwords : s.InWords)
    (hrun : (.start, a) :: ops = before ++ later) :
    ((ofSettings s width height).run before).1.KeepsPresets s := by
  cases before with
  | nil => exact keepsPresets_of_closed rfl
  | cons started before =>
    obtain ⟨rfl, rfl⟩ := List.cons.inj hrun
    have hstarted := started_draft s width height a
    exact (keepsPresets_of_closed hstarted).run hwords (Reachable.started s width height a)
      fun x hx => hops x (by simp [hx])

/-- What an operation does to the settings. -/
theorem Reachable.presets_cases (h : p.Reachable) (hop : op ≠ .start) :
    (p.perform op a).panel.settings = p.settings ∨
      p.keyOf op = some .click ∧ ∃ e m f, p.edit = some e ∧ e.field = f.field m ∧
        p.settings.Stores (p.perform op a).panel.settings m f e.value := by
  obtain hsame | ⟨hclick, e, he, -, haccepted⟩ := h.settings_cases (a := a) hop
  · exact .inl hsame
  · rw [haccepted]
    cases heffect : e.effect with
    | command c => exact .inl rfl
    | preset m f i =>
      obtain ⟨hfield, rfl⟩ := Edit.field_of_effect_preset heffect
      exact .inr ⟨hclick, e, m, f, he, hfield, p.settings.stores_accepting m f e.value⟩

/-- At every moment of a run the settings are as configured but for numbers of the presets, and
these are permitted. The next operation leaves the settings as they are, or it is a click that
stores the value of an edit in its own number. That edit has been open ever since a click opened
it. -/
theorem run_keeps_presets (s : Settings) (width height : Nat) (a : Answers)
    (ops : List (Operation × Answers)) (hops : ∀ x ∈ ops, x.1 ≠ .start) (hwords : s.InWords) :
    let p := ofSettings s width height
    ∀ before later, (.start, a) :: ops = before ++ later →
      let q := (p.run before).1
      s.Keeps q.settings ∧
      ∀ op b rest, later = (op, b) :: rest →
        (q.perform op b).panel.settings = q.settings ∨
          q.keyOf op = some .click ∧ ∃ e m f, q.edit = some e ∧ e.field = f.field m ∧
            q.settings.Stores (q.perform op b).panel.settings m f e.value ∧
            ∃ first r keys, p.EditedSince before first r keys ∧ e = first.after keys := by
  intro p before later hrun q
  refine ⟨(started_keepsPresets hops hwords hrun).settings, ?_⟩
  rintro op b rest rfl
  cases before with
  | nil =>
    obtain ⟨⟨⟩, -⟩ := List.cons.inj hrun
    exact .inl (draft_eq_iff.mp (started_draft s width height a)).2
  | cons started before =>
    obtain ⟨rfl, rfl⟩ := List.cons.inj hrun
    have hreached := Reachable.started s width height a
    have hbefore : ∀ x ∈ before, x.1 ≠ .start := fun x hx => hops x (by simp [hx])
    obtain hsame | ⟨hclick, e, m, f, he, hfield, hstores⟩ :=
      (hreached.run hbefore).presets_cases (a := b) (hops (op, b) (by simp))
    · exact .inl hsame
    · obtain ⟨first, r, keys, -, hsince, hafter, -⟩ := started_edit hops hrun he
      exact .inr ⟨hclick, e, m, f, he, hfield, hstores, first, r, keys, hsince, hafter⟩

/-- The hotend of the preset for TPU is turned up by one degree and accepted. -/
theorem keeps_presets_tpu :
    let a := Answers.smooth
    let ops := [.down, .down, .click, .down, .click, .down, .down, .down, .down, .click, .down,
      .click, .down, .click].map fun k => (Operation.key k, a)
    let q := ((ofSettings .standard 240 320).run ((.start, a) :: ops)).1
    (∀ x ∈ ops, x.1 ≠ .start) ∧ Settings.standard.InWords ∧
      q.settings.presets.number .tpu .hotend = 211 ∧ Settings.standard.Keeps q.settings := by
  intro a ops q
  have hops : ∀ x ∈ ops, x.1 ≠ .start := by decide
  have hwords : Settings.standard.InWords := ⟨inWords_standard_limits, inWords_standard_presets⟩
  have hnumber : q.settings.presets.number .tpu .hotend = 211 := by decide +kernel
  obtain ⟨hkeeps, -⟩ := run_keeps_presets .standard 240 320 a ops hops hwords
    ((.start, a) :: ops) [] (by simp)
  exact ⟨hops, hwords, hnumber, hkeeps⟩

end Panel

end PrinterPanel
