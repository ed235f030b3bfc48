import PrinterPanel.Proofs.PresetEdits
import PrinterPanel.Settings.Document

/-!
# Settings that are loaded

A document gives its temperatures and lengths as integers of 16 bits, and the limits are checked
before they are used. So the settings that are read from a document are those that the presets and
the edits of a run rely on.
-/

namespace PrinterPanel

namespace Fields

variable {V α : Type}

/-- What every value of a field has, an optional field has if it is given. -/
theorem of_optional {f : Fields V} {key : String} {read? : V → Option α} {read : Option α}
    (h : f.optional key read? = some read) {P : α → Prop}
    (hread : ∀ v x, read? v = some x → P x) : ∀ x ∈ read, P x := by
  unfold optional at h
  rintro x rfl
  split at h
  · cases h
  · obtain ⟨y, hy, hsame⟩ := Option.map_eq_some_iff.mp h
    cases hsame
    exact hread _ _ hy

end Fields

namespace Document

open Toml (Value)

/-- An integer that is read is within the bounds of its word. -/
theorem contains_of_integer {b : Bounds} {v : Value} {i : Int} (h : integer? b v = some i) :
    b.Contains i := by
  cases v with
  | integer j =>
    obtain ⟨rfl, hi⟩ := Bounds.narrow?_eq_some_iff.mp h
    exact hi
  | _ => contradiction

/-- Both ends of a range that is read fit in words. -/
theorem inWords_of_span {v : Value} {s : Span} (h : span? v = some s) : s.InWords := by
  obtain ⟨ends, hends, rfl⟩ := Option.map_eq_some_iff.mp h
  unfold pair? at hends
  split at hends
  · obtain ⟨low, hlow, hends⟩ := Option.bind_eq_some_iff.mp hends
    obtain ⟨high, hhigh, hends⟩ := Option.bind_eq_some_iff.mp hends
    cases hends
    exact ⟨contains_of_integer hlow, contains_of_integer hhigh⟩
  · contradiction

end Document

/-- Overrides of a preset that fit in words. -/
structure PresetOverrides.InWords (o : PresetOverrides) : Prop where
  hotend : ∀ i ∈ o.hotend, Bounds.halfWord.Contains i
  bed : ∀ i ∈ o.bed, Bounds.halfWord.Contains i

/-- Overrides of the limits that fit in words. -/
structure LimitOverrides.InWords (o : LimitOverrides) : Prop where
  x : ∀ s ∈ o.x, s.InWords
  y : ∀ s ∈ o.y, s.InWords
  z : ∀ s ∈ o.z, s.InWords
  hotend : ∀ s ∈ o.hotend, s.InWords
  bed : ∀ s ∈ o.bed, s.InWords
  maxExtrusion : ∀ i ∈ o.maxExtrusion, Bounds.halfWord.Contains i

/-- What a given value and the default have, the value that is used has. -/
theorem of_getD {α : Type} {P : α → Prop} {o : Option α} {d : α} (h : ∀ x ∈ o, P x) (hd : P d) :
    P (o.getD d) := by
  cases o with
  | none => exact hd
  | some x => exact h x rfl

/-- Without overrides of a preset there is nothing that could not fit. -/
theorem inWords_default_preset : (default : PresetOverrides).InWords := by
  constructor <;> rintro _ ⟨⟩

/-- Without overrides of the limits there is nothing that could not fit. -/
theorem inWords_default_limits : (default : LimitOverrides).InWords := by
  constructor <;> rintro _ ⟨⟩

namespace Document

open Toml (Value)

/-- The temperatures of a preset that is read fit in words. -/
theorem inWords_of_preset {v : Value} {o : PresetOverrides} (h : preset? v = some o) :
    o.InWords := by
  obtain ⟨f, -, h⟩ := Option.bind_eq_some_iff.mp h
  obtain ⟨hotend, hhotend, h⟩ := Option.bind_eq_some_iff.mp h
  obtain ⟨bed, hbed, h⟩ := Option.bind_eq_some_iff.mp h
  obtain ⟨fan, -, h⟩ := Option.bind_eq_some_iff.mp h
  cases h
  exact ⟨Fields.of_optional hhotend fun _ _ => contains_of_integer,
    Fields.of_optional hbed fun _ _ => contains_of_integer⟩

/-- The limits that are read fit in words. -/
theorem inWords_of_limits {v : Value} {o : LimitOverrides} (h : limits? v = some o) :
    o.InWords := by
  obtain ⟨f, -, h⟩ := Option.bind_eq_some_iff.mp h
  obtain ⟨x, hx, h⟩ := Option.bind_eq_some_iff.mp h
  obtain ⟨y, hy, h⟩ := Option.bind_eq_some_iff.mp h
  obtain ⟨z, hz, h⟩ := Option.bind_eq_some_iff.mp h
  obtain ⟨hotend, hhotend, h⟩ := Option.bind_eq_some_iff.mp h
  obtain ⟨bed, hbed, h⟩ := Option.bind_eq_some_iff.mp h
  obtain ⟨minTemp, -, h⟩ := Option.bind_eq_some_iff.mp h
  obtain ⟨maxExtrusion, hmaxExtrusion, h⟩ := Option.bind_eq_some_iff.mp h
  obtain ⟨zOffset, -, h⟩ := Option.bind_eq_some_iff.mp h
  cases h
  have hspan {read : Option Span} {key : String} (hread : f.optional key span? = some read) :
      ∀ s ∈ read, s.InWords := Fields.of_optional hread fun _ _ => inWords_of_span
  exact ⟨hspan hx, hspan hy, hspan hz, hspan hhotend, hspan hbed,
    Fields.of_optional hmaxExtrusion fun _ _ => contains_of_integer⟩

/-- Both presets that are read fit in words. -/
theorem inWords_of_presets {v : Value} {o : PresetOverrides × PresetOverrides}
    (h : presets? v = some o) : o.1.InWords ∧ o.2.InWords := by
  obtain ⟨f, -, h⟩ := Option.bind_eq_some_iff.mp h
  obtain ⟨pla, hpla, h⟩ := Option.bind_eq_some_iff.mp h
  obtain ⟨tpu, htpu, h⟩ := Option.bind_eq_some_iff.mp h
  cases h
  have hpreset {read : Option PresetOverrides} {key : String}
      (hread : f.optional key preset? = some read) : (read.getD default).InWords :=
    of_getD (Fields.of_optional hread fun _ _ => inWords_of_preset) inWords_default_preset
  exact ⟨hpreset hpla, hpreset htpu⟩

end Document

/-- Overrides that fit in words. -/
structure Overrides.InWords (o : Overrides) : Prop where
  pla : o.pla.InWords
  tpu : o.tpu.InWords
  limits : o.limits.InWords

/-- The overrides that a document gives fit in words. -/
theorem Overrides.inWords_of_document {document : Toml.Value} {o : Overrides}
    (h : Overrides.ofDocument? document = some o) : o.InWords := by
  obtain ⟨f, -, h⟩ := Option.bind_eq_some_iff.mp h
  obtain ⟨presets, hpresets, h⟩ := Option.bind_eq_some_iff.mp h
  obtain ⟨screen, -, h⟩ := Option.bind_eq_some_iff.mp h
  obtain ⟨encoder, -, h⟩ := Option.bind_eq_some_iff.mp h
  obtain ⟨button, -, h⟩ := Option.bind_eq_some_iff.mp h
  obtain ⟨macros, -, h⟩ := Option.bind_eq_some_iff.mp h
  obtain ⟨limits, hlimits, h⟩ := Option.bind_eq_some_iff.mp h
  obtain ⟨features, -, h⟩ := Option.bind_eq_some_iff.mp h
  cases h
  have hpresets : (presets.getD default).1.InWords ∧ (presets.getD default).2.InWords :=
    of_getD (P := fun both => both.1.InWords ∧ both.2.InWords)
      (Fields.of_optional hpresets fun _ _ => Document.inWords_of_presets)
      ⟨inWords_default_preset, inWords_default_preset⟩
  exact ⟨hpresets.1, hpresets.2,
    of_getD (Fields.of_optional hlimits fun _ _ => Document.inWords_of_limits)
      inWords_default_limits⟩

/-! ### The settings with the overrides -/

/-- A preset in words stays in words under such overrides. -/
theorem PresetOverrides.InWords.apply {o : PresetOverrides} (h : o.InWords) {p : Preset}
    (hp : p.InWords) : (o.apply p).InWords :=
  ⟨of_getD h.hotend hp.hotend, of_getD h.bed hp.bed⟩

/-- Limits that are overridden by words are in words, as the defaults are. -/
theorem LimitOverrides.InWords.limits {o : LimitOverrides} (h : o.InWords) :
    o.limits.InWords where
  x := of_getD h.x inWords_standard_limits.x
  y := of_getD h.y inWords_standard_limits.y
  z := of_getD h.z inWords_standard_limits.z
  hotend := of_getD h.hotend inWords_standard_limits.hotend
  bed := of_getD h.bed inWords_standard_limits.bed
  maxExtrusion := of_getD h.maxExtrusion inWords_standard_limits.maxExtrusion

/-- Steps that come one after the other succeed together. -/
theorem bind_eq_ok_iff {ε α β : Type} {first : Except ε α} {next : α → Except ε β} {y : β} :
    (first >>= next) = .ok y ↔ ∃ x, first = .ok x ∧ next x = .ok y := by
  constructor
  · intro h
    cases first with
    | error _ => contradiction
    | ok x => exact ⟨x, rfl, h⟩
  · rintro ⟨x, rfl, hnext⟩
    exact hnext

namespace Settings

variable {s t : Settings}

/-- A macro does not touch the presets. -/
theorem presets_of_addEntry {e : MacroEntry} (h : s.addEntry e = .ok t) :
    t.presets = s.presets := by
  obtain ⟨m, -, hadded⟩ := bind_eq_ok_iff.mp h
  unfold addMacro at hadded
  split at hadded <;> cases hadded
  rfl

/-- Adding macros leaves the presets as they are. -/
theorem presets_of_addEntries {entries : List MacroEntry}
    (h : entries.foldlM addEntry s = .ok t) : t.presets = s.presets := by
  induction entries generalizing s with
  | nil =>
    cases h
    rfl
  | cons e rest ih =>
    obtain ⟨u, hadded, hrest⟩ := bind_eq_ok_iff.mp h
    exact (ih hrest).trans (presets_of_addEntry hadded)

/-- Settings that are built fit in words and have been checked. -/
theorem inWords_of_overrides {o : Overrides} (ho : o.InWords) (h : o.settings = .ok s) :
    s.InWords ∧ s.check = .ok () := by
  obtain ⟨language, -, h⟩ := bind_eq_ok_iff.mp h
  obtain ⟨encoder, -, h⟩ := bind_eq_ok_iff.mp h
  obtain ⟨button, -, h⟩ := bind_eq_ok_iff.mp h
  obtain ⟨listed, hlisted, h⟩ := bind_eq_ok_iff.mp h
  obtain ⟨_, hcheck, h⟩ := bind_eq_ok_iff.mp h
  cases h
  have hpresets : listed.presets = .standard := presets_of_addEntries hlisted
  refine ⟨⟨ho.limits.limits, fun m => ?_⟩, hcheck⟩
  have hstandard := inWords_standard_presets m
  cases m with
  | pla => exact ho.pla.apply (hpresets ▸ hstandard)
  | tpu => exact ho.tpu.apply (hpresets ▸ hstandard)

/-! ### Documents -/

/-- What the text of a document says about the panel. -/
def saidBy? (text : String) : Option Overrides :=
  (Toml.parse? text).bind Overrides.ofDocument?

/-- A text that can be read gives the settings that its overrides make of the defaults, and any
other one is malformed. -/
theorem ofText_eq (text : String) :
    ofText text = (saidBy? text).elim (.error .malformed) (·.settings.mapError .refused) := by
  unfold ofText saidBy?
  cases (Toml.parse? text).bind Overrides.ofDocument? <;> rfl

/-- Settings are read from a text that can be decoded, if they can be built from what it says. -/
theorem ofText_eq_ok_iff {text : String} :
    ofText text = .ok s ↔ ∃ o, saidBy? text = some o ∧ o.settings = .ok s := by
  rw [ofText_eq]
  cases saidBy? text with
  | none => simp
  | some o => cases hbuilt : o.settings <;> simp [Except.mapError, hbuilt]

/-- A value is refused in a text that can be decoded, if settings cannot be built with it. -/
theorem ofText_eq_refused_iff {text : String} {e : SettingsError} :
    ofText text = .error (.refused e) ↔ ∃ o, saidBy? text = some o ∧ o.settings = .error e := by
  rw [ofText_eq]
  cases saidBy? text with
  | none => simp
  | some o => cases hbuilt : o.settings <;> simp [Except.mapError, hbuilt]

/-- Settings that are read from a document fit in words and have been checked. -/
theorem inWords_of_text {text : String} (h : ofText text = .ok s) :
    s.InWords ∧ s.check = .ok () := by
  obtain ⟨o, ho, hbuilt⟩ := ofText_eq_ok_iff.mp h
  obtain ⟨document, -, hoverrides⟩ := Option.bind_eq_some_iff.mp ho
  exact inWords_of_overrides (Overrides.inWords_of_document hoverrides) hbuilt

end Settings

/-! ### Runs with loaded settings -/

namespace Panel

variable {text : String} {s : Settings} {width height : Nat} {a : Answers}
  {ops before later : List (Operation × Answers)}

/-- Whatever a panel with loaded settings sends while an edit is open respects the limits of the
settings. -/
theorem loaded_respects (hloaded : Settings.ofText text = .ok s) (hops : ∀ x ∈ ops, x.1 ≠ .start)
    (hreports : ∀ x ∈ (.start, a) :: ops, x.2.Report Status.InWords) {op : Operation} {b : Answers}
    (hrun : (.start, a) :: ops = before ++ (op, b) :: later) {e : Edit} {c : Command}
    (he : ((ofSettings s width height).run before).1.edit = some e)
    (hc : c ∈ submitted (((ofSettings s width height).run before).1.perform op b).events) :
    ∃ first r keys, (ofSettings s width height).EditedSince before first r keys ∧
      e = first.after keys ∧ c.Respects s.limits r keys e.value := by
  obtain ⟨hwords, hcheck⟩ := Settings.inWords_of_text hloaded
  obtain ⟨-, -, heffect⟩ := ((editSession_of_run hops hrun).mem_submitted_iff he).mp hc
  exact started_edit_respects hops hcheck hwords.limits hreports hrun he heffect

/-- During a run with loaded settings, these stay but for numbers of the presets, and the presets
are permitted by the settings. -/
theorem loaded_keeps (hloaded : Settings.ofText text = .ok s) (hops : ∀ x ∈ ops, x.1 ≠ .start)
    (hrun : (.start, a) :: ops = before ++ later) :
    s.Keeps ((ofSettings s width height).run before).1.settings :=
  (started_keepsPresets hops (Settings.inWords_of_text hloaded).1 hrun).settings

end Panel

end PrinterPanel
