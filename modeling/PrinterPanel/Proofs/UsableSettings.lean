import PrinterPanel.Proofs.LoadedSettings
import PrinterPanel.Proofs.PinText

/-!
# Settings are the document over the standard ones

A document is accepted exactly if each value that it gives follows the rule of its key. The settings
that are then built have what the document gives and the standard value of every key that it leaves
out, and the panel can be run with them.
-/

namespace PrinterPanel

open Numeric (Single)

/-! ### Checks in sequence -/

section Checks

variable {ε β : Type}

/-- What comes behind a check is done exactly if nothing is refused. -/
theorem guard_eq_ok_iff {refused : Prop} [Decidable refused] {e : ε} {next : PUnit → Except ε β}
    {y : β} :
    (if refused then (throw e >>= fun x => next x) else next ⟨⟩) = .ok y ↔
      ¬ refused ∧ next ⟨⟩ = .ok y := by
  split
  · next hrefused =>
    refine iff_of_false (fun h => ?_) (fun h => h.1 hrefused)
    contradiction
  · next hpassed => exact ⟨fun h => ⟨hpassed, h⟩, And.right⟩

/-- A check that comes last succeeds if it does not refuse. -/
theorem last_guard_eq_ok_iff {refused : Prop} [Decidable refused] {e : ε} :
    (if refused then throw e else pure ⟨⟩ : Except ε PUnit) = .ok ⟨⟩ ↔ ¬ refused := by
  split
  · next hrefused =>
    refine iff_of_false (fun h => ?_) (fun h => h hrefused)
    contradiction
  · next hpassed => exact iff_of_true rfl hpassed

end Checks

/-! ### Given or standard -/

/-- The value of a key: what is read from the document or, if the key is left out, the standard
value. -/
def Chosen {α β : Type} (given : Option α) (standard : β) (reads : α → β → Prop) (value : β) :
    Prop :=
  match given with
  | some x => reads x value
  | none => value = standard

section Chosen

variable {ε α β : Type} {given : Option α} {standard value : β} {reads : α → β → Prop}

/-- A property of the standard value holds of the value in use if it holds of the given one. -/
theorem getD_iff {P : β → Prop} {given : Option β} (h : P standard) :
    P (given.getD standard) ↔ ∀ x ∈ given, P x := by
  refine ⟨fun hvalue => ?_, fun hgiven => of_getD hgiven h⟩
  rintro x rfl
  exact hvalue

/-- A key that is read by a function has its value, or else the standard one. -/
theorem chosen_iff_eq_getD {f : α → β} :
    Chosen given standard (fun x y => y = f x) value ↔ value = (given.map f).getD standard := by
  cases given <;> rfl

/-- A value that is parsed, where the standard value has a text, too. -/
theorem chosen_iff_parse {parse : α → Except ε β} {text : α}
    (hparse : ∀ x y, parse x = .ok y ↔ reads x y) (hstandard : parse text = .ok standard) :
    parse (given.getD text) = .ok value ↔ Chosen given standard reads value := by
  cases given with
  | some x => exact hparse x value
  | none =>
    rw [Option.getD_none, hstandard]
    exact ⟨fun h => (Except.ok.inj h).symm, fun h => congrArg _ (Eq.symm h)⟩

/-- There is a value for a key if what is given can be read. -/
theorem exists_chosen (standard : β) (h : ∀ x ∈ given, ∃ y, reads x y) :
    ∃ y, Chosen given standard reads y := by
  cases given with
  | some x => exact h x rfl
  | none => exact ⟨standard, rfl⟩

/-- A key that has its value can be read. -/
theorem Chosen.exists_reads (h : Chosen given standard reads value) :
    ∀ x ∈ given, ∃ y, reads x y := by
  rintro x rfl
  exact ⟨value, h⟩

/-- What holds of the standard value and of everything that is read holds of the value. -/
theorem Chosen.of_forall (h : Chosen given standard reads value) {P : β → Prop}
    (hreads : ∀ x ∈ given, ∀ y, reads x y → P y) (hstandard : P standard) : P value := by
  cases given with
  | some x => exact hreads x rfl value h
  | none =>
    obtain rfl : value = standard := h
    exact hstandard

/-- A number that must not be 0, where what is given is taken as 0 unless it keeps its rule. -/
theorem chosen_iff_ne_zero (given : Option α) (read : α → Nat) {number : α → Nat}
    {rule : α → Prop} {standard n : Nat} (hrule : ∀ x, number x ≠ 0 ↔ rule x)
    (hread : ∀ x, rule x → number x = read x) (hstandard : standard ≠ 0) :
    ((given.map number).getD standard ≠ 0 ∧ n = (given.map number).getD standard) ↔
      (∀ x ∈ given, rule x) ∧ Chosen given standard (fun x n => n = read x) n := by
  cases given with
  | some x =>
    have hgiven : (∀ y ∈ some x, rule y) ↔ rule x := by simp
    rw [hgiven, ← hrule x]
    refine and_congr_right fun hx => ?_
    change n = number x ↔ n = read x
    rw [hread x ((hrule x).mp hx)]
  | none => exact ⟨fun h => ⟨fun _ hx => by contradiction, h.2⟩, fun h => ⟨hstandard, h.2⟩⟩

end Chosen

/-! ### Language, backlight and machine data -/

namespace Language

/-- The names by which languages are found are their own. -/
theorem ofName?_eq_some_iff {name : String} {l : Language} :
    ofName? name = some l ↔ name = l.name := by
  constructor
  · intro h
    have hname : (l.name == name) = true := by
      unfold ofName? at h
      simpa using List.find?_some h
    exact (beq_iff_eq.mp hname).symm
  · rintro rfl
    exact ofName?_name l

/-- A language is read from its name, with or without blanks around it. -/
theorem parse_eq_ok_iff {name : String} {l : Language} :
    parse name = .ok l ↔ Text.trimmed name = l.name := by
  rw [← ofName?_eq_some_iff, parse]
  cases ofName? (Text.trimmed name) <;> simp

end Language

namespace Text

variable {room : Nat} {cs kept : List Char}

/-- The longest piece of a text, from its start, that takes at most `room` bytes. -/
structure LongestStart (room : Nat) (cs kept : List Char) : Prop where
  start : kept <+: cs
  fits : size kept ≤ room
  longest : ∀ longer, longer <+: cs → size longer ≤ room → longer <+: kept

/-- To cut a text to a room leaves its longest start that fits in. -/
theorem longestStart_cut (room : Nat) (cs : List Char) : LongestStart room cs (cut room cs) where
  start := cut_isPrefix room cs
  fits := size_cut_le room cs
  longest := by
    induction cs generalizing room with
    | nil => exact fun longer hlonger _ => hlonger
    | cons c cs ih =>
      intro longer hlonger hsize
      cases longer with
      | nil => exact List.nil_prefix
      | cons d rest =>
        obtain ⟨rfl, hrest⟩ := List.cons_prefix_cons.mp hlonger
        rw [size_cons] at hsize
        rw [cut, if_pos (by omega)]
        exact List.cons_prefix_cons.mpr ⟨rfl, ih _ rest hrest (by omega)⟩

/-- The longest start of a text that fits in a room is the one that the text is cut to. -/
theorem longestStart_iff : LongestStart room cs kept ↔ kept = cut room cs := by
  have hcut := longestStart_cut room cs
  constructor
  · intro h
    have hinto := hcut.longest kept h.start h.fits
    have hback := h.longest _ hcut.start hcut.fits
    exact hinto.eq_of_length_le hback.length_le
  · rintro rfl
    exact hcut

/-- The same for strings. -/
theorem longestStart_string_iff {text value : String} :
    LongestStart room text.toList value.toList ↔ value = cutString room text := by
  rw [longestStart_iff, cutString]
  constructor
  · intro h
    rw [← h, String.ofList_toList]
  · rintro rfl
    exact String.toList_ofList

end Text

namespace ScreenSettings

/-- Screen settings that are those of a document over the standard ones. -/
structure Follows (s : ScreenSettings) (o : ScreenOverrides) : Prop where
  dimTicks : s.dimTicks = o.dimTicks.getD standard.dimTicks
  brightness : s.brightness = o.brightness.getD standard.brightness
  dimBrightness : s.dimBrightness = o.dimBrightness.getD standard.dimBrightness
  version : Chosen o.version standard.version
    (fun text value => Text.LongestStart versionRoom text.toList value.toList) s.version
  website : Chosen o.website standard.website
    (fun text value => Text.LongestStart websiteRoom text.toList value.toList) s.website

/-- Screen settings over the standard ones are those that the overrides make. -/
theorem follows_iff {s : ScreenSettings} {o : ScreenOverrides} : s.Follows o ↔ s = o.screen := by
  have htext {given : Option String} {room : Nat} {standard value : String} :
      Chosen given standard
          (fun text value => Text.LongestStart room text.toList value.toList) value ↔
        value = (given.map (Text.cutString room)).getD standard := by
    simp only [Text.longestStart_string_iff]
    exact chosen_iff_eq_getD
  obtain ⟨dimTicks, brightness, dimBrightness, version, website⟩ := s
  rw [ScreenOverrides.screen, ScreenSettings.mk.injEq, ← htext, ← htext]
  exact ⟨fun h => ⟨h.dimTicks, h.brightness, h.dimBrightness, h.version, h.website⟩,
    fun ⟨hticks, hlevel, hdim, hversion, hwebsite⟩ => ⟨hticks, hlevel, hdim, hversion, hwebsite⟩⟩

/-- The texts of the machine page fit in their rooms. -/
theorem Follows.texts_fit {s : ScreenSettings} {o : ScreenOverrides} (h : s.Follows o) :
    Text.size s.version.toList ≤ versionRoom ∧ Text.size s.website.toList ≤ websiteRoom :=
  ⟨h.version.of_forall (P := fun text => Text.size text.toList ≤ versionRoom)
      (fun _ _ _ hkept => hkept.fits) (by decide),
    h.website.of_forall (P := fun text => Text.size text.toList ≤ websiteRoom)
      (fun _ _ _ hkept => hkept.fits) (by decide)⟩

end ScreenSettings

/-- The language is the one that the document names, or the standard one. -/
theorem ScreenOverrides.languageOf_eq_ok_iff {o : ScreenOverrides} {l : Language} :
    o.languageOf = .ok l ↔
      Chosen o.language Settings.standard.language
        (fun name l => Text.trimmed name = l.name) l := by
  unfold languageOf Chosen
  cases o.language with
  | some name => exact Language.parse_eq_ok_iff
  | none => simp [eq_comm]

/-! ### Encoder -/

/-- Encoder settings that the panel can work with. -/
structure EncoderSettings.Usable (e : EncoderSettings) : Prop where
  phaseA : e.phaseA.WellNamed
  phaseB : e.phaseB.WellNamed
  stepsPerDetent : e.stepsPerDetent = 2 ∨ e.stepsPerDetent = 4
  fastRateMs : 1 ≤ e.fastRateMs

/-- The rules for what a document says of the encoder. -/
structure EncoderOverrides.Allowed (o : EncoderOverrides) : Prop where
  pins : ∀ text ∈ o.pins, ∃ pins, Pin.SpellsPair text.toList pins
  stepsPerDetent : ∀ steps ∈ o.stepsPerDetent, steps = 2 ∨ steps = 4
  fastRate : ∀ seconds ∈ o.fastRate, seconds.isPositive

/-- Encoder settings that are those of a document over the standard ones. -/
structure EncoderSettings.Follows (e : EncoderSettings) (o : EncoderOverrides) : Prop where
  pins : Chosen o.pins (standard.phaseA, standard.phaseB)
    (fun text => Pin.SpellsPair text.toList) (e.phaseA, e.phaseB)
  stepsPerDetent : e.stepsPerDetent = o.stepsPerDetent.getD standard.stepsPerDetent
  fastRateMs : Chosen o.fastRate standard.fastRateMs
    (fun seconds ms => ms = max 1 ((seconds.timesNat 1000).roundToNat Bounds.counterLimit))
    e.fastRateMs
  longPressMs : e.longPressMs = o.longPressMs.getD standard.longPressMs

namespace EncoderSettings

/-- Encoder settings are built from two pins, a number of steps and a rate that are allowed. -/
theorem build_eq_ok_iff {pins : String} {steps ms : Nat} {e : EncoderSettings} :
    build pins steps ms = .ok e ↔
      Pin.parsePair pins = .ok (e.phaseA, e.phaseB) ∧ (steps = 2 ∨ steps = 4) ∧ ms ≠ 0 ∧
        e.stepsPerDetent = steps ∧ e.fastRateMs = ms ∧ e.longPressMs = standard.longPressMs := by
  unfold build
  simp only [bind_eq_ok_iff, guard_eq_ok_iff, pure, Except.pure, Except.ok.injEq]
  constructor
  · rintro ⟨pair, hpair, hsteps, hms, rfl⟩
    exact ⟨hpair, by omega, hms, rfl, rfl, rfl⟩
  · rintro ⟨hpair, hsteps, hms, rfl, rfl, hlong⟩
    refine ⟨_, hpair, by omega, hms, ?_⟩
    rw [← hlong]

/-- The pins that a document leaves out are the standard ones. -/
theorem parsePair_defaultPins :
    Pin.parsePair defaultPins = .ok (standard.phaseA, standard.phaseB) := by
  decide

end EncoderSettings

namespace EncoderOverrides

variable {o : EncoderOverrides} {e : EncoderSettings}

/-- A rate of the encoder counts as some time if it is positive. -/
theorem milliseconds_ne_zero_iff (seconds : Single) :
    milliseconds seconds ≠ 0 ↔ seconds.isPositive := by
  unfold milliseconds
  split
  · next hpositive => exact iff_of_true (by omega) hpositive
  · next hpositive => exact iff_of_false (fun h => h rfl) hpositive

/-- Encoder settings are built if the document keeps the rules, and then follow it. -/
theorem encoder_eq_ok_iff : o.encoder = .ok e ↔ o.Allowed ∧ e.Follows o := by
  have hpins {pins : Pin × Pin} :
      Pin.parsePair (o.pins.getD EncoderSettings.defaultPins) = .ok pins ↔
        Chosen o.pins (EncoderSettings.standard.phaseA, EncoderSettings.standard.phaseB)
          (fun text => Pin.SpellsPair text.toList) pins :=
    chosen_iff_parse Pin.parsePair_eq_ok_iff EncoderSettings.parsePair_defaultPins
  have hstandard : EncoderSettings.standard.fastRateMs ≠ 0 := by decide
  have hrate {ms : Nat} := chosen_iff_ne_zero o.fastRate
    (fun seconds => max 1 ((seconds.timesNat 1000).roundToNat Bounds.counterLimit)) (n := ms)
    milliseconds_ne_zero_iff (fun _ hpositive => if_pos hpositive) hstandard
  unfold encoder
  simp only [bind_eq_ok_iff, EncoderSettings.build_eq_ok_iff, hpins, pure, Except.pure,
    Except.ok.injEq]
  constructor
  · rintro ⟨built, ⟨hchosen, hsteps, hpositive, hbuiltSteps, hbuiltMs, -⟩, rfl⟩
    obtain ⟨hrule, hms⟩ := hrate.mp ⟨hpositive, hbuiltMs⟩
    refine ⟨⟨hchosen.exists_reads, ?_, hrule⟩, hchosen, hbuiltSteps, hms, rfl⟩
    intro steps hgiven
    rwa [Option.mem_def.mp hgiven] at hsteps
  · rintro ⟨⟨-, hsteps, hrule⟩, hchosen, hbuiltSteps, hms, hlong⟩
    obtain ⟨hpositive, hbuiltMs⟩ := hrate.mpr ⟨hrule, hms⟩
    refine ⟨{ e with longPressMs := EncoderSettings.standard.longPressMs },
      ⟨hchosen, ?_, hpositive, hbuiltSteps, hbuiltMs, rfl⟩, ?_⟩
    · exact of_getD (P := fun steps => steps = 2 ∨ steps = 4) hsteps (.inr rfl)
    · rw [← hlong]

/-- There are encoder settings for a document that keeps the rules. -/
theorem Allowed.exists_follows (h : o.Allowed) : ∃ e : EncoderSettings, e.Follows o := by
  obtain ⟨⟨phaseA, phaseB⟩, hpins⟩ :=
    exists_chosen (EncoderSettings.standard.phaseA, EncoderSettings.standard.phaseB) h.pins
  exact ⟨⟨phaseA, phaseB, _, _, _⟩, hpins, rfl, chosen_iff_eq_getD.mpr rfl, rfl⟩

end EncoderOverrides

/-- Both pins that are read have names that fit their place. -/
theorem Pin.SpellsPair.wellNamed {cs : List Char} {pins : Pin × Pin} (h : SpellsPair cs pins) :
    pins.1.WellNamed ∧ pins.2.WellNamed := by
  obtain ⟨-, first, second, -, ha, hb⟩ := h
  exact ⟨ha.toWellNamed, hb.toWellNamed⟩

/-- Encoder settings for a document that keeps the rules can be worked with. -/
theorem EncoderSettings.Follows.usable {e : EncoderSettings} {o : EncoderOverrides}
    (h : e.Follows o) (ho : o.Allowed) : e.Usable := by
  have hstandard := ((Pin.parsePair_eq_ok_iff _ _).mp parsePair_defaultPins).wellNamed
  have hpins := h.pins.of_forall (P := fun pins => pins.1.WellNamed ∧ pins.2.WellNamed)
    (fun _ _ _ hspells => hspells.wellNamed) hstandard
  refine ⟨hpins.1, hpins.2, ?_, ?_⟩
  · rw [h.stepsPerDetent]
    exact of_getD (P := fun steps => steps = 2 ∨ steps = 4) ho.stepsPerDetent (.inr rfl)
  · refine h.fastRateMs.of_forall (P := fun ms => 1 ≤ ms) ?_ (by decide)
    rintro _ _ _ rfl
    exact Nat.le_max_left _ _

/-! ### Button -/

/-- Button settings that the panel can work with. -/
structure ButtonSettings.Usable (b : ButtonSettings) : Prop where
  pin : b.pin.WellNamed
  window : ∀ w ∈ b.window, w.low.less w.high
  pullupOhms : 1 ≤ b.pullupOhms

/-- The rules for what a document says of the button. A resistor is not too small to be at least one
whole ohm. -/
structure ButtonOverrides.Allowed (o : ButtonOverrides) : Prop where
  pin : ∀ text ∈ o.pin, ∃ pin, Pin.Spells text.toList pin
  window : ∀ ends ∈ o.window, ends.1.less ends.2
  pullup : ∀ ohms ∈ o.pullup, ohms.isPositive ∧ 1 ≤ ohms.roundToNat Bounds.counterLimit

/-- Button settings that are those of a document over the standard ones. -/
structure ButtonSettings.Follows (b : ButtonSettings) (o : ButtonOverrides) : Prop where
  pin : Chosen o.pin standard.pin (fun text => Pin.Spells text.toList) b.pin
  window : b.window = o.window.map fun ends => ⟨ends.1, ends.2⟩
  pullupOhms : Chosen o.pullup standard.pullupOhms
    (fun ohms n => n = ohms.roundToNat Bounds.counterLimit) b.pullupOhms

namespace ButtonSettings

/-- Button settings are built from a pin and a resistor that are allowed. -/
theorem build_eq_ok_iff {pin : String} {window : Option VoltageWindow} {ohms : Nat}
    {b : ButtonSettings} :
    build pin window ohms = .ok b ↔
      Pin.parse pin = .ok b.pin ∧ b.window = window ∧ ohms ≠ 0 ∧ b.pullupOhms = ohms := by
  unfold build
  simp only [bind_eq_ok_iff, guard_eq_ok_iff, pure, Except.pure, Except.ok.injEq]
  constructor
  · rintro ⟨hohms, pin, hpin, rfl⟩
    exact ⟨hpin, rfl, hohms, rfl⟩
  · rintro ⟨hpin, rfl, hohms, rfl⟩
    exact ⟨hohms, _, hpin, rfl⟩

/-- The pin that a document leaves out is the standard one. -/
theorem parse_defaultPin : Pin.parse defaultPin = .ok standard.pin := by
  decide

end ButtonSettings

namespace ButtonOverrides

variable {o : ButtonOverrides} {b : ButtonSettings}

/-- A resistor counts as some ohms if it is positive and one whole ohm at least. -/
theorem wholeOhms_ne_zero_iff (ohms : Single) :
    wholeOhms ohms ≠ 0 ↔ ohms.isPositive ∧ 1 ≤ ohms.roundToNat Bounds.counterLimit := by
  unfold wholeOhms
  split
  · next hpositive =>
    rw [Nat.ne_zero_iff_zero_lt]
    exact ⟨fun h => ⟨hpositive, h⟩, And.right⟩
  · next hpositive => exact iff_of_false (fun h => h rfl) (fun h => hpositive h.1)

/-- The button is built from what the document gives, once its window was checked. -/
theorem button_eq_build (o : ButtonOverrides) :
    o.button = .ok b ↔ (∀ ends ∈ o.window, ends.1.less ends.2) ∧
      ButtonSettings.build (o.pin.getD ButtonSettings.defaultPin)
        (o.window.map fun ends => ⟨ends.1, ends.2⟩)
        ((o.pullup.map wholeOhms).getD ButtonSettings.standard.pullupOhms) = .ok b := by
  unfold button
  dsimp only
  cases o.window with
  | none =>
    refine ⟨fun h => ⟨fun _ hends => by contradiction, h⟩, And.right⟩
  | some ends =>
    obtain ⟨low, high⟩ := ends
    dsimp only
    unfold VoltageWindow.build
    split
    · next hless => exact ⟨fun h => ⟨by simpa using hless, h⟩, And.right⟩
    · next hless => exact iff_of_false (fun h => by contradiction) (fun h => hless (h.1 _ rfl))

/-- Button settings are built if the document keeps the rules, and then follow it. -/
theorem button_eq_ok_iff : o.button = .ok b ↔ o.Allowed ∧ b.Follows o := by
  have hpin {pin : Pin} : Pin.parse (o.pin.getD ButtonSettings.defaultPin) = .ok pin ↔
      Chosen o.pin ButtonSettings.standard.pin (fun text => Pin.Spells text.toList) pin :=
    chosen_iff_parse (fun _ _ => Pin.ofChars_eq_ok_iff) ButtonSettings.parse_defaultPin
  have hstandard : ButtonSettings.standard.pullupOhms ≠ 0 := by decide
  have hpullup {n : Nat} := chosen_iff_ne_zero o.pullup
    (fun ohms => ohms.roundToNat Bounds.counterLimit) (n := n)
    wholeOhms_ne_zero_iff (fun _ hrule => if_pos hrule.1) hstandard
  rw [button_eq_build, ButtonSettings.build_eq_ok_iff, hpin, hpullup]
  constructor
  · rintro ⟨hwindow, hchosen, hbuilt, hrule, hohms⟩
    exact ⟨⟨hchosen.exists_reads, hwindow, hrule⟩, hchosen, hbuilt, hohms⟩
  · rintro ⟨⟨-, hwindow, hrule⟩, hchosen, hbuilt, hohms⟩
    exact ⟨hwindow, hchosen, hbuilt, hrule, hohms⟩

/-- There are button settings for a document that keeps the rules. -/
theorem Allowed.exists_follows (h : o.Allowed) : ∃ b : ButtonSettings, b.Follows o := by
  obtain ⟨pin, hpin⟩ := exists_chosen ButtonSettings.standard.pin h.pin
  exact ⟨⟨pin, _, _⟩, hpin, rfl, chosen_iff_eq_getD.mpr rfl⟩

end ButtonOverrides

/-- Button settings for a document that keeps the rules can be worked with. -/
theorem ButtonSettings.Follows.usable {b : ButtonSettings} {o : ButtonOverrides}
    (h : b.Follows o) (ho : o.Allowed) : b.Usable := by
  refine ⟨?_, ?_, ?_⟩
  · exact h.pin.of_forall (fun _ _ _ hspells => hspells.toWellNamed)
      (Pin.ofChars_eq_ok_iff.mp parse_defaultPin).toWellNamed
  · intro w hw
    rw [h.window] at hw
    obtain ⟨ends, hends, rfl⟩ := Option.map_eq_some_iff.mp hw
    exact ho.window ends hends
  · refine h.pullupOhms.of_forall (P := fun n => 1 ≤ n) ?_ (by decide)
    rintro ohms hgiven _ rfl
    exact (ho.pullup ohms hgiven).2

/-! ### Macros -/

/-- A macro that the menu can list and the printer can run. -/
structure Macro.Usable (m : Macro) : Prop where
  start : idStart <+: m.id.toList
  idFits : Text.size m.id.toList ≤ idRoom
  idTrimmed : Text.Trimmed m.id.toList
  label : m.label ≠ ""
  labelFits : Text.size m.label.toList ≤ labelRoom
  labelTrimmed : Text.Trimmed m.label.toList
  gcode : m.gcode ≠ ""
  gcodeFits : Text.size m.gcode.toList ≤ gcodeRoom
  gcodeTrimmed : Text.Trimmed m.gcode.toList

namespace MacroEntry

/-- The macro of an entry. -/
def trimmed (e : MacroEntry) : Macro where
  id := Text.trimmed e.id
  label := Text.trimmed e.label
  icon := e.icon.getD Macro.defaultIcon
  gcode := Text.trimmed e.gcode

/-- The rules for a macro. -/
structure Allowed (e : MacroEntry) : Prop where
  start : Macro.idStart <+: Text.trim e.id.toList
  idFits : Text.size (Text.trim e.id.toList) ≤ Macro.idRoom
  label : Text.trim e.label.toList ≠ []
  labelFits : Text.size (Text.trim e.label.toList) ≤ Macro.labelRoom
  gcode : Text.trim e.gcode.toList ≠ []
  gcodeFits : Text.size (Text.trim e.gcode.toList) ≤ Macro.gcodeRoom

variable {e : MacroEntry} {entries : List MacroEntry} {s t : Settings}

/-- A macro is built from an entry that keeps the rules, without the blanks around its texts. -/
theorem build_eq_ok_iff {m : Macro} :
    Macro.build e.id e.label e.icon e.gcode = .ok m ↔ e.Allowed ∧ m = e.trimmed := by
  unfold Macro.build
  simp only [guard_eq_ok_iff, pure, Except.pure, Except.ok.injEq, Bool.not_eq_true',
    Bool.not_eq_false, List.isPrefixOf_iff_prefix, Bool.or_eq_true, List.isEmpty_iff,
    decide_eq_true_eq, not_or, not_lt]
  constructor
  · rintro ⟨hstart, ⟨hlabel, hgcode⟩, hid, ⟨hlabelFits, hgcodeFits⟩, rfl⟩
    exact ⟨⟨hstart, hid, hlabel, hlabelFits, hgcode, hgcodeFits⟩, rfl⟩
  · rintro ⟨⟨hstart, hid, hlabel, hlabelFits, hgcode, hgcodeFits⟩, rfl⟩
    exact ⟨hstart, ⟨hlabel, hgcode⟩, hid, ⟨hlabelFits, hgcodeFits⟩, rfl⟩

/-- A macro of an entry that keeps the rules can be listed and run. -/
theorem Allowed.usable (h : e.Allowed) : e.trimmed.Usable := by
  have hne {text : String} (h : Text.trim text.toList ≠ []) : Text.trimmed text ≠ "" := by
    intro hempty
    rw [Text.trimmed, String.ofList_eq_empty_iff] at hempty
    exact h hempty
  have hchars (text : String) : (Text.trimmed text).toList = Text.trim text.toList :=
    String.toList_ofList
  refine ⟨?_, ?_, ?_, hne h.label, ?_, ?_, hne h.gcode, ?_, ?_⟩ <;>
    simp only [trimmed, hchars]
  · exact h.start
  · exact h.idFits
  · exact Text.trimmed_trim _
  · exact h.labelFits
  · exact Text.trimmed_trim _
  · exact h.gcodeFits
  · exact Text.trimmed_trim _

/-- A macro that keeps the rules is added behind the others while there is room. -/
theorem addEntry_eq_ok_iff : s.addEntry e = .ok t ↔
    e.Allowed ∧ s.macros.length < Settings.maxMacros ∧
      t = { s with macros := s.macros ++ [e.trimmed] } := by
  unfold Settings.addEntry Settings.addMacro
  simp only [bind_eq_ok_iff, build_eq_ok_iff]
  constructor
  · rintro ⟨_, ⟨hallowed, rfl⟩, hadded⟩
    split at hadded
    · next hroom => exact ⟨hallowed, hroom, (Except.ok.inj hadded).symm⟩
    · contradiction
  · rintro ⟨hallowed, hroom, rfl⟩
    exact ⟨_, ⟨hallowed, rfl⟩, if_pos hroom⟩

/-- Macros are added in the order of their entries, as many as the menu has room for. -/
theorem addEntries_eq_ok_iff (hs : s.macros.length ≤ Settings.maxMacros) :
    entries.foldlM Settings.addEntry s = .ok t ↔
      (∀ e ∈ entries, e.Allowed) ∧ s.macros.length + entries.length ≤ Settings.maxMacros ∧
        t = { s with macros := s.macros ++ entries.map trimmed } := by
  induction entries generalizing s with
  | nil => simp [pure, Except.pure, hs, eq_comm]
  | cons e rest ih =>
    have hlonger : (s.macros ++ [e.trimmed]).length = s.macros.length + 1 := by simp
    rw [List.foldlM_cons, bind_eq_ok_iff]
    simp only [addEntry_eq_ok_iff, List.forall_mem_cons, List.length_cons, List.map_cons]
    constructor
    · rintro ⟨_, ⟨hallowed, hroom, rfl⟩, hrest⟩
      obtain ⟨hall, hlength, rfl⟩ := (ih (hlonger ▸ hroom)).mp hrest
      rw [hlonger] at hlength
      exact ⟨⟨hallowed, hall⟩, by omega, by simp⟩
    · rintro ⟨⟨hallowed, hall⟩, hlength, rfl⟩
      have hroom : s.macros.length < Settings.maxMacros := by omega
      refine ⟨_, ⟨hallowed, hroom, rfl⟩, (ih (hlonger ▸ hroom)).mpr ⟨hall, ?_, by simp⟩⟩
      rw [hlonger]
      omega

end MacroEntry

/-! ### Presets, limits and features -/

/-- A preset that is that of a document over a standard one. More than all of the fan counts as all
of it. -/
structure Preset.Follows (p : Preset) (o : PresetOverrides) (standard : Preset) : Prop where
  name : p.name = standard.name
  hotend : p.hotend = o.hotend.getD standard.hotend
  bed : p.bed = o.bed.getD standard.bed
  fan : Chosen o.fan standard.fan (fun percent fan => fan = min 100 percent) p.fan

/-- A preset over a standard one is the one that the overrides make. -/
theorem Preset.follows_iff {p standard : Preset} {o : PresetOverrides} :
    p.Follows o standard ↔ p = o.apply standard := by
  have hfan {fan : Nat} : Chosen o.fan standard.fan (fun percent fan => fan = min 100 percent) fan ↔
      fan = (o.fan.map (min PresetOverrides.fullFan)).getD standard.fan := chosen_iff_eq_getD
  obtain ⟨name, hotend, bed, fan⟩ := p
  rw [PresetOverrides.apply, Preset.mk.injEq, ← hfan]
  exact ⟨fun h => ⟨h.name, h.hotend, h.bed, h.fan⟩, fun ⟨hname, hhotend, hbed, hfan⟩ =>
    ⟨hname, hhotend, hbed, hfan⟩⟩

/-- A preset over a standard one has no more than all of the fan. -/
theorem Preset.Follows.fan_le {p standard : Preset} {o : PresetOverrides}
    (h : p.Follows o standard) (hstandard : standard.fan ≤ 100) : p.fan ≤ 100 := by
  refine h.fan.of_forall (P := fun fan => fan ≤ 100) ?_ hstandard
  rintro _ _ _ rfl
  exact Nat.min_le_left _ _

/-- Limits with no empty range and no negative window. -/
structure Limits.Usable (l : Limits) : Prop where
  x : l.x.min < l.x.max
  y : l.y.min < l.y.max
  z : l.z.min < l.z.max
  hotend : l.hotend.min < l.hotend.max
  bed : l.bed.min < l.bed.max
  maxExtrusion : 0 ≤ l.maxExtrusion
  zOffset : 0 ≤ l.zOffset

/-- The rules for what a document says of the limits. -/
structure LimitOverrides.Allowed (o : LimitOverrides) : Prop where
  x : ∀ s ∈ o.x, s.min < s.max
  y : ∀ s ∈ o.y, s.min < s.max
  z : ∀ s ∈ o.z, s.min < s.max
  hotend : ∀ s ∈ o.hotend, s.min < s.max
  bed : ∀ s ∈ o.bed, s.min < s.max
  maxExtrusion : ∀ mm ∈ o.maxExtrusion, 0 ≤ mm
  zOffset : ∀ um ∈ o.zOffset, 0 ≤ um

/-- Limits that are those of a document over the standard ones. -/
structure Limits.Follows (l : Limits) (o : LimitOverrides) : Prop where
  x : l.x = o.x.getD standard.x
  y : l.y = o.y.getD standard.y
  z : l.z = o.z.getD standard.z
  hotend : l.hotend = o.hotend.getD standard.hotend
  bed : l.bed = o.bed.getD standard.bed
  minExtrudeTemp : l.minExtrudeTemp = o.minExtrudeTemp.getD standard.minExtrudeTemp
  maxExtrusion : l.maxExtrusion = o.maxExtrusion.getD standard.maxExtrusion
  zOffset : l.zOffset = o.zOffset.getD standard.zOffset

namespace Limits

variable {l : Limits} {o : LimitOverrides}

/-- Limits over the standard ones are those that the overrides make. -/
theorem follows_iff : l.Follows o ↔ l = o.limits := by
  obtain ⟨x, y, z, hotend, bed, minExtrudeTemp, maxExtrusion, zOffset⟩ := l
  rw [LimitOverrides.limits, Limits.mk.injEq]
  exact ⟨fun h => ⟨h.x, h.y, h.z, h.hotend, h.bed, h.minExtrudeTemp, h.maxExtrusion, h.zOffset⟩,
    fun ⟨hx, hy, hz, hhotend, hbed, htemp, hextrusion, hoffset⟩ =>
      ⟨hx, hy, hz, hhotend, hbed, htemp, hextrusion, hoffset⟩⟩

/-- The limits that pass their check are those without an empty range or a negative window. -/
theorem check_eq_ok_iff : l.check = .ok () ↔ l.Usable := by
  unfold check
  rw [guard_eq_ok_iff, guard_eq_ok_iff, guard_eq_ok_iff, last_guard_eq_ok_iff]
  constructor
  · rintro ⟨haxes, htemps, hextrusion, hoffset⟩
    constructor <;> omega
  · rintro ⟨hx, hy, hz, hhotend, hbed, hextrusion, hoffset⟩
    omega

/-- The standard limits keep the rules, so that only what is given can break them. -/
theorem usable_limits_iff : o.limits.Usable ↔ o.Allowed := by
  have hspan {given : Option Span} {standard : Span} (h : standard.min < standard.max) :
      (given.getD standard).min < (given.getD standard).max ↔ ∀ s ∈ given, s.min < s.max :=
    getD_iff (P := fun s : Span => s.min < s.max) h
  have hamount {given : Option Int} {standard : Int} (h : 0 ≤ standard) :
      0 ≤ given.getD standard ↔ ∀ i ∈ given, 0 ≤ i := getD_iff (P := (0 ≤ ·)) h
  constructor
  · rintro ⟨hx, hy, hz, hhotend, hbed, hextrusion, hoffset⟩
    exact ⟨(hspan (by decide)).mp hx, (hspan (by decide)).mp hy, (hspan (by decide)).mp hz,
      (hspan (by decide)).mp hhotend, (hspan (by decide)).mp hbed,
      (hamount (by decide)).mp hextrusion, (hamount (by decide)).mp hoffset⟩
  · rintro ⟨hx, hy, hz, hhotend, hbed, hextrusion, hoffset⟩
    exact ⟨(hspan (by decide)).mpr hx, (hspan (by decide)).mpr hy, (hspan (by decide)).mpr hz,
      (hspan (by decide)).mpr hhotend, (hspan (by decide)).mpr hbed,
      (hamount (by decide)).mpr hextrusion, (hamount (by decide)).mpr hoffset⟩

end Limits

/-- Features that are those of a document over the standard ones. -/
structure Features.Follows (f : Features) (o : FeatureOverrides) : Prop where
  miscPage : f.miscPage = o.miscPage.getD standard.miscPage
  fan : f.fan = o.fan.getD standard.fan
  bedProbe : f.bedProbe = o.bedProbe.getD standard.bedProbe
  coldGuard : f.coldGuard = o.coldGuard.getD standard.coldGuard
  jerk : f.jerk = o.jerk.getD standard.jerk

/-- Features over the standard ones are those that the overrides make. -/
theorem Features.follows_iff {f : Features} {o : FeatureOverrides} :
    f.Follows o ↔ f = o.features := by
  obtain ⟨miscPage, fan, bedProbe, coldGuard, jerk⟩ := f
  rw [FeatureOverrides.features, Features.mk.injEq]
  exact ⟨fun h => ⟨h.miscPage, h.fan, h.bedProbe, h.coldGuard, h.jerk⟩,
    fun ⟨hmisc, hfan, hprobe, hcold, hjerk⟩ => ⟨hmisc, hfan, hprobe, hcold, hjerk⟩⟩

/-! ### All settings -/

/-- The rules for a document. Every given value is allowed by itself, and there is room for all of
the macros. -/
structure Overrides.Allowed (o : Overrides) : Prop where
  language : ∀ name ∈ o.screen.language, ∃ l : Language, Text.trimmed name = l.name
  encoder : o.encoder.Allowed
  button : o.button.Allowed
  macros : ∀ e ∈ o.macros, e.Allowed
  macroCount : o.macros.length ≤ Settings.maxMacros
  limits : o.limits.Allowed

namespace Settings

/-- Settings that are those of a document over the standard ones. -/
structure Follows (s : Settings) (o : Overrides) : Prop where
  language : Chosen o.screen.language standard.language
    (fun name l => Text.trimmed name = l.name) s.language
  screen : s.screen.Follows o.screen
  encoder : s.encoder.Follows o.encoder
  button : s.button.Follows o.button
  macros : s.macros = o.macros.map MacroEntry.trimmed
  pla : s.presets.pla.Follows o.pla standard.presets.pla
  tpu : s.presets.tpu.Follows o.tpu standard.presets.tpu
  limits : s.limits.Follows o.limits
  features : s.features.Follows o.features

/-- Settings with which the panel can be run. -/
structure Usable (s : Settings) : Prop where
  encoder : s.encoder.Usable
  button : s.button.Usable
  macros : ∀ m ∈ s.macros, m.Usable
  macroCount : s.macros.length ≤ 16
  fans : s.presets.pla.fan ≤ 100 ∧ s.presets.tpu.fan ≤ 100
  limits : s.limits.Usable
  version : Text.size s.screen.version.toList ≤ 16
  website : Text.size s.screen.website.toList ≤ 32

variable {s : Settings} {o : Overrides} {text : String}

/-- Settings for a document that keeps the rules can be used. -/
theorem Follows.usable (h : s.Follows o) (ho : o.Allowed) : s.Usable where
  encoder := h.encoder.usable ho.encoder
  button := h.button.usable ho.button
  macros := by
    rw [h.macros]
    intro m hm
    obtain ⟨e, he, rfl⟩ := List.mem_map.mp hm
    exact (ho.macros e he).usable
  macroCount := by
    rw [h.macros, List.length_map]
    exact ho.macroCount
  fans := ⟨h.pla.fan_le (by decide), h.tpu.fan_le (by decide)⟩
  limits := by
    rw [Limits.follows_iff.mp h.limits]
    exact Limits.usable_limits_iff.mpr ho.limits
  version := h.screen.texts_fit.1
  website := h.screen.texts_fit.2

/-- Settings are built exactly from overrides that keep the rules, and they are those overrides over
the standard settings. -/
theorem settings_eq_ok_iff : o.settings = .ok s ↔ o.Allowed ∧ s.Follows o := by
  unfold Overrides.settings
  simp only [bind_eq_ok_iff, ScreenOverrides.languageOf_eq_ok_iff,
    EncoderOverrides.encoder_eq_ok_iff, ButtonOverrides.button_eq_ok_iff, pure, Except.pure,
    Except.ok.injEq]
  constructor
  · rintro ⟨language, hlanguage, encoder, ⟨hencoder, hwired⟩, button, ⟨hbutton, hpressed⟩,
      listed, hlisted, _, hcheck, rfl⟩
    obtain ⟨hmacros, hcount, rfl⟩ := (MacroEntry.addEntries_eq_ok_iff (Nat.zero_le _)).mp hlisted
    have hlimits := Limits.usable_limits_iff.mp (Limits.check_eq_ok_iff.mp hcheck)
    have hroom : o.macros.length ≤ maxMacros := by simpa [standard] using hcount
    exact ⟨⟨hlanguage.exists_reads, hencoder, hbutton, hmacros, hroom, hlimits⟩,
      hlanguage, ScreenSettings.follows_iff.mpr rfl, hwired, hpressed, rfl,
      Preset.follows_iff.mpr rfl, Preset.follows_iff.mpr rfl, Limits.follows_iff.mpr rfl,
      Features.follows_iff.mpr rfl⟩
  · rintro ⟨hallowed, hfollows⟩
    refine ⟨s.language, hfollows.language, s.encoder, ⟨hallowed.encoder, hfollows.encoder⟩,
      s.button, ⟨hallowed.button, hfollows.button⟩, _,
      (MacroEntry.addEntries_eq_ok_iff (Nat.zero_le _)).mpr ⟨hallowed.macros, ?_, rfl⟩, ⟨⟩,
      Limits.check_eq_ok_iff.mpr (Limits.usable_limits_iff.mpr hallowed.limits), ?_⟩
    · simpa [standard] using hallowed.macroCount
    · obtain ⟨language, encoder, button, listed, ⟨pla, tpu⟩, limits, features, screen⟩ := s
      obtain ⟨-, hscreen, -, -, hlisted, hpla, htpu, hlimits, hfeatures⟩ := hfollows
      obtain rfl := ScreenSettings.follows_iff.mp hscreen
      obtain rfl := hlisted
      obtain rfl := Preset.follows_iff.mp hpla
      obtain rfl := Preset.follows_iff.mp htpu
      obtain rfl := Limits.follows_iff.mp hlimits
      obtain rfl := Features.follows_iff.mp hfeatures
      rfl

/-- Overrides that keep the rules leave nothing open that the settings could fail for. -/
theorem exists_settings (h : o.Allowed) : ∃ s, o.settings = .ok s := by
  obtain ⟨language, hlanguage⟩ := exists_chosen standard.language h.language
  obtain ⟨encoder, hencoder⟩ := h.encoder.exists_follows
  obtain ⟨button, hbutton⟩ := h.button.exists_follows
  exact ⟨⟨language, encoder, button, _, ⟨_, _⟩, _, _, _⟩, settings_eq_ok_iff.mpr ⟨h, hlanguage,
    ScreenSettings.follows_iff.mpr rfl, hencoder, hbutton, rfl, Preset.follows_iff.mpr rfl,
    Preset.follows_iff.mpr rfl, Limits.follows_iff.mpr rfl, Features.follows_iff.mpr rfl⟩⟩

/-- Whatever a document says, settings are built from it exactly if it keeps the rules. They can
then be used, and they are what it says over the standard settings. -/
theorem settings_exact (o : Overrides) :
    (∀ s, o.settings = .ok s → s.Usable ∧ s.Follows o) ∧
    ((∃ s, o.settings = .ok s) ↔ o.Allowed) ∧ ((∃ e, o.settings = .error e) ↔ ¬ o.Allowed) := by
  have hbuilt : (∃ s, o.settings = .ok s) ↔ o.Allowed :=
    ⟨fun ⟨_, hs⟩ => (settings_eq_ok_iff.mp hs).1, exists_settings⟩
  refine ⟨fun s hs => ?_, hbuilt, ?_⟩
  · obtain ⟨hallowed, hfollows⟩ := settings_eq_ok_iff.mp hs
    exact ⟨hfollows.usable hallowed, hfollows⟩
  · rw [← hbuilt]
    cases o.settings <;> simp

/-! ### Documents -/

/-- Settings that are read from a document can be used, and they are the document over the standard
settings. A document with the expected keys and kinds of values is read exactly if what it gives
keeps the rules, and otherwise a value of it is refused. -/
theorem ofText_exact (text : String) :
    (∀ s, ofText text = .ok s → s.Usable ∧ ∃ o, saidBy? text = some o ∧ s.Follows o) ∧
    (∀ o, saidBy? text = some o →
      ((∃ s, ofText text = .ok s) ↔ o.Allowed) ∧
      ((∃ e, ofText text = .error (.refused e)) ↔ ¬ o.Allowed)) := by
  constructor
  · intro s hs
    obtain ⟨o, ho, hbuilt⟩ := ofText_eq_ok_iff.mp hs
    obtain ⟨husable, hfollows⟩ := (settings_exact o).1 s hbuilt
    exact ⟨husable, o, ho, hfollows⟩
  · intro o ho
    obtain ⟨-, hbuilt, hrefused⟩ := settings_exact o
    rw [← hrefused, ← hbuilt]
    simp only [ofText_eq_ok_iff, ofText_eq_refused_iff, ho, Option.some.injEq, exists_eq_left',
      and_self]

/-- Two transitions in a detent are accepted, and the other settings stay the standard ones. An axis
without travel is refused. -/
theorem ofText_exact_detent :
    (∃ s, ofText "[encoder]\nencoder_steps_per_detent = 2" = .ok s ∧ s.Usable ∧
      s = { standard with encoder := { EncoderSettings.standard with stepsPerDetent := 2 } }) ∧
    ∃ o, saidBy? "[limits]\nx = [220, 220]" = some o ∧ ¬ o.Allowed := by
  constructor
  · have hread : ofText "[encoder]\nencoder_steps_per_detent = 2" =
        .ok { standard with encoder := { EncoderSettings.standard with stepsPerDetent := 2 } } := by
      decide +kernel
    exact ⟨_, hread, ((ofText_exact _).1 _ hread).1, rfl⟩
  · have hsaid : saidBy? "[limits]\nx = [220, 220]" =
        some { (default : Overrides) with limits := { (default : LimitOverrides) with
          x := some ⟨220, 220⟩ } } := by
      decide +kernel
    have hrefused : ofText "[limits]\nx = [220, 220]" = .error (.refused .axisRange) := by
      decide +kernel
    exact ⟨_, hsaid, ((ofText_exact _).2 _ hsaid).2.mp ⟨_, hrefused⟩⟩

/-- With nothing given, the settings are the standard ones. -/
example : (default : Overrides).settings = .ok standard := by
  decide

end Settings

end PrinterPanel
