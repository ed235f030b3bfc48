import PrinterPanel.Display.Rows
import PrinterPanel.Settings.Limits

/-!
# Machine data, probing and pictograms

Three pages that are neither lists nor popups.
-/

namespace PrinterPanel.Display.Canvas

/-- Small text. -/
def smallText : TextStyle := ⟨.font6x12, .white, .black⟩

/-- Machine size, firmware version and contact. -/
def machineData (c : Canvas) (l : Limits) (version website : String) : Drawing :=
  let size := toString l.x.max ++ "x" ++ toString l.y.max ++ "x" ++ toString l.z.max
  c.frame Caption.infoTitle ++ c.backRow true ++
  [.text menuText labelLeft 80 "Bed size",
    pictogram Icon.bedSize 20 90,
    .text smallText 70 105 size,
    .text menuText labelLeft 140 "Firmware",
    pictogram Icon.version 20 140,
    .text smallText 70 155 version,
    .text menuText labelLeft 190 "Contact",
    pictogram Icon.contact 20 200,
    .text menuText 50 215 website]

/-- The step sizes of manual probing, as they are shown. -/
def probeStepLabels : List String := ["1.0", "0.1", "0.05"]

/-- One of the boxes with the step sizes. -/
def probeStepBox (c : Canvas) (index : Nat) (label : String) (selected : Bool) : Drawing :=
  let width := ((c.width : Int) - 30 - 10) / 3
  let left := 15 + index * (width + 5)
  let top := 39 + baseline 0 - 10
  let bottom := 39 + baseline 1 - 10
  let textLeft := left + width / 2 - (label.utf8ByteSize * 8 / 2 : Nat)
  [.outline (if selected then .yellow else .popup) ⟨left, top, left + width, bottom⟩,
    .text ⟨.font8x8, if selected then .yellow else .white, .black⟩ textLeft ((top + bottom) / 2 - 4)
      label]

/-- Header and footer of the probing page. -/
def probeFrame (c : Canvas) : Drawing :=
  c.clear ++ c.titleCaption Caption.levelingTitle ++
  [.text menuText 15 39 "Step sizes:",
    c.centred menuText (c.height - 58) "Tap to toggle between steps",
    c.centred menuText (c.height - 29) "Long press to confirm"]

/-- The probing page: the step sizes, the height of the nozzle (µm) and whether the last move was
refused. -/
def probePage (c : Canvas) (um : Int) (step : Nat) (outOfRange full : Bool) : Drawing :=
  let width := (c.width : Int) - 30
  let heightTop := 39 + baseline 2 - 10
  let errorTop := 39 + baseline 3 - 10
  (if full then c.probeFrame else []) ++
  (probeStepLabels.mapIdx fun i label => c.probeStepBox i label (i == step)).flatten ++
  [.fill .black ⟨15, heightTop, 15 + width, errorTop⟩,
    .fixed ⟨.font12x24, if outOfRange then .red else .yellow, .black⟩ 3 2 (width / 2 - 25) heightTop
      (um.tdiv 10),
    .fill .black ⟨15, errorTop, 15 + width, 39 + baseline 4 - 10⟩] ++
  if outOfRange then [c.centred ⟨.font8x8, .red, .black⟩ errorTop "Out of range!"] else []

/-- One pictogram with its number. -/
def iconPage (c : Canvas) (icon : Nat) : Drawing :=
  c.clear ++
  [c.centred menuText 12 "Icon finder",
    pictogram icon ((c.width / 2 : Nat) - 16) ((c.height / 2 : Nat) - 16),
    c.centred ⟨.font8x8, .yellow, .black⟩ (c.height - 46) ("Icon " ++ toString icon),
    c.centred menuText (c.height - 23) "Press to exit"]

end PrinterPanel.Display.Canvas
