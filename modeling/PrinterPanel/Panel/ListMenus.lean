import PrinterPanel.Panel.Act

/-!
# Keys in the menus

What a key does on the main menu and in the menus that are lists. Turning moves the cursor, and a
press opens or does what the cursor is on.
-/

namespace PrinterPanel.Act

open Menu

/-- Tiles of the main menu. -/
def pageCount : Nat := 4

/-- Show the main menu with a tile selected. -/
def backToMainMenu (page : Nat) : Act Unit := do
  change fun p => { p with places := { p.places with page := ⟨page⟩ } }
  goTo .mainMenu

/-- Show a list from its start. -/
def openList (m : ListMenu) : Act Unit := do
  change fun p => { p with places := p.places.rewind m }
  goTo m.screen

/-- Show a list with the cursor on an entry. -/
def backToList (m : ListMenu) (item : Nat) : Act Unit := do
  change fun p => { p with places := p.places.select m item }
  goTo m.screen

/-- Load the files that the printer lists; without a listing there are none. -/
def loadFiles : Act Unit := do
  let paths := (← listFiles).getD []
  change ({ · with browser := .load (Files.listing paths) })

/-- Open what a tile of the main menu stands for. -/
def openPage (page : Nat) : Act Unit := do
  match page with
  | 0 =>
    loadFiles
    openList .files
  | 1 => openList .prepare
  | 2 => openList .control
  | _ => if (← panel).settings.features.miscPage then openList .misc else goTo .info

/-- A key on the main menu. -/
def mainMenu (s : Symbol) : Act Unit := do
  let p ← panel
  if s.isTurn then
    let page := p.places.page.step s.isCw pageCount
    if page ≠ p.places.page then
      change fun p => { p with places := { p.places with page := page } }
      let misc := p.settings.features.miscPage
      draw (p.canvas.tile p.places.page.position false misc ++
        p.canvas.tile page.position true misc)
  else if s = .enter then openPage p.places.page.position

/-- Move the cursor of a list. -/
def turnList (m : ListMenu) (s : Symbol) : Act Unit := do
  let p ← panel
  let (scroll, list) := (p.places.get m).step s.isCw (p.entryCount m)
  change fun p => { p with places := p.places.set m list }
  if let some scroll := scroll then draw (p.scrolled m scroll)

/-- A key on a list: turning moves the cursor, and a press does `enter`. -/
def listKey (m : ListMenu) (enter : Act Unit) (s : Symbol) : Act Unit :=
  if s.isTurn then turnList m s else if s = .enter then enter else pure ()

/-- Do something with the entry that the cursor of a list is on, if there is one. -/
def withEntry {α : Type} (m : ListMenu) (items : Features → List α) (act : α → Act Unit) :
    Act Unit := do
  let p ← panel
  match (items p.settings.features)[(p.places.get m).position]? with
  | none => pure ()
  | some item => act item

/-- Start to print a file. -/
def startPrint (path : Files.Path) : Act Unit := do
  send (.startPrint (String.ofList path))
  change fun p =>
    { p with
      print := .fresh
      places := { p.places.rewind .files with print := .first } }
  goTo .printProcess

/-- A press in the file browser. -/
def enterFiles : Act Unit := do
  let p ← panel
  match p.places.files.position with
  | 0 =>
    let (wentUp, browser) := p.browser.up
    change ({ · with browser := browser })
    if wentUp then openList .files else backToMainMenu 0
  | index + 1 =>
    let (selected, browser) := p.browser.select index
    change ({ · with browser := browser })
    match selected with
    | none => pure ()
    | some .folder => openList .files
    | some (.file path) => startPrint path

/-- Heat for a material. -/
def preheat (m : Material) : Act Unit := do
  let p ← panel
  let preset := p.settings.presets.get m
  send (.hotendTarget preset.hotend)
  send (.bedTarget preset.bed)
  if p.settings.features.fan then send (.fanSpeed preset.fan)

/-- A press in the prepare menu. -/
def enterPrepare : Act Unit :=
  withEntry .prepare PrepareItem.list fun item => do
    match item with
    | .back => backToMainMenu 1
    | .move =>
      send .resetExtruder
      openList .axes
    | .disableSteppers => send .disableSteppers
    | .home =>
      send .homeAll
      change fun p => { p with homing := some ⟨p.places.prepare.position⟩ }
      goTo .homing
    | .zOffset =>
      let status ← report
      beginEdit .zOffset status.zOffset .prepare (← panel).places.prepare.row
    | .preheatPla => preheat .pla
    | .preheatTpu => preheat .tpu
    | .cooldown =>
      send (.hotendTarget 0)
      send (.bedTarget 0)
      send (.fanSpeed 0)

/-- A press in the control menu. -/
def enterControl : Act Unit :=
  withEntry .control (fun _ => ControlItem.list) fun item => do
    match item with
    | .back => backToMainMenu 2
    | .temperature => openList .temperature
    | .motion => openList .motion
    | .info => goTo .info

/-- A press in the list of macros. -/
def enterMisc : Act Unit := do
  let p ← panel
  match p.places.misc.position with
  | 0 =>
    change fun p => { p with places := p.places.rewind .misc }
    backToMainMenu 3
  | index + 1 =>
    match p.settings.macros[index]? with
    | none => pure ()
    | some m => send (.runMacro m.gcode)

/-- A key on the page of machine data. -/
def info (s : Symbol) : Act Unit := do
  if s = .enter then
    if (← panel).settings.features.miscPage then
      backToList .control (positionOf ControlItem.list .info)
    else backToMainMenu 3

/-- The notice that a function is missing; it gives way to the motion menu. -/
def notAvailable : Act Unit := do
  change ({ · with popupCaller := some .motion })
  goTo .featureNotAvailable

/-- A press in the motion menu. -/
def enterMotion : Act Unit :=
  withEntry .motion MotionItem.list fun item => do
    match item with
    | .back => backToList .control (positionOf ControlItem.list .motion)
    | _ => notAvailable

/-- A key in an editor of the motion limits. -/
def motionEditor (s : Symbol) : Act Unit :=
  if s = .enter then notAvailable else pure ()

/-- A press in the tune menu. -/
def enterTune : Act Unit :=
  withEntry .tune TuneItem.list fun item => do
    let status ← report
    let row := (← panel).places.tune.row
    match item with
    | .back =>
      change fun p => { p with places := { p.places with print := .first } }
      goTo .printProcess
    | .speed => beginEdit .printSpeed status.feedrate .tune row
    | .hotend => beginEdit (.hotend .live) status.hotend.target .tune row
    | .bed => beginEdit (.bed .live) status.bed.target .tune row
    | .fan => beginEdit (.fan .live) status.fan .tune row
    | .zOffset => beginEdit .zOffset status.zOffset .tune row

/-- Begin to move an axis. The extruder is not moved while it is too cold. -/
def beginMove (axis : Axis) : Act Unit := do
  let status ← report
  let p ← panel
  let row := p.places.axes.row
  let value := positionSteps (status.position.get axis)
  match axis with
  | .e =>
    if p.settings.features.coldGuard ∧ status.hotend.current < p.settings.limits.minExtrudeTemp then
      goTo .tooCold
    else beginEdit (.extruder value) value .axisMove row
  | _ => beginEdit (.axis axis) value .axisMove row

/-- A press in the axis menu. -/
def enterAxes : Act Unit :=
  withEntry .axes (fun _ => AxisItem.list) fun item => do
    match item.axis? with
    | none =>
      let prepare := PrepareItem.list (← panel).settings.features
      backToList .prepare (positionOf prepare .move)
    | some axis => beginMove axis

/-- A press in the temperature menu. -/
def enterTemperature : Act Unit :=
  withEntry .temperature TemperatureItem.list fun item => do
    let status ← report
    let row := (← panel).places.temperature.row
    match item with
    | .back => backToList .control (positionOf ControlItem.list .temperature)
    | .plaPreset => openList (.preset .pla)
    | .tpuPreset => openList (.preset .tpu)
    | .hotend => beginEdit (.hotend .live) status.hotend.target .temperature row
    | .bed => beginEdit (.bed .live) status.bed.target .temperature row
    | .fan => beginEdit (.fan .live) status.fan .temperature row

/-- The entry of the temperature menu that leads to a preset. -/
def presetEntry : Material → TemperatureItem
  | .pla => .plaPreset
  | .tpu => .tpuPreset

/-- A press in the menu of a preset. -/
def enterPreset (m : Material) : Act Unit :=
  withEntry (.preset m) PreheatItem.list fun item => do
    let p ← panel
    let preset := p.settings.presets.get m
    let returnTo := ListMenu.screen (.preset m)
    let row := (p.places.get (.preset m)).row
    match item with
    | .back =>
      backToList .temperature
        (positionOf (TemperatureItem.list p.settings.features) (presetEntry m))
    | .save => send (.savePresets p.settings.presets)
    | .hotend => beginEdit (.hotend (.preset m)) preset.hotend returnTo row
    | .bed => beginEdit (.bed (.preset m)) preset.bed returnTo row
    | .fan => beginEdit (.fan (.preset m)) preset.fan returnTo row

end PrinterPanel.Act
