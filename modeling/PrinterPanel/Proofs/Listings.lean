import PrinterPanel.Proofs.Commands

/-!
# Which files are printed

The panel asks the printer for its files when the first tile of the main menu is pressed, and at no
other time. Until it asks again, the browser shows folders of that listing, and so a file that is
printed is one that the printer listed last.
-/

namespace PrinterPanel

/-- A press on the main menu opens what the tile stands for. -/
theorem Act.mainMenu_enter :
    Act.mainMenu .enter = (do openPage (← panel).places.page.position) := rfl

namespace Panel

variable {p : Panel} {op : Operation} {a : Answers}

/-- An operation asks the printer for its files: it presses the first tile of the main menu. -/
def AsksFiles (p : Panel) (op : Operation) : Prop :=
  p.screen = .mainMenu ∧ p.places.page.position = 0 ∧ p.keyOf op = some .click

instance (p : Panel) (op : Operation) : Decidable (p.AsksFiles op) :=
  inferInstanceAs (Decidable (_ ∧ _))

/-- The files that the printer listed when it was last asked for them, during a run or before. There
are none if it was never asked or gave no list. -/
def lastListing (p : Panel) (last : Option (List String)) :
    List (Operation × Answers) → Option (List String)
  | [] => last
  | (op, a) :: rest =>
    (p.perform op a).panel.lastListing (if p.AsksFiles op then a.files else last) rest

/-! ### The listing in the browser -/

/-- The browser keeps a listing as long as it takes over no other one. -/
theorem invariant_listing (paths : List Files.Path) :
    InvariantLoading (· = paths) fun p => p.browser.paths = paths where
  attends _ _ _ _ h _ := h
  notes _ _ _ h := h
  tracks _ _ h := h
  homes h _ := h
  homed h := h
  moves h _ := h
  lists {p} browser h _ hpaths := by
    rcases hpaths with hpaths | hpaths
    · exact hpaths.trans h
    · exact hpaths
  goes _ h _ _ := h
  covers _ h _ _ := h
  returns _ h _ _ := h
  edits _ _ _ h _ _ := h
  adjusts _ _ h _ := h
  leaves h := by
    unfold abandonEdit
    split <;> exact h
  stores _ h := h

/-- The browser takes over what the printer lists when it is asked. -/
theorem perform_paths_of_asks (h : p.AsksFiles op) :
    (p.perform op a).panel.browser.paths = Files.listing (a.files.getD []) := by
  obtain ⟨hscreen, hpage, hkey⟩ := h
  refine (invariant_listing _).persists.perform ?_ ?_ ?_
  · rintro rfl
    contradiction
  · intro k hk s knob hs _
    obtain rfl : .click = k := Option.some.inj (hkey.symm.trans hk)
    have hpage' : s.panel.places.page.position = 0 := by rw [hs]; exact hpage
    rw [hscreen, symbolOf_click, Act.handle, Act.mainMenu_enter, Act.leaves_bind,
      Act.ensures_panel, hpage']
    simp only [Act.openPage, Act.loadFiles, Act.openList, Act.leaves_bind, Act.ensures_bind,
      Act.ensures_listFiles, Act.ensures_change, Act.leaves_goTo]
    rfl
  · intro hnone
    rw [hnone] at hkey
    contradiction

/-- Nothing else changes the listing. -/
theorem perform_paths_of_not_asks (h : ¬p.AsksFiles op) :
    (p.perform op a).panel.browser.paths = p.browser.paths := by
  have hI := invariant_listing p.browser.paths
  refine hI.persists.perform (fun _ => rfl) ?_ fun _ => rfl
  intro k hk s knob hs _
  have hscreen : s.panel.screen = p.screen := by rw [hs]; rfl
  have hpaths : s.panel.browser.paths = p.browser.paths := by rw [hs]; rfl
  rw [← hscreen]
  refine Act.leaves_handle_loading hI hpaths _ fun hmain henter hpage => ?_
  rw [hs] at hmain hpage
  obtain rfl := symbolOf_eq_enter henter
  exact absurd ⟨hmain, hpage, hk⟩ h

/-- At every time the browser is in the listing that the printer gave last. -/
theorem run_paths {last : Option (List String)} {ops : List (Operation × Answers)}
    (h : p.browser.paths = Files.listing (last.getD [])) :
    (p.run ops).1.browser.paths = Files.listing ((p.lastListing last ops).getD []) := by
  induction ops generalizing p last with
  | nil => exact h
  | cons x rest ih =>
    apply ih
    split
    · next hasks => exact perform_paths_of_asks hasks
    · next hasks => exact (perform_paths_of_not_asks hasks).trans h

/-! ### The file that is printed -/

/-- To print a file is to choose it in the browser. -/
theorem select_of_submitted {file : String}
    (h : .startPrint file ∈ submitted (p.perform op a).events) :
    ∃ index, (p.browser.select index).1 = some (.file file.toList) := by
  have hmem := (p.submitted_prefix op a).subset h
  unfold commandsOf at hmem
  cases hkey : p.keyOf op with
  | none => simp [hkey] at hmem
  | some k =>
    rw [hkey, Option.elim_some] at hmem
    have hscreen : p.screen = .selectFile := by simpa [Screen.sends] using sends_of_mem hmem
    have hfile : .startPrint file ∈ p.fileCommands := by
      have hprobe : p.screen ≠ .manualProbe := by simp [hscreen]
      rw [commandsFor, if_neg hprobe] at hmem
      split at hmem
      · simpa [pressCommands, hscreen] using hmem
      · contradiction
    unfold fileCommands at hfile
    split at hfile
    · contradiction
    · next index _ =>
      refine ⟨index, ?_⟩
      split at hfile
      · next path hpath =>
        obtain rfl : file = String.ofList path := by simpa using hfile
        simpa using hpath
      · contradiction

/-- Under the bounds of a listing, whatever is chosen in the browser is a path of the listing, every
row can be selected, and every path that names a file can be reached from the top folder. Hence a
file that the panel prints is one that the printer listed when it was last asked, among the first of
them and short enough. -/
theorem listed_files_are_printed {paths : List Files.Path} (h : Files.Listable paths) :
    (∀ moves index,
      let b := (Files.Browser.load paths).after moves
      (∀ path, (b.select index).1 = some (.file path) → path ∈ paths) ∧
      (index < b.entries.length → (b.select index).1 ≠ none)) ∧
    (∀ path ∈ paths, path ≠ [] → path.getLast? ≠ some '/' →
      ∃ (folders : List Nat) (index : Nat),
        (((Files.Browser.load paths).after (folders.map .select)).select index).1 =
          some (.file path)) ∧
    ∀ (s : Settings) (width height : Nat) (ops : List (Operation × Answers)) (op : Operation)
      (a : Answers) (file : String),
      let p := ofSettings s width height
      .startPrint file ∈ submitted ((p.run ops).1.perform op a).events →
      ∃ files, p.lastListing none ops = some files ∧ file ∈ files.take Files.maxPaths ∧
        Text.fits Files.pathRoom file := by
  refine ⟨fun moves index => ?_, fun path hpath hne hlast => ?_, ?_⟩
  · intro b
    have hpaths : b.paths = paths := Files.Browser.after_paths _ moves
    have hb : Files.Listable b.paths := hpaths ▸ h
    constructor
    · intro path hselect
      rw [← hpaths]
      exact (Files.Browser.mem_of_select_file hb hselect).1
    · exact Files.Browser.select_ne_none hb
  · exact Files.Browser.exists_selects (b := .load paths) h hpath hne hlast
  · intro s width height ops op a file p hsubmitted
    obtain ⟨index, hselect⟩ := select_of_submitted hsubmitted
    have hpaths : (p.run ops).1.browser.paths =
        Files.listing ((p.lastListing none ops).getD []) := run_paths rfl
    have hlistable : Files.Listable (p.run ops).1.browser.paths :=
      hpaths ▸ Files.listable_listing _
    obtain ⟨hmem, hne⟩ := Files.Browser.mem_of_select_file hlistable hselect
    rw [hpaths] at hmem
    obtain ⟨hfile, hfits⟩ := Files.mem_of_mem_listing hmem hne
    rw [String.ofList_toList] at hfile hfits
    cases hlast : p.lastListing none ops with
    | none =>
      rw [hlast] at hfile
      contradiction
    | some files =>
      rw [hlast] at hfile
      exact ⟨files, rfl, hfile, hfits⟩

/-- A file in a folder without a name, beside a path that begins with a slash. -/
theorem listed_files_unnamed_folder :
    Files.Listable ["a//b".toList, "/c".toList] ∧
    ∃ (folders : List Nat) (index : Nat),
      (((Files.Browser.load ["a//b".toList, "/c".toList]).after (folders.map .select)).select
        index).1 = some (.file "a//b".toList) :=
  have h : Files.Listable ["a//b".toList, "/c".toList] := ⟨by decide, by decide⟩
  ⟨h, (listed_files_are_printed h).2.1 _ (by decide) (by decide) (by decide)⟩

end Panel

end PrinterPanel
