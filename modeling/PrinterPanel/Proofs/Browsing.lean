import Mathlib.Data.List.Induction
import PrinterPanel.Files

/-!
# What the file browser offers

The rows of a folder are its folders and its files, and under the bounds of a listing none of them
is lost. Whatever is chosen is therefore a path of the listing, and every path that names a file can
be reached by going into the folders on it, one after the other.
-/

namespace PrinterPanel

/-- The start of a text takes no more room than the text. -/
theorem Text.size_le_of_isPrefix {a b : List Char} (h : a <+: b) : size a ≤ size b := by
  obtain ⟨rest, rfl⟩ := h
  rw [size_append]
  omega

namespace Files

/-- A listing that the browser takes over whole: neither are there too many paths nor is one of them
too long. -/
structure Listable (paths : List Path) : Prop where
  count : paths.length ≤ maxPaths
  room : ∀ path ∈ paths, Text.size path ≤ pathRoom

/-- A listing is cut to what the browser has room for. -/
theorem listable_listing (files : List String) : Listable (listing files) := by
  constructor
  · rw [listing, List.length_map, List.length_take]
    exact Nat.min_le_left _ _
  · intro path hpath
    simp only [listing, List.mem_map] at hpath
    obtain ⟨file, -, rfl⟩ := hpath
    split
    · next hfits => simpa [Text.fits] using hfits
    · simp

/-- Paths of a listing are files of the printer, except for the empty ones that stand in for what is
too long. -/
theorem mem_of_mem_listing {files : List String} {path : Path} (hpath : path ∈ listing files)
    (hne : path ≠ []) :
    String.ofList path ∈ files.take maxPaths ∧ Text.fits pathRoom (String.ofList path) := by
  simp only [listing, List.mem_map] at hpath
  obtain ⟨file, hfile, rfl⟩ := hpath
  split at hne
  · next hfits => simpa [hfits] using hfile
  · contradiction

namespace Browser

variable {b : Browser} {folder path name rest : Path} {index : Nat}

/-! ### Folders and files -/

/-- What lies below a folder is what follows the folder in the path, if anything does. -/
theorem below_eq_some_iff : below folder path = some rest ↔ rest ≠ [] ∧ folder ++ rest = path := by
  constructor
  · intro h
    simp only [below, Bool.and_eq_true, List.isPrefixOf_iff_prefix, decide_eq_true_eq,
      Option.ite_none_right_eq_some, Option.some.injEq] at h
    obtain ⟨⟨⟨later, rfl⟩, hlength⟩, rfl⟩ := h
    rw [List.length_append] at hlength
    rw [List.drop_left]
    exact ⟨List.ne_nil_of_length_pos (by omega), rfl⟩
  · rintro ⟨hrest, rfl⟩
    have hlength : 0 < rest.length := List.length_pos_iff.mpr hrest
    simp [below, hlength]

/-- The first folder of a path is what stands before its first slash. -/
theorem firstFolder_eq_some_iff :
    firstFolder path = some name ↔ '/' ∉ name ∧ ∃ later, name ++ '/' :: later = path := by
  constructor
  · intro h
    simp only [firstFolder, List.contains_iff_mem, Option.ite_none_right_eq_some,
      Option.some.injEq] at h
    obtain ⟨hslash, rfl⟩ := h
    obtain ⟨first, later, rfl, hfirst⟩ := List.eq_append_cons_of_mem hslash
    have htake : (first ++ '/' :: later).takeWhile (· != '/') = first := by
      rw [List.takeWhile_append_of_pos (fun c hc => by simpa using ne_of_mem_of_not_mem hc hfirst)]
      simp
    rw [htake]
    exact ⟨hfirst, later, rfl⟩
  · rintro ⟨hname, later, rfl⟩
    have htake : (name ++ '/' :: later).takeWhile (· != '/') = name := by
      rw [List.takeWhile_append_of_pos (fun c hc => by simpa using ne_of_mem_of_not_mem hc hname)]
      simp
    simp [firstFolder, htake]

/-- The folders in a folder are those on the paths below it. -/
theorem mem_folders_iff :
    name ∈ b.folders ↔ '/' ∉ name ∧ ∃ later, b.folder ++ (name ++ '/' :: later) ∈ b.paths := by
  simp only [folders, List.mem_eraseDups, List.mem_filterMap, below_eq_some_iff,
    firstFolder_eq_some_iff]
  constructor
  · rintro ⟨_, ⟨path, hpath, -, rfl⟩, hname, later, rfl⟩
    exact ⟨hname, later, hpath⟩
  · rintro ⟨hname, later, hpath⟩
    exact ⟨name ++ '/' :: later, ⟨_, hpath, by simp, rfl⟩, hname, later, rfl⟩

/-- The files in a folder are the paths directly below it. -/
theorem mem_files_iff :
    name ∈ b.files ↔ '/' ∉ name ∧ name ≠ [] ∧ b.folder ++ name ∈ b.paths := by
  simp only [files, List.mem_filter, List.mem_filterMap, below_eq_some_iff, Bool.not_eq_true',
    List.contains_eq_mem, decide_eq_false_iff_not]
  constructor
  · rintro ⟨⟨path, hpath, hname, rfl⟩, hslash⟩
    exact ⟨hslash, hname, hpath⟩
  · rintro ⟨hslash, hname, hpath⟩
    exact ⟨⟨_, hpath, hname, rfl⟩, hslash⟩

/-! ### Rows -/

/-- Leaving out repeated names does not make a list longer. -/
theorem length_eraseDups_le (names : List Path) : names.eraseDups.length ≤ names.length := by
  induction hn : names.length using Nat.strongRecOn generalizing names with
  | ind n ih =>
    cases names with
    | nil => simp
    | cons name later =>
      have hfilter := List.length_filter_le (fun other => !other == name) later
      rw [List.length_cons] at hn
      have hlater := ih _ (by omega) (later.filter fun other => !other == name) rfl
      rw [List.eraseDups_cons, List.length_cons]
      omega

/-- A path below a folder is counted among its folders or among its files. -/
theorem length_folders_add_files_le : b.folders.length + b.files.length ≤ b.paths.length := by
  have hnames : ∀ below : List Path,
      (below.filterMap firstFolder).length + (below.filter (! ·.contains '/')).length =
        below.length := by
    intro below
    induction below with
    | nil => rfl
    | cons path later ih =>
      rw [List.filterMap_cons, List.filter_cons]
      unfold firstFolder at ih ⊢
      split <;> simp_all <;> omega
  have hfolders := length_eraseDups_le ((b.paths.filterMap (below b.folder)).filterMap firstFolder)
  have hbelow := List.length_filterMap_le (below b.folder) b.paths
  have hsum := hnames (b.paths.filterMap (below b.folder))
  simp only [folders, files]
  omega

/-- The names in a folder are parts of the paths below it, and so there is room for them. -/
theorem size_folder_le (h : Listable b.paths) (hname : name ∈ b.folders) :
    Text.size (b.folder ++ name ++ ['/']) ≤ pathRoom := by
  obtain ⟨-, later, hpath⟩ := mem_folders_iff.mp hname
  have hprefix : b.folder ++ name ++ ['/'] <+: b.folder ++ (name ++ '/' :: later) := by
    exact ⟨later, by simp⟩
  exact Nat.le_trans (Text.size_le_of_isPrefix hprefix) (h.room _ hpath)

/-- The full path of a file that is shown has room. -/
theorem size_file_le (h : Listable b.paths) (hname : name ∈ b.files) :
    Text.size (b.folder ++ name) ≤ pathRoom :=
  h.room _ (mem_files_iff.mp hname).2.2

/-! ### One pass over the listing -/

/-- A path below the folder mentions the folder that comes first on it. -/
def mention (folder path : Path) : Option Path := (below folder path).bind firstFolder

/-- One more path mentions a folder for the first time, or again, or none. -/
theorem folders_concat (paths : List Path) :
    folders ⟨paths ++ [path], folder⟩ =
      folders ⟨paths, folder⟩ ++
        (mention folder path).toList.filter (· ∉ folders ⟨paths, folder⟩) := by
  have hmentions (paths : List Path) :
      folders ⟨paths, folder⟩ = (paths.filterMap (mention folder)).eraseDups :=
    congrArg List.eraseDups List.filterMap_filterMap
  rw [hmentions, hmentions, List.filterMap_append, List.eraseDups_append]
  generalize paths.filterMap (mention folder) = names
  cases hmention : mention folder path with
  | none => simp [hmention]
  | some name =>
    by_cases hknown : name ∈ names <;> simp [hmention, hknown, List.removeAll, List.eraseDups_cons]

/-- A further path adds one file at most, behind the others. -/
theorem files_concat (paths : List Path) :
    files ⟨paths ++ [path], folder⟩ =
      files ⟨paths, folder⟩ ++ (below folder path).toList.filter (! ·.contains '/') := by
  simp only [files, List.filterMap_append, List.filter_append]
  cases hbelow : below folder path <;> simp [hbelow]

/-- A name is added behind the others while there is room. -/
theorem put_eq {names : List Path} (hcount : names.length < maxPaths)
    (hroom : Text.size name ≤ pathRoom) : put names name = names ++ [name] :=
  if_pos ⟨hcount, hroom⟩

/-- While the listing has room for all its paths, the pass has room for all that it finds. -/
theorem find_eq {paths : List Path} (h : Listable paths) (folder : Path) :
    find folder paths = ⟨folders ⟨paths, folder⟩, files ⟨paths, folder⟩⟩ := by
  -- By induction on the path that is looked at last, with the paths before it as a listing.
  induction paths using List.reverseRecOn with
  | nil => rfl
  | append_singleton paths path ih =>
    have hbefore : Listable paths := by
      have hcount := h.count
      rw [List.length_append] at hcount
      exact ⟨by omega, fun path hpath => h.room path (List.mem_append_left _ hpath)⟩
    have hfew := length_folders_add_files_le (b := ⟨paths, folder⟩)
    have hcount : paths.length < maxPaths := by
      simpa [Nat.succ_le_iff] using h.count
    have hsize : Text.size path ≤ pathRoom := h.room path (by simp)
    have hlook : find folder (paths ++ [path]) = (find folder paths).look folder path := by
      simp [find]
    rw [hlook, ih hbefore, folders_concat, files_concat, mention, Found.look]
    cases hbelow : below folder path with
    | none => simp
    | some rest =>
      obtain ⟨-, rfl⟩ := below_eq_some_iff.mp hbelow
      rw [Text.size_append] at hsize
      cases hfirst : firstFolder rest with
      | none =>
        have hslash : '/' ∉ rest := by simpa [firstFolder] using hfirst
        have hput : put (files ⟨paths, folder⟩) rest = files ⟨paths, folder⟩ ++ [rest] :=
          put_eq (by dsimp only at hfew; omega) (by omega)
        simp [hfirst, hslash, hput]
      | some name =>
        obtain ⟨hname, later, rfl⟩ := firstFolder_eq_some_iff.mp hfirst
        rw [Text.size_append] at hsize
        have hput : put (folders ⟨paths, folder⟩) name = folders ⟨paths, folder⟩ ++ [name] :=
          put_eq (by dsimp only at hfew; omega) (by omega)
        by_cases hknown : name ∈ folders ⟨paths, folder⟩ <;> simp [hfirst, hknown, hput]

/-- No folder and no file of a listing is left out. -/
theorem entries_eq (h : Listable b.paths) :
    b.entries = b.folders.map .folder ++ b.files.map .file := by
  have hcount := Nat.le_trans (length_folders_add_files_le (b := b)) h.count
  rw [entries, find_eq h]
  apply List.take_of_length_le
  simpa using hcount

/-- Selecting a folder goes into it. -/
theorem select_folder (h : Listable b.paths) (hentry : b.entries[index]? = some (.folder name)) :
    b.select index = (some .folder, { b with folder := b.folder ++ name ++ ['/'] }) := by
  have hmem := List.mem_of_getElem? hentry
  rw [entries_eq h] at hmem
  have hname : name ∈ b.folders := by simpa using hmem
  rw [select, hentry]
  exact if_pos (size_folder_le h hname)

/-- Selecting a file chooses its path, and this is a path of the listing. -/
theorem select_file (h : Listable b.paths) (hentry : b.entries[index]? = some (.file name)) :
    b.select index = (some (.file (b.folder ++ name)), b) ∧ b.folder ++ name ∈ b.paths := by
  have hmem := List.mem_of_getElem? hentry
  rw [entries_eq h] at hmem
  have hname : name ∈ b.files := by simpa using hmem
  rw [select, hentry]
  exact ⟨Prod.ext (if_pos (size_file_le h hname)) rfl, (mem_files_iff.mp hname).2.2⟩

/-- Every entry that is shown can be selected. -/
theorem select_ne_none (h : Listable b.paths) (hindex : index < b.entries.length) :
    (b.select index).1 ≠ none := by
  have hentry := List.getElem?_eq_getElem hindex
  cases hkind : b.entries[index] with
  | folder name =>
    rw [hkind] at hentry
    simp [select_folder h hentry]
  | file name =>
    rw [hkind] at hentry
    simp [(select_file h hentry).1]

/-- What is chosen is a path of the listing, and it is not empty. -/
theorem mem_of_select_file (h : Listable b.paths)
    (hselect : (b.select index).1 = some (.file path)) :
    path ∈ b.paths ∧ path ≠ [] := by
  cases hentry : b.entries[index]? with
  | none => simp [select, hentry] at hselect
  | some e =>
    cases e with
    | folder name => simp [select_folder h hentry] at hselect
    | file name =>
      obtain ⟨hfile, hpath⟩ := select_file h hentry
      rw [hfile] at hselect
      obtain rfl : b.folder ++ name = path := by simpa using hselect
      have hmem := List.mem_of_getElem? hentry
      rw [entries_eq h] at hmem
      have hname : name ∈ b.files := by simpa using hmem
      exact ⟨hpath, by simp [(mem_files_iff.mp hname).2.1]⟩

/-! ### Going through the folders -/

/-- A move in the browser. -/
inductive Move where
  /-- Go into a folder, by the number of its row. The row of a file changes nothing. -/
  | select (index : Nat)
  /-- Go up by one folder. -/
  | up
  deriving DecidableEq, Repr

/-- The browser after a move. -/
def move (b : Browser) : Move → Browser
  | .select index => (b.select index).2
  | .up => b.up.2

/-- The browser after one move after the other. -/
def after (b : Browser) (moves : List Move) : Browser := moves.foldl move b

/-- Selecting an entry keeps the listing. -/
@[simp] theorem select_paths (b : Browser) (index : Nat) : (b.select index).2.paths = b.paths := by
  unfold select
  split
  · rfl
  · dsimp only
    split <;> rfl
  · rfl

/-- Going up keeps the listing. -/
@[simp] theorem up_paths (b : Browser) : b.up.2.paths = b.paths := by
  unfold up
  split <;> rfl

/-- No move changes the listing. -/
@[simp] theorem after_paths (b : Browser) (moves : List Move) :
    (b.after moves).paths = b.paths := by
  induction moves generalizing b with
  | nil => rfl
  | cons m later ih =>
    have hmove : (b.move m).paths = b.paths := by cases m <;> simp [move]
    exact (ih (b.move m)).trans hmove

/-- Every file below a folder can be chosen from there. The induction is on the part of its path
that is still to go. -/
theorem exists_selects (h : Listable b.paths) (hpath : b.folder ++ rest ∈ b.paths)
    (hrest : rest ≠ []) (hlast : rest.getLast? ≠ some '/') :
    ∃ (folders : List Nat) (index : Nat),
      ((b.after (folders.map .select)).select index).1 = some (.file (b.folder ++ rest)) := by
  induction hn : rest.length using Nat.strongRecOn generalizing b rest with
  | ind n ih =>
    by_cases hslash : '/' ∈ rest
    · obtain ⟨name, later, rfl, hname⟩ := List.eq_append_cons_of_mem hslash
      have hfolder : Entry.folder name ∈ b.entries := by
        rw [entries_eq h]
        simpa using mem_folders_iff.mpr ⟨hname, later, hpath⟩
      obtain ⟨index, hentry⟩ := List.mem_iff_getElem?.mp hfolder
      have hinto := select_folder h hentry
      have hlater : later ≠ [] ∧ later.getLast? ≠ some '/' := by
        cases later with
        | nil => simp at hlast
        | cons c later => simpa using hlast
      let inner : Browser := { b with folder := b.folder ++ name ++ ['/'] }
      have hinner : inner.folder ++ later ∈ inner.paths := by simpa [inner] using hpath
      have hshorter : later.length < n := by
        rw [List.length_append, List.length_cons] at hn
        omega
      obtain ⟨folders, last, hfile⟩ := ih _ hshorter (b := inner) h hinner hlater.1 hlater.2 rfl
      refine ⟨index :: folders, last, ?_⟩
      simpa [after, move, hinto, inner] using hfile
    · have hfile : Entry.file rest ∈ b.entries := by
        rw [entries_eq h]
        simpa using mem_files_iff.mpr ⟨hslash, hrest, hpath⟩
      obtain ⟨index, hentry⟩ := List.mem_iff_getElem?.mp hfile
      exact ⟨[], index, by simp [after, (select_file h hentry).1]⟩

/-! ### Going up -/

/-- Going up makes the name of the folder shorter. -/
theorem length_parent_lt (h : folder ≠ []) : (parent folder).length < folder.length := by
  have hlength : folder.length = folder.reverse.length := List.length_reverse.symm
  rw [hlength, parent, List.length_reverse]
  cases hreverse : folder.reverse with
  | nil => simp at hreverse; contradiction
  | cons c later =>
    have hfirst := (List.dropWhile_suffix (l := later) (· == '/')).length_le
    have hthen (l : Path) := (List.dropWhile_suffix (l := l) (· != '/')).length_le
    by_cases hc : c = '/'
    · subst hc
      have hup := hthen (later.dropWhile (· == '/'))
      simp only [List.dropWhile_cons, beq_self_eq_true, if_true, List.length_cons]
      omega
    · have hup := hthen later
      simp only [List.dropWhile_cons, beq_iff_eq, hc, if_false, bne_iff_ne, ne_eq,
        not_false_eq_true, if_true, List.length_cons]
      omega

/-- Inside a folder it is always possible to go up, and the path of the folder becomes shorter. -/
theorem up_shortens (h : b.isTop = false) :
    b.up.1 = true ∧ b.up.2.folder.length < b.folder.length := by
  have hfolder : b.folder ≠ [] := by simpa [isTop] using h
  simpa [up, h] using length_parent_lt hfolder

end Browser

end Files

end PrinterPanel
