import PrinterPanel.Proofs.Browsing

/-!
# The contents of a folder

A folder shows first the folders in it, each once and in the order in which the listing mentions
them, and then the files in it as the listing has them. Going up leads out of a folder again; where
a path has two slashes with nothing between them it leads further up than to the folder before.
-/

namespace PrinterPanel.Files

variable {folder path name : Path} {paths : List Path}

/-- A path mentions a folder if it goes through it. -/
def Mentions (folder name path : Path) : Prop := '/' ∉ name ∧ folder ++ name ++ ['/'] <+: path

instance : DecidablePred (Mentions folder name) := fun _ => instDecidableAnd

/-- The place in a listing at which a folder is first mentioned. -/
def firstMention (folder : Path) (paths : List Path) (name : Path) : Nat :=
  paths.findIdx fun path => Mentions folder name path

/-- A path that names a file directly in a folder. -/
def IsFileIn (folder path : Path) : Prop := ∃ name, name ≠ [] ∧ '/' ∉ name ∧ folder ++ name = path

namespace Browser

/-- A file of a folder is what follows the folder without a further slash. -/
theorem isFileIn_iff :
    ((below folder path).any fun rest => !rest.contains '/') = true ↔ IsFileIn folder path := by
  simp only [Option.any_eq_true, below_eq_some_iff, IsFileIn]
  constructor
  · rintro ⟨rest, ⟨hrest, hpath⟩, hslash⟩
    exact ⟨rest, hrest, by simpa using hslash, hpath⟩
  · rintro ⟨rest, hrest, hslash, hpath⟩
    exact ⟨rest, ⟨hrest, hpath⟩, by simpa using hslash⟩

instance : DecidablePred (IsFileIn folder) := fun _ => decidable_of_iff _ isFileIn_iff

/-! ### Folders in the order of their first mention -/

/-- A folder is shown if some path mentions it. -/
theorem mem_folders_iff_mentions :
    name ∈ folders ⟨paths, folder⟩ ↔ ∃ path ∈ paths, Mentions folder name path := by
  rw [mem_folders_iff]
  constructor
  · rintro ⟨hname, later, hpath⟩
    exact ⟨_, hpath, hname, later, by simp⟩
  · rintro ⟨path, hpath, hname, later, rfl⟩
    exact ⟨hname, later, by simpa using hpath⟩

/-- A folder is shown exactly if the listing has its first mention. -/
theorem firstMention_lt_length_iff :
    firstMention folder paths name < paths.length ↔ name ∈ folders ⟨paths, folder⟩ := by
  simp [firstMention, mem_folders_iff_mentions]

/-- A later path does not change where a folder is first mentioned. -/
theorem firstMention_concat_of_mem (h : name ∈ folders ⟨paths, folder⟩) :
    firstMention folder (paths ++ [path]) name = firstMention folder paths name := by
  rw [firstMention, List.findIdx_append]
  exact if_pos (firstMention_lt_length_iff.mpr h)

/-- A folder that is not shown yet is first mentioned by a later path. -/
theorem length_le_firstMention (h : name ∉ folders ⟨paths, folder⟩) :
    paths.length ≤ firstMention folder (paths ++ [path]) name := by
  have hnone := mt firstMention_lt_length_iff.mp h
  rw [firstMention, List.findIdx_append]
  exact (if_neg hnone).symm ▸ Nat.le_add_left _ _

/-- Folders come in the order of their first mention. -/
theorem pairwise_folders (folder : Path) (paths : List Path) :
    (folders ⟨paths, folder⟩).Pairwise fun name later =>
      firstMention folder paths name < firstMention folder paths later := by
  -- By induction on the last path, which can only mention a folder behind the others.
  induction paths using List.reverseRecOn with
  | nil => exact .nil
  | append_singleton paths path ih =>
    rw [folders_concat, List.pairwise_append]
    refine ⟨?_, ?_, fun name hname later hlater => ?_⟩
    · refine ih.imp_of_mem fun hname hlater hbefore => ?_
      rwa [firstMention_concat_of_mem hname, firstMention_concat_of_mem hlater]
    · exact List.Pairwise.filter _ (by cases mention folder path <;> simp)
    · have hnew : later ∉ folders ⟨paths, folder⟩ := by simpa using (List.mem_filter.mp hlater).2
      calc
        firstMention folder (paths ++ [path]) name
        _ = firstMention folder paths name := firstMention_concat_of_mem hname
        _ < paths.length := firstMention_lt_length_iff.mpr hname
        _ ≤ firstMention folder (paths ++ [path]) later := length_le_firstMention hnew

/-! ### Files as the listing has them -/

/-- The full paths of the files in a folder are those paths of the listing that name one there. -/
theorem map_files (folder : Path) (paths : List Path) :
    (files ⟨paths, folder⟩).map (folder ++ ·) = paths.filter (IsFileIn folder ·) := by
  induction paths using List.reverseRecOn with
  | nil => rfl
  | append_singleton paths path ih =>
    rw [files_concat, List.map_append, ih, List.filter_append]
    congr 1
    cases hbelow : below folder path with
    | none => simp [← isFileIn_iff, hbelow]
    | some rest =>
      obtain ⟨-, rfl⟩ := below_eq_some_iff.mp hbelow
      by_cases hslash : '/' ∈ rest <;> simp [← isFileIn_iff, hbelow, hslash]

/-! ### What is shown -/

/-- Wherever the user has gone, the rows are the folders that some path mentions, each once and in
the order of their first mention, and then the files as the listing has them. -/
theorem after_entries (h : Listable paths) (moves : List Move) :
    let b := (load paths).after moves
    ∃ folders files : List Path,
      b.entries = folders.map .folder ++ files.map .file ∧
      (∀ name, name ∈ folders ↔ ∃ path ∈ paths, Mentions b.folder name path) ∧
      folders.Nodup ∧
      (folders.Pairwise fun name later =>
        firstMention b.folder paths name < firstMention b.folder paths later) ∧
      files.map (b.folder ++ ·) = paths.filter (IsFileIn b.folder ·) := by
  intro b
  have hpaths : b.paths = paths := after_paths _ _
  have hb : b = ⟨paths, b.folder⟩ := by rw [← hpaths]
  have horder := pairwise_folders b.folder paths
  refine ⟨folders ⟨paths, b.folder⟩, files ⟨paths, b.folder⟩, ?_, fun _ => mem_folders_iff_mentions,
    horder.imp fun hbefore heq => ?_, horder, map_files _ _⟩
  · rw [← hb]
    exact entries_eq (hpaths ▸ h)
  · exact absurd (heq ▸ hbefore) (Nat.lt_irrefl _)

/-- A folder that is mentioned twice, a path with nothing between two slashes and a path that is
there twice, seen from inside a folder. -/
theorem after_entries_parts :
    let paths := ["a/b/c", "a//d", "top", "a/e", "a/b/f", "a/e", "a/"].map String.toList
    Listable paths ∧
      let b := (load paths).after [.select 0]
      b.entries = [.folder ['b'], .folder [], .file ['e'], .file ['e']] ∧
      ∃ folders files : List Path,
        b.entries = folders.map .folder ++ files.map .file ∧
        (∀ name, name ∈ folders ↔ ∃ path ∈ paths, Mentions b.folder name path) ∧
        folders.Nodup ∧
        (folders.Pairwise fun name later =>
          firstMention b.folder paths name < firstMention b.folder paths later) ∧
        files.map (b.folder ++ ·) = paths.filter (IsFileIn b.folder ·) := by
  have hlistable : Listable (["a/b/c", "a//d", "top", "a/e", "a/b/f", "a/e", "a/"].map
      String.toList) := ⟨by decide, by decide⟩
  exact ⟨hlistable, by decide +kernel, after_entries hlistable [.select 0]⟩

/-! ### Going up out of a folder -/

/-- A name of a folder as it is shown: the top one has none, and any other one ends in a slash. -/
def Closed (folder : Path) : Prop := folder = [] ∨ ∃ body, folder = body ++ ['/']

/-- The parent of a folder is the folder that it was entered from. -/
theorem parent_append (hfolder : Closed folder) (hname : '/' ∉ name) (hne : name ≠ []) :
    parent (folder ++ name ++ ['/']) = folder := by
  have hreverse : '/' ∉ name.reverse := by simpa using hname
  have hhead : (name.reverse ++ folder.reverse).dropWhile (· == '/') =
      name.reverse ++ folder.reverse := by
    cases hlast : name.reverse with
    | nil => simp at hlast; contradiction
    | cons c rest =>
      have hc : c ≠ '/' := by
        rintro rfl
        exact hreverse (hlast ▸ List.mem_cons_self)
      simp [hc]
  have htail : (name.reverse ++ folder.reverse).dropWhile (· != '/') = folder.reverse := by
    rw [List.dropWhile_append_of_pos fun c hc => by simpa using ne_of_mem_of_not_mem hc hreverse]
    obtain rfl | ⟨body, rfl⟩ := hfolder <;> simp
  simp [parent, hhead, htail]

/-- Nothing between two slashes is no folder to go up from. -/
theorem parent_concat_slash (folder : Path) : parent (folder ++ ['/']) = parent folder := by
  simp [parent]

/-- The parent of a folder is the top folder or ends in a slash. -/
theorem closed_parent (folder : Path) : Closed (parent folder) := by
  unfold parent
  cases hrest : (folder.reverse.dropWhile (· == '/')).dropWhile (· != '/') with
  | nil => exact .inl rfl
  | cons c rest =>
    have hc := List.head?_dropWhile_not (· != '/') (folder.reverse.dropWhile (· == '/'))
    rw [hrest] at hc
    obtain rfl : c = '/' := by simpa using hc
    exact .inr ⟨rest.reverse, by simp⟩

/-- A move leads to the top folder, or to one that ends in a slash. -/
theorem Closed.move {b : Browser} (h : Closed b.folder) (m : Move) : Closed (b.move m).folder := by
  cases m with
  | select index =>
    simp only [Browser.move, select]
    split
    · exact h
    · split
      · exact .inr ⟨_, rfl⟩
      · exact h
    · exact h
  | up =>
    simp only [Browser.move, up]
    split
    · exact h
    · exact closed_parent _

/-- The same holds after any moves. -/
theorem Closed.after {b : Browser} (h : Closed b.folder) (moves : List Move) :
    Closed (b.after moves).folder := by
  induction moves generalizing b with
  | nil => exact h
  | cons m later ih => exact ih (h.move m)

/-- Wherever the user has gone, going into a folder and up again leads back just if the folder has a
name or the top folder was shown. Otherwise it leads to where going up would have led at once. -/
theorem up_select_iff (h : Listable paths) (moves : List Move) {index : Nat}
    (hentry : ((load paths).after moves).entries[index]? = some (.folder name)) :
    let b := (load paths).after moves
    let inner := (b.select index).2
    (b.select index).1 = some .folder ∧ inner.up.1 = true ∧
      (inner.up.2 = b ↔ name ≠ [] ∨ b.isTop = true) ∧
      (name = [] → b.isTop = false → inner.up.2 = b.up.2) := by
  intro b inner
  have hpaths : b.paths = paths := after_paths _ _
  have hlistable : Listable b.paths := hpaths ▸ h
  have hclosed : Closed b.folder := Closed.after (b := load paths) (.inl rfl) moves
  have hname : name ∈ b.folders := by
    have hmem := List.mem_of_getElem? hentry
    rw [entries_eq hlistable] at hmem
    simpa using hmem
  have hslash := (mem_folders_iff.mp hname).1
  have hselect := select_folder hlistable hentry
  have hinner : inner = { b with folder := b.folder ++ name ++ ['/'] } := congrArg Prod.snd hselect
  have hup : inner.up = (true, { b with folder := parent (b.folder ++ name ++ ['/']) }) := by
    simp [hinner, up, isTop]
  have hunnamed : parent (b.folder ++ [] ++ ['/']) = parent b.folder := by
    rw [List.append_nil, parent_concat_slash]
  have hback : inner.up.2 = b ↔ parent (b.folder ++ name ++ ['/']) = b.folder := by
    rw [hup]
    exact ⟨congrArg folder, fun h => by rw [h]⟩
  refine ⟨by rw [hselect], by rw [hup], ?_, ?_⟩
  · rw [hback]
    by_cases hne : name = []
    · subst hne
      rw [hunnamed]
      by_cases htop : b.folder = []
      · simp [isTop, htop, parent]
      · have hshorter := length_parent_lt htop
        have hparent : parent b.folder ≠ b.folder := fun heq => by
          rw [heq] at hshorter
          exact Nat.lt_irrefl _ hshorter
        simp [isTop, htop, hparent]
    · exact iff_of_true (parent_append hclosed hslash hne) (.inl hne)
  · rintro rfl htop
    rw [hup, hunnamed]
    simp [up, htop]

/-- Going up out of a folder with a name, two folders down. -/
theorem up_select_gear :
    let paths := ["a/b/gear", "a//pin"].map String.toList
    let b := (load paths).after [.select 0]
    Listable paths ∧ b.entries[0]? = some (.folder ['b']) ∧
      (b.select 0).1 = some .folder ∧ (b.select 0).2.up.1 = true ∧
      ((b.select 0).2.up.2 = b ↔ ['b'] ≠ [] ∨ b.isTop = true) ∧
      (['b'] = [] → b.isTop = false → (b.select 0).2.up.2 = b.up.2) := by
  have hlistable : Listable (["a/b/gear", "a//pin"].map String.toList) := ⟨by decide, by decide⟩
  have hentry : ((load (["a/b/gear", "a//pin"].map String.toList)).after
      [.select 0]).entries[0]? = some (.folder ['b']) := by decide +kernel
  exact ⟨hlistable, hentry, up_select_iff hlistable [.select 0] hentry⟩

/-- Between two slashes there is a folder that one can go into, but going up again leads to the top
and not to the folder before. -/
theorem up_skips_folder :
    let paths := ["a//pin"].map String.toList
    let b := (load paths).after [.select 0]
    Listable paths ∧ b.folder = ['a', '/'] ∧ b.entries = [.folder []] ∧
      (b.select 0).1 = some .folder ∧ (b.select 0).2.up.1 = true ∧
      (b.select 0).2.up.2.folder = [] ∧ (b.select 0).2.up.2.entries = [.folder ['a']] := by
  refine ⟨⟨by decide, by decide⟩, ?_⟩
  decide +kernel

end Browser

end PrinterPanel.Files
