/-
  LoadOrder/Proofs/Config/Saved.lean
  ==================================
  **What is saved is there, and only what is missing is made.**

  The configuration stands in a folder of its own.  Where it has been saved its text
  stands (`of_save_eq_ok`), and to load it then is to read that text and to leave all
  files alone (`loadOrCreate_of_text`).

  In general loading makes the folder, if no file is in its way, and saves the default
  configuration if there is none.  That is all that it can add to the files
  (`loadOrCreate_of_usable`), and what was there stays.  With a file in the way nothing
  is made (`loadOrCreate_of_not_usable`).
-/
import LoadOrder.Config.File
import LoadOrder.Proofs.Store.Kept

namespace LoadOrder.Config

open Store

variable {s saved : Store} {folder : List String} {c : Config}

/-! ### The folder -/

theorem makeFolder_of_usable (h : s.Usable folder) :
    ∃ made, makeFolder s folder = .ok made ∧ Grows (IsFolderOn folder) s made ∧
      made.HasFolders folder := by
  obtain ⟨made, hmade, hgrows, hfolders⟩ := makeFolders_eq_ok [] h
  exact ⟨made, by rw [makeFolder, hmade], hgrows, hfolders⟩

theorem makeFolder_of_not_usable (h : ¬ s.Usable folder) :
    ∃ f, makeFolder s folder = .error f := by
  simp only [Usable, Classical.not_forall, Classical.not_not] at h
  obtain ⟨place, hne, hway, hblocked⟩ := h
  obtain ⟨e, he⟩ := makeFolders_of_blocked [] hne hway hblocked
  exact ⟨_, by rw [makeFolder, he]⟩

theorem makeFolder_of_hasFolders (h : s.HasFolders folder) : makeFolder s folder = .ok s := by
  rw [makeFolder, makeFolders_of_folders [] h]

/-! ### Saving -/

theorem writeText_of_ne_folder {place : List String} (h : s.node? place ≠ some .folder)
    (content : String) : s.writeText place content = .ok (s.put place (.text content)) := by
  unfold writeText
  split
  · exact absurd ‹_› h
  · rfl

theorem save_of_hasFolders (hfolders : s.HasFolders folder)
    (hplace : s.node? (folder ++ [configFile]) ≠ some .folder) (c : Config) :
    c.save s folder = .ok (s.put (folder ++ [configFile]) (.text c.text)) := by
  rw [save, makeFolder_of_hasFolders hfolders]
  simp only [writeText_of_ne_folder hplace]

/-- A configuration that could be saved stands in its folder. -/
theorem of_save_eq_ok (h : c.save s folder = .ok saved) :
    saved.HasFolders folder ∧ saved.node? (folder ++ [configFile]) = some (.text c.text) := by
  have husable : s.Usable folder := by
    refine Classical.byContradiction fun hnot => ?_
    obtain ⟨f, hf⟩ := makeFolder_of_not_usable hnot
    simp only [save, hf, reduceCtorEq] at h
  obtain ⟨made, hmade, -, hfolders⟩ := makeFolder_of_usable husable
  simp only [save, hmade] at h
  by_cases hplace : made.node? (folder ++ [configFile]) = some .folder
  · simp only [writeText, hplace, reduceCtorEq] at h
  · rw [writeText_of_ne_folder hplace] at h
    obtain rfl := Except.ok.inj h
    exact ⟨hfolders.put configFile _, node?_put_self _ _ _⟩

/-! ### Loading -/

theorem loadOrCreate_of_text {raw : String} (hfolders : s.HasFolders folder)
    (htext : s.node? (folder ++ [configFile]) = some (.text raw)) :
    loadOrCreate s folder = (s, ofText raw) := by
  rw [loadOrCreate, makeFolder_of_hasFolders hfolders]
  simp only [htext, ofNode]

/-- What loading may add to the files of a folder. -/
def IsOwn (folder : List String) (place : List String) (node : Node) : Prop :=
  IsFolderOn folder place node ∨
    place = folder ++ [configFile] ∧ node = .text ({} : Config).text

theorem isOwn_of_prefix {place : List String} (h : place <+: folder ++ [configFile])
    (hne : place ≠ folder ++ [configFile]) : IsOwn folder place .folder := by
  rcases List.prefix_concat_iff.mp h with heq | hway
  · exact absurd heq hne
  · exact .inl ⟨hway, rfl⟩

/-- **Loading makes what is missing,** the folder and the default configuration, and
    nothing else. -/
theorem loadOrCreate_of_usable (h : s.Usable folder) :
    let loaded := (loadOrCreate s folder).1
    Grows (IsOwn folder) s loaded ∧ loaded.HasFolders folder ∧
      loaded.node? (folder ++ [configFile]) =
        (s.node? (folder ++ [configFile])).or (some (.text ({} : Config).text)) := by
  intro loaded
  obtain ⟨made, hmade, hgrows, hfolders⟩ := makeFolder_of_usable h
  have hown : Grows (IsOwn folder) s made := hgrows.mono fun _ _ => .inl
  have hsame := hgrows.node?_file configFile
  cases hplace : s.node? (folder ++ [configFile]) with
  | some node =>
    have hloaded : loaded = made := by
      simp only [loaded, loadOrCreate, hmade, hsame, hplace]
    rw [hloaded]
    exact ⟨hown, hfolders, hsame.trans hplace⟩
  | none =>
    have hfree : made.node? (folder ++ [configFile]) = none := hsame.trans hplace
    have hsave := save_of_hasFolders hfolders (by rw [hfree]; nofun) {}
    have hloaded : loaded = made.put (folder ++ [configFile]) (.text ({} : Config).text) := by
      simp only [loaded, loadOrCreate, hmade, hfree, hsave]
    rw [hloaded]
    refine ⟨hown.trans (grows_put hfree (.inr ⟨rfl, rfl⟩) fun _ => isOwn_of_prefix), ?_, ?_⟩
    · exact hfolders.put configFile _
    · exact node?_put_self _ _ _

theorem loadOrCreate_of_not_usable (h : ¬ s.Usable folder) :
    ∃ f, loadOrCreate s folder = (s, .error f) := by
  obtain ⟨f, hf⟩ := makeFolder_of_not_usable h
  exact ⟨f, by rw [loadOrCreate, hf]⟩

end LoadOrder.Config
