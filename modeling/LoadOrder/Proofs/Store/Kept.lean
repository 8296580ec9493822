/-
  LoadOrder/Proofs/Store/Kept.lean
  ================================
  **What is made beside what is there.**

  A store is changed by putting something at a place.  Whatever stands at another place
  stays, and if nothing stood there, at most a folder comes about, because something is
  in it now (`node?_put_of_ne`).  So as long as only free places are filled, a store
  grows (`Grows`), and one says what it may grow by.

  The folders on the way to a place can be made exactly if no file stands in the way
  (`makeFolders_eq_ok`, `makeFolders_of_blocked`).  They are there then, and making them
  again changes nothing (`makeFolders_of_folders`).
-/
import LoadOrder.Store

namespace LoadOrder.Store

variable {s t u : Store} {place other folder done : List String} {node : Node}

/-! ### Putting something somewhere -/

theorem find?_put_self (s : Store) (place : List String) (node : Node) :
    ((s.put place node).nodes.find? fun n => n.1 == place) = some (place, node) := by
  have hgone : ((s.nodes.filter fun n => n.1 != place).find? fun n => n.1 == place) = none := by
    rw [List.find?_eq_none]
    intro n hn heq
    simp only [List.mem_filter, bne, heq, Bool.not_true] at hn
    exact Bool.noConfusion hn.2
  rw [put, List.find?_append, hgone, Option.none_or, List.find?_cons, beq_self_eq_true]

theorem find?_put_of_ne (h : other ≠ place) (s : Store) (node : Node) :
    ((s.put place node).nodes.find? fun n => n.1 == other) =
      s.nodes.find? fun n => n.1 == other := by
  have hlast : [(place, node)].find? (fun n => n.1 == other) = none := by
    rw [List.find?_cons_of_neg (by simpa using h.symm), List.find?_nil]
  have htest : (fun n : List String × Node =>
      decide ((n.1 != place) = true ∧ (n.1 == other) = true)) = fun n => n.1 == other := by
    funext n
    cases heq : n.1 == other with
    | true => simp [eq_of_beq heq, h]
    | false => simp
  rw [put, List.find?_append, hlast, Option.or_none, List.find?_filter, htest]

theorem any_put (s : Store) (place other : List String) (node : Node) :
    ((s.put place node).nodes.any fun n => other.isPrefixOf n.1) =
      ((s.nodes.any fun n => other.isPrefixOf n.1) || other.isPrefixOf place) := by
  cases hp : other.isPrefixOf place with
  | true => simp [put, hp]
  | false =>
    rw [put, List.any_append, List.any_filter, List.any_cons, List.any_nil, hp]
    congr 2
    funext n
    -- what is taken from the place does not stand below another one
    by_cases heq : n.1 = place
    · rw [heq, hp, Bool.and_false]
    · rw [bne_iff_ne.mpr heq, Bool.true_and]

@[simp]
theorem node?_put_self (s : Store) (place : List String) (node : Node) :
    (s.put place node).node? place = some node := by
  rw [node?, find?_put_self]

/-- Elsewhere all is as it was, but that a folder is there now if something is in it. -/
theorem node?_put_of_ne (h : other ≠ place) (s : Store) (node : Node) :
    (s.put place node).node? other =
      (s.node? other).or (if other.isPrefixOf place then some .folder else none) := by
  rw [node?, node?, find?_put_of_ne h, any_put]
  cases s.nodes.find? fun n => n.1 == other with
  | some n => rfl
  | none =>
    cases isAbove other || other == [root] <;>
      cases s.nodes.any fun n => other.isPrefixOf n.1 <;>
        cases other.isPrefixOf place <;> rfl

/-! ### Growing -/

/-- At every place there is what was there before, or else there was nothing, and what is
    there now is one of the new things. -/
def Grows (new : List String → Node → Prop) (s t : Store) : Prop :=
  ∀ place, t.node? place = s.node? place ∨
    s.node? place = none ∧ ∃ node, t.node? place = some node ∧ new place node

section

variable {new : List String → Node → Prop}

theorem Grows.refl (s : Store) : Grows new s s := fun _ => .inl rfl

theorem Grows.trans (hst : Grows new s t) (htu : Grows new t u) : Grows new s u := by
  intro place
  rcases htu place with heq | ⟨hnone, hnew⟩
  · rw [heq]
    exact hst place
  · rcases hst place with heq | ⟨-, node, hsome, -⟩
    · exact .inr ⟨heq ▸ hnone, hnew⟩
    · rw [hnone] at hsome
      cases hsome

theorem Grows.mono {more : List String → Node → Prop} (h : Grows new s t)
    (hmore : ∀ place node, new place node → more place node) : Grows more s t := by
  intro place
  rcases h place with heq | ⟨hnone, node, hsome, hnew⟩
  · exact .inl heq
  · exact .inr ⟨hnone, node, hsome, hmore place node hnew⟩

/-- What was there stays. -/
theorem Grows.node?_of_some (h : Grows new s t) (hsome : s.node? place = some node) :
    t.node? place = some node := by
  rcases h place with heq | ⟨hnone, -⟩
  · rw [heq, hsome]
  · rw [hnone] at hsome
    cases hsome

/-- Where nothing new may be, all is as it was. -/
theorem Grows.node?_eq (h : Grows new s t) (hold : ∀ node, ¬ new place node) :
    t.node? place = s.node? place := by
  rcases h place with heq | ⟨-, node, -, hnew⟩
  · exact heq
  · exact absurd hnew (hold node)

theorem grows_put (hfree : s.node? place = none) (hnew : new place node)
    (hfolders : ∀ other, other <+: place → other ≠ place → new other .folder) :
    Grows new s (s.put place node) := by
  intro other
  by_cases hne : other = place
  · subst hne
    exact .inr ⟨hfree, node, node?_put_self s other node, hnew⟩
  · rw [node?_put_of_ne hne]
    cases hother : s.node? other with
    | some before => exact .inl rfl
    | none =>
      by_cases hway : other <+: place
      · refine .inr ⟨rfl, .folder, ?_, hfolders other hway hne⟩
        rw [if_pos (List.isPrefixOf_iff_prefix.mpr hway)]
        rfl
      · left
        rw [if_neg (by rwa [List.isPrefixOf_iff_prefix])]
        rfl

end

/-! ### Making folders -/

/-- A file stands at a place. -/
def Blocked (s : Store) (place : List String) : Prop :=
  ∃ node, s.node? place = some node ∧ node ≠ .folder

/-- No file stands where a folder or one of those above it should be. -/
def Usable (s : Store) (folder : List String) : Prop :=
  ∀ place, place ≠ [] → place <+: folder → ¬ s.Blocked place

/-- Where there is nothing, there is no file. -/
theorem usable_empty (folder : List String) : Usable {} folder := by
  rintro place - - ⟨node, hnode, hfile⟩
  have hfolder : (if isAbove place || place == [root] || false then some Node.folder else none) =
      some node := hnode
  split at hfolder
  · exact hfile (Option.some.inj hfolder).symm
  · cases hfolder

/-- A folder and those above it are there. -/
def HasFolders (s : Store) (folder : List String) : Prop :=
  ∀ place, place ≠ [] → place <+: folder → s.node? place = some .folder

/-- What making the folders of a place may bring about. -/
def IsFolderOn (way : List String) (place : List String) (node : Node) : Prop :=
  place <+: way ∧ node = .folder

theorem makeFolders_cons_of_blocked {part : String} (h : s.Blocked (done ++ [part]))
    (rest : List String) : ∃ e, s.makeFolders done (part :: rest) = .error e := by
  obtain ⟨node, hnode, hfile⟩ := h
  rw [makeFolders, hnode]
  cases node with
  | folder => exact absurd rfl hfile
  | text content => exact ⟨_, rfl⟩
  | binary => exact ⟨_, rfl⟩

/-- One folder is made, or is there already, and the others are made in it. -/
theorem makeFolders_cons {part : String} (h : ¬ s.Blocked (done ++ [part])) (rest : List String) :
    ∃ made, s.makeFolders done (part :: rest) = made.makeFolders (done ++ [part]) rest ∧
      made.node? (done ++ [part]) = some .folder ∧
      Grows (IsFolderOn (done ++ [part])) s made := by
  rw [makeFolders]
  cases hnext : s.node? (done ++ [part]) with
  | none =>
    refine ⟨_, rfl, node?_put_self _ _ _, grows_put hnext ⟨List.prefix_rfl, rfl⟩ ?_⟩
    exact fun other hother _ => ⟨hother, rfl⟩
  | some node =>
    cases node with
    | folder => exact ⟨s, rfl, hnext, Grows.refl s⟩
    | text content => exact absurd ⟨_, hnext, nofun⟩ h
    | binary => exact absurd ⟨_, hnext, nofun⟩ h

/-- Below the folders that are made all is as it was. -/
theorem Grows.node?_below (h : Grows (IsFolderOn done) s t) {tail : List String}
    (htail : tail ≠ []) : t.node? (done ++ tail) = s.node? (done ++ tail) := by
  apply h.node?_eq
  rintro node ⟨hway, -⟩
  have hshort := hway.length_le
  have hlong := List.length_pos_iff.mpr htail
  rw [List.length_append] at hshort
  omega

theorem Grows.blocked_below (h : Grows (IsFolderOn done) s t) {tail : List String}
    (htail : tail ≠ []) : t.Blocked (done ++ tail) ↔ s.Blocked (done ++ tail) := by
  rw [Blocked, Blocked, h.node?_below htail]

theorem prefix_cons_cases {part : String} {rest place : List String} (hne : place ≠ [])
    (h : place <+: part :: rest) :
    place = [part] ∨ ∃ tail, tail ≠ [] ∧ tail <+: rest ∧ place = part :: tail := by
  rcases List.prefix_cons_iff.mp h with rfl | ⟨tail, rfl, htail⟩
  · exact absurd rfl hne
  · cases tail with
    | nil => exact .inl rfl
    | cons next tail => exact .inr ⟨next :: tail, List.cons_ne_nil _ _, htail, rfl⟩

theorem cons_prefix_cons {part : String} {place rest : List String} (h : place <+: rest) :
    part :: place <+: part :: rest := (List.prefix_cons_inj part).mpr h

/-- **The folders on the way to a place can be made if no file stands in the way.**  Then
    they are there, and nothing else has changed. -/
theorem makeFolders_eq_ok (done : List String)
    (h : ∀ place, place ≠ [] → place <+: folder → ¬ s.Blocked (done ++ place)) :
    ∃ t, s.makeFolders done folder = .ok t ∧ Grows (IsFolderOn (done ++ folder)) s t ∧
      ∀ place, place ≠ [] → place <+: folder → t.node? (done ++ place) = some .folder := by
  induction folder generalizing s done with
  | nil =>
    refine ⟨s, rfl, Grows.refl s, fun place hne hway => ?_⟩
    exact absurd (List.prefix_nil.mp hway) hne
  | cons part rest ih =>
    obtain ⟨made, hmake, hmade, hgrows⟩ :=
      makeFolders_cons (h [part] (List.cons_ne_nil _ _) (cons_prefix_cons List.nil_prefix)) rest
    obtain ⟨t, ht, hrest, hfolders⟩ := ih (s := made) (done ++ [part]) (by
      intro place hne hway
      rw [hgrows.blocked_below hne, ← List.append_cons]
      exact h (part :: place) (List.cons_ne_nil _ _) (cons_prefix_cons hway))
    rw [← List.append_cons] at hrest
    refine ⟨t, hmake.trans ht, (hgrows.mono ?_).trans hrest, fun place hne hway => ?_⟩
    · rintro place node ⟨hway, hnode⟩
      rw [List.append_cons]
      exact ⟨hway.trans (List.prefix_append _ _), hnode⟩
    · rcases prefix_cons_cases hne hway with rfl | ⟨tail, htail, hbelow, rfl⟩
      · exact hrest.node?_of_some hmade
      · rw [List.append_cons]
        exact hfolders tail htail hbelow

/-- A file in the way is not overcome. -/
theorem makeFolders_of_blocked (done : List String) (hne : place ≠ []) (hway : place <+: folder)
    (h : s.Blocked (done ++ place)) : ∃ e, s.makeFolders done folder = .error e := by
  induction folder generalizing s done place with
  | nil => exact absurd (List.prefix_nil.mp hway) hne
  | cons part rest ih =>
    by_cases hpart : s.Blocked (done ++ [part])
    · exact makeFolders_cons_of_blocked hpart rest
    · obtain ⟨made, hmake, -, hgrows⟩ := makeFolders_cons hpart rest
      rcases prefix_cons_cases hne hway with rfl | ⟨tail, htail, hbelow, rfl⟩
      · exact absurd h hpart
      · rw [hmake]
        rw [List.append_cons, ← hgrows.blocked_below htail] at h
        exact ih _ htail hbelow h

/-- Folders that are there need not be made. -/
theorem makeFolders_of_folders (done : List String)
    (h : ∀ place, place ≠ [] → place <+: folder → s.node? (done ++ place) = some .folder) :
    s.makeFolders done folder = .ok s := by
  induction folder generalizing done with
  | nil => rfl
  | cons part rest ih =>
    rw [makeFolders, h [part] (List.cons_ne_nil _ _) (cons_prefix_cons List.nil_prefix)]
    apply ih
    intro place hne hway
    rw [← List.append_cons]
    exact h (part :: place) (List.cons_ne_nil _ _) (cons_prefix_cons hway)

/-! ### The folder of a file -/

theorem not_prefix_of_file (file : String) : ¬ folder ++ [file] <+: folder := by
  intro h
  have hlength := h.length_le
  rw [List.length_append, List.length_singleton] at hlength
  omega

theorem Grows.node?_file (h : Grows (IsFolderOn folder) s t) (file : String) :
    t.node? (folder ++ [file]) = s.node? (folder ++ [file]) :=
  h.node?_below (List.cons_ne_nil _ _)

/-- In a folder that is there, a file comes about alone. -/
theorem HasFolders.node?_put (h : s.HasFolders folder) {file : String}
    (hother : other ≠ folder ++ [file]) (node : Node) :
    (s.put (folder ++ [file]) node).node? other = s.node? other := by
  rw [node?_put_of_ne hother]
  by_cases hway : other <+: folder ++ [file]
  · rcases List.prefix_concat_iff.mp hway with heq | hfolder
    · exact absurd heq hother
    · cases hsome : s.node? other with
      | some before => rfl
      | none =>
        -- only the place where everything begins is left, and it is always there
        by_cases hempty : other = []
        · subst hempty
          rw [node?] at hsome
          split at hsome
          · cases hsome
          · simp [isAbove] at hsome
        · rw [h other hempty hfolder] at hsome
          cases hsome
  · rw [if_neg (by rwa [List.isPrefixOf_iff_prefix]), Option.or_none]

theorem HasFolders.put (h : s.HasFolders folder) (file : String) (node : Node) :
    (s.put (folder ++ [file]) node).HasFolders folder := by
  intro place hne hway
  rw [h.node?_put (fun heq => not_prefix_of_file file (heq ▸ hway))]
  exact h place hne hway

end LoadOrder.Store
