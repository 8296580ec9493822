/-
  LoadOrder/Proofs/Totals/Edits.lean
  ==================================
  **Edits that follow each other come to one edit.**

  Two edits of one plugin come to the edit that takes each field from the later one where
  it has it and from the earlier one elsewhere (`Plugin.edit_edit`).  A text for display
  follows because it is computed from the field that is left.  The totals follow for
  another reason: the changes of two edits are not those of one, since a mark that flips
  there and back is reported twice by two edits and by one not at all.  But whatever way
  the totals went, they count the plugins that came of it (`Merge.counts_editEach`), and
  two totals that count the same plugins are equal.  The number of shown messages counts
  nothing and is left out: it may stop at zero on the way.

  So of a whole sequence of edits a plugin keeps what one edit makes of it, the edits of
  its own place in their order (`Merge.getElem?_editEach`), and how they are mixed with
  the edits of other places does not matter.
-/
import LoadOrder.Proofs.Conflict.Scope
import LoadOrder.Session.Operations

namespace LoadOrder

/-! ### One edit for several -/

namespace Edit

/-- One edit for a sequence of them; the later ones win. -/
def all (edits : List Edit) : Edit := edits.foldr andThen {}

theorem andThen_empty (e : Edit) : e.andThen {} = e := by
  simp only [andThen, Option.none_or]

end Edit

namespace Plugin

theorem edit_empty (p : Plugin) : p.edit {} = p := rfl

/-- **What is told about an edit can be read off the plugin before and after it:** the
    tallies of the messages if they are replaced, be it by equal ones, and the dirty mark
    if it is another. -/
theorem editChanges_eq (p : Plugin) (e : Edit) :
    p.editChanges e =
      (if e.messages.isSome then
        [.messages (Tally.ofMessages p.messages) (Tally.ofMessages (p.edit e).messages)]
      else []) ++
      (if p.dirty = (p.edit e).dirty then [] else [.dirty (p.edit e).dirty]) := by
  rw [editChanges, messageChanges, dirtyChanges, edit_eq]
  cases e.messages <;> cases e.dirty <;> simp

end Plugin

/-! ### The plugin at a place -/

namespace Merge

/-- Makes an edit on the plugin at a place and lets the totals follow. -/
def editAt (m : Merge) (i : Nat) (e : Edit) : Merge :=
  match m.plugins[i]? with
  | none => m
  | some p =>
    { m with
      plugins := m.plugins.modify i fun q => q.edit e
      totals := m.totals.applyAll (p.editChanges e)
      events := m.events ++ p.editEvents e m.totals }

/-- Makes edits one after the other, each at its place. -/
def editEach (m : Merge) (edits : List (Nat × Edit)) : Merge :=
  edits.foldl (fun k entry => k.editAt entry.1 entry.2) m

variable {m k : Merge} {i j : Nat} {e f : Edit} {p : Plugin}

theorem editAt_of_some (h : m.plugins[i]? = some p) (e : Edit) :
    m.editAt i e =
      { m with
        plugins := m.plugins.modify i fun q => q.edit e
        totals := m.totals.applyAll (p.editChanges e)
        events := m.events ++ p.editEvents e m.totals } := by
  simp only [editAt, h]

theorem plugins_editAt (m : Merge) (i : Nat) (e : Edit) :
    (m.editAt i e).plugins = m.plugins.modify i fun q => q.edit e := by
  cases h : m.plugins[i]? with
  | none =>
    have hlength : m.plugins.length ≤ i := List.getElem?_eq_none_iff.mp h
    simp only [editAt, h, List.modify_eq_self hlength]
  | some p => rw [editAt_of_some h]

/-- **By name.**  An edit of the first plugin of a name is one at its place. -/
theorem editNamed_eq_editAt {name : String} (h : named? name m.plugins = some p) (e : Edit) :
    ∃ i, m.plugins[i]? = some p ∧ m.editNamed name e = m.editAt i e := by
  obtain ⟨i, hi, hplugins⟩ := exists_place_of_named? h e
  refine ⟨i, hi, ?_⟩
  rw [editAt_of_some hi, editNamed]
  simp only [h, hplugins]

/-- **In a session,** what is told of an edit is told of one at a place. -/
theorem editPlugin_eq_editAt {s : Session} {name : String} {e : Edit} {changes : List Change}
    (hplugins : s.plugins = m.plugins) (htotals : s.totals = m.totals)
    (h : s.editChanges? name e = some changes) :
    ∃ i p, m.plugins[i]? = some p ∧ p.editChanges e = changes ∧
      (s.editPlugin name e).plugins = (m.editAt i e).plugins ∧
      (s.editPlugin name e).totals = (m.editAt i e).totals := by
  rw [Session.editChanges?, Session.named?, hplugins] at h
  obtain ⟨p, hp, hchanges⟩ := Option.map_eq_some_iff.mp h
  obtain ⟨i, hi, hedit⟩ := exists_place_of_named? hp e
  refine ⟨i, p, hi, hchanges, ?_, ?_⟩
  · simp only [Session.editPlugin, Session.absorb, editNamed, hplugins, hp, hedit,
      plugins_editAt]
  · simp only [Session.editPlugin, Session.absorb, editNamed, hplugins, htotals, hp,
      editAt_of_some hi]

/-! ### The totals -/

theorem counts_editAt (h : m.totals.Counts m.plugins) (i : Nat) (e : Edit) :
    (m.editAt i e).totals.Counts (m.editAt i e).plugins := by
  cases hp : m.plugins[i]? with
  | none => simpa only [editAt, hp] using h
  | some p =>
    rw [editAt_of_some hp, Totals.applyAll_editChanges]
    exact h.exchangeAt (fun q => q.edit e) hp

/-- **Totals that count a load order count it after any edits.** -/
theorem counts_editEach (h : m.totals.Counts m.plugins) (edits : List (Nat × Edit)) :
    (m.editEach edits).totals.Counts (m.editEach edits).plugins := by
  induction edits generalizing m with
  | nil => exact h
  | cons entry rest ih => exact ih (counts_editAt h entry.1 entry.2)

/-! ### Sequences of edits -/

/-- The one edit for those of a sequence that are made at a place. -/
def editsAt (i : Nat) (edits : List (Nat × Edit)) : Edit :=
  Edit.all ((edits.filter fun entry => entry.1 == i).map Prod.snd)

theorem editsAt_cons (i : Nat) (entry : Nat × Edit) (rest : List (Nat × Edit)) :
    editsAt i (entry :: rest) =
      if entry.1 = i then entry.2.andThen (editsAt i rest) else editsAt i rest := by
  by_cases h : entry.1 = i <;> simp [editsAt, Edit.all, h]

/-- **A plugin keeps what one edit makes of it,** after any sequence of edits. -/
theorem getElem?_editEach (m : Merge) (edits : List (Nat × Edit)) (i : Nat) :
    (m.editEach edits).plugins[i]? = m.plugins[i]?.map fun p => p.edit (editsAt i edits) := by
  induction edits generalizing m with
  | nil => simp [editEach, editsAt, Edit.all, Plugin.edit_empty]
  | cons entry rest ih =>
    have hstep : m.editEach (entry :: rest) = (m.editAt entry.1 entry.2).editEach rest := rfl
    rw [hstep, ih, plugins_editAt, List.getElem?_modify, editsAt_cons]
    by_cases h : entry.1 = i
    · simp [h, Function.comp_def, Plugin.edit_edit]
    · simp [h]

/-- The same plugins with the same totals, the number of shown messages apart. -/
structure Agrees (m k : Merge) : Prop where
  plugins : m.plugins = k.plugins
  messages : m.totals.messages = k.totals.messages
  warnings : m.totals.warnings = k.totals.warnings
  errors : m.totals.errors = k.totals.errors
  dirtyPlugins : m.totals.dirtyPlugins = k.totals.dirtyPlugins

/-- **Two sequences of edits agree** if at each place they come to the same edit. -/
theorem agrees_editEach (h : m.totals.Counts m.plugins) {edits edits' : List (Nat × Edit)}
    (hsame : ∀ i, editsAt i edits = editsAt i edits') :
    (m.editEach edits).Agrees (m.editEach edits') := by
  have hplugins : (m.editEach edits).plugins = (m.editEach edits').plugins := by
    apply List.ext_getElem?
    intro i
    rw [getElem?_editEach, getElem?_editEach, hsame]
  have hcounts := counts_editEach h edits
  rw [hplugins] at hcounts
  obtain ⟨hmessages, hwarnings, herrors, hdirty⟩ := hcounts.agree (counts_editEach h edits')
  exact ⟨hplugins, hmessages, hwarnings, herrors, hdirty⟩

/-! ### Two edits -/

theorem agrees_again (h : m.totals.Counts m.plugins) (i : Nat) (e f : Edit) :
    ((m.editAt i e).editAt i f).Agrees (m.editAt i (e.andThen f)) := by
  have hsame : ∀ j, editsAt j [(i, e), (i, f)] = editsAt j [(i, e.andThen f)] := by
    intro j
    by_cases hj : i = j <;> simp [editsAt, Edit.all, hj, Edit.andThen_empty]
  exact agrees_editEach h hsame

theorem agrees_swap (h : m.totals.Counts m.plugins) (hij : i ≠ j) (e f : Edit) :
    ((m.editAt i e).editAt j f).Agrees ((m.editAt j f).editAt i e) := by
  have hsame : ∀ n, editsAt n [(i, e), (j, f)] = editsAt n [(j, f), (i, e)] := by
    intro n
    simp only [editsAt_cons]
    by_cases hi : i = n
    · have hj : j ≠ n := fun hj => hij (hi.trans hj.symm)
      simp [hi, hj]
    · simp [hi]
  exact agrees_editEach h hsame

/-- **Edits add up.**  Of a load order and totals that count it: two edits of the plugin
    at a place come to the one that has each field of the later edit, and of the earlier
    one what the later leaves; edits at two places can change their order; the totals
    after an edit are those before it with the changes that are told of the edit, that is
    with the plugin's old messages and mark taken out and the new ones put in, and these
    changes are read off the plugin before and after; an edit by name, in a merge as in a
    session, is one at the place of the first plugin of this name; and after any sequence
    of edits each plugin is what the one edit for those of its place makes of it, and the
    totals count the plugins. -/
theorem edits_editAt (m : Merge) (h : m.totals.Counts m.plugins) :
    (∀ i e f, ((m.editAt i e).editAt i f).Agrees (m.editAt i (e.andThen f))) ∧
    (∀ i j e f, i ≠ j → ((m.editAt i e).editAt j f).Agrees ((m.editAt j f).editAt i e)) ∧
    (∀ i e p, m.plugins[i]? = some p →
      (m.editAt i e).plugins[i]? = some (p.edit e) ∧
      (m.editAt i e).totals = m.totals.applyAll (p.editChanges e) ∧
      (m.editAt i e).totals = m.totals.exchange p (p.edit e) ∧
      p.editChanges e =
        (if e.messages.isSome then
          [.messages (Tally.ofMessages p.messages) (Tally.ofMessages (p.edit e).messages)]
        else []) ++
        (if p.dirty = (p.edit e).dirty then [] else [.dirty (p.edit e).dirty])) ∧
    (∀ name e p, named? name m.plugins = some p →
      ∃ i, m.plugins[i]? = some p ∧ m.editNamed name e = m.editAt i e) ∧
    (∀ (s : Session) name e changes, s.plugins = m.plugins → s.totals = m.totals →
      s.editChanges? name e = some changes →
      (s.editPlugin name e).totals = m.totals.applyAll changes ∧
      ∃ i, (s.editPlugin name e).plugins = (m.editAt i e).plugins ∧
        (s.editPlugin name e).totals = (m.editAt i e).totals) ∧
    ∀ edits,
      (∀ i : Nat, (m.editEach edits).plugins[i]? =
        m.plugins[i]?.map fun p => p.edit (editsAt i edits)) ∧
      (m.editEach edits).totals.Counts (m.editEach edits).plugins := by
  refine ⟨agrees_again h, fun i j e f hij => agrees_swap h hij e f, ?_, ?_, ?_, ?_⟩
  · intro i e p hp
    have htotals : (m.editAt i e).totals = m.totals.applyAll (p.editChanges e) := by
      rw [editAt_of_some hp]
    refine ⟨?_, htotals, ?_, p.editChanges_eq e⟩
    · simp [plugins_editAt, hp]
    · rw [htotals, Totals.applyAll_editChanges]
  · intro name e p hp
    exact editNamed_eq_editAt hp e
  · intro s name e changes hplugins htotals hchanges
    obtain ⟨i, p, hp, rfl, hplugins', htotals'⟩ :=
      editPlugin_eq_editAt hplugins htotals hchanges
    refine ⟨?_, i, hplugins', htotals'⟩
    rw [htotals', editAt_of_some hp]
  · intro edits
    exact ⟨getElem?_editEach m edits, counts_editEach h edits⟩

/-- A name that stands twice, and a mark that flips there and back. -/
theorem edits_editAt_flips :
    let l := [Plugin.ofData "A.esp" { dirty := true }, Plugin.ofData "A.esp" {}]
    let m : Merge := { plugins := l, totals := Totals.ofPlugins l }
    let s : Session := { Session.new {} "" with plugins := l, totals := Totals.ofPlugins l }
    let e : Edit := { messages := some [{ severity := .error }], dirty := some false }
    let f : Edit := { crc := some 255, dirty := some true }
    m.totals.Counts m.plugins ∧ 0 ≠ 1 ∧ m.plugins[0]? = some l[0] ∧
      named? "A.esp" m.plugins = some l[0] ∧ s.plugins = m.plugins ∧ s.totals = m.totals ∧
      s.editChanges? "A.esp" e = some (l[0].editChanges e) ∧
      ((m.editAt 0 e).editAt 0 f).Agrees (m.editAt 0 (e.andThen f)) ∧
      ((m.editAt 0 e).editAt 1 f).Agrees ((m.editAt 1 f).editAt 0 e) ∧
      (m.editAt 0 (e.andThen f)).totals = m.totals.applyAll (l[0].editChanges (e.andThen f)) ∧
      (m.editAt 0 (e.andThen f)).totals.dirtyPlugins = 1 ∧
      (∃ i, m.plugins[i]? = some l[0] ∧ m.editNamed "A.esp" e = m.editAt i e) ∧
      (s.editPlugin "A.esp" e).totals = m.totals.applyAll (l[0].editChanges e) := by
  intro l m s e f
  have hcounts : m.totals.Counts m.plugins := Totals.counts_ofPlugins l
  have hp : m.plugins[0]? = some l[0] := rfl
  have hname : named? "A.esp" m.plugins = some l[0] := rfl
  have hchanges : s.editChanges? "A.esp" e = some (l[0].editChanges e) := rfl
  obtain ⟨hagain, hswap, hplace, hnamed, hsession, -⟩ := edits_editAt m hcounts
  exact ⟨hcounts, Nat.zero_ne_one, hp, hname, rfl, rfl, hchanges, hagain 0 e f,
    hswap 0 1 e f Nat.zero_ne_one, (hplace 0 (e.andThen f) l[0] hp).2.1, rfl,
    hnamed "A.esp" e l[0] hname, (hsession s "A.esp" e _ rfl rfl hchanges).1⟩

end Merge

end LoadOrder
