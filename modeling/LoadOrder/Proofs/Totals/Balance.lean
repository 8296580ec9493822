/-
  LoadOrder/Proofs/Totals/Balance.lean
  ====================================
  **Totals that follow changes agree with totals that are counted afresh.**

  The totals are moved by differences, and a difference is taken away with a
  subtraction that stops at zero.  What keeps them right is that a change is always
  that of one plugin of the load order, which has been counted: then nothing is
  taken away that is not there.

  The changes of an edit come to one exchange (`applyAll_editChanges`): the old
  plugin goes out of every total and the edited one goes in.  An exchange keeps the
  balance (`Counts.exchange`) and reports no stop at zero (`editEvents_sound`), and
  a merge is a sequence of exchanges (`Merge.Balanced.run`).

  The number of shown messages is no count of anything between two filter passes,
  so it may stop at zero; all that holds of it is that it stays below the number of
  messages.
-/
import LoadOrder.Conflict.Merge
import LoadOrder.Proofs.Filter.Marks

namespace LoadOrder

/-! ### The edited plugin -/

/-- The edit that has each field of the later one, and of the earlier one what the later
    one leaves. -/
def Edit.andThen (earlier later : Edit) : Edit where
  version := later.version.or earlier.version
  crc := later.crc.or earlier.crc
  empty := later.empty.or earlier.empty
  priority := later.priority.or earlier.priority
  tags := later.tags.or earlier.tags
  messages := later.messages.or earlier.messages
  dirty := later.dirty.or earlier.dirty

namespace Plugin

variable (p : Plugin)

theorem setIf_setVersion (value : Option String) :
    p.setIf setVersion value = { p with version := value.getD p.version } := by
  cases value <;> rfl

theorem setIf_setEmpty (value : Option Bool) :
    p.setIf setEmpty value = { p with empty := value.getD p.empty } := by
  cases value <;> rfl

theorem setIf_setCrc (value : Option UInt32) :
    p.setIf setCrc value =
      { p with
        crc := value.getD p.crc, crcText := (value.map LoadOrder.crcText).getD p.crcText } := by
  cases value <;> rfl

theorem setIf_setPriority (value : Option Int) :
    p.setIf setPriority value =
      { p with
        priority := value.getD p.priority
        priorityText := (value.map LoadOrder.priorityText).getD p.priorityText } := by
  cases value <;> rfl

theorem setIf_setTags (value : Option (List TagDirective)) :
    p.setIf setTags value =
      { p with
        tags := value.getD p.tags
        tagTexts := (value.map LoadOrder.tagTexts).getD p.tagTexts } := by
  cases value <;> rfl

theorem setIf_setMessages (value : Option (List ReportedMessage)) :
    p.setIf setMessages value =
      { p with messages := (value.map fun ms => ms.map Message.ofReported).getD p.messages } := by
  cases value <;> rfl

theorem setIf_setDirty (value : Option Bool) :
    p.setIf setDirty value = { p with dirty := value.getD p.dirty } := by
  cases value <;> rfl

/-- **The edited plugin, field by field.**  A field is the replacement if there is
    one, and so is the text for display that goes with it. -/
theorem edit_eq (e : Edit) :
    p.edit e =
      { p with
        version := e.version.getD p.version
        empty := e.empty.getD p.empty
        crc := e.crc.getD p.crc
        crcText := (e.crc.map LoadOrder.crcText).getD p.crcText
        priority := e.priority.getD p.priority
        priorityText := (e.priority.map LoadOrder.priorityText).getD p.priorityText
        tags := e.tags.getD p.tags
        tagTexts := (e.tags.map LoadOrder.tagTexts).getD p.tagTexts
        messages := (e.messages.map fun ms => ms.map Message.ofReported).getD p.messages
        dirty := e.dirty.getD p.dirty } := by
  simp only [edit, setIf_setVersion, setIf_setEmpty, setIf_setCrc, setIf_setPriority,
    setIf_setTags, setIf_setMessages, setIf_setDirty]

/-- **Two edits come to one.** -/
theorem edit_edit (e f : Edit) : (p.edit e).edit f = p.edit (e.andThen f) := by
  simp only [edit_eq, Edit.andThen, Option.map_or, Option.getD_or]

/-- What a plugin adds to the number of dirty ones. -/
def dirtyCount (p : Plugin) : Nat := if p.dirty then 1 else 0

end Plugin

/-! ### One plugin for another -/

namespace Totals

/-- The totals when a plugin has taken the place of another. -/
def exchange (t : Totals) (old new : Plugin) : Totals where
  shownMessages := shift t.shownMessages new.messages.length old.messages.length
  messages := shift t.messages new.messages.length old.messages.length
  warnings :=
    shift t.warnings (Tally.ofMessages new.messages).warnings
      (Tally.ofMessages old.messages).warnings
  errors :=
    shift t.errors (Tally.ofMessages new.messages).errors (Tally.ofMessages old.messages).errors
  dirtyPlugins := shift t.dirtyPlugins new.dirtyCount old.dirtyCount

theorem shift_self (value n : Nat) : shift value n n = value := Nat.add_sub_cancel value n

/-- **The changes of an edit come to one exchange.** -/
theorem applyAll_editChanges (t : Totals) (p : Plugin) (e : Edit) :
    t.applyAll (p.editChanges e) = t.exchange p (p.edit e) := by
  have hmessages : t.applyAll (p.messageChanges e) =
      { t.exchange p (p.edit e) with dirtyPlugins := t.dirtyPlugins } := by
    rw [Plugin.edit_eq]
    unfold Plugin.messageChanges exchange
    cases e.messages with
    | none => simp only [Option.map_none, Option.getD_none, shift_self]; rfl
    | some messages => rfl
  have hdirty : ∀ u : Totals, u.applyAll (p.dirtyChanges e) =
      { u with dirtyPlugins := shift u.dirtyPlugins (p.edit e).dirtyCount p.dirtyCount } := by
    intro u
    rw [Plugin.edit_eq]
    unfold Plugin.dirtyChanges Plugin.dirtyCount
    cases e.dirty with
    | none => simp only [Option.getD_none, shift_self]; rfl
    | some dirty => cases dirty <;> cases p.dirty <;> rfl
  rw [Plugin.editChanges, applyAll, List.foldl_append, ← applyAll, ← applyAll, hmessages, hdirty]
  rfl

/-- The totals are those of the load order, the number of shown messages apart. -/
structure Counts (t : Totals) (plugins : List Plugin) : Prop where
  messages : t.messages = (ofPlugins plugins).messages
  warnings : t.warnings = (ofPlugins plugins).warnings
  errors : t.errors = (ofPlugins plugins).errors
  dirtyPlugins : t.dirtyPlugins = (ofPlugins plugins).dirtyPlugins

theorem counts_ofPlugins (plugins : List Plugin) : (ofPlugins plugins).Counts plugins :=
  ⟨rfl, rfl, rfl, rfl⟩

theorem Counts.congr {t : Totals} {l l' : List Plugin} (h : t.Counts l)
    (hl : l'.map Plugin.bare = l.map Plugin.bare) : t.Counts l' := by
  have heq : ofPlugins l' = ofPlugins l := ofPlugins_congr hl
  exact ⟨heq ▸ h.messages, heq ▸ h.warnings, heq ▸ h.errors, heq ▸ h.dirtyPlugins⟩

end Totals

/-! ### The plugin at a place -/

namespace Plugin

/-- A sum over the load order moves by what the changed plugin adds and took. -/
theorem sumOf_modify (f : Plugin → Nat) (g : Plugin → Plugin) {i : Nat} {l : List Plugin}
    {p : Plugin} (h : l[i]? = some p) :
    sumOf f (l.modify i g) + f p = sumOf f l + f (g p) := by
  induction l generalizing i with
  | nil => cases h
  | cons q rest ih =>
    cases i with
    | zero =>
      cases h
      simp only [List.modify_zero_cons, sumOf]
      omega
    | succ i =>
      have := ih (List.getElem?_cons_succ ▸ h)
      simp only [List.modify_succ_cons, sumOf]
      omega

end Plugin

namespace Merge

theorem mem_of_named? {name : String} {l : List Plugin} {p : Plugin}
    (h : named? name l = some p) : p ∈ l :=
  List.mem_of_find?_eq_some h

/-- The first plugin of a name has a place. -/
theorem exists_place_of_named? {name : String} {l : List Plugin} {p : Plugin}
    (h : named? name l = some p) (e : Edit) :
    ∃ i, l[i]? = some p ∧ editFirst name e l = l.modify i fun q => q.edit e := by
  induction l with
  | nil => cases h
  | cons q rest ih =>
    by_cases hq : q.name = name
    · have hp : q = p := by simpa [named?, hq] using h
      subst hp
      exact ⟨0, rfl, by simp [editFirst, hq]⟩
    · have hrest : named? name rest = some p := by simpa [named?, hq] using h
      obtain ⟨i, hi, hedit⟩ := ih hrest
      exact ⟨i + 1, hi, by simp [editFirst, hq, hedit]⟩

end Merge

namespace Totals

/-- One total that is a sum over the load order stays one. -/
theorem shift_sumOf (f : Plugin → Nat) (g : Plugin → Plugin) {i : Nat} {l : List Plugin}
    {p : Plugin} (h : l[i]? = some p) :
    shift (Plugin.sumOf f l) (f (g p)) (f p) = Plugin.sumOf f (l.modify i g) := by
  have := Plugin.sumOf_modify f g h
  unfold shift
  omega

/-- **An exchange at a place keeps the balance.** -/
theorem Counts.exchangeAt {t : Totals} {l : List Plugin} (ht : t.Counts l)
    (g : Plugin → Plugin) {i : Nat} {p : Plugin} (h : l[i]? = some p) :
    (t.exchange p (g p)).Counts (l.modify i g) where
  messages := by
    rw [Totals.exchange, ht.messages]
    exact shift_sumOf (fun q => (Tally.ofMessages q.messages).total) g h
  warnings := by
    rw [Totals.exchange, ht.warnings]
    exact shift_sumOf (fun q => (Tally.ofMessages q.messages).warnings) g h
  errors := by
    rw [Totals.exchange, ht.errors]
    exact shift_sumOf (fun q => (Tally.ofMessages q.messages).errors) g h
  dirtyPlugins := by
    rw [Totals.exchange, ht.dirtyPlugins]
    simp only [ofPlugins, Plugin.countP_eq_sumOf]
    exact shift_sumOf Plugin.dirtyCount g h

/-- **An edit of the first plugin of a name keeps the balance.** -/
theorem Counts.exchange {t : Totals} {l : List Plugin} (ht : t.Counts l) (e : Edit)
    {name : String} {p : Plugin} (h : Merge.named? name l = some p) :
    (t.exchange p (p.edit e)).Counts (Merge.editFirst name e l) := by
  obtain ⟨i, hi, hedit⟩ := Merge.exists_place_of_named? h e
  rw [hedit]
  exact ht.exchangeAt (fun q => q.edit e) hi

/-! ### Nothing stops at zero -/

/-- What a plugin of the load order adds to the totals is in them. -/
structure Covers (t : Totals) (p : Plugin) : Prop where
  messages : (Tally.ofMessages p.messages).total ≤ t.messages
  warnings : (Tally.ofMessages p.messages).warnings ≤ t.warnings
  errors : (Tally.ofMessages p.messages).errors ≤ t.errors
  dirtyPlugins : p.dirtyCount ≤ t.dirtyPlugins

theorem Counts.covers {t : Totals} {l : List Plugin} (ht : t.Counts l) {p : Plugin}
    (hp : p ∈ l) : t.Covers p where
  messages := by
    rw [ht.messages]
    exact Plugin.le_sumOf (fun q => (Tally.ofMessages q.messages).total) hp
  warnings := by
    rw [ht.warnings]
    exact Plugin.le_sumOf (fun q => (Tally.ofMessages q.messages).warnings) hp
  errors := by
    rw [ht.errors]
    exact Plugin.le_sumOf (fun q => (Tally.ofMessages q.messages).errors) hp
  dirtyPlugins := by
    rw [ht.dirtyPlugins]
    simp only [ofPlugins, Plugin.countP_eq_sumOf]
    exact Plugin.le_sumOf Plugin.dirtyCount hp

end Totals

/-- Whether an event says that a total other than the number of shown messages was
    stopped at zero. -/
def Event.isMiscount : Event → Bool
  | .counterClamped counter _ _ _ => counter != "filtered_total_messages"
  | _ => false

namespace Totals

/-- A shift that takes away no more than there is reports nothing. -/
theorem clampEvent_eq_nil (counter : String) {value sub : Nat} (add : Nat) (h : sub ≤ value) :
    clampEvent counter value add sub = [] := by
  unfold clampEvent shiftClamps
  rw [if_neg]
  simp only [decide_eq_true_eq]
  omega

theorem isMiscount_of_mem_clampEvent {value add sub : Nat} {ev : Event}
    (h : ev ∈ clampEvent "filtered_total_messages" value add sub) : ev.isMiscount = false := by
  unfold clampEvent at h
  split at h
  · rw [List.mem_singleton.mp h]
    rfl
  · cases h

theorem messageEvents_sound {t : Totals} {p : Plugin} (hc : t.Covers p) (e : Edit) :
    ∀ ev ∈ t.applyAllEvents (p.messageChanges e), ev.isMiscount = false := by
  intro ev hev
  unfold Plugin.messageChanges at hev
  cases hm : e.messages with
  | none =>
    rw [hm] at hev
    cases hev
  | some messages =>
    rw [hm] at hev
    simp only [applyAllEvents, applyEvents, clampEvent_eq_nil _ _ hc.messages,
      clampEvent_eq_nil _ _ hc.warnings, clampEvent_eq_nil _ _ hc.errors,
      List.append_nil] at hev
    exact isMiscount_of_mem_clampEvent hev

theorem dirtyEvents_eq_nil {t : Totals} {p : Plugin} (h : p.dirtyCount ≤ t.dirtyPlugins)
    (e : Edit) : t.applyAllEvents (p.dirtyChanges e) = [] := by
  unfold Plugin.dirtyChanges
  cases e.dirty with
  | none => rfl
  | some dirty =>
    by_cases hp : p.dirty = dirty
    · simp only [hp, if_true]
      rfl
    · simp only [hp, if_false]
      cases dirty with
      | true => rfl
      | false =>
        -- the plugin was dirty, so it is counted
        have hdirty : p.dirtyCount = 1 := by simp [Plugin.dirtyCount, hp]
        rw [hdirty] at h
        simp only [applyAllEvents, applyEvents, clampEvent_eq_nil _ _ h, List.append_nil]

theorem applyAllEvents_append (t : Totals) (a b : List Change) :
    t.applyAllEvents (a ++ b) = t.applyAllEvents a ++ (t.applyAll a).applyAllEvents b := by
  induction a generalizing t with
  | nil => rfl
  | cons c rest ih =>
    simp only [List.cons_append, applyAllEvents, ih, applyAll, List.foldl_cons,
      List.append_assoc]

theorem applyAll_messageChanges_dirtyPlugins (t : Totals) (p : Plugin) (e : Edit) :
    (t.applyAll (p.messageChanges e)).dirtyPlugins = t.dirtyPlugins := by
  unfold Plugin.messageChanges
  cases e.messages <;> rfl

/-- **An edit of a counted plugin stops no count at zero.** -/
theorem editEvents_sound {t : Totals} {p : Plugin} (hc : t.Covers p) (e : Edit) :
    ∀ ev ∈ p.editEvents e t, ev.isMiscount = false := by
  intro ev hev
  simp only [Plugin.editEvents, Plugin.editChanges, applyAllEvents_append] at hev
  rw [dirtyEvents_eq_nil (by
    rw [applyAll_messageChanges_dirtyPlugins]
    exact hc.dirtyPlugins) e, List.append_nil] at hev
  rcases List.mem_append.mp hev with hev | hev
  · exact messageEvents_sound hc e ev hev
  · cases hempty : (p.messageChanges e ++ p.dirtyChanges e).isEmpty with
    | true => simp [hempty] at hev
    | false =>
      simp only [hempty, Bool.false_eq_true, if_false, List.mem_singleton] at hev
      rw [hev]
      rfl

end Totals

/-! ### Merging -/

namespace Merge

/-- The totals of a merge count its plugins, and no count was stopped at zero. -/
structure Balanced (m : Merge) : Prop where
  counts : m.totals.Counts m.plugins
  shown : m.totals.shownMessages ≤ m.totals.messages
  events : ∀ ev ∈ m.events, ev.isMiscount = false

theorem editNamed_of_none {m : Merge} {name : String} (h : named? name m.plugins = none)
    (e : Edit) : m.editNamed name e = m := by
  simp only [editNamed, h]

theorem editNamed_of_some {m : Merge} {name : String} {p : Plugin}
    (h : named? name m.plugins = some p) (e : Edit) :
    m.editNamed name e =
      { m with
        plugins := editFirst name e m.plugins
        totals := m.totals.exchange p (p.edit e)
        events := m.events ++ p.editEvents e m.totals } := by
  simp only [editNamed, h, Totals.applyAll_editChanges]

theorem Balanced.editNamed {m : Merge} (h : m.Balanced) (name : String) (e : Edit) :
    (m.editNamed name e).Balanced := by
  cases hp : named? name m.plugins with
  | none =>
    rw [editNamed_of_none hp]
    exact h
  | some p =>
    have hcovers := h.counts.covers (mem_of_named? hp)
    rw [editNamed_of_some hp]
    refine ⟨h.counts.exchange e hp, ?_, ?_⟩
    · have hshown := h.shown
      have htaken : p.messages.length ≤ m.totals.messages := hcovers.messages
      simp only [Totals.exchange, shift]
      omega
    · intro ev hev
      rcases List.mem_append.mp hev with hev | hev
      · exact h.events ev hev
      · exact Totals.editEvents_sound hcovers e ev hev

theorem Balanced.noteConflict {m : Merge} (h : m.Balanced) (name : String) (conflicts : Bool) :
    (m.noteConflict name conflicts).Balanced := by
  unfold Merge.noteConflict
  split
  · exact ⟨h.counts, h.shown, h.events⟩
  · exact h

theorem Balanced.noteMissing {m : Merge} (h : m.Balanced) (name : String) :
    (m.noteMissing name).Balanced := by
  unfold Merge.noteMissing
  split
  · refine ⟨h.counts, h.shown, ?_⟩
    intro ev hev
    rcases List.mem_append.mp hev with hev | hev
    · exact h.events ev hev
    · rw [List.mem_singleton.mp hev]
      rfl
  · exact h

theorem Balanced.addFinding {m : Merge} (h : m.Balanced) (entry : String × Finding) :
    (m.addFinding entry).Balanced :=
  ((h.noteConflict entry.1 entry.2.conflicts).noteMissing entry.1).editNamed entry.1
    entry.2.edit

/-- **A merge keeps the balance,** whatever the report says. -/
theorem Balanced.run {plugins : List Plugin} {totals : Totals} (hcounts : totals.Counts plugins)
    (hshown : totals.shownMessages ≤ totals.messages) (plugin : String)
    (report : Option Report) : (Merge.run plugins totals plugin report).Balanced := by
  have hfold : ∀ (entries : Report) (m : Merge), m.Balanced →
      (entries.foldl Merge.addFinding m).Balanced := by
    intro entries
    induction entries with
    | nil => exact fun _ h => h
    | cons entry rest ih => exact fun m h => ih _ (h.addFinding entry)
  exact hfold _ _ ⟨hcounts, hshown, fun _ hev => by cases hev⟩

/-! ### The names -/

theorem insert_ne_nil (name : String) (names : Names) : Names.insert name names ≠ [] := by
  cases names with
  | nil => exact List.cons_ne_nil _ _
  | cons n rest =>
    unfold Names.insert
    split
    · exact List.cons_ne_nil _ _
    · split <;> exact List.cons_ne_nil _ _

theorem addFinding_names (m : Merge) (entry : String × Finding) :
    (m.addFinding entry).names =
      if entry.2.conflicts then Names.insert entry.1 m.names else m.names := by
  have hedit : ∀ (k : Merge) (name : String) (e : Edit), (k.editNamed name e).names = k.names := by
    intro k name e
    unfold editNamed
    split <;> rfl
  have hmissing : ∀ (k : Merge) (name : String), (k.noteMissing name).names = k.names := by
    intro k name
    unfold noteMissing
    split <;> rfl
  rw [addFinding, hedit, hmissing, noteConflict]
  split <;> rfl

/-- A merge names at least the plugin that was asked about. -/
theorem run_names_ne_nil (plugins : List Plugin) (totals : Totals) (plugin : String)
    (report : Option Report) : (Merge.run plugins totals plugin report).names ≠ [] := by
  have hfold : ∀ (entries : Report) (m : Merge), m.names ≠ [] →
      (entries.foldl addFinding m).names ≠ [] := by
    intro entries
    induction entries with
    | nil => exact fun _ h => h
    | cons entry rest ih =>
      intro m h
      apply ih
      rw [addFinding_names]
      split
      · exact insert_ne_nil _ _
      · exact h
  exact hfold _ _ (insert_ne_nil plugin [])

end Merge

end LoadOrder
