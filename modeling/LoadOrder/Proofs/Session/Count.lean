/-
  LoadOrder/Proofs/Session/Count.lean
  ===================================
  **The numbers above the list are those of the list.**

  After a filter pass the number of shown messages is what is left of all messages
  when the hidden ones are taken away; the list prints the messages that are not
  marked, of the shown plugins.  These are two ways to the same number, but for the
  plugins that are not shown: their messages are counted by the message filters and
  nobody prints them (`count_finishRefresh`).
-/
import LoadOrder.Command.Output
import LoadOrder.Proofs.Filter.Count
import LoadOrder.Proofs.Session.Settled

namespace LoadOrder

/-- A list has a line for every plugin and one for each of its messages that is not
    marked. -/
theorem length_listLines (l : List Plugin) :
    (l.flatMap Plugin.listLines).length =
      l.length + Plugin.sumOf (fun p => p.shownMessages.length) l := by
  induction l with
  | nil => rfl
  | cons p rest ih =>
    rw [List.flatMap_cons, List.length_append, ih, Plugin.listLines, List.length_cons,
      List.length_map, List.length_cons, Plugin.sumOf]
    omega

namespace Session

variable (s : Session) (names : Names)

theorem finishRefresh_bare :
    (s.finishRefresh names).plugins.map Plugin.bare = s.plugins.map Plugin.bare :=
  Plugin.map_bare_of_map_unmarked (s.finishRefresh_unmarked names)

theorem finishRefresh_view :
    (s.finishRefresh names).view = View.of s.criteria names (s.finishRefresh names).plugins :=
  (View.of_congr s.criteria names (s.finishRefresh_bare names)).symm

/-- **The marks of a pass are as many as it counted,** for each shown plugin. -/
theorem countP_hidden_finishRefresh {i : Nat} (hi : i ∈ (s.finishRefresh names).view.shown) :
    ∃ p q, s.plugins[i]? = some p ∧ (s.finishRefresh names).plugins[i]? = some q ∧
      q.messages.countP Message.hidden = s.criteria.hiddenMessages p := by
  obtain ⟨k, p, hk, hp, -⟩ := View.mem_indicesFrom.mp hi
  rw [Nat.zero_add] at hk
  subst hk
  have hsame : ((s.finishRefresh names).plugins.map Plugin.bare)[i]? =
      (s.plugins.map Plugin.bare)[i]? := by rw [finishRefresh_bare]
  rw [List.getElem?_map, List.getElem?_map, hp, Option.map_some, Option.map_eq_some_iff] at hsame
  obtain ⟨q, hq, hbare⟩ := hsame
  have hmarked := s.marks_finishRefresh names q (mem_shownPlugins.mpr ⟨i, hi, hq⟩)
  refine ⟨p, q, hp, hq, ?_⟩
  rw [Plugin.countP_hidden_of_marked hmarked, s.criteria.hiddenMessages_congr hbare]

/-- A plugin that is shown although plugins without messages are not has a message
    left. -/
theorem exists_shown_message (h : s.criteria.toggles.hideMessageless = true) {q : Plugin}
    (hq : q ∈ (s.finishRefresh names).shownPlugins) : ∃ m ∈ q.messages, m.hidden = false := by
  have hmarked := s.marks_finishRefresh names q hq
  rw [shownPlugins, finishRefresh_view, View.plugins_of, List.mem_filter] at hq
  have hpasses : s.criteria.passesMessageless q = true := (Bool.and_eq_true_iff.mp hq.2).1
  have hleft : s.criteria.hiddenMessages q < q.messages.length := by
    simpa only [Criteria.passesMessageless, h, Bool.not_true, Bool.false_or,
      decide_eq_true_eq] using hpasses
  have hpos : 0 < q.messages.countP s.criteria.showsMessage := by
    have hsplit := s.criteria.hiddenMessages_add_countP q
    omega
  obtain ⟨m, hm, hshows⟩ := List.countP_pos_iff.mp hpos
  refine ⟨m, hm, ?_⟩
  rw [hmarked m hm, hshows]
  rfl

/-- The number of shown messages, counted from the plugins. -/
theorem shownMessages_finishRefresh {s : Session} (h : s.totals.Counts s.plugins)
    (names : Names) :
    (s.finishRefresh names).totals.shownMessages =
      Plugin.sumOf (fun q => q.messages.countP s.criteria.showsMessage)
        (s.finishRefresh names).plugins := by
  have hbare := s.finishRefresh_bare names
  have hall : s.totals.messages =
      Plugin.sumOf (fun q => q.messages.length) (s.finishRefresh names).plugins := by
    rw [h.messages, ← Totals.ofPlugins_congr hbare]
    rfl
  have hhidden : (View.of s.criteria names s.plugins).hiddenMessages =
      Plugin.sumOf s.criteria.hiddenMessages (s.finishRefresh names).plugins :=
    congrArg View.hiddenMessages (View.of_congr s.criteria names hbare).symm
  have hsplit : Plugin.sumOf s.criteria.hiddenMessages (s.finishRefresh names).plugins +
      Plugin.sumOf (fun q => q.messages.countP s.criteria.showsMessage)
        (s.finishRefresh names).plugins =
      Plugin.sumOf (fun q => q.messages.length) (s.finishRefresh names).plugins := by
    rw [← Plugin.sumOf_add]
    exact Plugin.sumOf_congr fun q _ => s.criteria.hiddenMessages_add_countP q
  show s.totals.messages - (View.of s.criteria names s.plugins).hiddenMessages = _
  omega

/-- **The numbers above the list are those of the list.**  When the totals were right,
    then after a filter pass: on each shown plugin as many messages are marked as were
    counted; the number of hidden messages is the sum over all plugins, shown or not,
    and no more than there are; a plugin that is shown although plugins without messages
    are not has one left; and the number of shown messages is that of the messages in
    the list and of those that the message filters would show of the other plugins. -/
theorem count_finishRefresh {s : Session} (h : s.totals.Counts s.plugins) (names : Names) :
    let t := s.finishRefresh names
    (∀ i ∈ t.view.shown, ∃ p q, s.plugins[i]? = some p ∧ t.plugins[i]? = some q ∧
      q.messages.countP Message.hidden = s.criteria.hiddenMessages p) ∧
    t.view.hiddenMessages = Plugin.sumOf s.criteria.hiddenMessages s.plugins ∧
    t.view.hiddenMessages ≤ t.totals.messages ∧
    (s.criteria.toggles.hideMessageless = true →
      ∀ q ∈ t.shownPlugins, ∃ m ∈ q.messages, m.hidden = false) ∧
    (t.shownPlugins.flatMap Plugin.listLines).length =
      t.shownPlugins.length + Plugin.sumOf (fun q => q.shownMessages.length) t.shownPlugins ∧
    t.totals.shownMessages =
      Plugin.sumOf (fun q => q.shownMessages.length) t.shownPlugins +
        Plugin.sumOf (fun q => q.messages.countP s.criteria.showsMessage)
          (t.view.others t.plugins) := by
  intro t
  have hle : t.view.hiddenMessages ≤ t.totals.messages := by
    show _ ≤ s.totals.messages
    rw [h.messages]
    exact View.of_hiddenMessages_le s.criteria names s.plugins
  have hlisted : Plugin.sumOf (fun q => q.shownMessages.length) t.shownPlugins =
      Plugin.sumOf (fun q => q.messages.countP s.criteria.showsMessage) t.shownPlugins :=
    Plugin.sumOf_congr fun q hq =>
      Plugin.length_shownMessages_of_marked (s.marks_finishRefresh names q hq)
  refine ⟨fun i hi => s.countP_hidden_finishRefresh names hi, rfl, hle,
    fun hless q hq => s.exists_shown_message names hless hq, length_listLines _, ?_⟩
  rw [hlisted, shownMessages_finishRefresh h, shownPlugins, finishRefresh_view, View.sumOf_of]

/-- Notes are hidden, plugins without messages and inactive ones are not shown: one
    message of two is listed, and one of a plugin that is not shown counts with it. -/
theorem count_finishRefresh_hideNotes :
    let toggles : Toggles := { hideNotes := true, hideMessageless := true, hideInactive := true }
    let note : ReportedMessage := { severity := .note }
    let s : Session :=
      loaded { criteria := { toggles } } none
        [Plugin.ofData "A.esp" { active := true, messages := [note, { severity := .warn }] },
         Plugin.ofData "B.esp" { active := true, messages := [note] },
         Plugin.ofData "C.esp" { messages := [{ severity := .error }] }]
    let t := s.finishRefresh []
    s.totals.Counts s.plugins ∧ t.view.shown = [0] ∧ t.view.hiddenMessages = 2 ∧
      t.totals.shownMessages = 1 + 1 ∧
      t.totals.shownMessages =
        Plugin.sumOf (fun q => q.shownMessages.length) t.shownPlugins +
          Plugin.sumOf (fun q => q.messages.countP s.criteria.showsMessage)
            (t.view.others t.plugins) := by
  intro toggles note s t
  have hcounts : s.totals.Counts s.plugins := ⟨rfl, rfl, rfl, rfl⟩
  obtain ⟨-, -, -, -, -, hsum⟩ := count_finishRefresh hcounts []
  exact ⟨hcounts, by decide, by decide, by decide, hsum⟩

end Session

end LoadOrder
