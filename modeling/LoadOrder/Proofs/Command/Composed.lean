/-
  LoadOrder/Proofs/Command/Composed.lean
  ======================================
  **Command lines are read piece by piece.**

  The reader of a command line goes forward in turns.  A turn takes one argument, and the
  next one with it if that is its value (`Turn`).  What it adds does not depend on what was
  read before (`Entry.add_followedBy`), and what it takes does not depend on what comes
  behind, unless the line ends where a value should stand (`turn_or_end`).  The reader is
  therefore a homomorphism: a line and another one behind it give what each of them gives
  alone, put together by `Arguments.followedBy`.

  So options may stand anywhere between the words; of two values of an option the later
  one counts, and a switch that is named twice is named once.
-/
import LoadOrder.Proofs.Command.Listed
import LoadOrder.Proofs.Command.Usage

namespace LoadOrder

theorem Toggles.eq_of_get {t t' : Toggles} (h : ∀ toggle, t.get toggle = t'.get toggle) :
    t = t' := by
  obtain ⟨_, _, _, _, _, _, _, _⟩ := t
  obtain ⟨_, _, _, _, _, _, _, _⟩ := t'
  simp only [Toggles.mk.injEq]
  exact ⟨h .hideMessageless, h .hideInactive, h .hideNotes, h .hideDoNotClean,
    h .hideAllMessages, h .hideVersions, h .hideCrcs, h .hideBashTags⟩

/-! ### One behind the other -/

theorem or_or_comm {α : Type} {x y z : Option α} (h : y = none ∨ z = none) :
    (x.or y).or z = (x.or z).or y := by
  rcases h with rfl | rfl
  · rw [Option.or_none, Option.or_none]
  · rw [Option.or_none, Option.or_none]

/-- Options with others behind them.  A value from behind takes the place of an earlier
    one, and a switch that was named before is not named again. -/
def Options.followedBy (o more : Options) : Options where
  format := more.format.or o.format
  snapshot := more.snapshot.or o.snapshot
  engine := more.engine.or o.engine
  hide := o.hide ++ more.hide.filter fun toggle => !o.hide.contains toggle
  contentFilter := more.contentFilter.or o.contentFilter
  search := more.search.or o.search

/-- No value is set in both. -/
structure Options.Apart (o o' : Options) : Prop where
  format : o.format = none ∨ o'.format = none
  snapshot : o.snapshot = none ∨ o'.snapshot = none
  engine : o.engine = none ∨ o'.engine = none
  contentFilter : o.contentFilter = none ∨ o'.contentFilter = none
  search : o.search = none ∨ o'.search = none

namespace Options

theorem followedBy_empty (o : Options) : o.followedBy {} = o := by
  simp only [followedBy, Option.none_or, List.filter_nil, List.append_nil]

theorem empty_followedBy (o : Options) : ({} : Options).followedBy o = o := by
  have hhide : (o.hide.filter fun toggle => !([] : List Toggle).contains toggle) = o.hide :=
    List.filter_eq_self.mpr fun _ _ => rfl
  simp only [followedBy, Option.or_none, List.nil_append, hhide]

theorem contains_hide_followedBy (o more : Options) (toggle : Toggle) :
    (o.followedBy more).hide.contains toggle =
      (o.hide.contains toggle || more.hide.contains toggle) := by
  rw [Bool.eq_iff_iff]
  simp only [followedBy, Bool.or_eq_true, List.contains_iff_mem, List.mem_append,
    List.mem_filter, Bool.not_eq_true']
  by_cases h : toggle ∈ o.hide
  · simp [h]
  · simp [h]

/-- **What is on is what was on before and what is named,** in whatever order. -/
theorem get_toggles (o : Options) (base : Toggles) (toggle : Toggle) :
    (o.toggles base).get toggle = (base.get toggle || o.hide.contains toggle) :=
  Toggles.get_setAll _ _ _

theorem toggles_congr {o o' : Options}
    (h : ∀ toggle, o.hide.contains toggle = o'.hide.contains toggle) (base : Toggles) :
    o.toggles base = o'.toggles base := by
  apply Toggles.eq_of_get
  intro toggle
  rw [get_toggles, get_toggles, h]

end Options

namespace Arguments

/-- Arguments that were read, with those of another reading behind them. -/
def followedBy (a more : Arguments) : Arguments where
  options := a.options.followedBy more.options
  words := a.words ++ more.words

/-- The options and the words of a command line. -/
def ofList (args : List String) : Except UsageError Arguments := ({} : Arguments).read args

theorem followedBy_empty (a : Arguments) : a.followedBy {} = a := by
  rw [followedBy, Options.followedBy_empty, List.append_nil]

/-- What a command line comes to, over the switches that are on anyway: its words, its
    values, and the switches that are on then. -/
def effective (base : Toggles) (a : Arguments) : Arguments × Toggles :=
  ({ a with options := { a.options with hide := [] } }, a.options.toggles base)

end Arguments

/-! ### Turns -/

/-- What one turn adds: a word or a switch, or a value of an option. -/
inductive Entry where
  | plain (arg flag : String)
  | value (option : ValueOption) (value : String)

namespace Entry

variable {entry : Entry} {a b : Arguments}

/-- The arguments with what a turn adds. -/
def add : Entry → Arguments → Except UsageError Arguments
  | plain arg flag, a => a.addPlain arg flag
  | value option v, a => a.addValue option v

theorem addHide_followedBy (o more : Options) (toggle : Toggle) :
    (o.followedBy more).addHide toggle = o.followedBy (more.addHide toggle) := by
  unfold Options.addHide
  rw [Options.contains_hide_followedBy]
  by_cases hmore : toggle ∈ more.hide
  · simp [hmore]
  · by_cases ho : toggle ∈ o.hide
    · simp [hmore, ho, Options.followedBy]
    · simp [hmore, ho, Options.followedBy]

theorem set_followedBy (option : ValueOption) (v : String) (o more : Options) :
    option.set v (o.followedBy more) = (option.set v more).map o.followedBy := by
  cases option with
  | format =>
    simp only [ValueOption.set]
    cases Format.named? v <;> rfl
  | _ => rfl

/-- **What a turn adds does not depend on what was read before.** -/
theorem add_followedBy (entry : Entry) (a b : Arguments) :
    entry.add (a.followedBy b) = (entry.add b).map a.followedBy := by
  cases entry with
  | plain arg flag =>
    simp only [add, Arguments.addPlain]
    cases hideOption? flag with
    | some toggle =>
      simp only [Except.map, Arguments.followedBy, addHide_followedBy]
    | none =>
      simp only
      split
      · rfl
      · simp only [Except.map, Arguments.followedBy, List.append_assoc]
  | value option v =>
    simp only [add, Arguments.addValue, Arguments.followedBy, set_followedBy]
    cases option.set v b.options <;> rfl

theorem add_ne_missingValue (entry : Entry) (a : Arguments) (name : String) :
    entry.add a ≠ .error (.missingValue name) := by
  intro h
  cases entry with
  | plain arg flag =>
    simp only [add, Arguments.addPlain] at h
    split at h
    · cases h
    · split at h
      · cases h
      · cases h
  | value option v =>
    simp only [add, Arguments.addValue] at h
    cases option with
    | format =>
      rw [ValueOption.set] at h
      cases hformat : Format.named? v with
      | none =>
        rw [hformat] at h
        cases h
      | some format =>
        rw [hformat] at h
        cases h
    | _ => cases h

theorem nodup_hide_add (h : entry.add a = .ok b) (ha : a.options.hide.Nodup) :
    b.options.hide.Nodup := by
  cases entry with
  | plain arg flag =>
    simp only [add, Arguments.addPlain] at h
    cases htoggle : hideOption? flag with
    | some toggle =>
      rw [htoggle] at h
      obtain rfl := Except.ok.inj h
      simp only [Options.addHide]
      split
      · exact ha
      · rename_i hnew
        rw [List.contains_iff_mem] at hnew
        refine List.nodup_append.mpr ⟨ha, List.pairwise_singleton _ toggle, ?_⟩
        rintro other hother _ hnamed rfl
        obtain rfl := List.mem_singleton.mp hnamed
        exact hnew hother
    | none =>
      simp only [htoggle] at h
      split at h
      · cases h
      · obtain rfl := Except.ok.inj h
        exact ha
  | value option v =>
    simp only [add, Arguments.addValue] at h
    cases hset : option.set v a.options with
    | error e =>
      rw [hset] at h
      cases h
    | ok o =>
      rw [hset] at h
      obtain rfl := Except.ok.inj h
      have hsame : o.hide = a.options.hide := by
        cases option with
        | format =>
          simp only [ValueOption.set] at hset
          split at hset
          · obtain rfl := Except.ok.inj hset
            rfl
          · cases hset
        | _ =>
          obtain rfl := Except.ok.inj hset
          rfl
      rwa [hsame]

end Entry

/-- At an argument, a turn takes some arguments that come next with it and adds an entry. -/
def Turn (arg : String) (taken : List String) (entry : Entry) : Prop :=
  ∀ (a : Arguments) (back : List String),
    a.read (arg :: (taken ++ back)) = (entry.add a).bind fun b => b.read back

theorem read_name {option : ValueOption} {arg : String} (h : arg ∈ option.names) (a : Arguments) :
    a.read [arg] = .error (.missingValue option.name) := by
  rw [Arguments.read, ValueOption.flagAndValue_of_mem h]
  simp only [ValueOption.written?_of_mem h]

/-- **There is a turn at every argument,** unless it is the last one and the name of an
    option that wants a value. -/
theorem turn_or_end (arg : String) (rest : List String) :
    (∃ taken left entry, rest = taken ++ left ∧ Turn arg taken entry) ∨
      rest = [] ∧ ∃ option : ValueOption, arg ∈ option.names := by
  cases hwritten : ValueOption.written? (flagAndValue arg).1 with
  | none =>
    refine .inl ⟨[], rest, .plain arg (flagAndValue arg).1, rfl, fun a back => ?_⟩
    rw [List.nil_append, Arguments.read, Entry.add]
    simp only [hwritten]
    cases a.addPlain arg (flagAndValue arg).1 <;> rfl
  | some option =>
    cases hvalue : (flagAndValue arg).2 with
    | some value =>
      refine .inl ⟨[], rest, .value option value, rfl, fun a back => ?_⟩
      rw [List.nil_append, Arguments.read, Entry.add]
      simp only [hwritten, hvalue]
      cases a.addValue option value <;> rfl
    | none =>
      cases rest with
      | cons value left =>
        refine .inl ⟨[value], left, .value option value, rfl, fun a back => ?_⟩
        rw [List.singleton_append, Arguments.read, Entry.add]
        simp only [hwritten, hvalue]
        cases a.addValue option value <;> rfl
      | nil =>
        -- an argument without a value joined to it is its own name
        have hflag : (flagAndValue arg).1 = arg := by
          unfold flagAndValue at hvalue ⊢
          grind
        rw [hflag] at hwritten
        exact .inr ⟨rfl, option, ValueOption.mem_names_of_written? hwritten⟩

/-- **Induction by turns.** -/
@[elab_as_elim]
theorem turn_induct {P : List String → Prop} (nil : P [])
    (last : ∀ (option : ValueOption) (arg : String), arg ∈ option.names → P [arg])
    (turn : ∀ arg taken entry left, Turn arg taken entry → P left → P (arg :: (taken ++ left)))
    (args : List String) : P args := by
  match args with
  | [] => exact nil
  | arg :: rest =>
    rcases turn_or_end arg rest with ⟨taken, left, entry, hrest, h⟩ | ⟨hrest, option, h⟩
    · rw [hrest]
      exact turn arg taken entry left h (turn_induct nil last turn left)
    · rw [hrest]
      exact last option arg h
termination_by args.length
decreasing_by
  rw [List.length_cons, hrest, List.length_append]
  omega

namespace Arguments

variable {a b : Arguments} {front : List String} {e : UsageError}

/-- **To read behind other arguments is to read alone,** and to put both together. -/
theorem read_followedBy (a b : Arguments) (args : List String) :
    (a.followedBy b).read args = (b.read args).map a.followedBy := by
  induction args using turn_induct generalizing b with
  | nil => rfl
  | last option arg h => rw [read_name h, read_name h, Except.map]
  | turn arg taken entry left h ih =>
    rw [h, h, Entry.add_followedBy]
    cases entry.add b with
    | error e => rfl
    | ok c => exact ih c

theorem read_eq_map (a : Arguments) (args : List String) :
    a.read args = (ofList args).map a.followedBy := by
  have hread := read_followedBy a {} args
  rwa [followedBy_empty] at hread

theorem read_append_of_ok (h : a.read front = .ok b) (back : List String) :
    a.read (front ++ back) = b.read back := by
  induction front using turn_induct generalizing a with
  | nil =>
    obtain rfl := Except.ok.inj h
    rfl
  | last option arg hname =>
    rw [read_name hname] at h
    cases h
  | turn arg taken entry left hturn ih =>
    rw [hturn] at h
    rw [List.cons_append, List.append_assoc, hturn]
    cases hadd : entry.add a with
    | error e =>
      rw [hadd] at h
      cases h
    | ok c =>
      rw [hadd] at h
      exact ih h

theorem read_append_of_error (h : a.read front = .error e) (hend : ∀ name, e ≠ .missingValue name)
    (back : List String) : a.read (front ++ back) = .error e := by
  induction front using turn_induct generalizing a with
  | nil => cases h
  | last option arg hname =>
    rw [read_name hname] at h
    exact absurd (Except.error.inj h).symm (hend option.name)
  | turn arg taken entry left hturn ih =>
    rw [hturn] at h
    rw [List.cons_append, List.append_assoc, hturn]
    cases hadd : entry.add a with
    | error e' =>
      rw [hadd] at h
      exact h
    | ok c =>
      rw [hadd] at h
      exact ih h

/-- **A value is missing at the end of a line only,** behind a name that wants one. -/
theorem read_eq_missingValue_iff {args : List String} {name : String} :
    a.read args = .error (.missingValue name) ↔
      ∃ front arg b, ∃ option : ValueOption, args = front ++ [arg] ∧ a.read front = .ok b ∧
        arg ∈ option.names ∧ name = option.name := by
  constructor
  · intro h
    induction args using turn_induct generalizing a with
    | nil => cases h
    | last option arg hname =>
      rw [read_name hname] at h
      cases h
      exact ⟨[], arg, a, option, rfl, rfl, hname, rfl⟩
    | turn arg taken entry left hturn ih =>
      rw [hturn] at h
      cases hadd : entry.add a with
      | error e =>
        rw [hadd] at h
        cases h
        exact absurd hadd (entry.add_ne_missingValue a name)
      | ok c =>
        rw [hadd] at h
        obtain ⟨front, last, b, option, rfl, hfront, hname, rfl⟩ := ih h
        refine ⟨arg :: (taken ++ front), last, b, option, ?_, ?_, hname, rfl⟩
        · rw [List.cons_append, List.append_assoc]
        · rw [hturn, hadd]
          exact hfront
  · rintro ⟨front, arg, b, option, rfl, hfront, hname, rfl⟩
    rw [read_append_of_ok hfront, read_name hname]

theorem nodup_hide_read {args : List String} (h : a.read args = .ok b)
    (ha : a.options.hide.Nodup) : b.options.hide.Nodup := by
  induction args using turn_induct generalizing a with
  | nil =>
    obtain rfl := Except.ok.inj h
    exact ha
  | last option arg hname =>
    rw [read_name hname] at h
    cases h
  | turn arg taken entry left hturn ih =>
    rw [hturn] at h
    cases hadd : entry.add a with
    | error e =>
      rw [hadd] at h
      cases h
    | ok c =>
      rw [hadd] at h
      exact ih h (Entry.nodup_hide_add hadd ha)

/-! ### Whole lines -/

/-- **One line behind another** gives what both give. -/
theorem ofList_append (h : ofList front = .ok a) (back : List String) :
    ofList (front ++ back) = (ofList back).map a.followedBy := by
  rw [ofList, read_append_of_ok h, read_eq_map]

/-- Options without words commute with words without options. -/
theorem followedBy_comm {o m : Arguments} (ho : o.words = []) (hm : m.options = {})
    (r : Arguments) : o.followedBy (m.followedBy r) = m.followedBy (o.followedBy r) := by
  simp only [followedBy, ho, hm, Options.empty_followedBy, List.nil_append]

/-- Options without words commute with other options, as far as they have an effect. -/
theorem effective_comm {o m : Arguments} (ho : o.words = []) (hapart : o.options.Apart m.options)
    (r : Arguments) (base : Toggles) :
    (a.followedBy (o.followedBy (m.followedBy r))).effective base =
      (a.followedBy (m.followedBy (o.followedBy r))).effective base := by
  have htoggles : (a.followedBy (o.followedBy (m.followedBy r))).options.toggles base =
      (a.followedBy (m.followedBy (o.followedBy r))).options.toggles base := by
    apply Options.toggles_congr
    intro toggle
    simp only [followedBy, Options.contains_hide_followedBy, Bool.or_left_comm]
  rw [effective, effective, htoggles]
  simp only [followedBy, Options.followedBy, ho, List.nil_append, or_or_comm hapart.format,
    or_or_comm hapart.snapshot, or_or_comm hapart.engine, or_or_comm hapart.contentFilter,
    or_or_comm hapart.search]

/-- **A command line means what its pieces mean,** whatever they are.  If a piece can be read,
    the line with another one behind it gives the words of both, the values of the later
    one where it has any, and the switches of the first with the new ones of the other, or
    it fails as the other one does.  If a piece fails, so does every line that begins with
    it, unless the piece ends where a value should stand.

    So options that are complete may stand in another place.  Past words they can be moved
    without any change, and past options that set no value they set without any effect; the
    later of two values counts; no switch is named twice; and what is on is what was saved as
    on or is named, in whatever order. -/
theorem composed_ofList :
    (∀ (front back : List String) (a : Arguments), ofList front = .ok a →
      ofList (front ++ back) = (ofList back).map a.followedBy) ∧
    (∀ (front back : List String) (e : UsageError), ofList front = .error e →
      (∀ name, e ≠ .missingValue name) → ofList (front ++ back) = .error e) ∧
    (∀ (args : List String) (name : String), ofList args = .error (.missingValue name) ↔
      ∃ front arg a, ∃ option : ValueOption, args = front ++ [arg] ∧ ofList front = .ok a ∧
        arg ∈ option.names ∧ name = option.name) ∧
    (∀ (front moved middle back : List String) (a o m : Arguments), ofList front = .ok a →
      ofList moved = .ok o → ofList middle = .ok m → o.words = [] →
      (m.options = {} →
        ofList (front ++ (moved ++ (middle ++ back))) =
          ofList (front ++ (middle ++ (moved ++ back)))) ∧
      (o.options.Apart m.options → ∀ base : Toggles,
        (ofList (front ++ (moved ++ (middle ++ back)))).map (effective base) =
          (ofList (front ++ (middle ++ (moved ++ back)))).map (effective base))) ∧
    (∀ (front args : List String) (a : Arguments) (s : Setting), ofList front = .ok a →
      Spells [.setting s] args →
      ofList (front ++ args) = .ok { a with options := s.apply a.options }) ∧
    ∀ (args : List String) (a : Arguments), ofList args = .ok a → a.options.hide.Nodup ∧
      ∀ (base : Toggles) (toggle : Toggle),
        (a.options.toggles base).get toggle = (base.get toggle || a.options.hide.contains toggle) := by
  refine ⟨?_, ?_, ?_, ?_, ?_, ?_⟩
  · intro front back a h
    exact ofList_append h back
  · intro front back e h hend
    exact read_append_of_error h hend back
  · intro args name
    exact read_eq_missingValue_iff
  · intro front moved middle back a o m hfront hmoved hmiddle ho
    rw [ofList_append hfront, ofList_append hmoved, ofList_append hmiddle, ofList_append hfront,
      ofList_append hmiddle, ofList_append hmoved]
    cases ofList back with
    | error e => exact ⟨fun _ => rfl, fun _ _ => rfl⟩
    | ok r =>
      simp only [Except.map]
      constructor
      · intro hm
        rw [followedBy_comm ho hm]
      · intro hapart base
        rw [effective_comm ho hapart]
  · intro front args a s hfront hargs
    have hread := read_append hargs a []
    rw [List.append_nil] at hread
    rw [ofList, read_append_of_ok hfront, hread]
    simp [addItems, wordsOf, Item.apply, read]
  · intro args a h
    exact ⟨nodup_hide_read h List.nodup_nil, a.options.get_toggles⟩

/-- Options around a command, with a switch that is named twice, a format that is given
    twice, and a value that looks like an option. -/
theorem composed_ofList_surrounded :
    let front := ["--format=json", "list"]
    let moved := ["--hide-crcs", "-s", "order.json"]
    let middle := ["--filter", "--hide-tags"]
    let back := ["--hide-crcs", "--format", "text"]
    let json : Options := { format := some .json }
    let text : Options := { format := some .text, hide := [.hideCrcs] }
    let o : Options := { hide := [.hideCrcs], snapshot := some "order.json" }
    let m : Options := { contentFilter := some "--hide-tags" }
    ofList front = .ok ⟨json, ["list"]⟩ ∧ ofList moved = .ok ⟨o, []⟩ ∧
      ofList middle = .ok ⟨m, []⟩ ∧ o.Apart m ∧ Spells [.setting (.format .text)] ["--format=text"] ∧
      ofList (front ++ back) = .ok ⟨text, ["list"]⟩ ∧
      ofList (["list", "--nope"] ++ back) = .error (.unknownOption "--nope") ∧
      ofList (moved ++ (["list"] ++ back)) = ofList (["list"] ++ (moved ++ back)) ∧
      (ofList (front ++ (moved ++ (middle ++ back)))).map (effective {}) =
        (ofList (front ++ (middle ++ (moved ++ back)))).map (effective {}) ∧
      ofList (front ++ ["--format=text"]) = .ok ⟨{ format := some .text }, ["list"]⟩ ∧
      (text.toggles { hideNotes := true }).get .hideCrcs = true := by
  intro front moved middle back json text o m
  obtain ⟨hbehind, hfails, -, hmoves, hlast, heffect⟩ := composed_ofList
  have hfront : ofList front = .ok ⟨json, ["list"]⟩ := by decide +kernel
  have hmoved : ofList moved = .ok ⟨o, []⟩ := by decide +kernel
  have hmiddle : ofList middle = .ok ⟨m, []⟩ := by decide +kernel
  have hback : ofList back = .ok ⟨text, []⟩ := by decide +kernel
  have hlist : ofList ["list"] = .ok ⟨{}, ["list"]⟩ := by decide +kernel
  have hapart : o.Apart m := ⟨.inl rfl, .inr rfl, .inl rfl, .inl rfl, .inl rfl⟩
  have hspells : Spells [.setting (.format .text)] ["--format=text"] := .joined rfl .nil
  have hboth : ofList (front ++ back) = .ok ⟨text, ["list"]⟩ := by
    rw [hbehind front back _ hfront, hback]
    rfl
  refine ⟨hfront, hmoved, hmiddle, hapart, hspells, hboth, ?_, ?_, ?_, ?_, ?_⟩
  · apply hfails ["list", "--nope"] back _ (by decide +kernel)
    intro name h
    cases h
  · exact (hmoves [] moved ["list"] back {} _ _ rfl hmoved hlist rfl).1 rfl
  · exact (hmoves front moved middle back _ _ _ hfront hmoved hmiddle rfl).2 hapart {}
  · exact hlast front _ _ _ hfront hspells
  · rw [(heffect _ _ hboth).2]
    rfl

end Arguments

end LoadOrder
