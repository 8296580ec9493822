/-
  LoadOrder/Proofs/Command/Usage.lean
  ===================================
  **Which command lines are understood.**

  The help lists options and commands.  What it says is put into a grammar here: each
  argument is a setting with its value, a switch, or a word (`Item`, `Spells`), the words
  name a command (`Asks`), and a line that begins with a request for help or for the
  version is that request (`Documented`).  Beside it stands what is wrong with other lines
  (`Refused`).

  Reading a line is a walk through its items: those in front are read as they are spelled
  (`read_append`), and where the next argument is none, it is either one that is refused or
  one of a few kinds that the help gives no meaning to and that are let pass all the same
  (`spells_or_stops`).  Nothing is said here about lines with such arguments
  (`LeftOpen`); all others are understood exactly if they are documented.
-/
import LoadOrder.Command.Options

namespace LoadOrder

/-! ### Texts with an equals sign -/

theorem splitEquals_of_not_mem {cs : List Char} (h : '=' ∉ cs) : splitEquals cs = none := by
  induction cs with
  | nil => rfl
  | cons c rest ih =>
    rw [List.mem_cons, not_or] at h
    rw [splitEquals, if_neg (Ne.symm h.1), ih h.2]
    rfl

theorem splitEquals_append {flag : List Char} (h : '=' ∉ flag) (value : List Char) :
    splitEquals (flag ++ '=' :: value) = some (flag, value) := by
  induction flag with
  | nil => rfl
  | cons c rest ih =>
    rw [List.mem_cons, not_or] at h
    rw [List.cons_append, splitEquals, if_neg (Ne.symm h.1), ih h.2]
    rfl

theorem toList_joined (name value : String) :
    (name ++ "=" ++ value).toList = name.toList ++ '=' :: value.toList := by
  rw [String.toList_append, String.toList_append, List.append_assoc]
  rfl

/-- A name of two dashes, without an equals sign. -/
structure IsLongName (name : String) : Prop where
  dashes : isLongOption name = true
  plain : '=' ∉ name.toList

/-- What begins with two dashes is a name, or a name with a value joined to it. -/
theorem exists_longName {arg : String} (h : isLongOption arg = true) :
    ∃ name, IsLongName name ∧ (arg = name ∨ ∃ value, arg = name ++ "=" ++ value) := by
  by_cases hmem : '=' ∈ arg.toList
  · obtain ⟨front, back, hchars, hfront⟩ := List.eq_append_cons_of_mem hmem
    have hdashes : ['-', '-'] <+: front ++ '=' :: back := by
      rwa [isLongOption, hchars, List.isPrefixOf_iff_prefix] at h
    refine ⟨String.ofList front, ⟨?_, by rwa [String.toList_ofList]⟩, .inr ⟨String.ofList back, ?_⟩⟩
    · rw [isLongOption, String.toList_ofList, List.isPrefixOf_iff_prefix]
      -- the equals sign is behind the dashes, because it is none of them
      match front, hdashes with
      | [], hdashes => simp at hdashes
      | [c], hdashes => simp at hdashes
      | c :: d :: rest, hdashes => simpa using hdashes
    · rw [← String.toList_inj, toList_joined, String.toList_ofList, String.toList_ofList, hchars]
  · exact ⟨arg, ⟨h, hmem⟩, .inl rfl⟩

theorem flagAndValue_longName {name : String} (h : IsLongName name) :
    flagAndValue name = (name, none) := by
  rw [flagAndValue, splitEquals_of_not_mem h.plain]

theorem flagAndValue_joined {name : String} (h : IsLongName name) (value : String) :
    flagAndValue (name ++ "=" ++ value) = (name, some value) := by
  have hdashes := h.dashes
  rw [isLongOption] at hdashes
  simp only [flagAndValue, toList_joined, splitEquals_append h.plain, hdashes, if_true,
    String.ofList_toList]

/-- What does not begin with two dashes is not taken apart. -/
theorem flagAndValue_short {arg : String} (h : isLongOption arg = false) :
    flagAndValue arg = (arg, none) := by
  by_cases hmem : '=' ∈ arg.toList
  · obtain ⟨front, back, hchars, hfront⟩ := List.eq_append_cons_of_mem hmem
    have hshort : ['-', '-'].isPrefixOf front = false := by
      rw [Bool.eq_false_iff, ne_eq, List.isPrefixOf_iff_prefix]
      intro hdashes
      rw [isLongOption, hchars, Bool.eq_false_iff, ne_eq, List.isPrefixOf_iff_prefix] at h
      exact h (hdashes.trans (List.prefix_append _ _))
    simp only [flagAndValue, hchars, splitEquals_append hfront, hshort, if_false,
      Bool.false_eq_true]
  · rw [flagAndValue, splitEquals_of_not_mem hmem]

/-! ### The grammar of the help -/

namespace ValueOption

/-- The names under which the help lists an option. -/
def names : ValueOption → List String
  | snapshot => ["-s", "--snapshot"]
  | option => [option.name]

theorem name_mem_names (option : ValueOption) : option.name ∈ option.names := by
  cases option <;> decide

theorem isLongName_name (option : ValueOption) : IsLongName option.name := by
  cases option <;> exact ⟨by decide, by decide⟩

theorem written?_of_mem {option : ValueOption} {name : String} (h : name ∈ option.names) :
    written? name = some option := by
  cases option <;> simp only [names, ValueOption.name, List.mem_cons, List.not_mem_nil,
    or_false] at h <;> rcases h with rfl | rfl <;> rfl

theorem mem_names_of_written? {option : ValueOption} {name : String}
    (h : written? name = some option) : name ∈ option.names := by
  unfold written? at h
  grind [names, ValueOption.name]

theorem flagAndValue_of_mem {option : ValueOption} {name : String} (h : name ∈ option.names) :
    flagAndValue name = (name, none) := by
  cases option <;> simp only [names, ValueOption.name, List.mem_cons, List.not_mem_nil,
    or_false] at h <;> rcases h with rfl | rfl <;> rfl

end ValueOption

/-- A setting of the help, with its value. -/
inductive Setting where
  | format (format : Format)
  | snapshot (path : String)
  | engineFile (path : String)
  | engineUrl (url : String)
  | filter (text : String)
  | search (text : String)

def Format.written : Format → String
  | .json => "json"
  | .text => "text"

namespace Setting

def option : Setting → ValueOption
  | format _ => .format
  | snapshot _ => .snapshot
  | engineFile _ => .engineFile
  | engineUrl _ => .engineUrl
  | filter _ => .filter
  | search _ => .search

def value : Setting → String
  | format f => f.written
  | snapshot path => path
  | engineFile path => path
  | engineUrl url => url
  | filter text => text
  | search text => text

/-- The options with a setting.  It takes the place of an earlier one of its kind, and the
    two kinds of engine that of each other. -/
def apply (o : Options) : Setting → Options
  | format f => { o with format := some f }
  | snapshot path => { o with snapshot := some path }
  | engineFile path => { o with engine := some (.file path) }
  | engineUrl url => { o with engine := some (.web url defaultTimeout) }
  | filter text => { o with contentFilter := some text }
  | search text => { o with search := some text }

theorem set_eq_apply (s : Setting) (o : Options) : s.option.set s.value o = .ok (s.apply o) := by
  cases s with
  | format f => cases f <;> rfl
  | _ => rfl

/-- A value makes a setting of its option, unless it is to be a format and is none. -/
theorem exists_setting (option : ValueOption) (value : String) :
    (∃ s : Setting, s.option = option ∧ s.value = value) ∨
      option = .format ∧ ∀ f : Format, value ≠ f.written := by
  cases option with
  | format =>
    by_cases hjson : value = "json"
    · exact .inl ⟨format .json, rfl, hjson.symm⟩
    · by_cases htext : value = "text"
      · exact .inl ⟨format .text, rfl, htext.symm⟩
      · refine .inr ⟨rfl, fun f => ?_⟩
        cases f with
        | json => exact hjson
        | text => exact htext
  | snapshot => exact .inl ⟨snapshot value, rfl, rfl⟩
  | engineFile => exact .inl ⟨engineFile value, rfl, rfl⟩
  | engineUrl => exact .inl ⟨engineUrl value, rfl, rfl⟩
  | filter => exact .inl ⟨filter value, rfl, rfl⟩
  | search => exact .inl ⟨search value, rfl, rfl⟩

end Setting

/-- What the help gives a meaning to. -/
inductive Item where
  | setting (s : Setting)
  | hide (toggle : Toggle)
  | word (word : String)

/-- What does not look like an option. -/
def IsWord (arg : String) : Prop := arg.toList.head? ≠ some '-'

/-- The arguments that spell some items: a value comes behind a name of its option or is
    joined to the long one, a switch stands alone, and so does a word. -/
inductive Spells : List Item → List String → Prop where
  | nil : Spells [] []
  | behind {s : Setting} {name value : String} {items : List Item} {rest : List String}
      (hname : name ∈ s.option.names) (hvalue : value = s.value) (h : Spells items rest) :
      Spells (.setting s :: items) (name :: value :: rest)
  | joined {s : Setting} {arg : String} {items : List Item} {rest : List String}
      (harg : arg = s.option.name ++ "=" ++ s.value) (h : Spells items rest) :
      Spells (.setting s :: items) (arg :: rest)
  | hide {toggle : Toggle} {arg : String} {items : List Item} {rest : List String}
      (harg : arg = toggle.option) (h : Spells items rest) :
      Spells (.hide toggle :: items) (arg :: rest)
  | word {word : String} {items : List Item} {rest : List String} (hword : IsWord word)
      (h : Spells items rest) : Spells (.word word :: items) (word :: rest)

/-- The words among some items. -/
def wordsOf : List Item → List String
  | [] => []
  | .word word :: items => word :: wordsOf items
  | _ :: items => wordsOf items

/-- The options with what an item says about them. -/
def Item.apply (o : Options) : Item → Options
  | .setting s => s.apply o
  | .hide toggle => o.addHide toggle
  | .word _ => o

/-- The options that some items amount to. -/
def optionsOf (items : List Item) : Options := items.foldl Item.apply {}

/-- What the words of a command line ask for. -/
inductive Asks : List String → (Options → Action) → Prop where
  | nothing : Asks [] .interface
  | interface : Asks ["ui"] .interface
  | list : Asks ["list"] (.command .list)
  | counts : Asks ["counts"] (.command .counts)
  | settings : Asks ["settings"] (.command .settings)
  | conflicts (plugin : String) : Asks ["conflicts", plugin] (.command (.conflicts plugin))

/-- The command lines that the help describes, and what they ask for.  Behind a request
    for help or for the version anything may stand. -/
inductive Documented : List String → Action → Prop where
  | help {first : String} {rest : List String} (h : first ∈ Action.helpWords) :
      Documented (first :: rest) (.command .help {})
  | version {first : String} {rest : List String} (h : first ∈ Action.versionWords) :
      Documented (first :: rest) (.command .version {})
  | asked {items : List Item} {args : List String} {action : Options → Action}
      (h : Spells items args) (hask : Asks (wordsOf items) action) :
      Documented args (action (optionsOf items))

/-! ### Reading what is spelled -/

namespace Arguments

variable {a : Arguments} {items : List Item} {rest : List String}

/-- The arguments read so far, and some items behind them. -/
def addItems (a : Arguments) (items : List Item) : Arguments where
  options := items.foldl Item.apply a.options
  words := a.words ++ wordsOf items

theorem addValue_setting (a : Arguments) (s : Setting) :
    a.addValue s.option s.value = .ok { a with options := s.apply a.options } := by
  rw [addValue, s.set_eq_apply]

theorem read_behind {option : ValueOption} {name : String} (hname : name ∈ option.names)
    (a : Arguments) (value : String) (rest : List String) :
    a.read (name :: value :: rest) = (a.addValue option value).bind fun b => b.read rest := by
  rw [read, ValueOption.flagAndValue_of_mem hname]
  simp only [ValueOption.written?_of_mem hname]
  cases a.addValue option value <;> rfl

theorem read_joined (a : Arguments) (option : ValueOption) (value : String) (rest : List String) :
    a.read ((option.name ++ "=" ++ value) :: rest) =
      (a.addValue option value).bind fun b => b.read rest := by
  rw [read, flagAndValue_joined option.isLongName_name]
  simp only [ValueOption.written?_of_mem option.name_mem_names]
  cases a.addValue option value <;> rfl

theorem hideOption?_option (toggle : Toggle) : hideOption? toggle.option = some toggle := by
  cases toggle <;> decide +kernel

theorem read_hide (a : Arguments) (toggle : Toggle) (rest : List String) :
    a.read (toggle.option :: rest) =
      ({ a with options := a.options.addHide toggle } : Arguments).read rest := by
  have hflag : flagAndValue toggle.option = (toggle.option, none) := by cases toggle <;> rfl
  have hname : ValueOption.written? toggle.option = none := by cases toggle <;> rfl
  rw [read, hflag]
  simp only [hname, addPlain, hideOption?_option]

theorem written?_eq_none {name : String} (h : ∀ option : ValueOption, name ∉ option.names) :
    ValueOption.written? name = none := by
  cases hname : ValueOption.written? name with
  | none => rfl
  | some option => exact absurd (ValueOption.mem_names_of_written? hname) (h option)

theorem hideOption?_eq_none {name : String} (h : ∀ toggle : Toggle, name ≠ toggle.option) :
    hideOption? name = none := by
  rw [hideOption?, List.find?_eq_none]
  intro toggle _ heq
  exact h toggle (eq_of_beq heq).symm

/-- What does not begin with a dash is a word. -/
theorem read_word {word : String} (h : IsWord word) (a : Arguments) (rest : List String) :
    a.read (word :: rest) = ({ a with words := a.words ++ [word] } : Arguments).read rest := by
  have hne : ∀ arg : String, arg.toList.head? = some '-' → word ≠ arg := by
    rintro arg harg rfl
    exact h harg
  have hlong : isLongOption word = false := by
    rw [isLongOption, Bool.eq_false_iff, ne_eq, List.isPrefixOf_iff_prefix]
    rintro ⟨more, hmore⟩
    exact h (by rw [← hmore]; rfl)
  have hname : ∀ option : ValueOption, word ∉ option.names := by
    intro option hmem
    refine hne word ?_ rfl
    cases option <;> simp only [ValueOption.names, ValueOption.name, List.mem_cons,
      List.not_mem_nil, or_false] at hmem <;> rcases hmem with rfl | rfl <;> rfl
  have htoggle : ∀ toggle : Toggle, word ≠ toggle.option := by
    intro toggle
    apply hne
    cases toggle <;> rfl
  rw [read, flagAndValue_short hlong]
  simp only [written?_eq_none hname, addPlain, hideOption?_eq_none htoggle, hlong,
    Bool.false_eq_true, if_false]

/-- **Items are read as they are spelled,** and the reading goes on behind them. -/
theorem read_append {front : List String} (h : Spells items front) (a : Arguments)
    (rest : List String) : a.read (front ++ rest) = (a.addItems items).read rest := by
  induction h generalizing a with
  | nil => rw [List.nil_append, addItems, wordsOf, List.append_nil, List.foldl_nil]
  | @behind s name value items front hname hvalue h ih =>
    rw [List.cons_append, List.cons_append, read_behind hname, hvalue, addValue_setting]
    exact ih _
  | @joined s arg items front harg h ih =>
    rw [List.cons_append, harg, read_joined, addValue_setting]
    exact ih _
  | @hide toggle arg items front harg h ih =>
    rw [List.cons_append, harg, read_hide]
    exact ih _
  | @word word items front hword h ih =>
    rw [List.cons_append, read_word hword, ih]
    simp only [addItems, wordsOf, List.foldl_cons, Item.apply, List.append_assoc,
      List.singleton_append]

theorem read_spelled {args : List String} (h : Spells items args) :
    ({} : Arguments).read args = .ok { options := optionsOf items, words := wordsOf items } := by
  have hread := read_append h {} []
  rw [List.append_nil] at hread
  exact hread

end Arguments

/-! ### What is wrong with an argument -/

/-- A request for help or for the version that looks like an option. -/
def isLateRequest (arg : String) : Bool := arg == "--help" || arg == "--version"

/-- An argument that is refused, with what is behind it. -/
inductive Misfit : String → List String → UsageError → Prop where
  | unknownOption {name arg : String} {rest : List String} (hname : IsLongName name)
      (hoption : ∀ option : ValueOption, name ∉ option.names)
      (htoggle : ∀ toggle : Toggle, name ≠ toggle.option) (hlate : isLateRequest arg = false)
      (harg : arg = name ∨ ∃ value, arg = name ++ "=" ++ value) :
      Misfit arg rest (.unknownOption name)
  | missingValue {option : ValueOption} {name : String} (hname : name ∈ option.names) :
      Misfit name [] (.missingValue option.name)
  | unknownFormat {name value : String} {rest : List String}
      (hname : name ∈ ValueOption.format.names) (h : ∀ f : Format, value ≠ f.written) :
      Misfit name (value :: rest) (.unknownFormat value)
  | unknownJoinedFormat {arg value : String} {rest : List String}
      (harg : arg = ValueOption.format.name ++ "=" ++ value)
      (h : ∀ f : Format, value ≠ f.written) : Misfit arg rest (.unknownFormat value)

/-- An argument of which nothing is said here, because it is dealt with otherwise than the
    help lets one expect: a switch with a value joined to it, what begins with one dash, and
    a request for help or for the version that does not come first. -/
inductive Doubtful : String → Prop where
  | joinedHide {toggle : Toggle} {arg : String} (value : String)
      (harg : arg = toggle.option ++ "=" ++ value) : Doubtful arg
  | oneDash {arg : String} (hdash : arg.toList.head? = some '-')
      (hlong : isLongOption arg = false) (hoption : ∀ option : ValueOption, arg ∉ option.names) :
      Doubtful arg
  | late {arg : String} (h : isLateRequest arg = true) : Doubtful arg

theorem Arguments.read_misfit {arg : String} {rest : List String} {e : UsageError}
    (h : Misfit arg rest e) (a : Arguments) : a.read (arg :: rest) = .error e := by
  have hformat {value : String} (h : ∀ f : Format, value ≠ f.written) :
      a.addValue .format value = .error (.unknownFormat value) := by
    have hnone : Format.named? value = none :=
      (if_neg (h .json)).trans (if_neg (h .text))
    simp only [addValue, ValueOption.set, hnone]
  cases h with
  | @unknownOption name arg rest hname hoption htoggle hlate harg =>
    have hread : ∀ value : Option String, flagAndValue arg = (name, value) →
        a.read (arg :: rest) = .error (.unknownOption name) := by
      intro value hflag
      rw [read, hflag]
      simp only [written?_eq_none hoption, addPlain, hideOption?_eq_none htoggle, hname.dashes,
        if_true]
    rcases harg with rfl | ⟨value, rfl⟩
    · exact hread none (flagAndValue_longName hname)
    · exact hread (some value) (flagAndValue_joined hname value)
  | missingValue hname =>
    rw [read, ValueOption.flagAndValue_of_mem hname]
    simp only [ValueOption.written?_of_mem hname]
  | unknownFormat hname h =>
    rw [read_behind hname, hformat h]
    rfl
  | unknownJoinedFormat harg h =>
    rw [harg, read_joined, hformat h]
    rfl

/-! ### Every argument is an item or stops the reading -/

/-- The items in front are spelled, and the next argument is none. -/
def Stops (args : List String) : Prop :=
  ∃ items front arg rest, args = front ++ arg :: rest ∧ Spells items front ∧
    (Doubtful arg ∨ ∃ e, Misfit arg rest e)

theorem stops_here {arg : String} {rest : List String}
    (h : Doubtful arg ∨ ∃ e, Misfit arg rest e) : Stops (arg :: rest) :=
  ⟨[], [], arg, rest, rfl, .nil, h⟩

/-- An item in front of what is spelled, or of what stops, changes neither. -/
theorem spells_or_stops_behind (part : List String) {rest : List String} {item : Item}
    (hitem : ∀ items args, Spells items args → Spells (item :: items) (part ++ args))
    (h : (∃ items, Spells items rest) ∨ Stops rest) :
    (∃ items, Spells items (part ++ rest)) ∨ Stops (part ++ rest) := by
  rcases h with ⟨items, h⟩ | ⟨items, front, arg, more, rfl, hfront, hstop⟩
  · exact .inl ⟨item :: items, hitem items rest h⟩
  · refine .inr ⟨item :: items, part ++ front, arg, more, ?_, hitem items front hfront, hstop⟩
    rw [List.append_assoc]

theorem isWord_or_dash (arg : String) : IsWord arg ∨ arg.toList.head? = some '-' := by
  by_cases h : arg.toList.head? = some '-'
  · exact .inr h
  · exact .inl h

/-- The only short name of an option is no long one. -/
theorem eq_name_of_isLongName {option : ValueOption} {name : String} (hname : IsLongName name)
    (h : name ∈ option.names) : name = option.name := by
  have hdashes := hname.dashes
  cases option with
  | snapshot =>
    simp only [ValueOption.names, List.mem_cons, List.not_mem_nil, or_false] at h
    rcases h with rfl | rfl
    · exact absurd hdashes (by decide)
    · rfl
  | _ => exact List.mem_singleton.mp h

/-- What begins with two dashes, if it is no name of an option with a value. -/
theorem spells_or_stops_long {arg : String} {rest : List String} (hlong : isLongOption arg = true)
    (hoption : ∀ option : ValueOption, arg ∉ option.names)
    (hrest : (∃ items, Spells items rest) ∨ Stops rest) :
    (∃ items, Spells items (arg :: rest)) ∨ Stops (arg :: rest) := by
  obtain ⟨name, hname, harg⟩ := exists_longName hlong
  by_cases htoggle : ∃ toggle : Toggle, name = toggle.option
  · obtain ⟨toggle, rfl⟩ := htoggle
    rcases harg with rfl | ⟨value, harg⟩
    · exact spells_or_stops_behind [toggle.option] (fun _ _ => .hide rfl) hrest
    · exact .inr (stops_here (.inl (.joinedHide value harg)))
  · by_cases hvalue : ∃ option : ValueOption, name ∈ option.names
    · obtain ⟨option, hmem⟩ := hvalue
      rcases harg with rfl | ⟨value, harg⟩
      · exact absurd hmem (hoption option)
      · rw [eq_name_of_isLongName hname hmem] at harg
        rcases Setting.exists_setting option value with ⟨s, rfl, rfl⟩ | ⟨rfl, hformat⟩
        · exact spells_or_stops_behind [arg] (fun _ _ => .joined harg) hrest
        · exact .inr (stops_here (.inr ⟨_, .unknownJoinedFormat harg hformat⟩))
    · cases hlate : isLateRequest arg with
      | true => exact .inr (stops_here (.inl (.late hlate)))
      | false =>
        exact .inr (stops_here (.inr ⟨_, .unknownOption hname (not_exists.mp hvalue)
          (not_exists.mp htoggle) hlate harg⟩))

/-- **Every line is spelled by items, or stops somewhere.** -/
theorem spells_or_stops : ∀ args : List String, (∃ items, Spells items args) ∨ Stops args
  | [] => .inl ⟨[], .nil⟩
  | arg :: rest => by
    rcases isWord_or_dash arg with hword | hdash
    · exact spells_or_stops_behind [arg] (fun _ _ => .word hword) (spells_or_stops rest)
    by_cases hoption : ∃ option : ValueOption, arg ∈ option.names
    · obtain ⟨option, hname⟩ := hoption
      match rest with
      | [] => exact .inr (stops_here (.inr ⟨_, .missingValue hname⟩))
      | value :: rest =>
        -- whatever stands behind the name is its value, even if it looks like an option
        rcases Setting.exists_setting option value with ⟨s, rfl, hvalue⟩ | ⟨rfl, hformat⟩
        · exact spells_or_stops_behind [arg, value]
            (fun _ _ => .behind hname hvalue.symm) (spells_or_stops rest)
        · exact .inr (stops_here (.inr ⟨_, .unknownFormat hname hformat⟩))
    · cases hlong : isLongOption arg with
      | false => exact .inr (stops_here (.inl (.oneDash hdash hlong (not_exists.mp hoption))))
      | true => exact spells_or_stops_long hlong (not_exists.mp hoption) (spells_or_stops rest)
termination_by args => args.length

/-! ### Words -/

/-- Words of which nothing is said here: a request for help or for the version behind
    options, and words behind those that ask for something. -/
inductive DoubtfulWords : List String → Prop where
  | late {word : String} {others : List String} (h : word = "help" ∨ word = "version") :
      DoubtfulWords (word :: others)
  | surplus {used others : List String} {action : Options → Action} (hused : used ≠ [])
      (hask : Asks used action) (hothers : others ≠ []) : DoubtfulWords (used ++ others)

theorem Asks.head?_ne {words : List String} {action : Options → Action} (h : Asks words action) :
    words.head? ≠ some "help" ∧ words.head? ≠ some "version" := by
  cases h <;> simp

/-- What is wrong with words that ask for nothing. -/
inductive Unasked : List String → UsageError → Prop where
  | unknownCommand {word : String} {others : List String}
      (h : word ∉ ["ui", "list", "counts", "settings", "conflicts", "help", "version"]) :
      Unasked (word :: others) (.unknownCommand word)
  | missingPlugin : Unasked ["conflicts"] .missingPlugin

theorem ofArguments_asks {words : List String} {action : Options → Action} (h : Asks words action)
    (o : Options) : Action.ofArguments { options := o, words } = .ok (action o) := by
  cases h <;> rfl

theorem ofArguments_unasked {words : List String} {e : UsageError} (h : Unasked words e)
    (o : Options) : Action.ofArguments { options := o, words } = .error e := by
  cases h with
  | unknownCommand h =>
    simp only [List.mem_cons, List.not_mem_nil, or_false, not_or] at h
    simp only [Action.ofArguments, Action.ofWord, h, if_false]
  | missingPlugin => rfl

/-- Some words ask for something, or ask for nothing, or are doubtful. -/
theorem asks_or_unasked (words : List String) :
    (∃ action, Asks words action) ∨ (∃ e, Unasked words e) ∨ DoubtfulWords words := by
  match words with
  | [] => exact .inl ⟨_, .nothing⟩
  | word :: others =>
    by_cases hword : word ∉ ["ui", "list", "counts", "settings", "conflicts", "help", "version"]
    · exact .inr (.inl ⟨_, .unknownCommand hword⟩)
    have hone : ∀ action, Asks [word] action →
        (∃ action, Asks (word :: others) action) ∨ DoubtfulWords (word :: others) := by
      intro action hask
      match others with
      | [] => exact .inl ⟨action, hask⟩
      | next :: more =>
        have hwords : DoubtfulWords ([word] ++ next :: more) :=
          .surplus (List.cons_ne_nil _ _) hask (List.cons_ne_nil _ _)
        exact .inr hwords
    simp only [List.mem_cons, List.not_mem_nil, or_false, Classical.not_not] at hword
    rcases hword with rfl | rfl | rfl | rfl | rfl | hlate | hlate
    · exact (hone _ .interface).imp_right .inr
    · exact (hone _ .list).imp_right .inr
    · exact (hone _ .counts).imp_right .inr
    · exact (hone _ .settings).imp_right .inr
    · match others with
      | [] => exact .inr (.inl ⟨_, .missingPlugin⟩)
      | [plugin] => exact .inl ⟨_, .conflicts plugin⟩
      | plugin :: next :: more =>
        have hwords : DoubtfulWords (["conflicts", plugin] ++ next :: more) :=
          .surplus (List.cons_ne_nil _ _) (.conflicts plugin) (List.cons_ne_nil _ _)
        exact .inr (.inr hwords)
    · exact .inr (.inr (.late (.inl hlate)))
    · exact .inr (.inr (.late (.inr hlate)))

/-! ### Command lines -/

/-- A line that begins with a request for help or for the version. -/
def asksAbout (args : List String) : Bool :=
  Action.startsWith Action.helpWords args || Action.startsWith Action.versionWords args

/-- What is wrong with a command line: with one of its arguments, or with its words. -/
inductive Refused : List String → UsageError → Prop where
  | argument {items : List Item} {front rest : List String} {arg : String} {e : UsageError}
      (habout : asksAbout (front ++ arg :: rest) = false) (hfront : Spells items front)
      (h : Misfit arg rest e) : Refused (front ++ arg :: rest) e
  | words {items : List Item} {args : List String} {e : UsageError}
      (habout : asksAbout args = false) (hitems : Spells items args)
      (h : Unasked (wordsOf items) e) : Refused args e

/-- A command line of which nothing is said here, because of one of its arguments, or of
    its words. -/
inductive LeftOpen : List String → Prop where
  | argument {items : List Item} {front rest : List String} {arg : String}
      (habout : asksAbout (front ++ arg :: rest) = false) (hfront : Spells items front)
      (h : Doubtful arg) : LeftOpen (front ++ arg :: rest)
  | words {items : List Item} {args : List String} (habout : asksAbout args = false)
      (hitems : Spells items args) (h : DoubtfulWords (wordsOf items)) : LeftOpen args

theorem asksAbout_cons (first : String) (rest : List String) :
    asksAbout (first :: rest) = true ↔
      first ∈ Action.helpWords ∨ first ∈ Action.versionWords := by
  simp only [asksAbout, Action.startsWith, Bool.or_eq_true, List.contains_iff_mem]

/-- What asks for something by its items does not begin with another request. -/
theorem not_asksAbout {items : List Item} {args : List String} {action : Options → Action}
    (h : Spells items args) (hask : Asks (wordsOf items) action) : asksAbout args = false := by
  have hnone {first : String} {rest : List String}
      (hfirst : first ∉ Action.helpWords ++ Action.versionWords) :
      asksAbout (first :: rest) = false := by
    rw [List.mem_append, ← asksAbout_cons first rest] at hfirst
    exact eq_false_of_ne_true hfirst
  cases h with
  | nil => rfl
  | @behind s name value items rest hname hvalue h =>
    apply hnone
    generalize s.option = option at hname
    cases option <;> simp only [ValueOption.names, ValueOption.name, List.mem_cons,
      List.not_mem_nil, or_false] at hname <;> rcases hname with rfl | rfl <;> decide
  | @joined s arg items rest harg h =>
    apply hnone
    intro hmem
    -- none of the requests has an equals sign
    have hplain : ∀ word ∈ Action.helpWords ++ Action.versionWords, '=' ∉ word.toList := by decide
    refine hplain arg hmem ?_
    rw [harg, toList_joined]
    exact List.mem_append_right _ List.mem_cons_self
  | @hide toggle arg items rest harg h =>
    apply hnone
    subst harg
    cases toggle <;> decide
  | @word word items rest hword h =>
    apply hnone
    intro hmem
    simp only [Action.helpWords, Action.versionWords, List.cons_append, List.nil_append,
      List.mem_cons, List.not_mem_nil, or_false] at hmem
    rcases hmem with rfl | rfl | rfl | rfl | rfl | rfl
    · exact absurd rfl hword
    · exact absurd rfl hword
    · exact absurd rfl hask.head?_ne.1
    · exact absurd rfl hword
    · exact absurd rfl hword
    · exact absurd rfl hask.head?_ne.2

theorem parse_of_not_asksAbout {args : List String} (h : asksAbout args = false) :
    Action.parse args = (({} : Arguments).read args).bind Action.ofArguments := by
  rw [asksAbout, Bool.or_eq_false_iff] at h
  simp only [Action.parse, h, Bool.false_eq_true, if_false]
  cases ({} : Arguments).read args <;> rfl

theorem documented_of_asksAbout {args : List String} (h : asksAbout args = true) :
    ∃ action, Documented args action := by
  match args with
  | first :: rest =>
    rcases (asksAbout_cons first rest).mp h with hhelp | hversion
    · exact ⟨_, .help hhelp⟩
    · exact ⟨_, .version hversion⟩

theorem parse_of_documented {args : List String} {action : Action} (h : Documented args action) :
    Action.parse args = .ok action := by
  cases h with
  | @help first rest h =>
    have hstarts : Action.startsWith Action.helpWords (first :: rest) = true :=
      List.contains_iff_mem.mpr h
    rw [Action.parse, if_pos hstarts]
  | @version first rest h =>
    have hstarts : Action.startsWith Action.versionWords (first :: rest) = true :=
      List.contains_iff_mem.mpr h
    have hhelp : Action.startsWith Action.helpWords (first :: rest) = false := by
      simp only [Action.versionWords, List.mem_cons, List.not_mem_nil, or_false] at h
      rcases h with rfl | rfl | rfl <;> rfl
    rw [Action.parse, hhelp, if_neg Bool.false_ne_true, if_pos hstarts]
  | asked h hask =>
    rw [parse_of_not_asksAbout (not_asksAbout h hask), Arguments.read_spelled h]
    exact ofArguments_asks hask _

theorem parse_of_refused {args : List String} {e : UsageError} (h : Refused args e) :
    Action.parse args = .error e := by
  cases h with
  | argument habout hfront h =>
    rw [parse_of_not_asksAbout habout, Arguments.read_append hfront, Arguments.read_misfit h]
    rfl
  | words habout hitems h =>
    rw [parse_of_not_asksAbout habout, Arguments.read_spelled hitems]
    exact ofArguments_unasked h _

/-- **A command line is understood as the help describes it.**  One that is documented asks
    for what it says.  One with an argument or with words that are refused fails, and the
    failure names what is wrong.  And every line is documented or refused, but for those
    with an argument or with words that are left open. -/
theorem parse_documented (args : List String) :
    (∀ action, Documented args action → Action.parse args = .ok action) ∧
    (∀ e, Refused args e → Action.parse args = .error e) ∧
    ((∃ action, Documented args action) ∨ (∃ e, Refused args e) ∨ LeftOpen args) := by
  refine ⟨fun action => parse_of_documented, fun e => parse_of_refused, ?_⟩
  cases habout : asksAbout args with
  | true => exact .inl (documented_of_asksAbout habout)
  | false =>
    rcases spells_or_stops args with ⟨items, hitems⟩ |
      ⟨items, front, arg, rest, rfl, hfront, hdoubtful | ⟨e, hmisfit⟩⟩
    · rcases asks_or_unasked (wordsOf items) with ⟨action, hask⟩ | ⟨e, hunasked⟩ | hdoubtful
      · exact .inl ⟨_, .asked hitems hask⟩
      · exact .inr (.inl ⟨e, .words habout hitems hunasked⟩)
      · exact .inr (.inr (.words habout hitems hdoubtful))
    · exact .inr (.inr (.argument habout hfront hdoubtful))
    · exact .inr (.inl ⟨e, .argument habout hfront hmisfit⟩)

/-! ### The help by the letter -/

/-- The words of a line each argument of which is listed in the help, wherever it stands:
    a request for help or for the version too, and a value joined to any name. -/
inductive Listed : List String → List String → Prop where
  | nil : Listed [] []
  | about {arg : String} {words rest : List String}
      (harg : arg ∈ ["-h", "--help", "-V", "--version"]) (h : Listed words rest) :
      Listed words (arg :: rest)
  | hide {toggle : Toggle} {arg : String} {words rest : List String}
      (harg : arg = toggle.option) (h : Listed words rest) : Listed words (arg :: rest)
  | behind {s : Setting} {name value : String} {words rest : List String}
      (hname : name ∈ s.option.names) (hvalue : value = s.value) (h : Listed words rest) :
      Listed words (name :: value :: rest)
  | joined {s : Setting} {name arg : String} {words rest : List String}
      (hname : name ∈ s.option.names) (harg : arg = name ++ "=" ++ s.value)
      (h : Listed words rest) : Listed words (arg :: rest)
  | word {word : String} {words rest : List String} (hword : IsWord word)
      (h : Listed words rest) : Listed (word :: words) (word :: rest)

/-- What is no name of an option, and has no value joined to it, is a request. -/
theorem Listed.about_of_plain {arg : String} {words rest : List String}
    (h : Listed words (arg :: rest)) (hdash : arg.toList.head? = some '-')
    (hplain : '=' ∉ arg.toList) (hoption : ValueOption.written? arg = none)
    (htoggle : hideOption? arg = none) :
    arg ∈ ["-h", "--help", "-V", "--version"] ∧ Listed words rest := by
  cases h with
  | about harg h => exact ⟨harg, h⟩
  | hide harg h =>
    rw [harg, Arguments.hideOption?_option] at htoggle
    cases htoggle
  | behind hname hvalue h =>
    rw [ValueOption.written?_of_mem hname] at hoption
    cases hoption
  | joined hname harg h =>
    refine absurd ?_ hplain
    rw [harg, toList_joined]
    exact List.mem_append_right _ List.mem_cons_self
  | word hword h => exact absurd hdash hword

/-- A request for help is followed whatever stands behind it, listed or not. -/
theorem not_listed_help_bogus :
    Action.parse ["-h", "--bogus"] = .ok (.command .help {}) ∧
      ¬ ∃ words action, Listed words ["-h", "--bogus"] ∧ Asks words action := by
  refine ⟨rfl, ?_⟩
  rintro ⟨words, action, hlisted, -⟩
  obtain ⟨-, hrest⟩ := hlisted.about_of_plain rfl (by decide) rfl (by decide +kernel)
  obtain ⟨hbogus, -⟩ := hrest.about_of_plain rfl (by decide) rfl (by decide +kernel)
  revert hbogus
  decide

end LoadOrder
