import Scalpel.Server.Settings

/-!
Configs of servers as entries of a table, there and back. A config that was made of parts has a
language, a command and endings that begin with a dot; written as an entry and read back it is the
same but for the options of the handshake, which an entry that was written does not have. So a table
that is copied by way of its entries is the same exactly if no config of it has options.
-/

set_option autoImplicit false

namespace Scalpel.ServerConfig

variable {language : String} {command languageId options : Json} {args extensions : List Json}
  {words endings : List String} {c : ServerConfig}

/-! ### Lists of texts -/

def AreTexts (values : List Json) : Prop :=
  ∃ texts : List String, values = texts.map .str

def text? : Json → Option String
  | .str text => some text
  | _ => none

theorem filterMap_texts (words : List String) : (words.map Json.str).filterMap text? = words := by
  rw [List.filterMap_map]
  exact List.filterMap_some

theorem areTexts_iff_length : (args.filterMap text?).length = args.length ↔ AreTexts args := by
  constructor
  · intro whole
    induction args with
    | nil => exact ⟨[], rfl⟩
    | cons first rest ih =>
        have fewer := List.length_filterMap_le text? rest
        cases first with
        | str word =>
            obtain ⟨words, rfl⟩ := ih (Nat.succ.inj whole)
            exact ⟨word :: words, rfl⟩
        | _ =>
            change (rest.filterMap text?).length = rest.length + 1 at whole
            omega
  · rintro ⟨words, rfl⟩
    rw [filterMap_texts, List.length_map]

theorem head?_dotted (ending : String) : (dotted ending).toList.head? = some '.' := by
  unfold dotted
  split
  · assumption
  · simp

theorem map_dotted (begins : ∀ ending ∈ endings, ending.toList.head? = some '.') :
    endings.map dotted = endings :=
  (List.map_congr_left fun ending member => if_pos (begins ending member)).trans (List.map_id _)

theorem mapM_extensionOf_texts :
    (endings.map .str).mapM extensionOf = .ok (endings.map dotted) := by
  induction endings with
  | nil => rfl
  | cons first rest ih =>
      rw [List.map_cons, List.mapM_cons, ih]
      rfl

theorem exists_misuse_of_extensions (other : ¬AreTexts extensions) :
    ∃ misuse, extensions.mapM extensionOf = .error (.misuse misuse) := by
  induction extensions with
  | nil => exact absurd ⟨[], rfl⟩ other
  | cons first rest ih =>
      rw [List.mapM_cons]
      cases first with
      | str ending =>
          have further : ¬AreTexts rest := by
            rintro ⟨endings, rfl⟩
            exact other ⟨ending :: endings, rfl⟩
          obtain ⟨misuse, failed⟩ := ih further
          rw [failed]
          exact ⟨misuse, rfl⟩
      | _ => exact ⟨_, rfl⟩

/-! ### Configs made of parts -/

/-- The parts of which a config is made are checked in order; its endings are looked at last. -/
theorem make_eq :
    make language command args extensions languageId options =
      if language.isEmpty = true then fail (.configuration "language must not be empty")
      else if command.isTruthy = false then
        fail (.configuration ("command for '" ++ language ++ "' must not be empty"))
      else if (args.filterMap text?).length ≠ args.length then
        fail (.configuration ("args for '" ++ language ++ "' must be a list of strings"))
      else extensions.mapM extensionOf >>= fun endings => .ok {
        language, command, args := args.filterMap text?, extensions := endings
        languageId := if languageId.isGiven then languageId else .str language
        initializationOptions := options } := by
  unfold make
  by_cases nameless : language.isEmpty = true
  · rw [if_pos nameless, if_pos nameless]
    rfl
  rw [if_neg nameless, if_neg nameless]
  by_cases missing : command.isTruthy = false
  · rw [if_pos (by rw [missing]; rfl), if_pos missing]
    rfl
  rw [if_neg (by simpa using missing), if_neg missing]
  dsimp only
  by_cases mixed : (args.filterMap text?).length ≠ args.length
  · rw [if_pos mixed]
    exact if_pos mixed
  · rw [if_neg mixed]
    exact if_neg mixed

theorem make_of_checked (named : language.isEmpty = false) (given : command.isTruthy = true)
    (words : List String) :
    make language command (words.map .str) extensions languageId options =
      (extensions.mapM extensionOf >>= fun endings => .ok {
        language, command, args := words, extensions := endings
        languageId := if languageId.isGiven then languageId else .str language
        initializationOptions := options }) := by
  have whole : ¬((words.map Json.str).filterMap text?).length ≠ (words.map Json.str).length :=
    not_not_intro (areTexts_iff_length.mpr ⟨words, rfl⟩)
  rw [make_eq, named, given, if_neg Bool.false_ne_true, if_neg Bool.noConfusion, if_neg whole,
    filterMap_texts]

theorem make_refused (wrong : language.isEmpty = true ∨ command.isTruthy = false ∨ ¬AreTexts args) :
    ∃ problem, problem.kind = .configuration ∧
      make language command args extensions languageId options = .error (.problem problem) := by
  rw [make_eq]
  split
  · exact ⟨_, rfl, rfl⟩
  split
  · exact ⟨_, rfl, rfl⟩
  split
  · exact ⟨_, rfl, rfl⟩
  · next named given whole =>
    have texts : AreTexts args := areTexts_iff_length.mp (Decidable.not_not.mp whole)
    rcases wrong with nameless | missing | mixed
    · exact absurd nameless named
    · exact absurd missing given
    · exact absurd texts mixed

theorem make_eq_ok_iff :
    make language command args extensions languageId options = .ok c ↔
      language.isEmpty = false ∧ command.isTruthy = true ∧ ∃ words endings : List String,
        args = words.map .str ∧ extensions = endings.map .str ∧
        c = { language, command, args := words, extensions := endings.map dotted
              languageId := if languageId.isGiven then languageId else .str language
              initializationOptions := options } := by
  constructor
  · intro made
    by_cases wrong : language.isEmpty = true ∨ command.isTruthy = false ∨ ¬AreTexts args
    · obtain ⟨problem, -, refused⟩ := make_refused wrong
      rw [refused] at made
      cases made
    · simp only [not_or, Bool.not_eq_true, Bool.not_eq_false] at wrong
      obtain ⟨named, given, texts⟩ := wrong
      obtain ⟨words, rfl⟩ := Classical.not_not.mp texts
      rw [make_of_checked named given] at made
      by_cases texts : AreTexts extensions
      · obtain ⟨endings, rfl⟩ := texts
        rw [mapM_extensionOf_texts] at made
        cases made
        exact ⟨named, given, words, endings, rfl, rfl, rfl⟩
      · obtain ⟨misuse, failed⟩ := exists_misuse_of_extensions texts
        rw [failed] at made
        cases made
  · rintro ⟨named, given, words, endings, rfl, rfl, rfl⟩
    rw [make_of_checked named given, mapM_extensionOf_texts]
    rfl

def Made (c : ServerConfig) : Prop :=
  ∃ language command args extensions languageId options,
    make language command args extensions languageId options = .ok c

/-- The configs that can be made: those with a language, a command, endings that begin with a dot and
a language id. -/
theorem made_iff :
    c.Made ↔ c.language.isEmpty = false ∧ c.command.isTruthy = true ∧
      (∀ ending ∈ c.extensions, ending.toList.head? = some '.') ∧ c.languageId.isGiven = true := by
  constructor
  · rintro ⟨language, command, args, extensions, languageId, options, made⟩
    obtain ⟨named, given, words, endings, rfl, rfl, rfl⟩ := make_eq_ok_iff.mp made
    refine ⟨named, given, ?_, ?_⟩
    · intro ending member
      obtain ⟨part, -, rfl⟩ := List.mem_map.mp member
      exact head?_dotted part
    · dsimp only
      split
      · assumption
      · rfl
  · rintro ⟨named, given, begins, identified⟩
    refine ⟨c.language, c.command, c.args.map .str, c.extensions.map .str, c.languageId,
      c.initializationOptions, make_eq_ok_iff.mpr ⟨named, given, _, _, rfl, rfl, ?_⟩⟩
    rw [map_dotted begins, if_pos identified]

/-! ### Entries of configs -/

def withoutOptions (c : ServerConfig) : ServerConfig :=
  { c with initializationOptions := .null }

theorem withoutOptions_eq_self_iff :
    c.withoutOptions = c ↔ c.initializationOptions = .null := by
  constructor
  · intro same
    rw [← same]
    rfl
  · intro none
    cases c
    cases none
    rfl

theorem ofJson_toJson (made : c.Made) : ofJson c.language c.toJson = .ok c.withoutOptions := by
  obtain ⟨named, given, begins, identified⟩ := made_iff.mp made
  have read : ofJson c.language c.toJson = make c.language c.command (c.args.map .str)
      (c.extensions.map .str) c.languageId .null := rfl
  rw [read, make_of_checked named given, mapM_extensionOf_texts, map_dotted begins]
  change Except.ok _ = _
  rw [if_pos identified]
  rfl

end Scalpel.ServerConfig

/-! ### Tables by way of their entries -/

namespace Scalpel.ServerTable

variable {table before after : ServerTable} {language : String} {config old : ServerConfig}

theorem put_of_listed (unlisted : language ∉ before.map Prod.fst) :
    put (before ++ (language, old) :: after) language config =
      before ++ (language, config) :: after := by
  induction before with
  | nil => simp [put]
  | cons first rest ih =>
      rw [List.map_cons, List.mem_cons, not_or] at unlisted
      rw [List.cons_append, put, if_neg (Ne.symm unlisted.1), ih unlisted.2, List.cons_append]

theorem put_of_unlisted (unlisted : language ∉ table.map Prod.fst) :
    put table language config = table ++ [(language, config)] := by
  induction table with
  | nil => rfl
  | cons first rest ih =>
      rw [List.map_cons, List.mem_cons, not_or] at unlisted
      rw [put, if_neg (Ne.symm unlisted.1), ih unlisted.2, List.cons_append]

def WellMade (table : ServerTable) : Prop :=
  ∀ entry ∈ table, entry.2.Made ∧ entry.2.language = entry.1

def withoutOptions (table : ServerTable) : ServerTable :=
  table.map fun entry => (entry.1, entry.2.withoutOptions)

def copied (table : ServerTable) : Outcome ServerTable :=
  table.mapM fun entry => (entry.1, ·) <$> ServerConfig.ofJson entry.1 entry.2.toJson

theorem withoutOptions_eq_self_iff :
    table.withoutOptions = table ↔ ∀ entry ∈ table, entry.2.initializationOptions = .null := by
  have asMap : table.withoutOptions = table ↔
      table.map (fun entry => (entry.1, entry.2.withoutOptions)) = table.map id := by
    rw [List.map_id]
    rfl
  rw [asMap, List.map_inj_left]
  refine forall_congr' fun entry => imp_congr_right fun _ => ?_
  rw [Prod.ext_iff, ← ServerConfig.withoutOptions_eq_self_iff]
  exact and_iff_right rfl

theorem copied_eq (wellMade : WellMade table) : table.copied = .ok table.withoutOptions := by
  induction table with
  | nil => rfl
  | cons first rest ih =>
      obtain ⟨made, own⟩ := wellMade first List.mem_cons_self
      have others := ih fun entry member => wellMade entry (List.mem_cons_of_mem _ member)
      have read := ServerConfig.ofJson_toJson made
      rw [own] at read
      unfold copied at others ⊢
      rw [List.mapM_cons, read, others]
      rfl

theorem changeServers_entries (wellMade : WellMade table) (distinct : (table.map Prod.fst).Nodup) :
    (table.toJson.entries >>= Settings.changeServers table) = .ok table.withoutOptions := by
  -- the table in the middle of reading: its front is read, the rest is as it was
  have reading (rest before : ServerTable) (wellMade : WellMade rest)
      (distinct : ((before ++ rest).map Prod.fst).Nodup) :
      Settings.changeServers (before ++ rest) (rest.map fun entry => (entry.1, entry.2.toJson)) =
        .ok (before ++ rest.withoutOptions) := by
    induction rest generalizing before with
    | nil => rfl
    | cons first rest ih =>
        obtain ⟨made, own⟩ := wellMade first List.mem_cons_self
        have read := ServerConfig.ofJson_toJson made
        rw [own] at read
        have unlisted : first.1 ∉ before.map Prod.fst := by
          rw [List.map_append, List.map_cons] at distinct
          intro member
          exact (List.nodup_append.mp distinct).2.2 _ member _ List.mem_cons_self rfl
        have step : Settings.changeServers (before ++ first :: rest)
              ((first :: rest).map fun entry => (entry.1, entry.2.toJson)) =
            Settings.changeServers ((before ++ [(first.1, first.2.withoutOptions)]) ++ rest)
              (rest.map fun entry => (entry.1, entry.2.toJson)) := by
          unfold Settings.changeServers
          rw [List.map_cons, List.foldlM_cons]
          change ((put (before ++ first :: rest) first.1 <$> ServerConfig.ofJson first.1 first.2.toJson)
            >>= _) = _
          rw [read]
          change List.foldlM _ (put (before ++ first :: rest) first.1 _) _ = _
          rw [put_of_listed unlisted, List.append_assoc, List.singleton_append]
        rw [step, ih]
        · rw [List.append_assoc]
          rfl
        · exact fun entry member => wellMade entry (List.mem_cons_of_mem _ member)
        · simpa using distinct
  exact reading table [] wellMade distinct

theorem wellMade_defaults : WellMade ServerConfig.defaults := by
  intro entry member
  have listed : ServerConfig.defaults.all (fun entry =>
      !entry.2.language.isEmpty && entry.2.command.isTruthy && entry.2.languageId.isGiven &&
        (entry.2.extensions.all fun ending => ending.toList.head? = some '.') &&
        entry.2.language = entry.1) = true := by
    decide
  have sound := List.all_eq_true.mp listed entry member
  simp only [Bool.and_eq_true, Bool.not_eq_true', decide_eq_true_eq, List.all_eq_true] at sound
  obtain ⟨⟨⟨⟨named, given⟩, identified⟩, begins⟩, own⟩ := sound
  exact ⟨ServerConfig.made_iff.mpr ⟨named, given, begins, identified⟩, own⟩

/-- A config that is read back from its entry has lost exactly its options, and so have the configs of
a table that is copied entry by entry, or that is written and read back into its place. The servers
that are known without configuration have none to lose. -/
theorem copies_lose_options (made : config.Made) (wellMade : WellMade table)
    (distinct : (table.map Prod.fst).Nodup) :
    (ServerConfig.ofJson config.language config.toJson = .ok config.withoutOptions ∧
      (ServerConfig.ofJson config.language config.toJson = .ok config ↔
        config.initializationOptions = .null)) ∧
    (table.copied = .ok table.withoutOptions ∧
      (table.toJson.entries >>= Settings.changeServers table) = .ok table.withoutOptions ∧
      (table.copied = .ok table ↔ ∀ entry ∈ table, entry.2.initializationOptions = .null)) ∧
    copied ServerConfig.defaults = .ok ServerConfig.defaults ∧
    ((toJson ServerConfig.defaults).entries >>= Settings.changeServers ServerConfig.defaults) =
      .ok ServerConfig.defaults := by
  have plain : withoutOptions ServerConfig.defaults = ServerConfig.defaults := rfl
  refine ⟨?_, ?_, ?_, ?_⟩
  · have read := ServerConfig.ofJson_toJson made
    refine ⟨read, ?_⟩
    rw [read, Except.ok.injEq]
    exact ServerConfig.withoutOptions_eq_self_iff
  · have read := copied_eq wellMade
    refine ⟨read, changeServers_entries wellMade distinct, ?_⟩
    rw [read, Except.ok.injEq]
    exact withoutOptions_eq_self_iff
  · exact (copied_eq wellMade_defaults).trans (congrArg _ plain)
  · exact (changeServers_entries wellMade_defaults (by decide)).trans (congrArg _ plain)

def configWithOption : ServerConfig :=
  { language := "go", command := .str "gopls", extensions := [".go"], languageId := .str "go"
    initializationOptions := .obj [("staticcheck", .bool true)] }

/-- The option is lost where the config is copied, and where its table is. -/
theorem copies_lose_options_of_one :
    configWithOption.Made ∧
      ServerConfig.ofJson "go" configWithOption.toJson = .ok configWithOption.withoutOptions ∧
      ServerConfig.ofJson "go" configWithOption.toJson ≠ .ok configWithOption ∧
      WellMade [("go", configWithOption)] ∧
      copied [("go", configWithOption)] ≠ .ok [("go", configWithOption)] := by
  have made : configWithOption.Made :=
    ServerConfig.made_iff.mpr ⟨by decide, by decide, by decide, by decide⟩
  have wellMade : WellMade [("go", configWithOption)] := by
    intro entry member
    rw [List.mem_singleton.mp member]
    exact ⟨made, rfl⟩
  obtain ⟨⟨read, kept⟩, ⟨-, -, copied⟩, -⟩ :=
    copies_lose_options made wellMade (by decide)
  refine ⟨made, read, ?_, wellMade, ?_⟩
  · intro whole
    cases kept.mp whole
  · intro whole
    cases copied.mp whole _ List.mem_cons_self

end Scalpel.ServerTable
