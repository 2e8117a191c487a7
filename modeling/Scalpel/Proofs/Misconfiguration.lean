import Mathlib
import Scalpel.Proofs.Layers
import Scalpel.Proofs.Utf8

/-!
Configuration that is wrong. Settings are loaded, or refused with a problem that says what is wrong with
the configuration, or the loading goes astray: it ends with a failure that is no such problem. It goes
astray in the cases told here and in no others. Settings that are loaded have times that are not below
their bounds, which is also so for a time that is no number, and servers with commands.
-/

set_option autoImplicit false

namespace Scalpel

def Failure.IsConfiguration : Failure → Prop
  | .problem p => p.kind = .configuration
  | _ => False

/-- An outcome that is a failure, but none that says that the configuration is wrong. -/
def Strays {α : Type} (outcome : Outcome α) : Prop :=
  ∃ failure, outcome = .error failure ∧ ¬failure.IsConfiguration

/-! ### Outcomes that stray -/

section Outcomes

variable {α β : Type} {first : Outcome α} {next : α → Outcome β} {failure : Failure}

theorem not_strays_ok (value : α) : ¬Strays (.ok value : Outcome α) := by
  rintro ⟨failure, failed, -⟩
  cases failed

theorem strays_error_iff : Strays (.error failure : Outcome α) ↔ ¬failure.IsConfiguration := by
  constructor
  · rintro ⟨other, same, strays⟩
    rwa [Except.error.inj same]
  · exact fun strays => ⟨failure, rfl, strays⟩

theorem not_strays_fail (message : String) (context : Problem.Context) (cause : Option String) :
    ¬Strays (fail (.configuration message context cause) : Outcome α) := by
  intro strays
  exact strays_error_iff.mp strays rfl

theorem strays_bind_iff :
    Strays (first >>= next) ↔ Strays first ∨ ∃ value, first = .ok value ∧ Strays (next value) := by
  cases first with
  | error failure =>
      change Strays (.error failure) ↔ _
      rw [strays_error_iff, strays_error_iff]
      constructor
      · exact .inl
      · rintro (strays | ⟨value, done, -⟩)
        · exact strays
        · cases done
  | ok value =>
      change Strays (next value) ↔ _
      constructor
      · exact fun strays => .inr ⟨value, rfl, strays⟩
      · rintro (strays | ⟨other, done, strays⟩)
        · exact absurd strays (not_strays_ok value)
        · rwa [Except.ok.inj done]

theorem strays_map_iff (change : α → β) : Strays (change <$> first) ↔ Strays first := by
  cases first with
  | error failure => exact strays_error_iff.trans strays_error_iff.symm
  | ok value => exact iff_of_false (not_strays_ok _) (not_strays_ok _)

/-- Items that are gone through stray at the first item that strays, if all before it are fine. -/
theorem strays_foldlM_iff {step : α → β → Outcome α} {items : List β} {state : α} :
    Strays (items.foldlM step state) ↔
      ∃ before item after middle, items = before ++ item :: after ∧
        before.foldlM step state = .ok middle ∧ Strays (step middle item) := by
  induction items generalizing state with
  | nil =>
      constructor
      · exact fun strays => absurd strays (not_strays_ok state)
      · rintro ⟨before, item, after, middle, parted, -⟩
        cases before with
        | nil => cases parted
        | cons => cases parted
  | cons first rest ih =>
      rw [List.foldlM_cons, strays_bind_iff]
      constructor
      · rintro (strays | ⟨value, done, strays⟩)
        · exact ⟨[], first, rest, state, rfl, rfl, strays⟩
        · obtain ⟨before, item, after, middle, rfl, fine, strays⟩ := ih.mp strays
          refine ⟨first :: before, item, after, middle, rfl, ?_, strays⟩
          rw [List.foldlM_cons, done]
          exact fine
      · rintro ⟨before, item, after, middle, parted, fine, strays⟩
        cases before with
        | nil =>
            cases parted
            rw [← Except.ok.inj fine] at strays
            exact .inl strays
        | cons other before =>
            cases parted
            rw [List.foldlM_cons] at fine
            obtain ⟨value, done, fine⟩ := exists_of_bind_ok fine
            exact .inr ⟨value, done, ih.mpr ⟨before, item, after, middle, rfl, fine, strays⟩⟩

end Outcomes

namespace Json

variable {value : Json}

def IsScalar : Json → Prop
  | .null | .bool _ | .int _ | .float _ => True
  | .str _ | .arr _ | .obj _ => False

theorem strays_listed_iff : Strays value.listed ↔ value.IsScalar := by
  cases value with
  | null | bool | int | float =>
      exact iff_of_true (strays_error_iff.mpr id) trivial
  | str | arr | obj => exact iff_of_false (not_strays_ok _) id

theorem strays_entries_iff : Strays value.entries ↔ ∀ fields, value ≠ .obj fields := by
  cases value with
  | obj fields => exact iff_of_false (not_strays_ok _) fun other => other fields rfl
  | _ => exact iff_of_true (strays_error_iff.mpr id) nofun

def Defect.IsBeyond : Defect → Prop
  | .tooDeep | .tooLong _ => True
  | _ => False

theorem parsed_of_error [Halves] {text : String} {u : Unreadable} (read : Json.read text = .error u) :
    (u.defect.IsBeyond ∧ ∃ failure, parsed text = .error failure ∧ ¬failure.IsConfiguration ∧
      ∀ other, failure ≠ .unreadable other) ∨
    ¬u.defect.IsBeyond ∧ parsed text = .error (.unreadable u) := by
  unfold parsed
  rw [read]
  dsimp only
  cases defect : u.defect with
  | tooDeep => exact .inl ⟨trivial, _, rfl, id, fun _ => Failure.noConfusion⟩
  | tooLong digits => exact .inl ⟨trivial, _, rfl, id, fun _ => Failure.noConfusion⟩
  | _ => exact .inr ⟨id, rfl⟩

end Json

namespace ServerConfig

variable {language : String} {entry command languageId options : Json} {args extensions : List Json}
  {fields : Json.Fields} {config : ServerConfig}

/-! ### Entries that lead astray -/

def listField (fields : Json.Fields) (name : String) : Json :=
  (fields.lookup name).getD (.arr [])

/-- An entry that cannot be told from a right one until it is used as one: a truth value or a number; a
text or a list that mentions a command; or an object with a command, with arguments or endings that
are no list, or with endings that are no texts where all else is right. -/
inductive Malformed (language : String) : Json → Prop where
  | scalar {entry : Json} (given : entry.isGiven = true) (scalar : entry.IsScalar) :
      Malformed language entry
  | indexed {entry : Json} (other : ∀ fields, entry ≠ .obj fields)
      (mentioned : entry.mentions "command" = .ok true) : Malformed language entry
  | args {fields : Json.Fields} {command : Json} (found : fields.lookup "command" = some command)
      (scalar : (listField fields "args").IsScalar) : Malformed language (.obj fields)
  | extensions {fields : Json.Fields} {command : Json} {args : List Json}
      (found : fields.lookup "command" = some command)
      (listed : (listField fields "args").listed = .ok args)
      (scalar : (listField fields "extensions").IsScalar) : Malformed language (.obj fields)
  | ending {fields : Json.Fields} {command : Json} {args extensions : List Json}
      (found : fields.lookup "command" = some command)
      (listed : (listField fields "args").listed = .ok args)
      (ended : (listField fields "extensions").listed = .ok extensions)
      (named : language.isEmpty = false) (given : command.isTruthy = true) (texts : AreTexts args)
      (mixed : ¬AreTexts extensions) : Malformed language (.obj fields)

theorem strays_make_iff :
    Strays (make language command args extensions languageId options) ↔
      language.isEmpty = false ∧ command.isTruthy = true ∧ AreTexts args ∧ ¬AreTexts extensions := by
  by_cases wrong : language.isEmpty = true ∨ command.isTruthy = false ∨ ¬AreTexts args
  · obtain ⟨problem, kind, refused⟩ := make_refused wrong
    rw [refused, strays_error_iff]
    refine iff_of_false (not_not_intro kind) ?_
    rintro ⟨named, given, texts, -⟩
    simp [named, given, texts] at wrong
  · simp only [not_or, Bool.not_eq_true, Bool.not_eq_false] at wrong
    obtain ⟨named, given, texts⟩ := wrong
    obtain ⟨words, rfl⟩ := Classical.not_not.mp texts
    rw [make_of_checked named given]
    by_cases texts : AreTexts extensions
    · obtain ⟨endings, rfl⟩ := texts
      rw [mapM_extensionOf_texts]
      exact iff_of_false (not_strays_ok _) fun wrong => wrong.2.2.2 ⟨endings, rfl⟩
    · obtain ⟨misuse, failed⟩ := exists_misuse_of_extensions texts
      rw [failed]
      exact iff_of_true (strays_error_iff.mpr id)
        ⟨named, given, ⟨words, rfl⟩, texts⟩

theorem any_eq_isSome_lookup (fields : Json.Fields) (name : String) :
    (fields.any fun field => field.1 = name) = (fields.lookup name).isSome := by
  induction fields with
  | nil => rfl
  | cons first rest ih =>
      rw [List.any_cons, ih, List.lookup_cons]
      by_cases same : first.1 = name
      · subst same
        simp
      · rw [beq_false_of_ne (Ne.symm same), decide_eq_false same]
        rfl

theorem mentions_obj (name : String) :
    (Json.obj fields).mentions name = .ok (fields.lookup name).isSome :=
  congrArg Except.ok (any_eq_isSome_lookup fields name)

theorem ofJson_unmentioned (unmentioned : entry.mentions "command" = .ok false) :
    ofJson language entry =
      fail (.configuration ("server config for '" ++ language ++ "' is missing 'command'")) := by
  unfold ofJson
  rw [unmentioned]
  rfl

theorem ofJson_obj (found : fields.lookup "command" = some command) :
    ofJson language (.obj fields) =
      ((listField fields "args").listed >>= fun args =>
        (listField fields "extensions").listed >>= fun extensions =>
          make language command args extensions ((fields.lookup "language_id").getD .null)
            ((fields.lookup "initialization_options").getD .null)) := by
  have mentioned : (Json.obj fields).mentions "command" = .ok true := by
    rw [mentions_obj, found]
    rfl
  unfold ofJson
  rw [mentioned, Json.need_of_lookup found]
  rfl

theorem made_of_ofJson (read : ofJson language entry = .ok config) : config.Made := by
  unfold ofJson at read
  obtain ⟨mentioned, -, read⟩ := exists_of_bind_ok read
  cases mentioned with
  | false => cases read
  | true =>
      obtain ⟨command, -, read⟩ := exists_of_bind_ok read
      obtain ⟨values, -, read⟩ := exists_of_bind_ok read
      obtain ⟨args, -, read⟩ := exists_of_bind_ok read
      obtain ⟨values, -, read⟩ := exists_of_bind_ok read
      obtain ⟨extensions, -, read⟩ := exists_of_bind_ok read
      obtain ⟨languageId, -, read⟩ := exists_of_bind_ok read
      obtain ⟨options, -, read⟩ := exists_of_bind_ok read
      exact ⟨_, _, _, _, _, _, read⟩

theorem strays_ofJson_of_mentioned (other : ∀ fields, entry ≠ .obj fields)
    (mentioned : entry.mentions "command" = .ok true) : Strays (ofJson language entry) := by
  unfold ofJson
  rw [mentioned, Json.need_of_other "command" other]
  exact strays_error_iff.mpr id

theorem strays_ofJson_of_other (given : entry.isGiven = true) (other : ∀ fields, entry ≠ .obj fields) :
    Strays (ofJson language entry) ↔
      entry.IsScalar ∨ entry.mentions "command" = .ok true := by
  have sought (mentioned : Bool) (found : entry.mentions "command" = .ok mentioned)
      (filled : ¬entry.IsScalar) :
      Strays (ofJson language entry) ↔
        entry.IsScalar ∨ entry.mentions "command" = .ok true := by
    cases mentioned with
    | true => exact iff_of_true (strays_ofJson_of_mentioned other found) (.inr found)
    | false =>
        rw [ofJson_unmentioned found]
        refine iff_of_false (not_strays_fail _ _ _) ?_
        rintro (scalar | mentioned)
        · exact filled scalar
        · rw [found] at mentioned
          cases mentioned
  cases entry with
  | null => cases given
  | bool | int | float =>
      exact iff_of_true (strays_error_iff.mpr id) (.inl trivial)
  | str | arr => exact sought _ rfl id
  | obj fields => exact absurd rfl (other fields)

theorem strays_ofJson_iff (given : entry.isGiven = true) :
    Strays (ofJson language entry) ↔ Malformed language entry := by
  by_cases isObject : ∃ fields, entry = .obj fields
  · obtain ⟨fields, rfl⟩ := isObject
    cases found : fields.lookup "command" with
    | none =>
        have unmentioned : (Json.obj fields).mentions "command" = .ok false := by
          rw [mentions_obj, found]
          rfl
        rw [ofJson_unmentioned unmentioned]
        refine iff_of_false (not_strays_fail _ _ _) ?_
        intro malformed
        cases malformed with
        | scalar given scalar => exact scalar
        | indexed other mentioned => exact other fields rfl
        | args present => rw [found] at present; cases present
        | extensions present => rw [found] at present; cases present
        | ending present => rw [found] at present; cases present
    | some command =>
        rw [ofJson_obj found, strays_bind_iff, Json.strays_listed_iff]
        constructor
        · rintro (scalar | ⟨args, listed, strays⟩)
          · exact .args found scalar
          · -- the arguments are listed before the endings, and both before any part is checked
            rw [strays_bind_iff, Json.strays_listed_iff] at strays
            obtain scalar | ⟨extensions, ended, strays⟩ := strays
            · exact .extensions found listed scalar
            · obtain ⟨named, given, texts, mixed⟩ := strays_make_iff.mp strays
              exact .ending found listed ended named given texts mixed
        · intro malformed
          cases malformed with
          | scalar given scalar => exact absurd scalar id
          | indexed other mentioned => exact absurd rfl (other fields)
          | args present scalar => exact .inl scalar
          | extensions present listed scalar =>
              refine .inr ⟨_, listed, ?_⟩
              rw [strays_bind_iff, Json.strays_listed_iff]
              exact .inl scalar
          | ending present listed ended named given texts mixed =>
              rw [found] at present
              cases present
              refine .inr ⟨_, listed, ?_⟩
              rw [strays_bind_iff]
              exact .inr ⟨_, ended, strays_make_iff.mpr ⟨named, given, texts, mixed⟩⟩
  · have other : ∀ fields, entry ≠ .obj fields := fun fields same => isObject ⟨fields, same⟩
    rw [strays_ofJson_of_other given other]
    constructor
    · rintro (scalar | mentioned)
      · exact .scalar given scalar
      · exact .indexed other mentioned
    · intro malformed
      cases malformed with
      | scalar given scalar => exact .inl scalar
      | indexed other mentioned => exact .inr mentioned
      | args => exact absurd rfl (other _)
      | extensions => exact absurd rfl (other _)
      | ending => exact absurd rfl (other _)

end ServerConfig

namespace Settings

variable {s : Settings} {name : String} {value : Json} {kind : Kind}

/-! ### Times -/

def times : List String :=
  (names.filter fun pair => pair.2 = .seconds).map Prod.fst

theorem lookup_eq_seconds_iff : names.lookup name = some .seconds ↔ name ∈ times := by
  rw [lookup_names_iff]
  unfold times
  simp [List.mem_filter]

theorem times_eq : times = ["request_timeout", "handshake_timeout", "heartbeat_timeout",
    "health_check_interval", "restart_backoff", "shutdown_timeout"] := by
  decide

theorem isKnown_of_time (time : name ∈ times) : IsKnown name := by
  unfold IsKnown
  rw [lookup_eq_seconds_iff.mpr time]
  rfl

/-- A time that passes its check: one above zero, zero for the pause before a restart, or no number at
all. -/
def Passes (name : String) (x : Float) : Prop :=
  x.isNaN = true ∨ if name = "restart_backoff" then 0.0 ≤ x else 0.0 < x

def Timed (s : Settings) : Prop :=
  ∀ name ∈ times, ∃ x, s.value name = .float x

def TimesPass (s : Settings) : Prop :=
  ∀ name ∈ times, ∃ x, s.value name = .float x ∧ Passes name x

section Numbers

open Float.Model

variable {x y : Float}

theorem unpack_zero : (0.0 : Float).toModel.unpack = .zero .positive := by
  rfl

theorem lt_iff_compare :
    x < y ↔ x.toModel.unpack.compare y.toModel.unpack = some .lt := by
  change decide (x.toModel < y.toModel) = true ↔ _
  rw [decide_eq_true_iff]
  exact beq_iff_eq

theorem le_iff_compare :
    x ≤ y ↔ (x.toModel.unpack.compare y.toModel.unpack).any (·.isLE) = true := by
  change decide (x.toModel ≤ y.toModel) = true ↔ _
  rw [decide_eq_true_iff]
  exact Iff.rfl

theorem not_atMost_zero_iff : ¬x < 0.0 ∧ (x == 0.0) = false ↔ x.isNaN = true ∨ 0.0 < x := by
  have equal : (x == 0.0) = (x.toModel.unpack.compare (0.0 : Float).toModel.unpack == some .eq) :=
    rfl
  have undefined : x.isNaN = x.toModel.unpack.isNaN := rfl
  rw [lt_iff_compare, lt_iff_compare, equal, undefined, unpack_zero]
  cases x.toModel.unpack with
  | notANumber => decide
  | infinity sign => cases sign <;> decide
  | zero sign => cases sign <;> decide
  | finite sign => cases sign <;> simp [UnpackedFloat.compare, UnpackedFloat.isNaN]

theorem not_below_zero_iff : ¬x < 0.0 ↔ x.isNaN = true ∨ 0.0 ≤ x := by
  have undefined : x.isNaN = x.toModel.unpack.isNaN := rfl
  rw [lt_iff_compare, le_iff_compare, undefined, unpack_zero]
  cases x.toModel.unpack with
  | notANumber => decide
  | infinity sign => cases sign <;> decide
  | zero sign => cases sign <;> decide
  | finite sign => cases sign <;> simp [UnpackedFloat.compare, UnpackedFloat.isNaN]

end Numbers

theorem checkNumber_float (name : String) (x : Float) :
    (Passes name x ∧ checkNumber (.float x) name (name = "restart_backoff") = .ok ()) ∨
      ¬Passes name x ∧
        ∃ text, checkNumber (.float x) name (name = "restart_backoff") = .error (.invalid text) := by
  unfold Passes checkNumber
  by_cases backoff : name = "restart_backoff"
  · rw [if_pos backoff, decide_eq_true backoff, ← not_below_zero_iff]
    by_cases below : x < 0.0
    · exact .inr ⟨not_not_intro below, name ++ " must be non-negative", by simp [below]⟩
    · exact .inl ⟨below, by simp [below]⟩
  · rw [if_neg backoff, decide_eq_false backoff, ← not_atMost_zero_iff]
    by_cases low : x < 0.0
    · exact .inr ⟨fun passes => passes.1 low, name ++ " must be positive", by simp [low]⟩
    · cases zero : x == 0.0 with
      | true => exact .inr ⟨nofun, name ++ " must be positive", by simp [zero]⟩
      | false => exact .inl ⟨⟨low, rfl⟩, by simp [low, zero]⟩

theorem checkTimes_eq (s : Settings) :
    s.checkTimes =
      forM times fun name => checkNumber (s.value name) name (name = "restart_backoff") := by
  rw [times_eq]
  simp only [List.forM_cons, List.forM_nil, bind_pure_unit]
  rfl

theorem forM_checkNumber {listed : List String}
    (timed : ∀ name ∈ listed, ∃ x, s.value name = .float x) :
    ((∀ name ∈ listed, ∃ x, s.value name = .float x ∧ Passes name x) ∧
      (forM listed fun name => checkNumber (s.value name) name (name = "restart_backoff")) = .ok ()) ∨
    (¬(∀ name ∈ listed, ∃ x, s.value name = .float x ∧ Passes name x)) ∧ ∃ text,
      (forM listed fun name => checkNumber (s.value name) name (name = "restart_backoff")) =
        .error (.invalid text) := by
  induction listed with
  | nil => exact .inl ⟨nofun, rfl⟩
  | cons name rest ih =>
      obtain ⟨x, float⟩ := timed name List.mem_cons_self
      rw [List.forM_cons, float]
      rcases checkNumber_float name x with ⟨passes, fine⟩ | ⟨low, text, refused⟩
      · rw [fine]
        rcases ih fun other member => timed other (List.mem_cons_of_mem _ member) with
          ⟨others, fine⟩ | ⟨wrong, refused⟩
        · exact .inl ⟨List.forall_mem_cons.mpr ⟨⟨x, float, passes⟩, others⟩, fine⟩
        · exact .inr ⟨fun all => wrong (List.forall_mem_cons.mp all).2, refused⟩
      · rw [refused]
        refine .inr ⟨fun all => low ?_, text, rfl⟩
        obtain ⟨y, same, passes⟩ := all name List.mem_cons_self
        rwa [Json.float.inj (float.symm.trans same)]

/-- Settings whose times are all floating-point numbers are right if these pass, and refused if not. -/
theorem checked_of_timed [Halves] (timed : Timed s) :
    (TimesPass s ∧ s.checked = .ok s) ∨
      ¬TimesPass s ∧ ∃ text, s.checked = fail (.configuration text {} (some text)) := by
  unfold checked
  rw [checkTimes_eq]
  rcases forM_checkNumber timed with ⟨pass, fine⟩ | ⟨wrong, text, refused⟩
  · exact .inl ⟨pass, by rw [fine]⟩
  · exact .inr ⟨wrong, text, by rw [refused]; rfl⟩

theorem timesPass_default (servers : ServerTable) : TimesPass { servers } := by
  unfold TimesPass
  rw [times_eq]
  intro name member
  simp only [List.mem_cons, List.not_mem_nil, or_false] at member
  rcases member with rfl | rfl | rfl | rfl | rfl | rfl
  all_goals exact ⟨_, rfl, .inr (by decide +kernel)⟩

theorem TimesPass.timed (pass : TimesPass s) : Timed s := by
  intro name member
  obtain ⟨x, float, -⟩ := pass name member
  exact ⟨x, float⟩

def FloatTimes (values : List (String × Json)) : Prop :=
  ∀ pair ∈ values, pair.1 ∈ times → ∃ x, pair.2 = .float x

theorem Timed.foldl_set {values : List (String × Json)} (timed : Timed s)
    (floats : FloatTimes values) :
    Timed (values.foldl (fun s (name, value) => s.set name value) s) := by
  induction values generalizing s with
  | nil => exact timed
  | cons first rest ih =>
      obtain ⟨key, value⟩ := first
      refine ih ?_ fun pair member => floats pair (List.mem_cons_of_mem _ member)
      intro name member
      by_cases same : key = name
      · subst same
        obtain ⟨x, float⟩ := floats _ List.mem_cons_self member
        exact ⟨x, (value_set_self (isKnown_of_time member)).trans float⟩
      · rw [value_set_of_ne same]
        exact timed name member

variable [Halves] {given values : List (String × Json)} {source : String}

/-! ### Values that lead astray -/

/-- A value that is used as a time in vain: null, a list, an object, or a whole number beyond all
floating-point numbers. -/
def IsNoTime : Json → Prop
  | .null | .arr _ | .obj _ => True
  | .int n => (Decimal.ofWhole n).isInf = true
  | .bool _ | .float _ | .str _ => False

theorem coerce_of_noTime (noTime : IsNoTime value) :
    ∃ failure, coerce .seconds value = .error failure ∧ failure.isInvalid = false ∧
      ¬failure.IsConfiguration := by
  cases value with
  | null | arr | obj => exact ⟨_, rfl, rfl, id⟩
  | int n =>
      have number : (Json.int n).number = .error (.unbounded "int too large to convert to float") :=
        if_pos noTime
      unfold coerce
      rw [number]
      exact ⟨_, rfl, rfl, id⟩
  | bool | float | str => cases noTime

theorem coerce_of_other (fine : kind = .seconds → ¬IsNoTime value) :
    (∃ read, coerce kind value = .ok read) ∨
      ∃ failure, coerce kind value = .error failure ∧ failure.isInvalid = true := by
  cases kind with
  | text => exact .inl ⟨_, rfl⟩
  | switch =>
      change (∃ read, switched value = .ok read) ∨
        ∃ failure, switched value = .error failure ∧ failure.isInvalid = true
      unfold switched
      split
      · exact .inl ⟨_, rfl⟩
      · dsimp only
        split
        · exact .inl ⟨_, rfl⟩
        split
        · exact .inl ⟨_, rfl⟩
        · exact .inr ⟨_, rfl, rfl⟩
  | seconds =>
      have other := fine rfl
      cases value with
      | null | arr | obj => exact absurd trivial other
      | bool | float => exact .inl ⟨_, rfl⟩
      | int n =>
          have number : (Json.int n).number = .ok (Decimal.ofWhole n) := if_neg other
          unfold coerce
          rw [number]
          exact .inl ⟨_, rfl⟩
      | str text =>
          unfold coerce Json.number
          dsimp only
          cases Decimal.float? text with
          | some x => exact .inl ⟨_, rfl⟩
          | none => exact .inr ⟨_, rfl, rfl⟩

theorem strays_coerced_iff :
    Strays (coerced source (name, value)) ↔ name ∈ times ∧ IsNoTime value := by
  rw [← lookup_eq_seconds_iff]
  unfold coerced
  dsimp only
  cases listed : names.lookup name with
  | none => exact iff_of_false (not_strays_ok _) nofun
  | some kind =>
      dsimp only
      by_cases astray : kind = .seconds ∧ IsNoTime value
      · obtain ⟨rfl, noTime⟩ := astray
        obtain ⟨failure, failed, valid, strays⟩ := coerce_of_noTime noTime
        rw [failed]
        dsimp only
        rw [valid, if_neg Bool.false_ne_true]
        exact iff_of_true (strays_error_iff.mpr strays) ⟨rfl, noTime⟩
      · refine iff_of_false ?_ fun wrong => astray ⟨Option.some.inj wrong.1, wrong.2⟩
        rcases coerce_of_other (not_and.mp astray) with ⟨read, done⟩ | ⟨failure, failed, invalid⟩
        · rw [done]
          exact not_strays_ok _
        · rw [failed]
          dsimp only
          rw [invalid, if_pos rfl]
          exact not_strays_fail _ _ _

theorem strays_coerceAll_iff :
    Strays (coerceAll given source) ↔
      ∃ before name value after values, given = before ++ (name, value) :: after ∧
        coerceAll before source = .ok values ∧ name ∈ times ∧ IsNoTime value := by
  rw [coerceAll_eq_foldlM, strays_foldlM_iff]
  constructor
  · rintro ⟨before, ⟨name, value⟩, after, values, parted, fine, strays⟩
    rw [strays_map_iff] at strays
    rw [← coerceAll_eq_foldlM] at fine
    exact ⟨before, name, value, after, values, parted, fine, strays_coerced_iff.mp strays⟩
  · rintro ⟨before, name, value, after, values, parted, fine, strays⟩
    rw [coerceAll_eq_foldlM] at fine
    refine ⟨before, (name, value), after, values, parted, fine, ?_⟩
    rw [strays_map_iff]
    exact strays_coerced_iff.mpr strays

theorem floatTimes_of_coerceAll (done : coerceAll given source = .ok values) : FloatTimes values := by
  obtain ⟨parts, pairs, rfl⟩ := exists_parts_of_coerceAll done
  clear done
  induction pairs with
  | nil => exact nofun
  | cons one more ih =>
      intro pair member time
      rw [List.flatten_cons, List.mem_append] at member
      rcases member with first | later
      · obtain ⟨-, rfl⟩ | ⟨kind, value, known, read, rfl⟩ := coerced_eq_ok one
        · cases first
        · obtain rfl := List.mem_singleton.mp first
          rw [lookup_eq_seconds_iff.mpr time] at known
          obtain rfl := Option.some.inj known
          obtain ⟨x, -, float⟩ := exists_of_map_ok read
          exact ⟨x, float⟩
      · exact ih pair later time

theorem not_strays_environment (environ : List (String × String)) :
    ¬Strays (coerceAll (ofEnvironment environ) "environment") := by
  intro strays
  obtain ⟨before, name, value, after, values, parted, -, -, noTime⟩ := strays_coerceAll_iff.mp strays
  have member : (name, value) ∈ ofEnvironment environ := by
    rw [parted]
    exact List.mem_append_right before List.mem_cons_self
  rw [ofEnvironment_eq] at member
  obtain ⟨pair, -, given⟩ := List.mem_filterMap.mp member
  obtain ⟨held, texts, same⟩ := Option.map_eq_some_iff.mp given
  obtain ⟨text, -, rfl⟩ := Option.map_eq_some_iff.mp texts
  cases same
  exact noTime

/-! ### Config files that lead astray -/

variable {t : FileTree} {path root : String} {fields entries raw : Json.Fields} {table : ServerTable}
  {environ : List (String × String)} {config : Json}

/-- What an entry of a config file makes of a table: an entry that is null takes its language out. -/
def changedFor (table : ServerTable) (language : String) : Json → Outcome ServerTable
  | .null => .ok (table.without language)
  | entry => table.put language <$> ServerConfig.ofJson language entry

omit [Halves] in
theorem strays_changedFor_iff {language : String} {entry : Json} :
    Strays (changedFor table language entry) ↔ ServerConfig.Malformed language entry := by
  cases entry with
  | null =>
      refine iff_of_false (not_strays_ok _) ?_
      intro malformed
      cases malformed with
      | scalar given => cases given
      | indexed other mentioned => cases mentioned
  | _ => exact (strays_map_iff _).trans (ServerConfig.strays_ofJson_iff rfl)

omit [Halves] in
theorem strays_changeServers_iff :
    Strays (changeServers table entries) ↔
      ∃ before language entry after middle, entries = before ++ (language, entry) :: after ∧
        changeServers table before = .ok middle ∧ ServerConfig.Malformed language entry := by
  unfold changeServers
  rw [strays_foldlM_iff]
  constructor
  · rintro ⟨before, ⟨language, entry⟩, after, middle, parted, fine, strays⟩
    exact ⟨before, language, entry, after, middle, parted, fine, strays_changedFor_iff.mp strays⟩
  · rintro ⟨before, language, entry, after, middle, parted, fine, malformed⟩
    exact ⟨before, (language, entry), after, middle, parted, fine, strays_changedFor_iff.mpr malformed⟩

/-- The fields of a config file that lead astray: settings that are no object, a value for a time that
is none, servers that are given but are no object, or a malformed entry of a server, where all that
is read before is fine. -/
inductive Misshapen (fields : Json.Fields) : Prop where
  | settings {value : Json} (found : fields.lookup "settings" = some value)
      (other : ∀ inner, value ≠ .obj inner)
  | setting {before after values : Json.Fields} {name : String} {value : Json}
      (found : sectionOf? fields "settings" = some (before ++ (name, value) :: after))
      (fine : coerceAll before "config.json" = .ok values) (time : name ∈ times)
      (noTime : IsNoTime value)
  | servers {raw values : Json.Fields} {value : Json}
      (settings : sectionOf? fields "settings" = some raw)
      (fine : coerceAll raw "config.json" = .ok values) (found : fields.lookup "servers" = some value)
      (given : value.isTruthy = true) (other : ∀ inner, value ≠ .obj inner)
  | entry {raw values before after : Json.Fields} {language : String} {entry : Json}
      {table : ServerTable} (settings : sectionOf? fields "settings" = some raw)
      (fine : coerceAll raw "config.json" = .ok values)
      (found : fields.lookup "servers" = some (.obj (before ++ (language, entry) :: after)))
      (earlier : changeServers ServerConfig.defaults before = .ok table)
      (malformed : ServerConfig.Malformed language entry)

theorem configured_obj (fields : Json.Fields) :
    configured (.obj fields) =
      (((fields.lookup "settings").getD (.obj [])).entries >>= fun raw =>
        coerceAll raw "config.json" >>= fun given =>
          (((fields.lookup "servers").getD .null).orElse (.obj [])).entries >>= fun entries =>
            (given, ·) <$> changeServers ServerConfig.defaults entries) := by
  rfl

omit [Halves] in
theorem strays_settings_iff :
    Strays ((fields.lookup "settings").getD (.obj [])).entries ↔
      ∃ value, fields.lookup "settings" = some value ∧ ∀ inner, value ≠ .obj inner := by
  rw [Json.strays_entries_iff]
  cases fields.lookup "settings" with
  | none => exact iff_of_false (fun other => other [] rfl) nofun
  | some value => simp

omit [Halves] in
theorem strays_servers_iff :
    Strays (((fields.lookup "servers").getD .null).orElse (.obj [])).entries ↔
      ∃ value, fields.lookup "servers" = some value ∧ value.isTruthy = true ∧
        ∀ inner, value ≠ .obj inner := by
  rw [Json.strays_entries_iff]
  cases fields.lookup "servers" with
  | none => exact iff_of_false (fun other => other [] rfl) nofun
  | some value =>
      rw [Option.getD_some]
      unfold Json.orElse
      cases given : value.isTruthy with
      | false =>
          refine iff_of_false (fun other => other [] rfl) ?_
          rintro ⟨_, same, truthy, -⟩
          rw [← Option.some.inj same, given] at truthy
          cases truthy
      | true =>
          rw [if_pos rfl]
          constructor
          · exact fun other => ⟨value, rfl, given, other⟩
          · rintro ⟨_, same, -, other⟩
            rwa [Option.some.inj same]

omit [Halves] in
theorem entries_servers_iff (filled : entries ≠ []) :
    (((fields.lookup "servers").getD .null).orElse (.obj [])).entries = .ok entries ↔
      fields.lookup "servers" = some (.obj entries) := by
  have unfilled : ¬(Except.ok [] : Outcome Json.Fields) = .ok entries :=
    fun same => filled (Except.ok.inj same).symm
  cases fields.lookup "servers" with
  | none => exact iff_of_false unfilled nofun
  | some value =>
      rw [Option.getD_some, Option.some.injEq]
      unfold Json.orElse
      cases given : value.isTruthy with
      | false =>
          refine iff_of_false unfilled ?_
          rintro rfl
          cases entries with
          | nil => exact filled rfl
          | cons => cases given
      | true =>
          rw [if_pos rfl]
          cases value with
          | obj inner =>
              change Except.ok inner = Except.ok entries ↔ _
              rw [Except.ok.injEq, Json.obj.injEq]
          | _ => exact ⟨nofun, nofun⟩

theorem strays_configured_iff : Strays (configured (.obj fields)) ↔ Misshapen fields := by
  rw [configured_obj, strays_bind_iff, strays_settings_iff]
  -- each part is read only where those before it are fine
  simp only [strays_bind_iff, strays_map_iff, entries_settings_iff, strays_coerceAll_iff,
    strays_servers_iff, strays_changeServers_iff]
  constructor
  · rintro (⟨value, found, other⟩ | ⟨raw, settings, astray⟩)
    · exact .settings found other
    rcases astray with
      ⟨before, name, value, after, values, rfl, fine, time, noTime⟩ | ⟨values, fine, astray⟩
    · exact .setting settings fine time noTime
    rcases astray with ⟨value, found, given, other⟩ | ⟨entries, found, astray⟩
    · exact .servers settings fine found given other
    obtain ⟨before, language, entry, after, middle, rfl, earlier, malformed⟩ := astray
    exact .entry settings fine ((entries_servers_iff (by simp)).mp found) earlier malformed
  · intro misshapen
    cases misshapen with
    | settings found other => exact .inl ⟨_, found, other⟩
    | setting found fine time noTime =>
        exact .inr ⟨_, found, .inl ⟨_, _, _, _, _, rfl, fine, time, noTime⟩⟩
    | servers settings fine found given other =>
        exact .inr ⟨_, settings, .inr ⟨_, fine, .inl ⟨_, found, given, other⟩⟩⟩
    | entry settings fine found earlier malformed =>
        exact .inr ⟨_, settings, .inr ⟨_, fine, .inr ⟨_, (entries_servers_iff (by simp)).mpr found,
          _, _, _, _, _, rfl, earlier, malformed⟩⟩⟩

/-- A config file that leads astray before it has fields: it cannot be looked for, its bytes are no
text, or its text nests too deeply or has a number that is too long. -/
inductive Unread (t : FileTree) (path : String) : Prop where
  | unfound {fault : FileTree.Fault} (plain : '\x00' ∉ path.toList)
      (lookup : t.find true path = .error fault)
      (other : fault ≠ .noEntry ∧ fault ≠ .notDirectory ∧ fault ≠ .linkLoop) : Unread t path
  | undecodable {bytes : Bytes} {failure : Failure} (plain : '\x00' ∉ path.toList)
      (content : t.readFile path = .ok bytes) (decoded : Text.ofFile bytes = .error failure) :
      Unread t path
  | excessive {bytes : Bytes} {text : String} {u : Json.Unreadable} (plain : '\x00' ∉ path.toList)
      (content : t.readFile path = .ok bytes) (decoded : Text.ofFile bytes = .ok text)
      (read : Json.read text = .error u) (beyond : u.defect.IsBeyond) : Unread t path

theorem find_of_readFile {bytes : Bytes} (content : t.readFile path = .ok bytes) :
    ∃ found, t.find true path = .ok found := by
  unfold FileTree.readFile at content
  cases looked : t.find true path with
  | error fault =>
      rw [looked] at content
      cases content
  | ok found => exact ⟨found, rfl⟩

theorem not_isConfiguration_of_ofFile {bytes : Bytes} {failure : Failure}
    (decoded : Text.ofFile bytes = .error failure) : ¬failure.IsConfiguration := by
  obtain ⟨reason, rfl⟩ := Charset.exists_undecodable_of_ofFile decoded
  exact id

def valued (path text : String) : Outcome Json :=
  match Json.parsed text with
  | .error (.unreadable u) =>
    fail (.configuration ("Could not read " ++ path ++ ": " ++ u.message)
      { component := some "settings", additional := [("path", .str path)] } (some u.message))
  | .error failure => .error failure
  | .ok (.obj fields) => .ok (.obj fields)
  | .ok _ => fail (.configuration (path ++ " must contain a JSON object"))

theorem readConfigFile_of_content {bytes : Bytes} (plain : '\x00' ∉ path.toList)
    (content : t.readFile path = .ok bytes) :
    readConfigFile t path = Text.ofFile bytes >>= valued path := by
  obtain ⟨found, looked⟩ := find_of_readFile content
  have absent : ¬path.toList.contains '\x00' = true := by simpa using plain
  unfold readConfigFile
  dsimp only
  rw [if_neg absent, looked, content]
  rfl

theorem strays_valued_iff {text : String} :
    Strays (valued path text) ↔ ∃ u, Json.read text = .error u ∧ u.defect.IsBeyond := by
  unfold valued
  cases read : Json.read text with
  | ok value =>
      rw [Json.parsed_eq_ok_iff.mpr read]
      refine iff_of_false ?_ nofun
      cases value with
      | obj fields => exact not_strays_ok _
      | _ => exact not_strays_fail _ _ _
  | error u =>
      rcases Json.parsed_of_error read with ⟨beyond, failure, parsed, astray, other⟩ | ⟨within, parsed⟩
      · rw [parsed]
        refine iff_of_true ?_ ⟨u, rfl, beyond⟩
        cases failure with
        | unreadable u => exact absurd rfl (other u)
        | _ => exact strays_error_iff.mpr astray
      · rw [parsed]
        refine iff_of_false (not_strays_fail _ _ _) ?_
        rintro ⟨other, same, beyond⟩
        rw [← Except.error.inj same] at beyond
        exact within beyond

theorem strays_readConfigFile_iff : Strays (readConfigFile t path) ↔ Unread t path := by
  constructor
  · intro strays
    unfold readConfigFile at strays
    dsimp only at strays
    split at strays
    · exact absurd strays (not_strays_ok _)
    · next absent =>
      have plain : '\x00' ∉ path.toList := by simpa using absent
      split at strays
      · exact absurd strays (not_strays_ok _)
      · exact absurd strays (not_strays_ok _)
      · exact absurd strays (not_strays_ok _)
      · next fault noEntry notDirectory linkLoop looked =>
        exact .unfound plain looked ⟨noEntry, notDirectory, linkLoop⟩
      · split at strays
        · exact absurd strays (not_strays_fail _ _ _)
        · next bytes content =>
          change Strays (Text.ofFile bytes >>= valued path) at strays
          rw [strays_bind_iff] at strays
          rcases strays with ⟨failure, decoded, -⟩ | ⟨text, decoded, strays⟩
          · exact .undecodable plain content decoded
          · obtain ⟨u, read, beyond⟩ := strays_valued_iff.mp strays
            exact .excessive plain content decoded read beyond
  · intro unread
    cases unread with
    | @unfound fault plain looked other =>
        have absent : ¬path.toList.contains '\x00' = true := by simpa using plain
        unfold readConfigFile
        dsimp only
        rw [if_neg absent, looked]
        cases fault with
        | noEntry => exact absurd rfl other.1
        | notDirectory => exact absurd rfl other.2.1
        | linkLoop => exact absurd rfl other.2.2
        | _ => exact strays_error_iff.mpr id
    | undecodable plain content decoded =>
        rw [readConfigFile_of_content plain content, strays_bind_iff, decoded]
        exact .inl (strays_error_iff.mpr (not_isConfiguration_of_ofFile decoded))
    | excessive plain content decoded read beyond =>
        rw [readConfigFile_of_content plain content, strays_bind_iff, decoded]
        exact .inr ⟨_, rfl, strays_valued_iff.mpr ⟨_, read, beyond⟩⟩

/-! ### Settings that are loaded -/

def Commanded (table : ServerTable) : Prop :=
  ∀ entry ∈ table, entry.2.command.isTruthy = true

/-- Settings whose times pass and whose servers have commands; that all arguments of a server are texts
is part of its config's type. -/
structure Sound (s : Settings) : Prop where
  times : TimesPass s
  commands : Commanded s.servers

omit [Halves] in
theorem commanded_defaults : Commanded ServerConfig.defaults :=
  fun entry member => (ServerConfig.made_iff.mp (ServerTable.wellMade_defaults entry member).1).2.1

omit [Halves] in
theorem Commanded.changed {last : ServerTable} {pair : String × Json} (commanded : Commanded table)
    (changed : ServerTable.Changed table pair last) : Commanded last := by
  cases changed with
  | taken before after language old =>
      exact fun entry member => commanded entry
        (((List.sublist_cons_self _ _).append_left before).mem member)
  | absent => exact commanded
  | replaced before after language old given read =>
      have truthy := (ServerConfig.made_iff.mp (ServerConfig.made_of_ofJson read)).2.1
      intro entry member
      rcases List.mem_append.mp member with early | late
      · exact commanded entry (List.mem_append_left _ early)
      rcases List.mem_cons.mp late with rfl | later
      · exact truthy
      · exact commanded entry (List.mem_append_right _ (List.mem_cons_of_mem _ later))
  | appended unlisted given read =>
      have truthy := (ServerConfig.made_iff.mp (ServerConfig.made_of_ofJson read)).2.1
      intro entry member
      rcases List.mem_append.mp member with early | late
      · exact commanded entry early
      · rw [List.mem_singleton.mp late]
        exact truthy

omit [Halves] in
theorem Commanded.changedBy {last : ServerTable} (commanded : Commanded table)
    (changed : ServerTable.ChangedBy table entries last) : Commanded last := by
  induction changed with
  | nil => exact commanded
  | cons first others ih => exact ih (commanded.changed first)

omit [Halves] in
theorem timed_completed {late : List (String × Json)} (early : FloatTimes given)
    (lateFloats : FloatTimes late) :
    Timed ((given ++ late).foldl (fun s (name, value) => s.set name value)
      { servers := table }) := by
  refine (timesPass_default table).timed.foldl_set ?_
  intro pair member
  rcases List.mem_append.mp member with first | last
  · exact early pair first
  · exact lateFloats pair last

theorem not_strays_completed (floats : FloatTimes given) : ¬Strays (completed given table environ) := by
  unfold completed
  rw [strays_bind_iff]
  rintro (strays | ⟨late, read, strays⟩)
  · exact not_strays_environment environ strays
  · rcases checked_of_timed (timed_completed floats (floatTimes_of_coerceAll read)) with
      ⟨-, fine⟩ | ⟨-, text, refused⟩
    · rw [fine] at strays
      exact not_strays_ok _ strays
    · rw [refused] at strays
      exact not_strays_fail _ _ _ strays

theorem sound_of_completed (floats : FloatTimes given) (commanded : Commanded table)
    (done : completed given table environ = .ok s) : Sound s := by
  obtain ⟨late, read, done⟩ := exists_of_bind_ok done
  rcases checked_of_timed (timed_completed floats (floatTimes_of_coerceAll read)) with
    ⟨pass, fine⟩ | ⟨-, text, refused⟩
  · rw [fine] at done
    obtain rfl := Except.ok.inj done
    refine ⟨pass, ?_⟩
    rw [servers_foldl_set]
    exact commanded
  · rw [refused] at done
    cases done

/-- What a config file says: values of which those for times are numbers, and servers with commands. -/
theorem sound_of_configured {said : List (String × Json) × ServerTable}
    (done : configured (.obj fields) = .ok said) : FloatTimes said.1 ∧ Commanded said.2 := by
  rw [configured_obj] at done
  obtain ⟨raw, -, done⟩ := exists_of_bind_ok done
  obtain ⟨given, read, done⟩ := exists_of_bind_ok done
  obtain ⟨entries, -, done⟩ := exists_of_bind_ok done
  obtain ⟨table, changing, rfl⟩ := exists_of_map_ok done
  exact ⟨floatTimes_of_coerceAll read,
    commanded_defaults.changedBy (ServerTable.changedBy_of_changeServers (by decide) changing)⟩

theorem load_none_eq (t : FileTree) (environ : List (String × String)) :
    load t none environ = completed [] ServerConfig.defaults environ :=
  rfl

/-! ### Times that are no numbers -/

omit [Halves] in
theorem ofEnvironment_singleton (time : name ∈ times) (text : String) :
    ofEnvironment [(variableStart ++ name.toUpper, text)] = [(name, .str text)] := by
  have own : ∀ name ∈ times, (names.filter fun pair =>
      variableStart ++ pair.1.toUpper == variableStart ++ name.toUpper) = [(name, .seconds)] := by
    decide +kernel
  have kept (listed : List (String × Kind)) :
      (listed.filterMap fun pair => ((textFor? [(variableStart ++ name.toUpper, text)] pair.1).map
          Json.str).map (pair.1, ·)) =
        (listed.filter fun pair =>
          variableStart ++ pair.1.toUpper == variableStart ++ name.toUpper).map
            fun pair => (pair.1, Json.str text) := by
    unfold textFor?
    induction listed with
    | nil => rfl
    | cons first rest ih =>
        rw [List.filterMap_cons, List.filter_cons, List.lookup_cons, ih]
        cases variableStart ++ first.1.toUpper == variableStart ++ name.toUpper with
        | true => rfl
        | false => rfl
  rw [ofEnvironment_eq, kept, own name time]
  rfl

omit [Halves] in
theorem TimesPass.set (pass : TimesPass s) {x : Float} (passes : Passes name x) :
    TimesPass (s.set name (.float x)) := by
  intro other member
  by_cases same : name = other
  · subst same
    exact ⟨x, value_set_self (isKnown_of_time member), passes⟩
  · rw [value_set_of_ne same]
    exact pass other member

theorem load_of_time (time : name ∈ times) {text : String} {x : Float}
    (number : Decimal.float? text = some x) (passes : Passes name x) :
    load t none [(variableStart ++ name.toUpper, text)] = .ok (set {} name (.float x)) := by
  have written : (Json.str text).number = .ok x := by
    unfold Json.number
    dsimp only
    rw [number]
  have read : coerced "environment" (name, .str text) = .ok [(name, .float x)] := by
    unfold coerced
    rw [lookup_eq_seconds_iff.mpr time]
    unfold coerce
    rw [written]
    rfl
  have values : coerceAll (ofEnvironment [(variableStart ++ name.toUpper, text)]) "environment" =
      .ok [(name, .float x)] := by
    rw [ofEnvironment_singleton time, coerceAll_eq_foldlM, List.foldlM_cons, read]
    rfl
  have pass : TimesPass (set {} name (.float x)) := (timesPass_default _).set passes
  rw [load_none_eq]
  unfold completed
  rw [values]
  change checked (set {} name (.float x)) = _
  rcases checked_of_timed pass.timed with ⟨-, fine⟩ | ⟨wrong, -⟩
  · exact fine
  · exact absurd pass wrong

/-- Settings that are loaded are sound. The loading ends with another failure than one that says that
the configuration is wrong exactly where the config file leads astray. A time that is no number passes,
whichever it is. -/
theorem load_astray_iff :
    (∀ s, load t (some root) environ = .ok s → Sound s) ∧
    (Strays (load t (some root) environ) ↔
      Unread t (configPath root) ∨
        ∃ fields, readConfigFile t (configPath root) = .ok (.obj fields) ∧ Misshapen fields) ∧
    ∀ name ∈ times, ∃ s x, load t none [(variableStart ++ name.toUpper, "nan")] = .ok s ∧
      s.value name = .float x ∧ x.isNaN = true := by
  refine ⟨?_, ?_, ?_⟩
  · intro s loaded
    rw [load_eq] at loaded
    obtain ⟨⟨given, table⟩, said, done⟩ := exists_of_bind_ok loaded
    obtain ⟨config, read, said⟩ := exists_of_bind_ok said
    obtain ⟨fields, rfl, -⟩ := fields_of_readConfigFile read
    obtain ⟨floats, commanded⟩ := sound_of_configured said
    exact sound_of_completed floats commanded done
  · rw [load_eq, strays_bind_iff, strays_bind_iff, strays_readConfigFile_iff]
    constructor
    · rintro ((unread | ⟨config, read, strays⟩) | ⟨⟨given, table⟩, said, strays⟩)
      · exact .inl unread
      · obtain ⟨fields, rfl, -⟩ := fields_of_readConfigFile read
        exact .inr ⟨fields, read, strays_configured_iff.mp strays⟩
      · obtain ⟨config, read, said⟩ := exists_of_bind_ok said
        obtain ⟨fields, rfl, -⟩ := fields_of_readConfigFile read
        exact absurd strays (not_strays_completed (sound_of_configured said).1)
    · rintro (unread | ⟨fields, read, misshapen⟩)
      · exact .inl (.inl unread)
      · exact .inl (.inr ⟨_, read, strays_configured_iff.mpr misshapen⟩)
  · intro name time
    obtain ⟨x, number, undefined⟩ : ∃ x, Decimal.float? "nan" = some x ∧ x.isNaN = true :=
      ⟨0.0 / 0.0, by decide +kernel, by decide +kernel⟩
    exact ⟨_, x, load_of_time time number (.inl undefined), value_set_self (isKnown_of_time time),
      undefined⟩

end Settings

end Scalpel
