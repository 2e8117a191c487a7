import Mathlib.Data.List.Forall2
import Mathlib.Data.List.Nodup
import Scalpel.Proofs.Clerk
import Scalpel.Proofs.Entries

/-!
Settings in layers. What the environment gives for a setting counts before what the config file gives,
and that before what is built in; each setting is looked up on its own. The entries that the config
file has for servers change the table one after another: null takes a config out, any other entry puts
one in its place or at the end. A config file is read with one field for each name, so there is no
question which of several values counts.
-/

set_option autoImplicit false

namespace Scalpel

/-! ### Items one after another -/

section Items

variable {ε α β γ : Type} {f : α → Except ε β}

theorem exists_of_map_ok {change : α → β} {first : Except ε α} {value : β}
    (done : change <$> first = .ok value) : ∃ middle, first = .ok middle ∧ value = change middle := by
  cases first with
  | error failure => cases done
  | ok middle => exact ⟨middle, rfl, (Except.ok.inj done).symm⟩

/-- Where an item alone says whether a step fails, the items can be looked at before any step. -/
theorem foldlM_eq_of_map {step : γ → α → Except ε γ} {change : γ → β → γ}
    (same : ∀ state item, step state item = change state <$> f item) (items : List α) (state : γ) :
    items.foldlM step state = (·.foldl change state) <$> items.mapM f := by
  induction items generalizing state with
  | nil => rfl
  | cons first rest ih =>
      rw [List.foldlM_cons, List.mapM_cons, same]
      cases f first with
      | error failure => rfl
      | ok value =>
          refine (ih (change state value)).trans ?_
          change _ = _ <$> (rest.mapM f >>= fun values => pure (value :: values))
          cases rest.mapM f with
          | error failure => rfl
          | ok values => rfl

theorem mapM_eq_ok_iff {items : List α} {values : List β} :
    items.mapM f = .ok values ↔ List.Forall₂ (fun item value => f item = .ok value) items values := by
  induction items generalizing values with
  | nil =>
      rw [List.mapM_nil, List.forall₂_nil_left_iff]
      exact ⟨fun done => (Except.ok.inj done).symm, fun none => congrArg Except.ok none.symm⟩
  | cons first rest ih =>
      rw [List.mapM_cons]
      constructor
      · intro done
        obtain ⟨value, one, done⟩ := exists_of_bind_ok done
        obtain ⟨others, more, done⟩ := exists_of_bind_ok done
        cases done
        exact .cons one (ih.mp more)
      · intro pairs
        cases pairs with
        | cons one more =>
            rw [one, ih.mpr more]
            rfl

theorem exists_of_mapM_error {items : List α} {failure : ε} (failed : items.mapM f = .error failure) :
    ∃ before item after, items = before ++ item :: after ∧
      (∀ other ∈ before, ∃ value, f other = .ok value) ∧ f item = .error failure := by
  induction items with
  | nil => cases failed
  | cons first rest ih =>
      rw [List.mapM_cons] at failed
      cases one : f first with
      | error reason =>
          rw [one] at failed
          cases failed
          exact ⟨[], first, rest, rfl, nofun, one⟩
      | ok value =>
          rw [one] at failed
          cases more : rest.mapM f with
          | error reason =>
              rw [more] at failed
              cases failed
              obtain ⟨before, item, after, rfl, fine, stopped⟩ := ih more
              refine ⟨first :: before, item, after, rfl, ?_, stopped⟩
              exact List.forall_mem_cons.mpr ⟨⟨value, one⟩, fine⟩
          | ok values =>
              rw [more] at failed
              cases failed

theorem mapM_of_stopped {before after : List α} {item : α} {failure : ε}
    (fine : ∀ other ∈ before, ∃ value, f other = .ok value) (stopped : f item = .error failure) :
    (before ++ item :: after).mapM f = .error failure := by
  induction before with
  | nil =>
      rw [List.nil_append, List.mapM_cons, stopped]
      rfl
  | cons first rest ih =>
      obtain ⟨value, one⟩ := fine first List.mem_cons_self
      rw [List.cons_append, List.mapM_cons, one,
        ih fun other member => fine other (List.mem_cons_of_mem _ member)]
      rfl

end Items

end Scalpel

namespace Scalpel.Json

/-! ### Names that are read -/

/-- A value in which no object has two fields of one name. -/
inductive Distinct : Json → Prop where
  | null : Distinct .null
  | bool (b : Bool) : Distinct (.bool b)
  | int (n : Int) : Distinct (.int n)
  | float (x : Float) : Distinct (.float x)
  | str (text : String) : Distinct (.str text)
  | arr {items : List Json} (inner : ∀ item ∈ items, Distinct item) : Distinct (.arr items)
  | obj {fields : Fields} (names : (fields.map Prod.fst).Nodup)
      (inner : ∀ field ∈ fields, Distinct field.2) : Distinct (.obj fields)

theorem mem_of_mem_put {fields : Fields} {name : String} {value : Json} {field : String × Json}
    (member : field ∈ fields.put name value) : field ∈ fields ∨ field = (name, value) := by
  induction fields with
  | nil => exact .inr (List.mem_singleton.mp member)
  | cons first rest ih =>
      unfold Fields.put at member
      split at member
      · next same =>
        rcases List.mem_cons.mp member with rfl | later
        · exact .inr (Prod.ext same rfl)
        · exact .inl (List.mem_cons_of_mem _ later)
      · rcases List.mem_cons.mp member with rfl | later
        · exact .inl List.mem_cons_self
        · exact (ih later).imp (List.mem_cons_of_mem _) id

theorem nodup_put {fields : Fields} {name : String} {value : Json}
    (distinct : (fields.map Prod.fst).Nodup) : ((fields.put name value).map Prod.fst).Nodup := by
  induction fields with
  | nil => exact List.nodup_singleton _
  | cons first rest ih =>
      rw [List.map_cons, List.nodup_cons] at distinct
      unfold Fields.put
      split
      · exact List.nodup_cons.mpr distinct
      · next other =>
        refine List.nodup_cons.mpr ⟨?_, ih distinct.2⟩
        intro listed
        obtain ⟨field, member, same⟩ := List.mem_map.mp listed
        rcases mem_of_mem_put member with earlier | rfl
        · exact distinct.1 (List.mem_map.mpr ⟨field, earlier, same⟩)
        · exact other same.symm

theorem Distinct.ofList {pairs : List (String × Json)} (inner : ∀ pair ∈ pairs, pair.2.Distinct) :
    Distinct (.obj (Fields.ofList pairs)) := by
  have gathering (fields : Fields) (distinct : Distinct (.obj fields)) :
      Distinct (.obj (pairs.foldl (fun (fields : Fields) pair => fields.put pair.1 pair.2) fields)) := by
    induction pairs generalizing fields with
    | nil => exact distinct
    | cons pair rest ih =>
        cases distinct with
        | obj names settled =>
            refine ih (fun other member => inner other (List.mem_cons_of_mem _ member)) _
              (.obj (nodup_put names) ?_)
            intro field member
            rcases mem_of_mem_put member with earlier | rfl
            · exact settled field earlier
            · exact inner pair List.mem_cons_self
  exact gathering [] (.obj List.nodup_nil nofun)

variable {value : Json} {cursor : Cursor}

theorem Distinct.numberAt {at_ : Cursor} (read : numberAt at_ = .ok (value, cursor)) :
    value.Distinct := by
  have numeral {none whole tooLong : Prop} [Decidable none] [Decidable whole] [Decidable tooLong]
      {first second : Defect × Nat} {n : Int} {x : Float} {after : Cursor}
      (read : (if none then .error first
        else if whole then if tooLong then .error second else .ok (.int n, after)
        else .ok (.float x, after)) = (.ok (value, cursor) : Reading (Json × Cursor))) :
      value.Distinct := by
    split at read
    · cases read
    split at read
    · split at read
      · cases read
      · cases read
        exact .int n
    · cases read
      exact .float x
  unfold Json.numberAt at read
  dsimp only at read
  exact numeral read

theorem Distinct.plainValue {at_ : Cursor} (read : plainValue at_ = .ok (value, cursor)) :
    value.Distinct := by
  unfold Json.plainValue at read
  split at read
  · next word known found =>
    cases read
    have listed : (word, value) ∈ words := List.mem_of_find?_eq_some found
    simp only [words, List.mem_cons, List.not_mem_nil, or_false, Prod.mk.injEq] at listed
    rcases listed with ⟨-, rfl⟩ | ⟨-, rfl⟩ | ⟨-, rfl⟩ | ⟨-, rfl⟩ | ⟨-, rfl⟩ | ⟨-, rfl⟩
    · exact .null
    · exact .bool _
    · exact .bool _
    · exact .float _
    · exact .float _
    · exact .float _
  · exact numberAt read

variable [Halves]

theorem distinct_at (fuel : Nat) :
    (∀ levels at_ value cursor, valueAt fuel levels at_ = .ok (value, cursor) → value.Distinct) ∧
    (∀ levels at_ items cursor, itemsAt fuel levels at_ = .ok (items, cursor) →
      ∀ item ∈ items, item.Distinct) ∧
    ∀ levels at_ fields cursor, fieldsAt fuel levels at_ = .ok (fields, cursor) →
      ∀ field ∈ fields, field.2.Distinct := by
  induction fuel with
  | zero => exact ⟨nofun, nofun, nofun⟩
  | succ fuel ih =>
      obtain ⟨values, lists, objects⟩ := ih
      refine ⟨?_, ?_, ?_⟩
      · intro levels at_ value cursor read
        unfold valueAt at read
        split at read
        · obtain ⟨⟨text, after⟩, -, done⟩ := exists_of_bind_ok read
          cases done
          exact .str text
        · dsimp only at read
          split at read
          · cases read
            exact .arr nofun
          · obtain ⟨⟨items, after⟩, listed, done⟩ := exists_of_bind_ok read
            cases done
            exact .arr (lists _ _ _ _ listed)
        · dsimp only at read
          split at read
          · cases read
            exact .obj List.nodup_nil nofun
          · obtain ⟨⟨fields, after⟩, listed, done⟩ := exists_of_bind_ok read
            cases done
            exact .ofList (objects _ _ _ _ listed)
        · cases read
        · cases read
        · exact .plainValue read
      · intro levels at_ items cursor read
        unfold itemsAt at read
        obtain ⟨⟨item, after⟩, first, further⟩ := exists_of_bind_ok read
        have sound := values _ _ _ _ first
        dsimp only at further
        split at further
        · cases further
          intro other member
          rw [List.mem_singleton.mp member]
          exact sound
        · obtain ⟨⟨others, last⟩, later, done⟩ := exists_of_bind_ok further
          cases done
          exact List.forall_mem_cons.mpr ⟨sound, lists _ _ _ _ later⟩
        · cases further
      · intro levels at_ fields cursor read
        unfold fieldsAt at read
        split at read
        · obtain ⟨⟨name, after⟩, -, further⟩ := exists_of_bind_ok read
          dsimp only at further
          split at further
          · obtain ⟨⟨value, last⟩, first, further⟩ := exists_of_bind_ok further
            have sound := values _ _ _ _ first
            dsimp only at further
            split at further
            · cases further
              intro other member
              rw [List.mem_singleton.mp member]
              exact sound
            · obtain ⟨⟨others, last⟩, later, done⟩ := exists_of_bind_ok further
              cases done
              exact List.forall_mem_cons.mpr ⟨sound, objects _ _ _ _ later⟩
            · cases further
          · cases further
        · cases read

theorem parsed_eq_ok_iff {text : String} : parsed text = .ok value ↔ Json.read text = .ok value := by
  unfold parsed
  cases Json.read text with
  | ok other => simp
  | error u =>
      dsimp only
      cases u.defect with
      | _ => simp

theorem distinct_of_parsed {text : String} (read : parsed text = .ok value) : value.Distinct := by
  have found := parsed_eq_ok_iff.mp read
  have unfaulted {reading : Reading Json} {place : Defect × Nat → Unreadable}
      (done : reading.mapError place = .ok value) : reading = .ok value := by
    cases reading with
    | error fault => cases done
    | ok read => rw [Except.ok.inj done]
  unfold Json.read readNested at found
  have found := unfaulted found
  dsimp only at found
  split at found
  · cases found
  · obtain ⟨⟨inner, after⟩, valued, done⟩ := exists_of_bind_ok found
    dsimp only at done
    split at done
    · cases done
      exact (distinct_at _).1 _ _ _ _ valued
    · cases done

end Scalpel.Json

namespace Scalpel.ServerTable

variable {table last before after : ServerTable} {language : String} {entry : Json}
  {entries : Json.Fields} {config old : ServerConfig}

/-! ### Changes of a table -/

/-- What an entry of a config file changes in a table: null takes the config of its language out, if
there is one; any other entry puts a config into the place of its language, or at the end if there
is none. -/
inductive Changed : ServerTable → String × Json → ServerTable → Prop where
  | taken (before after : ServerTable) (language : String) (old : ServerConfig) :
      Changed (before ++ (language, old) :: after) (language, .null) (before ++ after)
  | absent {table : ServerTable} {language : String} (unlisted : language ∉ table.map Prod.fst) :
      Changed table (language, .null) table
  | replaced {entry : Json} {config : ServerConfig} (before after : ServerTable) (language : String)
      (old : ServerConfig) (given : entry.isGiven = true)
      (read : ServerConfig.ofJson language entry = .ok config) :
      Changed (before ++ (language, old) :: after) (language, entry)
        (before ++ (language, config) :: after)
  | appended {table : ServerTable} {language : String} {entry : Json} {config : ServerConfig}
      (unlisted : language ∉ table.map Prod.fst) (given : entry.isGiven = true)
      (read : ServerConfig.ofJson language entry = .ok config) :
      Changed table (language, entry) (table ++ [(language, config)])

/-- What the entries of a config file change, one after another. -/
inductive ChangedBy : ServerTable → Json.Fields → ServerTable → Prop where
  | nil (table : ServerTable) : ChangedBy table [] table
  | cons {table middle last : ServerTable} {entry : String × Json} {rest : Json.Fields}
      (first : Changed table entry middle) (others : ChangedBy middle rest last) :
      ChangedBy table (entry :: rest) last

theorem changeServers_null {rest : Json.Fields} :
    Settings.changeServers table ((language, .null) :: rest) =
      Settings.changeServers (table.without language) rest :=
  rfl

theorem changeServers_given {rest : Json.Fields} (given : entry.isGiven = true) :
    Settings.changeServers table ((language, entry) :: rest) =
      (ServerConfig.ofJson language entry >>= fun config =>
        Settings.changeServers (table.put language config) rest) := by
  unfold Settings.changeServers
  rw [List.foldlM_cons]
  cases entry with
  | null => cases given
  | _ =>
      dsimp only
      cases ServerConfig.ofJson language _ with
      | error failure => rfl
      | ok config => rfl

theorem exists_split_of_mem (listed : language ∈ table.map Prod.fst) :
    ∃ before old after, table = before ++ (language, old) :: after ∧
      language ∉ before.map Prod.fst := by
  induction table with
  | nil => cases listed
  | cons first rest ih =>
      by_cases same : first.1 = language
      · subst same
        exact ⟨[], first.2, rest, rfl, List.not_mem_nil⟩
      · have later : language ∈ rest.map Prod.fst :=
          (List.mem_cons.mp listed).resolve_left (Ne.symm same)
        obtain ⟨before, old, after, parted, unlisted⟩ := ih later
        refine ⟨first :: before, old, after, by rw [parted]; rfl, ?_⟩
        rw [List.map_cons, List.mem_cons, not_or]
        exact ⟨Ne.symm same, unlisted⟩

theorem without_of_unlisted (unlisted : language ∉ table.map Prod.fst) :
    table.without language = table := by
  unfold without
  rw [List.filter_eq_self]
  intro entry member
  exact decide_eq_true fun same => unlisted (List.mem_map.mpr ⟨entry, member, same⟩)

theorem changed_without (distinct : (table.map Prod.fst).Nodup) (language : String) :
    Changed table (language, .null) (table.without language) := by
  by_cases listed : language ∈ table.map Prod.fst
  · obtain ⟨before, old, after, rfl, unlisted⟩ := exists_split_of_mem listed
    have further : language ∉ after.map Prod.fst := by
      rw [List.map_append, List.map_cons] at distinct
      exact (List.nodup_cons.mp distinct.of_append_right).1
    have left : without (before ++ (language, old) :: after) language = before ++ after := by
      have one := without_of_unlisted unlisted
      have two := without_of_unlisted further
      unfold without at one two ⊢
      rw [List.filter_append, List.filter_cons_of_neg (by simp), one, two]
    rw [left]
    exact .taken before after language old
  · rw [without_of_unlisted listed]
    exact .absent listed

theorem changed_put (given : entry.isGiven = true)
    (read : ServerConfig.ofJson language entry = .ok config) :
    Changed table (language, entry) (table.put language config) := by
  by_cases listed : language ∈ table.map Prod.fst
  · obtain ⟨before, old, after, rfl, unlisted⟩ := exists_split_of_mem listed
    rw [put_of_listed unlisted]
    exact .replaced before after language old given read
  · rw [put_of_unlisted listed]
    exact .appended listed given read

theorem Changed.nodup {pair : String × Json} (changed : Changed table pair last)
    (distinct : (table.map Prod.fst).Nodup) : (last.map Prod.fst).Nodup := by
  cases changed with
  | taken before after language old =>
      exact distinct.sublist (((List.sublist_cons_self _ _).append_left before).map Prod.fst)
  | absent => exact distinct
  | replaced before after language old given read => simpa using distinct
  | appended unlisted given read =>
      rw [List.map_append]
      exact distinct.append (List.nodup_singleton _)
        (List.disjoint_singleton.mpr unlisted)

theorem changedBy_of_changeServers (distinct : (table.map Prod.fst).Nodup)
    (done : Settings.changeServers table entries = .ok last) : ChangedBy table entries last := by
  induction entries generalizing table with
  | nil =>
      cases done
      exact .nil _
  | cons first rest ih =>
      obtain ⟨language, entry⟩ := first
      by_cases given : entry.isGiven = true
      · rw [changeServers_given given] at done
        obtain ⟨config, read, done⟩ := exists_of_bind_ok done
        have changed : Changed table (language, entry) (table.put language config) :=
          changed_put given read
        exact .cons changed (ih (changed.nodup distinct) done)
      · obtain rfl : entry = .null := by
          cases entry with
          | null => rfl
          | _ => exact absurd rfl given
        rw [changeServers_null] at done
        have changed := changed_without distinct language
        exact .cons changed (ih (changed.nodup distinct) done)

theorem Changed.untouched {pair : String × Json} (changed : Changed table pair last)
    (spared : String → Bool) (touched : spared pair.1 = false) :
    last.filter (fun entry => spared entry.1) = table.filter fun entry => spared entry.1 := by
  cases changed with
  | taken before after language old => simp [touched]
  | absent => rfl
  | replaced before after language old given read => simp [touched]
  | appended unlisted given read => simp [touched]

theorem ChangedBy.untouched (changed : ChangedBy table entries last) (spared : String → Bool)
    (touched : ∀ entry ∈ entries, spared entry.1 = false) :
    last.filter (fun entry => spared entry.1) = table.filter fun entry => spared entry.1 := by
  induction changed with
  | nil => rfl
  | cons first others ih =>
      rw [ih fun entry member => touched entry (List.mem_cons_of_mem _ member)]
      exact first.untouched spared (touched _ List.mem_cons_self)

end Scalpel.ServerTable

namespace Scalpel.Settings

variable {s : Settings} {name other : String} {kind : Kind} {value : Json}

/-! ### Settings by name -/

def IsKnown (name : String) : Prop :=
  (names.lookup name).isSome = true

theorem lookup_names_iff : names.lookup name = some kind ↔ (name, kind) ∈ names := by
  constructor
  · intro found
    obtain ⟨front, back, parted, -⟩ := List.lookup_eq_some_iff.mp found
    rw [parted]
    exact List.mem_append_right front List.mem_cons_self
  · intro member
    have each : ∀ pair ∈ names, names.lookup pair.1 = some pair.2 := by
      decide
    exact each _ member

theorem IsKnown.cases (known : IsKnown name) :
    name = "request_timeout" ∨ name = "handshake_timeout" ∨ name = "heartbeat_timeout" ∨
      name = "health_check_interval" ∨ name = "restart_backoff" ∨ name = "shutdown_timeout" ∨
      name = "encoding" ∨ name = "trace_lsp_communication" := by
  obtain ⟨kind, found⟩ := Option.isSome_iff_exists.mp known
  have member := lookup_names_iff.mp found
  simp only [names, List.mem_cons, Prod.mk.injEq, List.not_mem_nil, or_false] at member
  grind

theorem value_set_self (known : IsKnown name) : (s.set name value).value name = value := by
  rcases known.cases with rfl | rfl | rfl | rfl | rfl | rfl | rfl | rfl
  all_goals rfl

theorem value_set_of_ne (unlike : other ≠ name) : (s.set other value).value name = s.value name := by
  unfold set
  repeat' split
  all_goals
    subst_vars
    simp [Settings.value, Ne.symm unlike]

theorem value_foldl_set {pairs : List (String × Json)} (known : IsKnown name)
    (distinct : (pairs.map Prod.fst).Nodup) :
    (pairs.foldl (fun s (name, value) => s.set name value) s).value name =
      (pairs.lookup name).getD (s.value name) := by
  induction pairs generalizing s with
  | nil => rfl
  | cons first rest ih =>
      obtain ⟨key, value⟩ := first
      rw [List.map_cons, List.nodup_cons] at distinct
      rw [List.foldl_cons, ih distinct.2]
      by_cases same : key = name
      · subst same
        have absent : rest.lookup key = none := by
          rw [List.lookup_eq_none_iff]
          intro pair member
          exact bne_iff_ne.mpr fun equal => distinct.1 (List.mem_map.mpr ⟨pair, member, equal.symm⟩)
        rw [absent, value_set_self known, List.lookup_cons_self]
        rfl
      · rw [value_set_of_ne same, List.lookup_cons, beq_false_of_ne (Ne.symm same)]

/-! ### Values that are given -/

variable [Halves] {source : String} {given values : List (String × Json)} {pair : String × Json}

def coerced (source : String) (pair : String × Json) : Outcome (List (String × Json)) :=
  match names.lookup pair.1 with
  | none => .ok []
  | some kind =>
    match coerce kind pair.2 with
    | .ok value => .ok [(pair.1, value)]
    | .error failure =>
      if failure.isInvalid then
        fail (.configuration
          ("Invalid value for '" ++ pair.1 ++ "' from " ++ source ++ ": " ++ pair.2.quoted) {}
          (some failure.message))
      else .error failure

theorem coerceAll_eq_foldlM (given : Json.Fields) (source : String) :
    coerceAll given source = given.foldlM (fun done pair => (done ++ ·) <$> coerced source pair) [] := by
  refine congrArg (fun step => given.foldlM step []) (funext fun done => funext fun pair => ?_)
  obtain ⟨name, value⟩ := pair
  unfold coerced
  dsimp only
  cases names.lookup name with
  | none => exact congrArg Except.ok (List.append_nil done).symm
  | some kind =>
      dsimp only
      cases coerce kind value with
      | ok value => rfl
      | error failure =>
          dsimp only
          split
          · rfl
          · rfl

theorem coerceAll_eq (given : Json.Fields) (source : String) :
    coerceAll given source = List.flatten <$> given.mapM (coerced source) := by
  rw [coerceAll_eq_foldlM, foldlM_eq_of_map (fun _ _ => rfl)]
  refine congrArg (· <$> _) (funext fun parts => ?_)
  have gathered := @List.foldl_append_eq_append _ _ parts id []
  simpa using gathered

theorem coerced_eq_ok {part : List (String × Json)} (done : coerced source pair = .ok part) :
    (names.lookup pair.1 = none ∧ part = []) ∨
      ∃ kind value, names.lookup pair.1 = some kind ∧ coerce kind pair.2 = .ok value ∧
        part = [(pair.1, value)] := by
  unfold coerced at done
  split at done
  · next unknown => exact .inl ⟨unknown, (Except.ok.inj done).symm⟩
  · next kind known =>
    split at done
    · next value read => exact .inr ⟨kind, value, known, read, (Except.ok.inj done).symm⟩
    · split at done
      · cases done
      · cases done

theorem exists_parts_of_coerceAll (done : coerceAll given source = .ok values) :
    ∃ parts, List.Forall₂ (fun pair part => coerced source pair = .ok part) given parts ∧
      values = parts.flatten := by
  rw [coerceAll_eq] at done
  obtain ⟨parts, read, rfl⟩ := exists_of_map_ok done
  exact ⟨parts, mapM_eq_ok_iff.mp read, rfl⟩

theorem lookup_of_coerceAll (done : coerceAll given source = .ok values)
    (listed : names.lookup name = some kind) :
    match given.lookup name with
    | some value => ∃ read, coerce kind value = .ok read ∧ values.lookup name = some read
    | none => values.lookup name = none := by
  obtain ⟨parts, pairs, rfl⟩ := exists_parts_of_coerceAll done
  clear done
  induction pairs with
  | nil => rfl
  | @cons pair part rest others one more ih =>
      obtain ⟨key, value⟩ := pair
      by_cases same : key = name
      · subst same
        obtain ⟨unknown, -⟩ | ⟨own, read, known, done, rfl⟩ := coerced_eq_ok one
        · rw [listed] at unknown
          cases unknown
        · rw [listed] at known
          obtain rfl := Option.some.inj known
          rw [List.lookup_cons_self]
          exact ⟨read, done, List.lookup_cons_self⟩
      · have passed : (part ++ others.flatten).lookup name = others.flatten.lookup name := by
          obtain ⟨-, rfl⟩ | ⟨own, read, known, done, rfl⟩ := coerced_eq_ok one
          · rfl
          · rw [List.singleton_append, List.lookup_cons, beq_false_of_ne (Ne.symm same)]
        rw [List.lookup_cons, beq_false_of_ne (Ne.symm same), List.flatten_cons, passed]
        exact ih

theorem sublist_of_coerceAll (done : coerceAll given source = .ok values) :
    (values.map Prod.fst).Sublist (given.map Prod.fst) := by
  obtain ⟨parts, pairs, rfl⟩ := exists_parts_of_coerceAll done
  clear done
  induction pairs with
  | nil => exact List.Sublist.refl _
  | cons one more ih =>
      rw [List.flatten_cons, List.map_append, List.map_cons]
      obtain ⟨-, rfl⟩ | ⟨kind, read, -, -, rfl⟩ := coerced_eq_ok one
      · exact ih.trans (List.sublist_cons_self _ _)
      · exact ih.cons_cons _

/-! ### Variables of the environment -/

variable {environ : List (String × String)}

def textFor? (environ : List (String × String)) (name : String) : Option String :=
  environ.lookup (variableStart ++ name.toUpper)

section Keyed

omit [Halves]

variable {κ β : Type} (listed : List (String × κ)) (find? : String → Option β)

theorem lookup_filterMap_keyed (name : String) :
    (listed.filterMap fun pair => (find? pair.1).map (pair.1, ·)).lookup name =
      (listed.lookup name).bind fun _ => find? name := by
  induction listed with
  | nil => rfl
  | cons first rest ih =>
      by_cases same : first.1 = name
      · subst same
        rw [List.lookup_cons, beq_self_eq_true]
        cases found : find? first.1 with
        | none =>
            rw [List.filterMap_cons_none (by rw [found]; rfl), ih, found]
            cases rest.lookup first.1 with
            | none => rfl
            | some kind => rfl
        | some value =>
            rw [List.filterMap_cons_some (by rw [found]; rfl), List.lookup_cons_self]
            rfl
      · rw [List.lookup_cons, beq_false_of_ne (Ne.symm same), ← ih]
        cases found : find? first.1 with
        | none => rw [List.filterMap_cons_none (by rw [found]; rfl)]
        | some value =>
            rw [List.filterMap_cons_some (by rw [found]; rfl), List.lookup_cons,
              beq_false_of_ne (Ne.symm same)]

theorem sublist_filterMap_keyed :
    ((listed.filterMap fun pair => (find? pair.1).map (pair.1, ·)).map Prod.fst).Sublist
      (listed.map Prod.fst) := by
  induction listed with
  | nil => exact List.Sublist.refl _
  | cons first rest ih =>
      rw [List.map_cons]
      cases found : find? first.1 with
      | none =>
          rw [List.filterMap_cons_none (by rw [found]; rfl)]
          exact ih.trans (List.sublist_cons_self _ _)
      | some value =>
          rw [List.filterMap_cons_some (by rw [found]; rfl), List.map_cons]
          exact ih.cons_cons _

end Keyed

omit [Halves] in
theorem nodup_names : (names.map Prod.fst).Nodup := by
  decide

omit [Halves] in
theorem ofEnvironment_eq (environ : List (String × String)) :
    ofEnvironment environ = names.filterMap fun pair =>
      ((textFor? environ pair.1).map Json.str).map (pair.1, ·) := by
  unfold ofEnvironment textFor?
  simp only [Option.map_map, Function.comp_def]

omit [Halves] in
theorem lookup_ofEnvironment (known : IsKnown name) :
    (ofEnvironment environ).lookup name = (textFor? environ name).map .str := by
  obtain ⟨kind, listed⟩ := Option.isSome_iff_exists.mp known
  rw [ofEnvironment_eq, lookup_filterMap_keyed names fun name => (textFor? environ name).map Json.str,
    listed]
  rfl

omit [Halves] in
theorem nodup_ofEnvironment (environ : List (String × String)) :
    ((ofEnvironment environ).map Prod.fst).Nodup := by
  rw [ofEnvironment_eq]
  exact nodup_names.sublist
    (sublist_filterMap_keyed names fun name => (textFor? environ name).map Json.str)

/-! ### Settings in layers -/

variable {t : FileTree} {root : String} {config : Json} {fields entries : Json.Fields}
  {servers : ServerTable}

/-- What a config file says: the values that it gives for settings, and the table of servers with its
changes. -/
def configured (config : Json) : Outcome (List (String × Json) × ServerTable) := do
  let given ← coerceAll (← (← config.optional "settings" (.obj [])).entries) "config.json"
  let entries ← ((← config.optional "servers" .null).orElse (.obj [])).entries
  return (given, ← changeServers ServerConfig.defaults entries)

/-- The settings with the values that the environment gives on top of those of a config file. -/
def completed (given : List (String × Json)) (servers : ServerTable)
    (environ : List (String × String)) : Outcome Settings := do
  let fromEnvironment ← coerceAll (ofEnvironment environ) "environment"
  ((given ++ fromEnvironment).foldl (fun s (name, value) => s.set name value)
    ({ servers } : Settings)).checked

theorem load_eq (t : FileTree) (root : String) (environ : List (String × String)) :
    load t (some root) environ =
      (readConfigFile t (configPath root) >>= configured >>= fun (given, servers) =>
        completed given servers environ) := by
  unfold load configured completed
  simp only [bind_assoc, pure_bind]

/-- A section of a config file, which is empty if there is none; a section that is no object does not
count as one. -/
def sectionOf? (fields : Json.Fields) (name : String) : Option Json.Fields :=
  match fields.lookup name with
  | none => some []
  | some (.obj inner) => some inner
  | some _ => none

omit [Halves] in
theorem entries_settings_iff {raw : Json.Fields} :
    ((fields.lookup "settings").getD (.obj [])).entries = .ok raw ↔
      sectionOf? fields "settings" = some raw := by
  have same (inner : Json.Fields) :
      (Except.ok inner : Outcome Json.Fields) = .ok raw ↔ some inner = some raw := by
    rw [Except.ok.injEq, Option.some.injEq]
  unfold sectionOf?
  cases fields.lookup "settings" with
  | none => exact same []
  | some value =>
      cases value with
      | obj inner => exact same inner
      | _ => exact ⟨nofun, nofun⟩

omit [Halves] in
theorem entries_servers (servers : sectionOf? fields "servers" = some entries) :
    (((fields.lookup "servers").getD .null).orElse (.obj [])).entries = .ok entries := by
  unfold sectionOf? at servers
  split at servers
  · next absent =>
    cases servers
    rw [absent]
    rfl
  · next found =>
    cases servers
    rw [found]
    cases entries with
    | nil => rfl
    | cons first rest => rfl
  · cases servers

theorem configured_of_sections {raw : Json.Fields} (settings : sectionOf? fields "settings" = some raw)
    (servers : sectionOf? fields "servers" = some entries) :
    configured (.obj fields) = (do
      let given ← coerceAll raw "config.json"
      return (given, ← changeServers ServerConfig.defaults entries)) := by
  unfold configured Json.optional
  dsimp only
  change (Json.entries _ >>= _) = _
  rw [entries_settings_iff.mpr settings]
  change (coerceAll raw "config.json" >>= fun given => Json.entries _ >>= _) = _
  rw [entries_servers servers]
  rfl

/-- A config file has fields: none if there is no file, else those that are read from its text. -/
theorem fields_of_readConfigFile {path : String} (read : readConfigFile t path = .ok config) :
    ∃ fields, config = .obj fields ∧ (fields = [] ∨ ∃ text, Json.parsed text = .ok (.obj fields)) := by
  unfold readConfigFile at read
  dsimp only at read
  split at read
  · exact ⟨[], (Except.ok.inj read).symm, .inl rfl⟩
  split at read
  · exact ⟨[], (Except.ok.inj read).symm, .inl rfl⟩
  · exact ⟨[], (Except.ok.inj read).symm, .inl rfl⟩
  · exact ⟨[], (Except.ok.inj read).symm, .inl rfl⟩
  · cases read
  · split at read
    · cases read
    · obtain ⟨text, -, read⟩ := exists_of_bind_ok read
      split at read
      · cases read
      · cases read
      · next fields parsed => exact ⟨fields, (Except.ok.inj read).symm, .inr ⟨text, parsed⟩⟩
      · cases read

theorem distinct_of_readConfigFile {path : String} (read : readConfigFile t path = .ok config) :
    config.Distinct := by
  obtain ⟨fields, rfl, rfl | ⟨text, parsed⟩⟩ := fields_of_readConfigFile read
  · exact .obj List.nodup_nil nofun
  · exact Json.distinct_of_parsed parsed

omit [Halves] in
theorem nodup_section {raw : Json.Fields} (distinct : Json.Distinct (.obj fields))
    (found : sectionOf? fields name = some raw) : (raw.map Prod.fst).Nodup := by
  unfold sectionOf? at found
  split at found
  · cases found
    exact List.nodup_nil
  · next listed =>
    cases found
    obtain ⟨front, back, parted, -⟩ := List.lookup_eq_some_iff.mp listed
    cases distinct with
    | obj names inner =>
        have member : (name, Json.obj raw) ∈ fields := by
          rw [parted]
          exact List.mem_append_right front List.mem_cons_self
        cases inner _ member with
        | obj names inner => exact names
  · cases found

theorem eq_of_checked {settled : Settings} (done : s.checked = .ok settled) :
    settled = s ∧ s.checkTimes = .ok () := by
  unfold checked at done
  split at done
  · next fine => exact ⟨(Except.ok.inj done).symm, fine⟩
  · split at done
    · cases done
    · cases done

omit [Halves] in
theorem servers_set : (s.set name value).servers = s.servers := by
  unfold set
  repeat' split
  all_goals rfl

omit [Halves] in
theorem servers_foldl_set (pairs : List (String × Json)) :
    (pairs.foldl (fun s (name, value) => s.set name value) s).servers = s.servers := by
  induction pairs generalizing s with
  | nil => rfl
  | cons first rest ih => rw [List.foldl_cons, ih, servers_set]

/-- The value that counts for a setting before it is coerced: that of the environment, else that of the
config file. -/
def rawValue? (environ : List (String × String)) (raw : Json.Fields) (name : String) : Option Json :=
  match textFor? environ name with
  | some text => some (.str text)
  | none => raw.lookup name

/-- Settings that are loaded come in layers. Each has the value of its variable in the environment,
else its value in the config file, else the built-in one, whatever else is given. The table of servers
is the built-in one with the changes of the config file, one after another, so that the languages
that the file does not mention keep their order. -/
theorem load_layers {raw : Json.Fields} (read : readConfigFile t (configPath root) = .ok (.obj fields))
    (settings : sectionOf? fields "settings" = some raw)
    (servers : sectionOf? fields "servers" = some entries)
    (loaded : load t (some root) environ = .ok s) :
    (∀ name kind, (name, kind) ∈ names →
      match rawValue? environ raw name with
      | some value => coerce kind value = .ok (s.value name)
      | none => s.value name = ({} : Settings).value name) ∧
    ServerTable.ChangedBy ServerConfig.defaults entries s.servers ∧
    s.servers.filter (fun entry => entry.1 ∉ entries.map Prod.fst) =
      ServerConfig.defaults.filter (fun entry => entry.1 ∉ entries.map Prod.fst) := by
  have distinct : (raw.map Prod.fst).Nodup :=
    nodup_section (distinct_of_readConfigFile read) settings
  rw [load_eq, read] at loaded
  obtain ⟨⟨given, table⟩, said, completing⟩ := exists_of_bind_ok loaded
  change configured (.obj fields) = _ at said
  rw [configured_of_sections settings servers] at said
  obtain ⟨given, fromFile, said⟩ := exists_of_bind_ok said
  obtain ⟨table, changing, said⟩ := exists_of_bind_ok said
  cases said
  obtain ⟨late, fromEnvironment, done⟩ := exists_of_bind_ok completing
  obtain ⟨rfl, -⟩ := eq_of_checked done
  have changed : ServerTable.ChangedBy ServerConfig.defaults entries table :=
    ServerTable.changedBy_of_changeServers (by decide) changing
  rw [servers_foldl_set]
  refine ⟨?_, changed, ?_⟩
  · intro name kind member
    have listed := lookup_names_iff.mpr member
    have known : IsKnown name := by
      unfold IsKnown
      rw [listed]
      rfl
    have early := lookup_of_coerceAll fromFile listed
    have later := lookup_of_coerceAll fromEnvironment listed
    have firstNames : (given.map Prod.fst).Nodup := distinct.sublist (sublist_of_coerceAll fromFile)
    have lastNames : (late.map Prod.fst).Nodup :=
      (nodup_ofEnvironment environ).sublist (sublist_of_coerceAll fromEnvironment)
    rw [lookup_ofEnvironment known] at later
    rw [List.foldl_append, value_foldl_set known lastNames, value_foldl_set known firstNames]
    unfold rawValue?
    cases present : textFor? environ name with
    | some text =>
        rw [present] at later
        obtain ⟨value, coerced, kept⟩ := later
        rw [kept]
        exact coerced
    | none =>
        rw [present] at later
        change late.lookup name = none at later
        rw [later]
        dsimp only
        cases found : raw.lookup name with
        | some value =>
            rw [found] at early
            obtain ⟨value, coerced, kept⟩ := early
            rw [kept]
            exact coerced
        | none =>
            rw [found] at early
            change given.lookup name = none at early
            rw [early]
            rfl
  · refine changed.untouched (fun language => language ∉ entries.map Prod.fst) ?_
    intro entry member
    exact decide_eq_false (not_not_intro (List.mem_map_of_mem member))

end Scalpel.Settings

/-! ### Three layers -/

namespace Scalpel.Settings

local instance layersHalves : Halves :=
  Halves.trial

/-- A config file that gives an encoding, takes a server out, and puts one in a place and one at the
end. -/
def layeredConfig : String :=
  "\x7b\"settings\":\x7b\"encoding\":\"ascii\"\x7d,\"servers\":\x7b\"go\":null,\"c\":\x7b\"command\":\"x\"\x7d,\"java\":\x7b\"command\":\"y\"\x7d\x7d\x7d"

def layeredFiles : FileTree :=
  { entries := [
      ([['w']], .directory),
      ([['w'], ".tomos".toList], .directory),
      ([['w'], ".tomos".toList, "config.json".toList], .file (Utf8.encode layeredConfig) 0o644)]
    workingDirectory := "/w" }

def layeredEnvironment : List (String × String) :=
  [("TOMOS_ENCODING", "latin-1"), ("HOME", "/")]

def hasSections : Outcome Json → Bool
  | .ok (.obj fields) => (sectionOf? fields "settings").isSome && (sectionOf? fields "servers").isSome
  | _ => false

theorem exists_of_hasSections {outcome : Outcome Json} (found : hasSections outcome = true) :
    ∃ fields raw entries, outcome = .ok (.obj fields) ∧ sectionOf? fields "settings" = some raw ∧
      sectionOf? fields "servers" = some entries := by
  unfold hasSections at found
  split at found
  · next fields =>
    rw [Bool.and_eq_true] at found
    obtain ⟨raw, settings⟩ := Option.isSome_iff_exists.mp found.1
    obtain ⟨entries, servers⟩ := Option.isSome_iff_exists.mp found.2
    exact ⟨fields, raw, entries, rfl, settings, servers⟩
  · cases found

def languages : Outcome Settings → List String
  | .ok s => s.servers.map Prod.fst
  | .error _ => []

theorem exists_of_languages {outcome : Outcome Settings} {first : String} {rest : List String}
    (routed : languages outcome = first :: rest) :
    ∃ s, outcome = .ok s ∧ s.servers.map Prod.fst = first :: rest := by
  cases outcome with
  | error failure => cases routed
  | ok s => exact ⟨s, rfl, routed⟩

theorem load_layers_of_three :
    ∃ fields raw entries s,
      readConfigFile layeredFiles (configPath "/w") = .ok (.obj fields) ∧
      sectionOf? fields "settings" = some raw ∧ sectionOf? fields "servers" = some entries ∧
      load layeredFiles (some "/w") layeredEnvironment = .ok s ∧
      coerce .text (.str "latin-1") = .ok (s.value "encoding") ∧
      ServerTable.ChangedBy ServerConfig.defaults entries s.servers ∧
      s.servers.map Prod.fst = ["typescript", "javascript", "python", "java", "rust", "c"] := by
  obtain ⟨sections, routed⟩ : hasSections (readConfigFile layeredFiles (configPath "/w")) = true ∧
      languages (load layeredFiles (some "/w") layeredEnvironment) =
        ["typescript", "javascript", "python", "java", "rust", "c"] := by
    decide +kernel
  obtain ⟨fields, raw, entries, read, settings, servers⟩ := exists_of_hasSections sections
  obtain ⟨s, loaded, order⟩ := exists_of_languages routed
  obtain ⟨layered, changed, -⟩ := load_layers read settings servers loaded
  have present : textFor? layeredEnvironment "encoding" = some "latin-1" := by
    decide +kernel
  have counted := layered "encoding" .text (by decide)
  unfold rawValue? at counted
  rw [present] at counted
  exact ⟨fields, raw, entries, s, read, settings, servers, loaded, counted, changed, order⟩

end Scalpel.Settings
