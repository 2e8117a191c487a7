import Scalpel.Proofs.Clerk
import Scalpel.Proofs.RealPaths
import Scalpel.Proofs.Tracking
import Scalpel.Proofs.WholeText

/-!
Paths as uris and back. A uri writes the bytes of a path so that only letters, digits and a few marks
stand in it. None of these ends the path of a uri or is dropped where a uri is read, and every byte is
read back from what is written for it. So a path without detours is the path of its uri, whatever
characters it has, and a uri is its own normal form.
-/

set_option autoImplicit false

namespace Scalpel.Path

/-! ### Paths without detours -/

variable {path : List Char} {names done rest : List (List Char)}

/-- Where two dots have the name before them taken back, no name that leads elsewhere than down is
left. -/
theorem proper_of_mem_collapse (before : ∀ name ∈ done, Proper name)
    (single : ∀ name ∈ rest, '/' ∉ name) :
    ∀ name ∈ collapse true done rest, Proper name := by
  induction rest generalizing done with
  | nil =>
      intro name member
      exact before name (List.mem_reverse.mp member)
  | cons next others ih =>
      have later : ∀ name ∈ others, '/' ∉ name := fun name member =>
        single name (List.mem_cons_of_mem _ member)
      unfold collapse
      by_cases idle : next = [] ∨ next = ['.']
      · rw [if_pos (by simpa using idle)]
        exact ih before later
      · rw [if_neg (by simpa using idle)]
        obtain ⟨given, onward⟩ := not_or.mp idle
        by_cases back : next = ['.', '.']
        · rw [if_pos back]
          cases done with
          | nil =>
              rw [if_pos rfl]
              exact ih before later
          | cons last earlier =>
              have downward := (before last List.mem_cons_self).downward
              simp only
              rw [if_neg downward]
              exact ih (fun name member => before name (List.mem_cons_of_mem _ member)) later
        · rw [if_neg back]
          apply ih _ later
          intro name member
          rcases List.mem_cons.mp member with rfl | earlier
          · exact ⟨given, onward, back, single _ List.mem_cons_self⟩
          · exact before name earlier

theorem rootSlashes_of_absolute (absolute : isAbsolute path = true) :
    rootSlashes path = ['/'] ∨ rootSlashes path = ['/', '/'] := by
  cases path with
  | nil => cases absolute
  | cons first rest =>
      have slash : first = '/' := by simpa [isAbsolute] using absolute
      subst slash
      unfold rootSlashes
      split
      · exact .inl rfl
      · exact .inr rfl
      · exact .inl rfl
      · next unlike => exact absurd rfl (unlike rest)

theorem exists_names_of_normal (absolute : isAbsolute path = true)
    (normal : normalize path = path) :
    ∃ names, (∀ name ∈ names, Proper name) ∧ path = rootSlashes path ++ joinNames names := by
  refine ⟨collapse true [] (Path.names path), ?_, ?_⟩
  · apply proper_of_mem_collapse
    · exact fun _ member => absurd member List.not_mem_nil
    · exact fun _ member => single_of_mem_names member
  · have given : rootSlashes path ++ joinNames (collapse true [] (Path.names path)) ≠ [] := by
      rcases rootSlashes_of_absolute absolute with one | two
      · simp [one]
      · simp [two]
    unfold normalize at normal
    simp only [absolute, List.isEmpty_iff, if_neg given] at normal
    exact normal.symm

theorem names_slash (path : List Char) : Path.names ('/' :: path) = [] :: Path.names path :=
  List.splitOn_append_cons_self_of_not_mem List.not_mem_nil _

theorem filter_names_joinNames (proper : ∀ name ∈ names, Proper name) :
    ((Path.names (joinNames names)).filter fun name => name ≠ [] && name ≠ ['.']) = names := by
  by_cases none : names = []
  · subst none
    rfl
  · have parted : Path.names (joinNames names) = names :=
      List.splitOn_intercalate _ (fun name member => (proper name member).single) none
    rw [parted, List.filter_eq_self]
    intro name member
    have fits := proper name member
    simp [fits.given, fits.onward]

theorem Parts.text_of (absolute : isAbsolute path = true) (normal : normalize path = path) :
    (Parts.of path).text = path := by
  obtain ⟨names, proper, whole⟩ := exists_names_of_normal absolute normal
  have kept : ((Path.names path).filter fun name => name ≠ [] && name ≠ ['.']) = names := by
    rcases rootSlashes_of_absolute absolute with one | two
    · rw [whole, one, List.singleton_append, names_slash, List.filter_cons_of_neg (by simp)]
      exact filter_names_joinNames proper
    · rw [whole, two, List.cons_append, List.singleton_append, names_slash, names_slash,
        List.filter_cons_of_neg (by simp), List.filter_cons_of_neg (by simp)]
      exact filter_names_joinNames proper
  have given : path ≠ [] := by
    rintro rfl
    cases absolute
  unfold Parts.text Parts.of
  simp only [kept, ← whole, List.isEmpty_iff, if_neg given]

variable [Halves]

theorem charBytes_of_whole {c : Char} (whole : Half.isHalf c = false) :
    charBytes c = Utf8.encodeChar c := by
  have none : Half.unit? c = none := by simpa [Half.isHalf] using whole
  simp [charBytes, strayByte?, none]

theorem bytesOf_of_whole (whole : ∀ c ∈ path, Half.isHalf c = false) :
    bytesOf path = path.flatMap Utf8.encodeChar := by
  unfold bytesOf
  exact List.flatMap_congr fun c member => charBytes_of_whole (whole c member)

theorem bytes_of_whole (whole : ∀ c ∈ path, Half.isHalf c = false) :
    bytes path = .ok (bytesOf path) := by
  have all : Coding.firstRun hasBytes path = none := by
    rw [Coding.firstRun_eq_none_iff]
    intro c member
    simp [hasBytes, whole c member]
  unfold bytes Coding.whereAll
  rw [all]

end Scalpel.Path

namespace Scalpel.Uri

/-! ### Escapes -/

structure Written (c : Char) : Prop where
  shown : 0x20 < c.toNat
  plain : Text.IsPlain c
  inPath : c.toNat ≠ 0x23 ∧ c.toNat ≠ 0x3F

theorem toNat_ofNat_of_lt {n : Nat} (small : n < 0x80) : (Char.ofNat n).toNat = n := by
  rw [Char.toNat_ofNat, if_pos (.inl (by omega))]

theorem bounds_of_isAlphanum {c : Char} (letter : c.isAlphanum = true) :
    48 ≤ c.toNat ∧ c.toNat ≤ 57 ∨ 65 ≤ c.toNat ∧ c.toNat ≤ 90 ∨
      97 ≤ c.toNat ∧ c.toNat ≤ 122 := by
  simp only [Char.isAlphanum, Char.isAlpha, Char.isUpper, Char.isLower, Char.isDigit,
    Bool.or_eq_true, Bool.and_eq_true, decide_eq_true_eq] at letter
  change (65 ≤ c.toNat ∧ c.toNat ≤ 90 ∨ 97 ≤ c.toNat ∧ c.toNat ≤ 122) ∨
    48 ≤ c.toNat ∧ c.toNat ≤ 57 at letter
  omega

/-- A byte that is written as it is stands for a character of a uri, and for no percent sign. -/
theorem written_of_isPlain {byte : UInt8} (plain : isPlain byte = true) :
    byte.toNat < 0x80 ∧ byte.toNat ≠ 0x25 ∧ Written (Char.ofNat byte.toNat) := by
  unfold isPlain at plain
  rw [Bool.and_eq_true, decide_eq_true_eq, UInt8.lt_iff_toNat_lt] at plain
  obtain ⟨small, kind⟩ := plain
  change byte.toNat < 0x80 at small
  have same := toNat_ofNat_of_lt small
  simp only [Bool.or_eq_true, decide_eq_true_eq] at kind
  have bounds : 48 ≤ byte.toNat ∧ byte.toNat ≤ 57 ∨ 65 ≤ byte.toNat ∧ byte.toNat ≤ 90 ∨
      97 ≤ byte.toNat ∧ byte.toNat ≤ 122 ∨ 45 ≤ byte.toNat ∧ byte.toNat ≤ 47 ∨
      byte.toNat = 95 ∨ byte.toNat = 126 := by
    rcases kind with ((((letter | mark) | mark) | mark) | mark) | mark
    · have bounds := bounds_of_isAlphanum letter
      rw [same] at bounds
      omega
    all_goals
      have code := congrArg Char.toNat mark
      rw [same] at code
      simp at code
      omega
  refine ⟨small, by omega, ?_⟩
  constructor
  · rw [same]
    omega
  · unfold Text.IsPlain
    rw [same]
    exact small
  · rw [same]
    omega

theorem hex_two {n : Nat} (small : n < 256) :
    Text.hex 2 n = [(n / 16).digitChar, (n % 16).digitChar] := by
  unfold Text.hex
  by_cases single : n < 16
  · rw [Nat.toDigits_of_lt_base single, Nat.div_eq_of_lt single, Nat.mod_eq_of_lt single]
    rfl
  · rw [Nat.toDigits_of_base_le (by decide) (by omega), Nat.toDigits_of_lt_base (by omega)]
    rfl

theorem hexDigit?_toUpper {n : Nat} (small : n < 16) :
    Json.hexDigit? n.digitChar.toUpper = some n ∧ Written n.digitChar.toUpper := by
  interval_cases n <;> exact ⟨by decide, by constructor <;> decide⟩

theorem escapeByte_cases (byte : UInt8) :
    (isPlain byte = true ∧ escapeByte byte = [Char.ofNat byte.toNat]) ∨
      escapeByte byte =
        ['%', (byte.toNat / 16).digitChar.toUpper, (byte.toNat % 16).digitChar.toUpper] := by
  unfold escapeByte
  by_cases plain : isPlain byte = true
  · exact .inl ⟨plain, if_pos plain⟩
  · right
    rw [if_neg plain, hex_two byte.toNat_lt]
    rfl

theorem written_of_mem_escapeByte {byte : UInt8} {c : Char} (member : c ∈ escapeByte byte) :
    Written c := by
  have bound := byte.toNat_lt
  rcases escapeByte_cases byte with ⟨plain, single⟩ | triple
  · rw [single] at member
    rw [List.mem_singleton.mp member]
    exact (written_of_isPlain plain).2.2
  · rw [triple] at member
    simp only [List.mem_cons, List.not_mem_nil, or_false] at member
    rcases member with rfl | rfl | rfl
    · constructor <;> decide
    · exact (hexDigit?_toUpper (by omega)).2
    · exact (hexDigit?_toUpper (by omega)).2

theorem unescapeBytes_escapeByte (byte : UInt8) (rest : List Char) :
    unescapeBytes (escapeByte byte ++ rest) = byte :: unescapeBytes rest := by
  have bound := byte.toNat_lt
  rcases escapeByte_cases byte with ⟨plain, single⟩ | triple
  · obtain ⟨small, mark, -⟩ := written_of_isPlain plain
    have same := toNat_ofNat_of_lt small
    rw [single, List.singleton_append, unescapeBytes, same]
    · exact congrArg (· :: _) (UInt8.ofNat_toNat)
    · intro _ _ _ percent
      have code := congrArg Char.toNat percent
      rw [same] at code
      exact absurd code mark
  · have high := (hexDigit?_toUpper (n := byte.toNat / 16) (by omega)).1
    have low := (hexDigit?_toUpper (n := byte.toNat % 16) (by omega)).1
    have number : byte.toNat / 16 * 16 + byte.toNat % 16 = byte.toNat := by omega
    rw [triple]
    change unescapeBytes ('%' :: _ :: _ :: rest) = _
    rw [unescapeBytes, high, low]
    simp only [number]
    exact congrArg (· :: _) (UInt8.ofNat_toNat)

theorem unescapeBytes_escapes (bytes : Bytes) :
    unescapeBytes (bytes.flatMap escapeByte) = bytes := by
  induction bytes with
  | nil => rfl
  | cons byte rest ih =>
      rw [List.flatMap_cons, unescapeBytes_escapeByte, ih]

theorem written_of_mem_escapes {bytes : Bytes} {c : Char}
    (member : c ∈ bytes.flatMap escapeByte) : Written c := by
  obtain ⟨byte, _, inside⟩ := List.mem_flatMap.mp member
  exact written_of_mem_escapeByte inside

theorem unescape_of_plain {text : List Char} (given : text ≠ [])
    (plain : ∀ c ∈ text, Text.IsPlain c) :
    unescape text = Utf8.decodeLenient (unescapeBytes text) := by
  have whole : runs text = [text] := by
    apply List.splitBy_of_isChain given
    apply List.Pairwise.isChain
    apply List.pairwise_of_forall_mem_list
    intro a first b second
    have left := plain a first
    have right := plain b second
    unfold Text.IsPlain at left right
    simp [left, right]
  have some : text.any (fun c => decide (c.toNat < 0x80)) = true := by
    cases text with
    | nil => exact absurd rfl given
    | cons c rest => simp [show c.toNat < 0x80 from plain c List.mem_cons_self]
  unfold unescape
  rw [whole, List.flatMap_singleton, if_pos some]

theorem unescape_escapes (text : List Char) :
    unescape ((text.flatMap Utf8.encodeChar).flatMap escapeByte) = text := by
  by_cases none : (text.flatMap Utf8.encodeChar).flatMap escapeByte = []
  · have empty := congrArg unescapeBytes none
    rw [unescapeBytes_escapes] at empty
    have read := Utf8.decodeLenient_flatMap text
    rw [empty, unescapeBytes, Utf8.decodeLenient] at read
    rw [none, ← read]
    rfl
  · rw [unescape_of_plain none fun c member => (written_of_mem_escapes member).plain,
      unescapeBytes_escapes, Utf8.decodeLenient_flatMap]

theorem filter_written {escaped : List Char} (written : ∀ c ∈ escaped, Written c) :
    (scheme ++ escaped).filter (fun c => c ≠ '\t' && c ≠ '\r' && c ≠ '\n') =
      scheme ++ escaped := by
  rw [List.filter_eq_self]
  intro c member
  rcases List.mem_append.mp member with inScheme | inPath
  · have shown : scheme.all (fun c => c ≠ '\t' && c ≠ '\r' && c ≠ '\n') = true := by
      decide +kernel
    exact List.all_eq_true.mp shown c inScheme
  · have shown := (written c inPath).shown
    have unlike (blank : Char) (low : blank.toNat ≤ 0x20) : c ≠ blank := by
      rintro rfl
      omega
    simp [unlike '\t' (by decide), unlike '\r' (by decide), unlike '\n' (by decide)]

theorem takeWhile_written {escaped : List Char} (written : ∀ c ∈ escaped, Written c) :
    escaped.takeWhile (fun c => c ≠ '#' && c ≠ '?') = escaped := by
  rw [List.takeWhile_eq_self_iff]
  intro c member
  have inPath := (written c member).inPath
  have unlike (mark : Char) (other : c.toNat ≠ mark.toNat) : c ≠ mark :=
    fun same => other (congrArg Char.toNat same)
  simp [unlike '#' inPath.1, unlike '?' inPath.2]

/-! ### Uris of paths -/

variable [Halves] {path directory : String}

/-- An absolute path without detours, in which no half of a character stands. -/
structure Settled (path : String) : Prop where
  absolute : Path.isAbsolute path.toList = true
  normal : Path.normalize path.toList = path.toList
  whole : Text.IsWhole path

namespace Settled

theorem absolute_eq (settled : Settled path) (directory : List Char) :
    Path.absolute directory path.toList = path.toList := by
  unfold Path.absolute
  rw [if_pos settled.absolute]
  exact settled.normal

theorem toList_ofPath (settled : Settled path) :
    (ofPath directory path).toList =
      scheme ++ (path.toList.flatMap Utf8.encodeChar).flatMap escapeByte := by
  have bytes := Path.bytesOf_of_whole settled.whole
  unfold Path.bytesOf at bytes
  unfold ofPath ofAbsolute
  dsimp only
  rw [settled.absolute_eq, Path.Parts.text_of settled.absolute settled.normal, bytes]
  exact String.toList_ofList

theorem ofPath?_eq (settled : Settled path) (directory : String) :
    ofPath? directory path = .ok (ofPath directory path) := by
  unfold ofPath?
  rw [settled.absolute_eq, Path.bytes_of_whole settled.whole]
  rfl

theorem exists_slash (settled : Settled path) : ∃ rest, path.toList = '/' :: rest := by
  have absolute := settled.absolute
  cases chars : path.toList with
  | nil =>
      rw [chars] at absolute
      cases absolute
  | cons first rest =>
      rw [chars] at absolute
      have slash : first = '/' := by simpa [Path.isAbsolute] using absolute
      exact ⟨rest, congrArg (· :: rest) slash⟩

theorem normalize_eq (settled : Settled path) (directory root : String) :
    normalize directory path root = .ok (ofPath directory path) := by
  have noUri : isFile path = false := by
    obtain ⟨rest, slash⟩ := settled.exists_slash
    unfold isFile
    rw [slash]
    rfl
  unfold normalize
  rw [noUri, if_neg Bool.false_ne_true, if_pos settled.absolute]
  exact settled.ofPath?_eq directory

theorem toPath_ofPath (settled : Settled path) (directory : String) :
    toPath (ofPath directory path) = .ok path := by
  have chars : (ofPath directory path).toList =
      scheme ++ (path.toList.flatMap Utf8.encodeChar).flatMap escapeByte :=
    settled.toList_ofPath
  have read := unescape_escapes path.toList
  have written : ∀ c ∈ (path.toList.flatMap Utf8.encodeChar).flatMap escapeByte, Written c :=
    fun _ => written_of_mem_escapes
  obtain ⟨rest, begins⟩ :
      ∃ rest, (path.toList.flatMap Utf8.encodeChar).flatMap escapeByte = '/' :: rest := by
    obtain ⟨more, slash⟩ := settled.exists_slash
    rw [slash]
    exact ⟨_, rfl⟩
  generalize (path.toList.flatMap Utf8.encodeChar).flatMap escapeByte = escaped at *
  unfold toPath
  rw [show isFile (ofPath directory path) = true from isFile_ofAbsolute _]
  change (checkAuthority _ >>= fun _ => pure _) = _
  rw [chars, filter_written written, List.drop_left, begins, List.takeWhile_cons_of_neg (by decide),
    List.dropWhile_cons_of_neg (by decide), ← begins, takeWhile_written written, read,
    String.ofList_toList]
  rfl

end Settled

/-- An absolute path without detours is the path of its uri, so no other path has that uri. What a uri
or a path is normalized to is its own normal form, from whatever directory and root. -/
theorem path_of_uri_of_path (directory root : String) :
    (∀ {path : String}, Settled path →
      ofPath? directory path = .ok (ofPath directory path) ∧
        normalize directory path root = .ok (ofPath directory path) ∧
        toPath (ofPath directory path) = .ok path ∧
        ∀ {other elsewhere : String}, Settled other →
          ofPath? elsewhere other = .ok (ofPath directory path) → other = path) ∧
      ∀ {text uri : String}, normalize directory text root = .ok uri →
        ∀ elsewhere base, normalize elsewhere uri base = .ok uri := by
  constructor
  · intro path settled
    refine ⟨settled.ofPath?_eq directory, settled.normalize_eq directory root,
      settled.toPath_ofPath directory, ?_⟩
    intro other elsewhere otherSettled same
    have named : ofPath elsewhere other = ofPath directory path :=
      Except.ok.inj ((otherSettled.ofPath?_eq elsewhere).symm.trans same)
    have read := otherSettled.toPath_ofPath elsewhere
    rw [named, settled.toPath_ofPath directory] at read
    exact (Except.ok.inj read).symm
  · intro text uri found elsewhere base
    unfold normalize
    rw [if_pos (isFile_of_normalize found)]

end Scalpel.Uri

/-! ### A path with marks, blanks and other scripts -/

namespace Scalpel.Uri

local instance fileUrisHalves : Halves :=
  Halves.trial

/-- A path in which a mark of uris or a blank stands at every turn. -/
def markedPath : String :=
  "//w/a b/50%25;#?/é\n\t😀"

theorem settled_markedPath : Settled markedPath := by
  constructor
  · decide
  · decide +kernel
  · have all : markedPath.toList.all (fun c => !Half.isHalf c) = true := by decide +kernel
    intro c member
    simpa using List.all_eq_true.mp all c member

theorem path_of_uri_of_path_of_marked :
    ofPath? "/" markedPath = .ok "file:////w/a%20b/50%2525%3B%23%3F/%C3%A9%0A%09%F0%9F%98%80" ∧
      toPath "file:////w/a%20b/50%2525%3B%23%3F/%C3%A9%0A%09%F0%9F%98%80" = .ok markedPath ∧
      normalize "/" "file:////w/a%20b/50%2525%3B%23%3F/%C3%A9%0A%09%F0%9F%98%80" "/w" =
        .ok "file:////w/a%20b/50%2525%3B%23%3F/%C3%A9%0A%09%F0%9F%98%80" := by
  have written : ofPath "/" markedPath =
      "file:////w/a%20b/50%2525%3B%23%3F/%C3%A9%0A%09%F0%9F%98%80" := by
    decide +kernel
  rw [← written]
  obtain ⟨named, normal, read, -⟩ := (path_of_uri_of_path "/" "/w").1 settled_markedPath
  exact ⟨named, read, (path_of_uri_of_path "/" "/w").2 normal "/" "/w"⟩

end Scalpel.Uri

/-! ### Different texts for one file

A path may have detours, and it may be absolute or begin at the root; a
uri may write any byte as an escape. Every path of a file is normalized to the uri that is made of the
file's own path. A uri is left as it was written, so it agrees with the others only if it was written
in just that way, and else the file has a second entry among the open documents.
-/

namespace Scalpel.Uri

variable [Halves] {directory root text first second path : String}

/-- The path of the file that a text names, as far as the text alone tells: the path that it stands
for, below the root unless it is absolute, without detours. -/
def target? (directory text root : String) : Outcome String := do
  let path ← toPath text
  return String.ofList (Path.absolute directory.toList (Path.join root.toList path.toList))

/-- The uri that is made of an absolute path. A path that has no bytes has none. -/
def made? (path : String) : Outcome String := do
  let _ ← Path.bytes path.toList
  return ofAbsolute path.toList

/-- A text names a file regularly if it is a path, or the uri that is made of the file's path. -/
def Regular (path text : String) : Prop :=
  isFile text = false ∨ made? path = .ok text

instance : Decidable (Regular path text) :=
  match written : made? path with
  | .error _ => decidable_of_iff (isFile text = false) (by simp [Regular, written])
  | .ok uri => decidable_of_iff (isFile text = false ∨ uri = text) (by simp [Regular, written])

theorem normalize_of_isFile (file : isFile text = true) : normalize directory text root = .ok text := by
  unfold normalize
  rw [if_pos file]

theorem normalize_of_path (plain : isFile text = false)
    (names : target? directory text root = .ok path) :
    normalize directory text root = made? path := by
  have read : toPath text = .ok text := by
    unfold toPath
    rw [plain]
    rfl
  have whole : String.ofList (Path.absolute directory.toList
      (Path.join root.toList text.toList)) = path := by
    unfold target? at names
    rw [read] at names
    exact Except.ok.inj names
  unfold normalize
  rw [plain, if_neg Bool.false_ne_true, ← whole]
  by_cases absolute : Path.isAbsolute text.toList = true
  · rw [if_pos absolute, Path.join_of_isAbsolute absolute]
    simp only [ofPath?, made?, ofPath, String.toList_ofList]
  · rw [if_neg absolute]
    simp only [ofPath?, made?, ofPath, String.toList_ofList]

theorem normalize_eq_made?_iff (names : target? directory text root = .ok path) :
    normalize directory text root = made? path ↔ Regular path text := by
  unfold Regular
  cases file : isFile text with
  | true =>
      rw [normalize_of_isFile file]
      simp [eq_comm]
  | false =>
      rw [normalize_of_path file names]
      simp

/-- Two texts for one file agree as soon as they are the same or both are regular, and else not. -/
theorem normalize_eq_normalize_iff (one : target? directory first root = .ok path)
    (two : target? directory second root = .ok path) :
    normalize directory first root = normalize directory second root ↔
      first = second ∨ Regular path first ∧ Regular path second := by
  have regular {left right : String} (same : normalize directory left root =
      normalize directory right root) (names : target? directory left root = .ok path)
      (plain : isFile right = false) (found : target? directory right root = .ok path) :
      Regular path left := by
    rw [normalize_of_path plain found] at same
    exact (normalize_eq_made?_iff names).mp same
  constructor
  · intro same
    cases left : isFile first with
    | false => exact .inr ⟨.inl left, regular same.symm two left one⟩
    | true =>
        cases right : isFile second with
        | false => exact .inr ⟨regular same one right two, .inl right⟩
        | true =>
            rw [normalize_of_isFile left, normalize_of_isFile right] at same
            exact .inl (Except.ok.inj same)
  · rintro (rfl | ⟨left, right⟩)
    · rfl
    · rw [(normalize_eq_made?_iff one).mpr left, (normalize_eq_made?_iff two).mpr right]

omit [Halves] in
/-- A document that was opened under one uri is open under another one exactly if they are the same,
where it was not open before. -/
theorem isOpen_openNew_iff {tracker : Tracker} {uri other content : String} {languageId : Json}
    (unopened : tracker.isOpen other = false) :
    (tracker.openNew uri content languageId).1.isOpen other = true ↔ uri = other := by
  unfold Tracker.isOpen Tracker.openNew
  unfold Tracker.isOpen at unopened
  rw [Tracker.get?_put]
  by_cases same : uri = other
  · simp [same]
  · simp [same, unopened]

/-- Two texts that name one file are normalized to the same, whatever detours and escapes they have,
exactly if they are the same text or each is a path or the very uri that is made of the file's path.
It is that uri which a text is then normalized to. Only then is the entry that is made for one of them
among the open documents found by the other. -/
theorem normalize_agrees_iff (one : target? directory first root = .ok path)
    (two : target? directory second root = .ok path) :
    (normalize directory first root = normalize directory second root ↔
        first = second ∨ Regular path first ∧ Regular path second) ∧
      (normalize directory first root = made? path ↔ Regular path first) ∧
      ∀ {uri other : String}, normalize directory first root = .ok uri →
        normalize directory second root = .ok other →
        ∀ (tracker : Tracker) (content : String) (languageId : Json), tracker.isOpen other = false →
          ((tracker.openNew uri content languageId).1.isOpen other = true ↔
            first = second ∨ Regular path first ∧ Regular path second) := by
  have agree := normalize_eq_normalize_iff one two
  refine ⟨agree, normalize_eq_made?_iff one, ?_⟩
  intro uri other left right tracker content languageId unopened
  rw [isOpen_openNew_iff unopened, ← agree, left, right, Except.ok.injEq]

end Scalpel.Uri

/-! ### A file with an entry for its path and one for its uri -/

namespace Scalpel.Uri

local instance spellingsHalves : Halves :=
  Halves.trial

theorem normalize_agrees_iff_of_detour :
    target? "/w" "b.py" "/w" = .ok "/w/b.py" ∧
      target? "/w" "file:///w/x/../%62.py" "/w" = .ok "/w/b.py" ∧
      normalize "/w" "b.py" "/w" ≠ normalize "/w" "file:///w/x/../%62.py" "/w" ∧
      (({} : Tracker).openNew "file:///w/b.py" "" .null).1.isOpen "file:///w/x/../%62.py" = false := by
  have one : target? "/w" "b.py" "/w" = .ok "/w/b.py" := ok_of_toOption (by decide +kernel)
  have two : target? "/w" "file:///w/x/../%62.py" "/w" = .ok "/w/b.py" :=
    ok_of_toOption (by decide +kernel)
  have irregular : ¬("b.py" = "file:///w/x/../%62.py" ∨
      Regular "/w/b.py" "b.py" ∧ Regular "/w/b.py" "file:///w/x/../%62.py") := by
    decide +kernel
  have left : normalize "/w" "b.py" "/w" = .ok "file:///w/b.py" :=
    ok_of_toOption (by decide +kernel)
  have right : normalize "/w" "file:///w/x/../%62.py" "/w" = .ok "file:///w/x/../%62.py" :=
    normalize_of_isFile (by decide +kernel)
  obtain ⟨agree, -, found⟩ := normalize_agrees_iff one two
  refine ⟨one, two, mt agree.mp irregular, ?_⟩
  exact Bool.eq_false_iff.mpr (mt (found left right {} "" .null rfl).mp irregular)

end Scalpel.Uri
