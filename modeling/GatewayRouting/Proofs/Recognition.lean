import GatewayRouting.Proofs.TwoDecodings
import Mathlib.Data.List.TakeWhile

/-!
# Recognising the format of a routes file

A path has an extension if it ends in a name with a dot that is not the first byte of the name
(`HasExtension`); slashes and single dots may follow the name. If the extension is a text, it alone
decides the format, whatever the file holds and whichever letter case the extension is written in.
If it is none, it has no say, and files of one path differ in their format by what is in them
(`stray_extension_has_no_say`).

Without an extension the text decides, by its first character that is not blank. Blanks are more
than the white space of JSON, and of what JSON has to offer only a list or a map can hold routes. So
a text that is read as routes in JSON starts, behind its blanks, with a bracket or a brace
(`Document.opens_of_routes`), and it is never taken for YAML (`json_routes_are_taken_for_json`).
-/

namespace GatewayRouting

/-- The last place of a value. -/
theorem exists_last_of_mem {α : Type} {value : α} {list : List α} (inside : value ∈ list) :
    ∃ before behind, list = before ++ value :: behind ∧ value ∉ behind := by
  obtain ⟨behind, before, split, none⟩ := List.eq_append_cons_of_mem (List.mem_reverse.mpr inside)
  refine ⟨before.reverse, behind.reverse, ?_, by simpa using none⟩
  rw [← List.reverse_reverse list, split]
  simp

open RawPath

/-! ## Names of files -/

/-- A name of a file. -/
structure IsFileName (name : List UInt8) : Prop where
  /-- it is not empty -/
  nonempty : name ≠ []
  /-- it is one part of a path -/
  single : slash ∉ name
  /-- it is not the directory itself -/
  notDot : name ≠ [dot]
  /-- it is not the directory above -/
  notDots : name ≠ [dot, dot]

/-- The paths that end in a name: anything may stand before it, up to a slash, and behind it slashes
and single dots after slashes. -/
inductive EndsIn (name : List UInt8) : RawPath → Prop where
  | alone (isName : IsFileName name) : EndsIn name name
  | inside (front : RawPath) {path : RawPath} (ends : EndsIn name path) :
      EndsIn name (front ++ slash :: path)
  | slash {path : RawPath} (ends : EndsIn name path) : EndsIn name (path ++ [slash])
  | dot {path : RawPath} (ends : EndsIn name path) : EndsIn name (path ++ [slash, dot])

section

variable {name : List UInt8} {path : RawPath}

theorem pathParts_append_slash (front path : RawPath) :
    pathParts (front ++ slash :: path) = pathParts front ++ pathParts path := by
  have pieces : (front ++ slash :: path).splitOn slash =
      front.splitOn slash ++ path.splitOn slash :=
    List.splitOnP_append_cons front path (beq_self_eq_true slash)
  rw [pathParts, pieces, List.filter_append]
  rfl

theorem pathParts_of_single (nonempty : name ≠ []) (single : slash ∉ name) :
    pathParts name = [name] := by
  rw [pathParts, List.splitOn_eq_singleton single]
  simp [nonempty]

theorem fileName?_of_single (nonempty : name ≠ []) (single : slash ∉ name) (notDot : name ≠ [dot]) :
    fileName? name = if name = [dot, dot] then none else some name := by
  rw [fileName?, pathParts_of_single nonempty single, List.reverse_singleton,
    List.find?_cons_of_pos (by simpa using notDot)]

theorem fileName?_slash (path : RawPath) : fileName? (path ++ [slash]) = fileName? path := by
  have parts : pathParts (path ++ [slash]) = pathParts path := by
    rw [pathParts_append_slash]
    exact List.append_nil _
  rw [fileName?, parts, ← fileName?]

theorem fileName?_dot (path : RawPath) : fileName? (path ++ [slash, dot]) = fileName? path := by
  have parts : pathParts (path ++ [slash, dot]) = pathParts path ++ [[dot]] :=
    pathParts_append_slash path [dot]
  rw [fileName?, parts, List.reverse_concat, List.find?_cons_of_neg (by simp), ← fileName?]

/-- If something names a file behind a slash, what stands before it has no say. -/
theorem fileName?_inside (front : RawPath) (some : fileName? path = some name) :
    fileName? (front ++ slash :: path) = .some name := by
  rw [fileName?] at some
  rw [fileName?, pathParts_append_slash, List.reverse_append, List.find?_append]
  cases found : (pathParts path).reverse.find? (· ≠ [dot]) with
  | none =>
    rw [found] at some
    cases some
  | some part =>
    rw [found] at some
    exact some

/-- **The name of a file is the name that its path ends in.** -/
theorem fileName?_eq_some_iff : fileName? path = some name ↔ EndsIn name path := by
  constructor
  · intro some
    -- the path is parted at its last slash, and shorter if nothing behind that is a name
    induction length : path.length using Nat.strongRecOn generalizing path with
    | ind n ih =>
      by_cases slashed : slash ∈ path
      · obtain ⟨front, last, rfl, single⟩ := exists_last_of_mem slashed
        rw [List.length_append, List.length_cons] at length
        by_cases empty : last = []
        · subst empty
          rw [fileName?_slash] at some
          exact .slash (ih front.length (by omega) some rfl)
        by_cases lone : last = [dot]
        · subst lone
          rw [fileName?_dot] at some
          exact .dot (ih front.length (by omega) some rfl)
        have here := fileName?_of_single empty single lone
        by_cases dots : last = [dot, dot]
        · subst dots
          rw [fileName?, pathParts_append_slash, pathParts_of_single empty single,
            List.reverse_concat, List.find?_cons_of_pos (by simp)] at some
          cases some
        · rw [if_neg dots] at here
          rw [fileName?_inside front here] at some
          obtain rfl := Option.some.inj some
          exact .inside front (.alone ⟨empty, single, lone, dots⟩)
      · by_cases empty : path = []
        · subst empty
          cases some
        by_cases lone : path = [dot]
        · subst lone
          cases some
        rw [fileName?_of_single empty slashed lone] at some
        split at some
        · cases some
        · next dots =>
          obtain rfl := Option.some.inj some
          exact .alone ⟨empty, slashed, lone, dots⟩
  · intro ends
    induction ends with
    | alone isName =>
      rw [fileName?_of_single isName.nonempty isName.single isName.notDot, if_neg isName.notDots]
    | inside front _ ih => exact fileName?_inside front ih
    | slash _ ih => rw [fileName?_slash, ih]
    | dot _ ih => rw [fileName?_dot, ih]

end

/-! ## Extensions -/

/-- The file at a path has an extension: what follows the last dot of its name, if the name does not
start with that dot. -/
def HasExtension (path : RawPath) (extension : List UInt8) : Prop :=
  ∃ stem, stem ≠ [] ∧ dot ∉ extension ∧ EndsIn (stem ++ dot :: extension) path

theorem extensionOf?_append {extension : List UInt8} (last : dot ∉ extension) (stem : List UInt8) :
    extensionOf? (stem ++ dot :: extension) = if stem = [] then none else some extension := by
  have taken : ((stem ++ dot :: extension).reverse.takeWhile (· ≠ dot)).reverse = extension := by
    have apart : ∀ c ∈ extension.reverse, decide (c ≠ dot) = true := fun c inside =>
      decide_eq_true fun dot => last (dot ▸ List.mem_reverse.mp inside)
    rw [List.reverse_append, List.reverse_cons, List.append_assoc,
      List.takeWhile_append_of_pos apart, List.singleton_append,
      List.takeWhile_cons_of_neg (by simp), List.append_nil, List.reverse_reverse]
  rw [extensionOf?, taken, List.length_append, List.length_cons]
  cases stem with
  | nil => simp
  | cons c stem => rw [if_neg (List.cons_ne_nil c stem), if_pos (by simp)]

theorem extensionOf?_eq_some_iff {name extension : List UInt8} :
    extensionOf? name = some extension ↔
      ∃ stem, stem ≠ [] ∧ dot ∉ extension ∧ name = stem ++ dot :: extension := by
  constructor
  · intro some
    by_cases dotted : dot ∈ name
    · obtain ⟨stem, behind, rfl, last⟩ := exists_last_of_mem dotted
      rw [extensionOf?_append last] at some
      split at some
      · cases some
      · next nonempty =>
        obtain rfl := Option.some.inj some
        exact ⟨stem, nonempty, last, rfl⟩
    · have all : name.reverse.takeWhile (· ≠ dot) = name.reverse :=
        List.takeWhile_eq_self_iff.mpr fun c inside =>
          decide_eq_true fun dot => dotted (dot ▸ List.mem_reverse.mp inside)
      rw [extensionOf?, all, List.reverse_reverse, if_neg (by omega)] at some
      cases some
  · rintro ⟨stem, nonempty, last, rfl⟩
    rw [extensionOf?_append last, if_neg nonempty]

/-- **The extension that is looked at is the extension of the file at the path.** -/
theorem extension?_eq_some_iff {path extension : List UInt8} :
    extension? path = some extension ↔ HasExtension path extension := by
  simp only [extension?, Option.bind_eq_some_iff, fileName?_eq_some_iff, extensionOf?_eq_some_iff,
    HasExtension]
  constructor
  · rintro ⟨name, ends, stem, nonempty, last, rfl⟩
    exact ⟨stem, nonempty, last, ends⟩
  · rintro ⟨stem, nonempty, last, ends⟩
    exact ⟨_, ends, stem, nonempty, last, rfl⟩

/-- The file at a path has an extension that is a text. -/
def HasTextExtension (path : RawPath) (text : String) : Prop :=
  ∃ extension, HasExtension path extension ∧ Utf8.decode? extension = some text

theorem textExtension?_eq_some_iff {path : RawPath} {text : String} :
    textExtension? path = some text ↔ HasTextExtension path text := by
  simp only [textExtension?, Option.bind_eq_some_iff, extension?_eq_some_iff, HasTextExtension]

theorem Format.detect?_of_hasTextExtension {path : RawPath} {extension : String}
    (has : HasTextExtension path extension) (text : String) :
    detect? path text = ofExtension? extension := by
  rw [detect?, textExtension?_eq_some_iff.mpr has]

/-- An extension that is not a text is as good as none. -/
theorem Format.detect?_of_not_text {path : RawPath} {extension : List UInt8}
    (has : HasExtension path extension) (stray : Utf8.decode? extension = none) (text : String) :
    detect? path text = some (ofText text.toList) := by
  rw [detect?, textExtension?, extension?_eq_some_iff.mpr has, Option.bind_some, stray]

theorem Format.ofExtension?_congr {extension other : String}
    (same : asciiLower extension.toList = asciiLower other.toList) :
    ofExtension? extension = ofExtension? other := by
  rw [ofExtension?, ofExtension?, same]

/-- **Contents make no difference exactly behind the extensions that are texts.** -/
theorem Format.detect?_const_iff {path : RawPath} {extension : List UInt8}
    (has : HasExtension path extension) :
    (∀ content content', detect? path content = detect? path content') ↔
      ∃ letters, Utf8.decode? extension = some letters := by
  constructor
  · intro alike
    cases spelled : Utf8.decode? extension with
    | some letters => exact ⟨letters, rfl⟩
    | none =>
      -- what opens a list is JSON, and nothing at all is YAML
      have same : some json = some yaml :=
        calc some json
          _ = detect? path "[" := (detect?_of_not_text has spelled "[").symm
          _ = detect? path "" := alike _ _
          _ = some yaml := detect?_of_not_text has spelled ""
      cases same
  · rintro ⟨letters, spelled⟩ content content'
    have has : HasTextExtension path letters := ⟨extension, has, spelled⟩
    rw [detect?_of_hasTextExtension has, detect?_of_hasTextExtension has]

/-! ## The first character -/

/-- A text whose first character that is not blank opens a list or a map. -/
def Opens (text : List Char) : Prop :=
  ∃ c rest, trimStart text = c :: rest ∧ (c = '{' ∨ c = '[')

theorem Format.ofText_of_opens {text : List Char} (opens : Opens text) : ofText text = .json := by
  obtain ⟨c, rest, trimmed, rfl | rfl⟩ := opens
  · rw [ofText, trimmed]
    rfl
  · rw [ofText, trimmed]
    rfl

/-- Where no extension but `json` stands in the way, a text that opens a list or a map is JSON. -/
theorem Format.detect?_of_opens {path : RawPath} {text : String} (opens : Opens text.toList)
    (allowed : ∀ extension, HasExtension path extension →
      ∃ letters, Utf8.decode? extension = some letters ∧
        asciiLower letters.toList = "json".toList) :
    detect? path text = some .json := by
  cases extended : extension? path with
  | none =>
    rw [detect?, textExtension?, extended]
    exact congrArg some (ofText_of_opens opens)
  | some extension =>
    have has := extension?_eq_some_iff.mp extended
    obtain ⟨letters, spelled, same⟩ := allowed extension has
    have same : asciiLower letters.toList = asciiLower "json".toList := same.trans (by decide)
    rw [detect?_of_hasTextExtension ⟨extension, has, spelled⟩, ofExtension?_congr same]
    rfl

namespace Json

/-- White space is blank. -/
theorem isBlank_of_isSpace {c : Char} (space : isSpace c = true) : isBlank c = true := by
  have spaces : c = ' ' ∨ c = '\n' ∨ c = '\t' ∨ c = '\r' := by
    simpa [isSpace, or_assoc] using space
  rcases spaces with rfl | rfl | rfl | rfl <;> decide

/-- The tokens that open an object or an array. -/
def Token.IsOpening (token : Token) : Prop :=
  token = .openObject ∨ token = .openArray

theorem Token.char_of_isOpening {c : Char} {rest behind : List Char} {token : Token}
    (first : Token.first? c rest = some (token, behind)) (opening : token.IsOpening) :
    c = '{' ∨ c = '[' := by
  by_contra neither
  obtain ⟨object, array⟩ := not_or.mp neither
  rw [Token.first?, if_neg object] at first
  repeat' split at first
  all_goals rcases opening with rfl | rfl <;> simp_all

/-- A text whose first token opens something does so with its first character that is not blank. -/
theorem Token.opens_of_scanWithin {fuel : Nat} {text : List Char} {token : Token}
    {tokens : List Token} (scanned : Token.scanWithin fuel text = token :: tokens)
    (opening : token.IsOpening) : Opens text := by
  induction fuel generalizing text with
  | zero =>
    cases text with
    | nil => cases scanned
    | cons c rest =>
      obtain rfl := (List.cons.inj scanned).1
      rcases opening with bad | bad <;> cases bad
  | succ fuel ih =>
    cases text with
    | nil => cases scanned
    | cons c rest =>
      rw [Token.scanWithin] at scanned
      by_cases space : isSpace c = true
      · rw [if_pos space] at scanned
        rw [Opens, trimStart, List.dropWhile_cons_of_pos (isBlank_of_isSpace space)]
        exact ih scanned
      · rw [if_neg space] at scanned
        split at scanned
        · next first =>
          obtain rfl := (List.cons.inj scanned).1
          have char := Token.char_of_isOpening first opening
          refine ⟨c, rest, List.dropWhile_cons_of_neg ?_, char⟩
          rcases char with rfl | rfl <;> decide
        · obtain rfl := (List.cons.inj scanned).1
          rcases opening with bad | bad <;> cases bad

/-- The trees of arrays and objects. -/
inductive Tree.IsNested : Tree → Prop where
  | array (items : List Tree) (closed : Bool) : IsNested (.array items closed)
  | object (members : List (RawText × Tree)) (closed : Bool) : IsNested (.object members closed)

/-- Only a token that opens something starts an array or an object. -/
theorem exists_opening_of_isNested {tokens : List Token}
    (nested : (build .value [] tokens).root.IsNested) :
    ∃ token rest, tokens = token :: rest ∧ token.IsOpening := by
  cases tokens with
  | nil => cases nested
  | cons token rest =>
    refine ⟨token, rest, rfl, ?_⟩
    cases token with
    | openObject => exact .inl rfl
    | openArray => exact .inr rfl
    | _ => cases nested

theorem opens_of_isNested {text : List Char} (nested : (read text).root.IsNested) : Opens text := by
  obtain ⟨token, rest, scanned, opening⟩ := exists_opening_of_isNested nested
  exact Token.opens_of_scanWithin scanned opening

end Json

namespace Document

/-- Only lists and maps hold routes. -/
theorem isNested_of_routes? {levels : Nat} {tree : Json.Tree} {datum : Datum} {routes : List Route}
    (means : tree.datum? levels = some datum) (holds : datum.routes? = some routes) :
    tree.IsNested := by
  cases Json.Tree.means_of_datum? means with
  | array => exact .array _ _
  | object => exact .object _ _
  | _ => cases holds

/-- **A text that holds routes in JSON opens a list or a map.** -/
theorem opens_of_routes {text : String} {found : List Route}
    (holds : routes .json text = .ok found) : Opens text.toList := by
  rw [routes] at holds
  cases reads : Format.read? .json text.toList with
  | none =>
    rw [reads] at holds
    cases holds
  | some reading =>
    obtain ⟨datum, isAll⟩ := reading
    rw [reads] at holds
    obtain ⟨root, means, same⟩ := Option.bind_eq_some_iff.mp reads
    obtain ⟨rfl, -⟩ := Prod.mk.inj (Option.some.inj same)
    cases these : root.routes? with
    | none => simp [these] at holds
    | some others => exact Json.opens_of_isNested (isNested_of_routes? means these)

theorem parse_eq_ok_iff {format : Format} {text source : String} {found : List Route} :
    parse format text source = .ok found ↔ routes format text = .ok found := by
  rw [parse]
  cases routes format text <;> simp

/-- A file is loaded as the routes of its text, in the format that is recognised. -/
theorem load_of_routes {format : Format} {path : RawPath} {text : String} {found : List Route}
    {read : RawPath → Except LoadFault (List UInt8)} {bytes : List UInt8}
    (holds : routes format text = .ok found) (detected : Format.detect? path text = some format)
    (there : read path = .ok bytes) (isText : textOfBytes bytes = .ok text) :
    load read path = .ok found := by
  have content : (read path).bind textOfBytes = .ok text := by
    rw [there]
    exact isText
  rw [load, content]
  simp only [detected]
  exact parse_eq_ok_iff.mpr holds

end Document

/-- **Routes in JSON are taken for JSON** at every path, be it text or not. Let a text hold routes
in JSON, from whatever source it is said to come. At a path without an extension, and at one whose
extension is `json` in any letter case, it is recognised as JSON, and a file there with this text is
loaded as just these routes.

If the path has an extension, contents make no difference to the format exactly if the extension is
a text, and then neither does its letter case. -/
theorem json_routes_are_taken_for_json (path : RawPath) :
    (∀ {text source : String} {routes : List Route},
        Document.parse .json text source = .ok routes →
        (∀ extension, HasExtension path extension →
          ∃ letters, Utf8.decode? extension = some letters ∧
            asciiLower letters.toList = "json".toList) →
        Format.detect? path text = some .json ∧
          ∀ (read : RawPath → Except LoadFault (List UInt8)) (bytes : List UInt8),
            read path = .ok bytes → textOfBytes bytes = .ok text →
              Document.load read path = .ok routes) ∧
      (∀ extension, HasExtension path extension →
        ((∀ content content', Format.detect? path content = Format.detect? path content') ↔
          ∃ letters, Utf8.decode? extension = some letters)) ∧
      ∀ (other : RawPath) (letters letters' : String),
        HasTextExtension path letters → HasTextExtension other letters' →
        asciiLower letters.toList = asciiLower letters'.toList →
        ∀ content content', Format.detect? path content = Format.detect? other content' := by
  refine ⟨fun parses allowed => ?_, fun extension has => Format.detect?_const_iff has,
    fun other letters letters' has has' same content content' => ?_⟩
  · have holds := Document.parse_eq_ok_iff.mp parses
    have detected := Format.detect?_of_opens (Document.opens_of_routes holds) allowed
    exact ⟨detected, fun read bytes found isText =>
      Document.load_of_routes holds detected found isText⟩
  · rw [Format.detect?_of_hasTextExtension has, Format.detect?_of_hasTextExtension has',
      Format.ofExtension?_congr same]

/-- A hidden file has no extension, and is recognised by its text, which starts with a blank. In
another place, the letter case of the extension makes no difference. -/
theorem hidden_file_is_taken_for_json :
    let text := "\t\x7b\"routes\": [[\"/a\", \"b\"]]\x7d"
    let hidden := Utf8.encode ".json"
    let nested := Utf8.encode "x/a.jSoN/."
    let dotted := Utf8.encode "..JSON"
    let files : Files := [([hidden], some (Utf8.encode text))]
    Document.parse .json text "memory" = .ok [{ path := "/a", service := "b" }] ∧
      (∀ extension, ¬ HasExtension hidden extension) ∧
      Format.detect? hidden text = some .json ∧
      Document.load files.read hidden = .ok [{ path := "/a", service := "b" }] ∧
      HasTextExtension nested "jSoN" ∧ HasTextExtension dotted "JSON" ∧
      Format.detect? nested "routes: []" = Format.detect? dotted text ∧
      ∀ content content', Format.detect? nested content = Format.detect? nested content' := by
  intro text hidden nested dotted files
  have parses : Document.parse .json text "memory" = .ok [{ path := "/a", service := "b" }] :=
    toOption_eq_some_iff.mp (by decide +kernel)
  have none : ∀ extension, ¬ HasExtension hidden extension := fun extension has => by
    have some := extension?_eq_some_iff.mpr has
    cases some
  have taken := (json_routes_are_taken_for_json hidden).1 parses fun extension has =>
    absurd has (none extension)
  have has : HasTextExtension nested "jSoN" := textExtension?_eq_some_iff.mp (by decide +kernel)
  have has' : HasTextExtension dotted "JSON" := textExtension?_eq_some_iff.mp (by decide +kernel)
  have found : files.read hidden = .ok (Utf8.encode text) :=
    toOption_eq_some_iff.mp (by decide +kernel)
  have isText : textOfBytes (Utf8.encode text) = .ok text :=
    toOption_eq_some_iff.mp (by decide +kernel)
  obtain ⟨-, decides, cases_alike⟩ := json_routes_are_taken_for_json nested
  have alike := cases_alike dotted "jSoN" "JSON" has has' (by decide)
  obtain ⟨extension, extended, spelled⟩ := has
  exact ⟨parses, none, taken.1, taken.2 files.read _ found isText, ⟨_, extended, spelled⟩, has',
    alike _ _, (decides _ extended).mpr ⟨_, spelled⟩⟩

/-- A file whose extension is a byte that is no text is not refused: with one content it is taken
for JSON, with another one for YAML. -/
theorem stray_extension_has_no_say :
    let path := Utf8.encode "routes." ++ [0xFF]
    HasExtension path [0xFF] ∧ Utf8.decode? [0xFF] = none ∧
      Format.detect? path "[]" = some .json ∧ Format.detect? path "a: 1" = some .yaml := by
  intro path
  exact ⟨extension?_eq_some_iff.mp (by decide +kernel), by decide +kernel, by decide +kernel,
    by decide +kernel⟩

end GatewayRouting
