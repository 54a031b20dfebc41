import GatewayRouting.Document.Routes
import Mathlib.Data.List.Forall2

/-!
# Two decodings that agree

A record is decoded in two ways. On its own, it is decoded off the tree of its text, from left to
right, and the first fault is told. Inside a document, the whole document is made data first, and
then the record is decoded off its datum, with nothing told about faults.

The two agree whenever the tree can be made a datum at all: whether there is a record, and which one
(`Json.Tree.Means.record`). A member that is no field is skipped by both, whatever it holds; the
one has seen that it can be read to its end, the other has made it a datum. Which fault comes first
makes no difference to whether there is one.
-/

namespace GatewayRouting

/-- All items have values exactly if each one has its value. -/
theorem mapM_eq_some_iff {α β : Type} {value? : α → Option β} {items : List α} {values : List β} :
    items.mapM value? = some values ↔
      List.Forall₂ (fun item value => value? item = some value) items values := by
  induction items generalizing values with
  | nil =>
    cases values with
    | nil => simp
    | cons value values => simp
  | cons item items ih =>
    simp only [List.mapM_cons, Option.bind_eq_bind, Option.pure_def, Option.bind_eq_some_iff,
      Option.some.injEq]
    constructor
    · rintro ⟨value, here, values, mapped, rfl⟩
      exact .cons here (ih.mp mapped)
    · intro each
      cases each with
      | cons here each => exact ⟨_, here, _, ih.mpr each, rfl⟩

/-- One item without a value is enough for there to be none. -/
theorem mapM_eq_none_iff {α β : Type} {value? : α → Option β} {items : List α} :
    items.mapM value? = none ↔ ∃ item ∈ items, value? item = none := by
  induction items with
  | nil => simp
  | cons item items ih =>
    rw [List.mapM_cons, List.exists_mem_cons_iff]
    cases here : value? item with
    | none => simp
    | some value =>
      rw [← ih]
      cases items.mapM value? with
      | none => simp
      | some values => simp

theorem exists_mapM {α β : Type} {value? : α → Option β} {items : List α}
    (each : ∀ item ∈ items, ∃ value, value? item = some value) :
    ∃ values, items.mapM value? = some values := by
  refine Option.ne_none_iff_exists'.mp fun none => ?_
  obtain ⟨item, inside, lacking⟩ := mapM_eq_none_iff.mp none
  obtain ⟨value, here⟩ := each item inside
  rw [here] at lacking
  cases lacking

/-- What follows from being related to something holds of all that are. -/
theorem forall_mem_of_forall₂ {α β : Type} {R : α → β → Prop} {P : α → Prop} {items : List α}
    {values : List β} (each : List.Forall₂ R items values)
    (of : ∀ item value, R item value → P item) : ∀ item ∈ items, P item :=
  ((List.forall₂_and_left items values).mp
    (each.imp fun item value related => ⟨of item value related, related⟩)).1

section

variable {α β ε : Type}

theorem toOption_map (f : α → β) (result : Except ε α) :
    (result.map f).toOption = result.toOption.map f := by
  cases result <;> rfl

theorem toOption_eq_some_iff {result : Except ε α} {a : α} :
    result.toOption = some a ↔ result = .ok a := by
  cases result <;> simp [Except.toOption]

theorem toOption_eq_none_iff {result : Except ε α} :
    result.toOption = none ↔ ∀ a, result ≠ .ok a := by
  cases result <;> simp [Except.toOption]

end

namespace Json

/-! ## Trees and data -/

/-- The value of a number is a number. -/
theorem Numeral.datum?_cases {numeral : Numeral} {datum : Datum}
    (means : numeral.datum? = some datum) :
    (∃ n, datum = .unsigned n) ∨ (∃ i, datum = .signed i) ∨ ∃ value, datum = .real value := by
  have real {datum : Datum} (means : numeral.real?.map Datum.real = some datum) :
      ∃ value, datum = .real value := by
    obtain ⟨value, -, rfl⟩ := Option.map_eq_some_iff.mp means
    exact ⟨value, rfl⟩
  rw [Numeral.datum?] at means
  split at means
  · split at means
    · exact .inl ⟨_, (Option.some.inj means).symm⟩
    split at means
    · exact .inr (.inr (real means))
    · exact .inr (.inl ⟨_, (Option.some.inj means).symm⟩)
  · exact .inr (.inr (real means))

section

variable {levels : Nat} {tree : Tree} {datum : Datum} {items : List Tree} {data : List Datum}

/-- What a member of an object is made. -/
structure MemberMeans (levels : Nat) (member : RawText × Tree) (entry : Datum × Datum) : Prop where
  /-- its name is made a text -/
  name : member.1.text?.map Datum.text = some entry.1
  /-- its value is made a datum -/
  value : member.2.datum? levels = some entry.2

/-- What trees are made, form by form. -/
inductive Tree.Means : Nat → Tree → Datum → Prop where
  | null {levels : Nat} : Means levels .null .null
  | bool {levels : Nat} (value : Bool) : Means levels (.bool value) (.bool value)
  | unsigned {levels : Nat} {numeral : Numeral} {value : Nat}
      (means : numeral.datum? = some (.unsigned value)) :
      Means levels (.number numeral) (.unsigned value)
  | signed {levels : Nat} {numeral : Numeral} {value : Int}
      (means : numeral.datum? = some (.signed value)) :
      Means levels (.number numeral) (.signed value)
  | real {levels : Nat} {numeral : Numeral} {value : Double}
      (means : numeral.datum? = some (.real value)) : Means levels (.number numeral) (.real value)
  | string {levels : Nat} {raw : RawText} {text : String} (means : raw.text? = some text) :
      Means levels (.string raw) (.text text)
  | array {levels : Nat} {items : List Tree} {data : List Datum}
      (each : List.Forall₂ (fun item datum => item.datum? levels = some datum) items data) :
      Means (levels + 1) (.array items true) (.list data)
  | object {levels : Nat} {members : List (RawText × Tree)} {entries : List (Datum × Datum)}
      (each : List.Forall₂ (MemberMeans levels) members entries) :
      Means (levels + 1) (.object members true) (.map entries)

theorem both?_eq_some_iff {α β : Type} {a : Option α} {b : Option β} {both : α × β} :
    both? a b = some both ↔ a = some both.1 ∧ b = some both.2 := by
  cases a with
  | none => simp [both?]
  | some a =>
    cases b with
    | none => simp [both?]
    | some b => simp [both?, Prod.ext_iff]

/-- **A tree is made a datum in one of these ways.** -/
theorem Tree.means_of_datum? (means : tree.datum? levels = some datum) :
    tree.Means levels datum := by
  cases tree with
  | null =>
    rw [Tree.datum?] at means
    cases means
    exact .null
  | bool value =>
    rw [Tree.datum?] at means
    cases means
    exact .bool value
  | number numeral =>
    rw [Tree.datum?] at means
    obtain ⟨n, rfl⟩ | ⟨i, rfl⟩ | ⟨value, rfl⟩ := Numeral.datum?_cases means
    · exact .unsigned means
    · exact .signed means
    · exact .real means
  | string raw =>
    rw [Tree.datum?] at means
    obtain ⟨text, paired, rfl⟩ := Option.map_eq_some_iff.mp means
    exact .string paired
  | broken =>
    rw [Tree.datum?] at means
    cases means
  | array items closed =>
    cases levels with
    | zero => cases means
    | succ levels =>
      rw [Tree.datum?] at means
      split at means
      · next closed =>
        obtain ⟨data, mapped, rfl⟩ := Option.map_eq_some_iff.mp means
        rw [closed]
        exact .array (mapM_eq_some_iff.mp mapped)
      · cases means
  | object members closed =>
    cases levels with
    | zero => cases means
    | succ levels =>
      rw [Tree.datum?] at means
      split at means
      · next closed =>
        obtain ⟨entries, mapped, rfl⟩ := Option.map_eq_some_iff.mp means
        have each := mapM_eq_some_iff.mp mapped
        rw [closed]
        refine .object (each.imp fun member entry both => ?_)
        obtain ⟨name, value⟩ := both?_eq_some_iff.mp both
        exact ⟨name, value⟩
      · cases means

/-- The trees that can be made data: they nest at most some levels deep, no number is out of range,
and the escaped units of every text pair up. -/
inductive Tree.Sound : Nat → Tree → Prop where
  | null {levels : Nat} : Sound levels .null
  | bool {levels : Nat} (value : Bool) : Sound levels (.bool value)
  | number {levels : Nat} {numeral : Numeral} (finite : numeral.datum? ≠ none) :
      Sound levels (.number numeral)
  | string {levels : Nat} {raw : RawText} (paired : raw.text? ≠ none) : Sound levels (.string raw)
  | array {levels : Nat} {items : List Tree} (each : ∀ item ∈ items, Sound levels item) :
      Sound (levels + 1) (.array items true)
  | object {levels : Nat} {members : List (RawText × Tree)}
      (names : ∀ member ∈ members, member.1.text? ≠ none)
      (values : ∀ member ∈ members, Sound levels member.2) :
      Sound (levels + 1) (.object members true)

/-- With as many levels or more, a datum is made. -/
theorem Tree.Sound.exists_datum (sound : tree.Sound levels) :
    ∀ {deep : Nat}, levels ≤ deep → ∃ datum, tree.datum? deep = some datum := by
  induction sound with
  | null =>
    intro deep _
    exact ⟨.null, by rw [Tree.datum?]⟩
  | bool value =>
    intro deep _
    exact ⟨.bool value, by rw [Tree.datum?]⟩
  | number finite =>
    intro deep _
    obtain ⟨datum, means⟩ := Option.ne_none_iff_exists'.mp finite
    exact ⟨datum, by rw [Tree.datum?, means]⟩
  | string paired =>
    intro deep _
    obtain ⟨text, means⟩ := Option.ne_none_iff_exists'.mp paired
    exact ⟨.text text, by rw [Tree.datum?, means, Option.map_some]⟩
  | array each ih =>
    intro deep within
    obtain ⟨deep, rfl⟩ := Nat.exists_eq_add_one_of_ne_zero (show deep ≠ 0 by omega)
    obtain ⟨data, mapped⟩ := exists_mapM fun item inside =>
      ih item inside (Nat.le_of_succ_le_succ within)
    exact ⟨.list data, by rw [Tree.datum?, if_pos rfl, mapped, Option.map_some]⟩
  | @object levels members names values ih =>
    intro deep within
    obtain ⟨deep, rfl⟩ := Nat.exists_eq_add_one_of_ne_zero (show deep ≠ 0 by omega)
    have each (member : RawText × Tree) (inside : member ∈ members) : ∃ entry,
        both? (member.1.text?.map Datum.text) (Tree.datum? deep member.2) = some entry := by
      obtain ⟨name, paired⟩ := Option.ne_none_iff_exists'.mp (names member inside)
      obtain ⟨datum, means⟩ := ih member inside (Nat.le_of_succ_le_succ within)
      rw [paired, means]
      exact ⟨(.text name, datum), rfl⟩
    obtain ⟨entries, mapped⟩ := exists_mapM each
    exact ⟨.map entries, by rw [Tree.datum?, if_pos rfl, mapped, Option.map_some]⟩

/-- **The trees that can be made data are those of which a datum is made.** -/
theorem Tree.sound_iff : tree.Sound levels ↔ ∃ datum, tree.datum? levels = some datum := by
  refine ⟨fun sound => sound.exists_datum (Nat.le_refl levels), ?_⟩
  rintro ⟨datum, means⟩
  induction levels using Nat.strongRecOn generalizing tree datum with
  | ind levels ih =>
    cases means_of_datum? means with
    | null => exact .null
    | bool value => exact .bool value
    | unsigned finite | signed finite | real finite => exact .number (finite ▸ nofun)
    | string paired => exact .string (paired ▸ nofun)
    | @array levels items data each =>
      exact .array (forall_mem_of_forall₂ each fun item datum means =>
        ih levels (Nat.lt_succ_self levels) datum means)
    | @object levels members entries each =>
      refine .object (forall_mem_of_forall₂ each fun member entry means => ?_)
        (forall_mem_of_forall₂ each fun member entry means =>
          ih levels (Nat.lt_succ_self levels) entry.2 means.value)
      obtain ⟨name, paired, -⟩ := Option.map_eq_some_iff.mp means.name
      exact paired ▸ nofun

/-! ## Fields -/

/-- What is made data is found to be the same. -/
theorem Tree.Means.found (means : tree.Means levels datum) : tree.found = .ok datum.found := by
  cases means with
  | null => rfl
  | bool value => rfl
  | unsigned means => rw [Tree.found, means]; rfl
  | signed means => rw [Tree.found, means]; rfl
  | real means => rw [Tree.found, means]; rfl
  | string means => rw [Tree.found, means]; rfl
  | array => rfl
  | object => rfl

/-- What is made data was read to its end. -/
theorem Tree.Means.isWhole (means : tree.Means levels datum) : tree.isWhole = true := by
  cases means <;> rfl

theorem Tree.Means.single (means : tree.Means levels datum) (kind : FieldKind) :
    tree.single kind = kind.ofFound datum.found := by
  rw [Tree.single, means.found]

theorem tokensOf_of_data
    (each : List.Forall₂ (fun item datum => item.datum? levels = some datum) items data) :
    (tokensOf items true).toOption = data.mapM Datum.token? := by
  induction each with
  | nil => rfl
  | @cons item datum items data means _ ih =>
    have single := (Tree.means_of_datum? means).single .text
    rw [List.mapM_cons, tokensOf, single]
    cases datum with
    | text token =>
      dsimp only [Datum.found, FieldKind.ofFound]
      rw [toOption_map, ih]
      cases data.mapM Datum.token? <;> rfl
    | _ => rfl

/-- **A field has the same value in both decodings.** -/
theorem Tree.Means.decode (means : tree.Means levels datum) (kind : FieldKind) :
    (tree.decode kind).toOption = datum.fieldValue? kind := by
  have single : (tree.single kind).toOption = datum.single? kind :=
    congrArg Except.toOption (means.single kind)
  cases kind with
  | tokens =>
    cases means with
    | array each =>
      show ((tokensOf _ true).map FieldValue.tokens).toOption = _
      rw [toOption_map, tokensOf_of_data each]
      rfl
    | _ => exact single
  | _ => exact single

/-! ## Records -/

theorem recordOfMembers_of_data {shape : RecordShape} {members : List (RawText × Tree)}
    {entries : List (Datum × Datum)} (each : List.Forall₂ (MemberMeans levels) members entries)
    (given : Record) :
    (recordOfMembers shape given members true).toOption =
      Datum.recordOfEntries? shape given entries := by
  induction each generalizing given with
  | nil => rfl
  | @cons member entry members entries here _ ih =>
    obtain ⟨raw, tree⟩ := member
    obtain ⟨key, datum⟩ := entry
    obtain ⟨name, paired, same⟩ := Option.map_eq_some_iff.mp here.name
    obtain rfl : .text name = key := same
    have paired : raw.text? = some name := paired
    have means : tree.Means levels datum := Tree.means_of_datum? here.value
    rw [recordOfMembers, Datum.recordOfEntries?, paired]
    dsimp only [Datum.fieldOfKey?]
    cases known : shape.field? name with
    | none =>
      dsimp only
      rw [if_pos means.isWhole, ih]
    | some field =>
      have named : field.name = name := by simpa using List.find?_some known
      dsimp only
      rw [named]
      split
      · rfl
      · have decoded := means.decode field.kind
        cases value : tree.decode field.kind with
        | error fault =>
          rw [value] at decoded
          rw [← decoded]
          rfl
        | ok value' =>
          rw [value] at decoded
          rw [← decoded]
          exact ih _

theorem recordOfItems_of_data {shape : RecordShape} {fields : List Field}
    (each : List.Forall₂ (fun item datum => item.datum? levels = some datum) items data) :
    (recordOfItems shape fields items true).toOption = Datum.recordOfItems? fields data := by
  induction fields generalizing items data with
  | nil =>
    cases each with
    | nil => rfl
    | cons => rfl
  | cons field fields ih =>
    cases each with
    | nil =>
      rw [recordOfItems, Datum.recordOfItems?]
      by_cases required : field.required
      · simp only [closing, required, if_true]
        rfl
      · simpa [closing, required] using ih .nil
    | @cons item datum items data here each =>
      have decoded := (Tree.means_of_datum? here).decode field.kind
      rw [recordOfItems, Datum.recordOfItems?, ← ih each]
      cases value : item.decode field.kind with
      | error fault =>
        rw [value] at decoded
        rw [← decoded]
        rfl
      | ok value' =>
        rw [value] at decoded
        rw [← decoded]
        dsimp only
        rw [toOption_map]
        cases (recordOfItems shape fields items true).toOption <;> rfl

/-- **A record is the same in both decodings.** -/
theorem Tree.Means.record (means : tree.Means levels datum) (shape : RecordShape) :
    (tree.record shape).toOption = datum.record? shape := by
  have found := means.found
  cases means with
  | array each => exact recordOfItems_of_data each
  | object each => exact recordOfMembers_of_data each []
  | null | bool | unsigned | signed | real | string =>
    -- neither is looked into
    rw [Tree.record, found]
    · rfl
    · exact nofun
    · exact nofun

end

end Json
end GatewayRouting
