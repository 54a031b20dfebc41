import GatewayRouting.Proofs.JsonTexts
import GatewayRouting.Proofs.KnownMembers
import GatewayRouting.Proofs.TwoDecodings
import GatewayRouting.Route.Record
import Mathlib.Logic.Relation

/-!
# What decides on a route

A route is decoded off an object. Which route that is depends on the members that are its fields, on
nothing else and not on their order: other members come and go, and what stands for a field that is
not given may as well be written out (`Route.Edit`, `Route.described_iff_of_edits`).

Other members are skipped, but their names are read first. So all names have to mean something, also
those that are not asked for: half of a surrogate pair, which does no harm in a value that is
skipped, is refused in a name (`name_of_half_a_pair_is_refused`). Apart from that, an object is a
route exactly if its known members are as they should be (`Route.Complete`,
`route_decoded_from_known_members`).
-/

namespace GatewayRouting

open Json (Tree RawText MemberText Spells Around)

/-- Every value that has a text was read to its end. -/
theorem Json.Spells.isWhole {text : List Char} {tree : Tree} (spells : Spells text tree) :
    tree.isWhole = true := by
  cases spells <;> rfl

theorem Json.Spells.isWhole_of_member {text : List Char} {members : List (RawText × Tree)}
    (spells : Spells text (.object members true)) :
    ∀ member ∈ members, member.2.isWhole = true := by
  cases spells with
  | object _ values =>
    exact List.forall_mem_map.mpr fun member inside => (values member inside).isWhole

/-- A value that its kind can hold is written as that value only. -/
theorem FieldKind.Holds.is_tree_iff {kind : FieldKind} {value given : FieldValue}
    (holds : kind.Holds value) : Tree.Is kind value.tree given ↔ given = value := by
  rw [← Json.Tree.decode_eq_ok_iff, Json.decode_tree holds, Except.ok.injEq, eq_comm]

namespace Route

/-! ## Members -/

/-- What stands for the fields that are not given. -/
def defaults : Record :=
  [("methods", .tokens []), ("isActive", .flag true), ("callCount", .signed 0),
    ("totalResponseTime", .signed 0)]

/-- Changes of the members of an object that are of no account. -/
inductive Edit : List (RawText × Tree) → List (RawText × Tree) → Prop where
  /-- the members come in another order -/
  | permute {members others : List (RawText × Tree)} (perm : members.Perm others) :
      Edit members others
  /-- a member comes in that is no field, with any value -/
  | insert {raw : RawText} {name : String} {text : List Char} {value : Tree}
      (named : raw.text? = some name) (unknown : name ∉ shape.fields.map Field.name)
      (isValue : Spells text value) (members : List (RawText × Tree)) :
      Edit members ((raw, value) :: members)
  /-- what stands for a field that is not given is written out -/
  | spellOut {raw : RawText} {name : String} {value : FieldValue} {members : List (RawText × Tree)}
      (named : raw.text? = some name) (stands : (name, value) ∈ defaults)
      (missing : name ∉ Json.namesOf members) : Edit members ((raw, value.tree) :: members)

/-- The fields among the members are as they should be. -/
structure Complete (members : List (RawText × Tree)) : Prop where
  /-- no field comes twice -/
  once : ∀ field ∈ shape.fields, (Json.namesOf members).count field.name ≤ 1
  /-- each has a value of its type -/
  typed : ∀ field ∈ shape.fields, ∀ member ∈ members, member.1.text? = some field.name →
    ∃ value, Tree.Is field.kind member.2 value
  /-- there is a path -/
  path : "path" ∈ Json.namesOf members
  /-- there is a service -/
  service : "serviceURL" ∈ Json.namesOf members

/-! ## Records -/

section

variable {record other : Record} {name : String} {value : FieldValue}

theorem distinct_fields : (shape.fields.map Field.name).Nodup := by
  decide

/-- A record stands for a route by what is given under each name. -/
theorem ofRecord_congr (same : ∀ name, record.lookup name = other.lookup name) :
    ofRecord record = ofRecord other := by
  simp only [ofRecord, Record.text, Record.tokens, Record.flag, Record.signed, same]

/-- What stands for a field that is not given makes no difference. -/
theorem ofRecord_cons_of_default (stands : (name, value) ∈ defaults)
    (absent : record.lookup name = none) :
    ofRecord ((name, value) :: record) = ofRecord record := by
  simp only [defaults, List.mem_cons, Prod.mk.injEq, List.not_mem_nil, or_false] at stands
  rcases stands with ⟨rfl, rfl⟩ | ⟨rfl, rfl⟩ | ⟨rfl, rfl⟩ | ⟨rfl, rfl⟩ <;>
    simp [ofRecord, Record.text, Record.tokens, Record.flag, Record.signed, List.lookup_cons,
      absent]

/-- What stands for a field is a value of it, and the field may be missing. -/
theorem exists_field_of_default (stands : (name, value) ∈ defaults) :
    ∃ field, shape.field? name = some field ∧ field.kind.Holds value ∧
      ∀ field ∈ shape.fields, field.required = true → field.name ≠ name := by
  simp only [defaults, List.mem_cons, Prod.mk.injEq, List.not_mem_nil, or_false] at stands
  rcases stands with ⟨rfl, rfl⟩ | ⟨rfl, rfl⟩ | ⟨rfl, rfl⟩ | ⟨rfl, rfl⟩
  · exact ⟨_, rfl, .tokens [], by decide⟩
  · exact ⟨_, rfl, .flag true, by decide⟩
  · exact ⟨_, rfl, .signed (by decide), by decide⟩
  · exact ⟨_, rfl, .signed (by decide), by decide⟩

end

/-! ## Routes -/

/-- A route is described by members if it is what they say of its fields. -/
def Described (members : List (RawText × Tree)) (route : Route) : Prop :=
  ∃ record, shape.Gathers members record ∧ ofRecord record = route

section

variable {members others : List (RawText × Tree)} {route : Route} {text : String}

theorem ofJson_eq_of_spells {tree : Tree} (spells : Spells text.toList tree) :
    ofJson text = (tree.record shape).map ofRecord := by
  simp only [ofJson, Json.recordOfText, spells.read]
  cases tree.record shape <;> rfl

theorem ofJson_eq_ok_iff (spells : Spells text.toList (.object members true)) :
    ofJson text = .ok route ↔ Described members route := by
  rw [ofJson_eq_of_spells spells, Described]
  simp only [← Json.recordOfMembers_eq_ok_iff]
  show (Json.recordOfMembers shape [] members true).map ofRecord = .ok route ↔ _
  cases Json.recordOfMembers shape [] members true <;> simp [Except.map]

/-- In another order, members describe the same route. -/
theorem Described.perm (described : Described members route) (perm : members.Perm others) :
    Described others route := by
  obtain ⟨record, gathers, rfl⟩ := described
  obtain ⟨other, same, gathers'⟩ := gathers.perm perm
  exact ⟨other, gathers', ofRecord_congr fun _ => (Record.lookup_perm same gathers.distinct).symm⟩

/-- **No edit changes which route is described.** -/
theorem described_iff_of_edit (edit : Edit members others) :
    Described members route ↔ Described others route := by
  cases edit with
  | permute perm => exact ⟨fun described => described.perm perm,
      fun described => described.perm perm.symm⟩
  | insert named unknown isValue =>
    have other : shape.field? _ = none := List.find?_eq_none.mpr fun field inside same =>
      unknown (List.mem_map.mpr ⟨field, inside, eq_of_beq same⟩)
    simp only [Described, RecordShape.gathers_cons_iff_of_unknown named other isValue.isWhole]
  | @spellOut raw name value _ named stands missing =>
    obtain ⟨field, known, holds, optional⟩ := exists_field_of_default stands
    have absent {record : Record} (gathers : shape.Gathers members record) :
        record.lookup name = none := by
      simpa [Record.has] using Record.has_eq_false (gathers.takes.not_mem_names missing)
    simp only [Described, RecordShape.gathers_cons_iff_of_optional named known optional missing,
      holds.is_tree_iff]
    constructor
    · rintro ⟨record, gathers, rfl⟩
      exact ⟨_, ⟨value, record, rfl, gathers, rfl⟩,
        ofRecord_cons_of_default stands (absent gathers)⟩
    · rintro ⟨_, ⟨_, record, rfl, gathers, rfl⟩, rfl⟩
      exact ⟨record, gathers, (ofRecord_cons_of_default stands (absent gathers)).symm⟩

/-- Nor do many, made or taken back. -/
theorem described_iff_of_edits (edits : Relation.EqvGen Edit members others) :
    Described members route ↔ Described others route := by
  induction edits with
  | rel _ _ edit => exact described_iff_of_edit edit
  | refl => exact Iff.rfl
  | symm _ _ _ ih => exact ih.symm
  | trans _ _ _ _ _ ih ih' => exact ih.trans ih'

/-- A route is described if all names mean something and the fields are as they should be. -/
theorem exists_described_iff (whole : ∀ member ∈ members, member.2.isWhole = true) :
    (∃ route, Described members route) ↔
      (∀ member ∈ members, ∃ name, member.1.text? = some name) ∧ Complete members := by
  have gathered : (∃ route, Described members route) ↔ ∃ record, shape.Gathers members record :=
    ⟨fun ⟨_, record, gathers, _⟩ => ⟨record, gathers⟩,
      fun ⟨record, gathers⟩ => ⟨_, record, gathers, rfl⟩⟩
  have needed : (∀ field ∈ shape.fields, field.required = true →
      field.name ∈ Json.namesOf members) ↔
      "path" ∈ Json.namesOf members ∧ "serviceURL" ∈ Json.namesOf members := by
    simp [shape]
  rw [gathered, RecordShape.exists_gathers_iff distinct_fields whole, needed]
  refine and_congr_right fun _ => ⟨fun ⟨fits, path, service⟩ => ?_, fun complete => ?_⟩
  · exact ⟨fun field inside => (fits field inside).1, fun field inside => (fits field inside).2,
      path, service⟩
  · exact ⟨fun field inside => ⟨complete.once field inside, complete.typed field inside⟩,
      complete.path, complete.service⟩

/-- A member whose name means nothing is no field. -/
theorem Complete.cons_of_nameless {raw : RawText} (complete : Complete members)
    (nameless : raw.text? = none) (value : Tree) : Complete ((raw, value) :: members) := by
  have names : Json.namesOf ((raw, value) :: members) = Json.namesOf members := by
    simp only [Json.namesOf, List.filterMap_cons, nameless]
  refine ⟨?_, fun field inside => List.forall_mem_cons.mpr ⟨fun named => ?_, ?_⟩, ?_, ?_⟩
  · rw [names]
    exact complete.once
  · rw [nameless] at named
    cases named
  · exact complete.typed field inside
  · rw [names]
    exact complete.path
  · rw [names]
    exact complete.service

/-- The values of the first members are the same route without their names, if the members come in
the order of declaration and those that have to be given are among them. -/
theorem ofJson_array_eq_ofJson_object {array : String}
    (spells : Spells text.toList (.object members true))
    (values : Spells array.toList (.array (members.map Prod.snd) true))
    (many : 2 ≤ members.length)
    (inOrder : (members.map fun member => member.1.text?) <+:
      shape.fields.map fun field => some field.name) : ofJson array = ofJson text := by
  have behindTwo : ∀ field ∈ shape.fields.drop 2, field.required = false := by decide
  have optional : ∀ field ∈ shape.fields.drop members.length, field.required = false :=
    fun field inside => behindTwo field (List.drop_subset_drop_left _ many inside)
  have same := @Json.recordOfMembers_eq_recordOfItems shape [] shape.fields [] members rfl
    distinct_fields rfl inOrder optional
  rw [ofJson_eq_of_spells spells, ofJson_eq_of_spells values]
  show _ = (Json.recordOfMembers shape [] members true).map ofRecord
  rw [same]
  show (Json.recordOfItems shape shape.fields (members.map Prod.snd) true).map ofRecord = _
  cases Json.recordOfItems shape shape.fields (members.map Prod.snd) true <;> rfl

end

end Route

/-! ## Some members -/

/-- The texts of the members of a route, the first of them under an escaped name. -/
def escapedMembers : List MemberText :=
  [⟨"\"p\\u0061th\"".toList, [.plain 'p', .unit 0x61, .plain 't', .plain 'h'],
      "\"/a\"".toList, textTree "/a"⟩,
    ⟨"\"serviceURL\"".toList, .ofChars "serviceURL".toList, "\"b\"".toList, textTree "b"⟩]

/-- Half of a surrogate pair. -/
def halfPair : RawText :=
  [.unit 0xd800]

/-- Members that make no difference: one is no field, the other one says what stands for it. -/
def idleMembers : List MemberText :=
  [⟨"\"z\"".toList, .ofChars "z".toList, "[1e999,\"\\ud800\"]".toList,
      .array [.number { whole := ['1'], exponent := some (false, ['9', '9', '9']) },
        .string halfPair] true⟩,
    ⟨"\"isActive\"".toList, .ofChars "isActive".toList, "true".toList, .bool true⟩]

theorem halfPair_spelled : Spells "\"\\ud800\"".toList (.string halfPair) :=
  .string (.string (.cons (.unit rfl) .nil)) (.self _)

theorem escapedMembers_spelled : ∀ member ∈ escapedMembers,
    Spells member.nameText (.string member.name) ∧ Spells member.valueText member.value := by
  have unescaped {c : Char} (plain : ¬ c < ' ' ∧ c ≠ '"' ∧ c ≠ '\\') :
      (Json.RawChar.plain c).Spelled [c] := .plain plain.1 plain.2.1 plain.2.2
  have path : RawText.Spelled [.plain 'p', .unit 0x61, .plain 't', .plain 'h']
      ['p', '\\', 'u', '0', '0', '6', '1', 't', 'h'] :=
    .cons (unescaped (by decide)) <| .cons (.unit rfl) <| .cons (unescaped (by decide)) <|
      .cons (unescaped (by decide)) .nil
  simp only [escapedMembers, List.forall_mem_cons, List.not_mem_nil, false_implies, implies_true,
    and_true]
  exact ⟨⟨.string (.string path) (.self _), (textTree_written "/a").spells⟩,
    (textTree_written "serviceURL").spells, (textTree_written "b").spells⟩

theorem idleMembers_spelled : ∀ member ∈ idleMembers,
    Spells member.nameText (.string member.name) ∧ Spells member.valueText member.value := by
  have huge : Json.Numeral.Spelled { whole := ['1'], exponent := some (false, ['9', '9', '9']) }
      "1e999".toList :=
    .unsigned (.digits (by decide) ⟨nofun, by simp [isDecimalDigit]⟩) .absent
      (.unsigned (.inl rfl) ⟨nofun, by simp [isDecimalDigit]⟩)
  have items : Spells "[1e999,\"\\ud800\"]".toList
      (.array [.number { whole := ['1'], exponent := some (false, ['9', '9', '9']) },
        .string halfPair] true) :=
    @Spells.array [("1e999".toList, _), ("\"\\ud800\"".toList, _)] _
      (by
        simp only [List.forall_mem_cons, List.not_mem_nil, false_implies, implies_true, and_true]
        exact ⟨.number (.number huge) (.self _), halfPair_spelled⟩)
      ⟨_, .some _ _, .self _⟩
  simp only [idleMembers, List.forall_mem_cons, List.not_mem_nil, false_implies, implies_true,
    and_true]
  exact ⟨⟨(textTree_written "z").spells, items⟩, (textTree_written "isActive").spells,
    .bool .yes (.self _)⟩

/-- Members with their texts, between braces. -/
theorem Json.Spells.object_of_texts {first : MemberText} {rest : List MemberText}
    {text : List Char}
    (spelled : ∀ member ∈ first :: rest,
      Spells member.nameText (.string member.name) ∧ Spells member.valueText member.value)
    (same : text = '{' :: (first.text ++ (rest.map MemberText.text).flatMap (',' :: ·) ++ ['}'])) :
    Spells text (.object ((first :: rest).map fun member => (member.name, member.value)) true) := by
  rw [same]
  exact .object (fun member inside => (spelled member inside).1)
    (fun member inside => (spelled member inside).2) ⟨_, .some _ _, .self _⟩

theorem escapedMembers_object :
    Spells "\x7b\"p\\u0061th\":\"/a\",\"serviceURL\":\"b\"\x7d".toList
      (.object (escapedMembers.map fun member => (member.name, member.value)) true) :=
  .object_of_texts escapedMembers_spelled (by decide +kernel)

theorem escapedMembers_route :
    (Route.ofJson "\x7b\"p\\u0061th\":\"/a\",\"serviceURL\":\"b\"\x7d").toOption =
      some { path := "/a", service := "b" } := by
  decide +kernel

/-! ## The result -/

/-- **The fields among the members decide on the route.** Let a text be an object. Its members may
be put in another order, others that are no fields may come in or go out, and what stands for a
field that is not given may be written out or left out, all this as often as one likes: a text of
the members that come out is the same route, or none either. There is a route exactly if the names
of all members mean something, no field comes twice, each that comes has a value of its type, and a
path and a service are among them. If the members are the first fields in the order of declaration,
at least two of them, then an array of their values is decoded as the object is. -/
theorem route_decoded_from_known_members {members : List (RawText × Tree)} {text : String}
    (spells : Spells text.toList (.object members true)) :
    (∀ (others : List (RawText × Tree)) (other : String),
        Spells other.toList (.object others true) → Relation.EqvGen Route.Edit members others →
        (Route.ofJson other).toOption = (Route.ofJson text).toOption) ∧
      ((∃ route, Route.ofJson text = .ok route) ↔
        (∀ member ∈ members, ∃ name, member.1.text? = some name) ∧ Route.Complete members) ∧
      (∀ array : String, Spells array.toList (.array (members.map Prod.snd) true) →
        2 ≤ members.length →
        (members.map fun member => member.1.text?) <+:
          Route.shape.fields.map (fun field => some field.name) →
        Route.ofJson array = Route.ofJson text) := by
  refine ⟨fun others other spells' edits => ?_, ?_, fun array values many inOrder => ?_⟩
  · have same (route : Route) :
        (Route.ofJson other).toOption = some route ↔ (Route.ofJson text).toOption = some route := by
      rw [toOption_eq_some_iff, toOption_eq_some_iff, Route.ofJson_eq_ok_iff spells,
        Route.ofJson_eq_ok_iff spells', Route.described_iff_of_edits edits]
    exact Option.ext same
  · simp only [Route.ofJson_eq_ok_iff spells]
    exact Route.exists_described_iff spells.isWhole_of_member
  · exact Route.ofJson_array_eq_ofJson_object spells values many inOrder

/-- Idle members make no difference before a route whose members are turned around, and without
their names the members are the same route as well. -/
theorem idle_members_make_no_difference :
    let pair := fun member : MemberText => (member.name, member.value)
    let text := "\x7b\"p\\u0061th\":\"/a\",\"serviceURL\":\"b\"\x7d"
    let other := "\x7b\"z\":[1e999,\"\\ud800\"],\"isActive\":true," ++
      "\"serviceURL\":\"b\",\"p\\u0061th\":\"/a\"\x7d"
    let array := "[\"/a\",\"b\"]"
    Spells text.toList (.object (escapedMembers.map pair) true) ∧
      Spells other.toList (.object ((idleMembers ++ escapedMembers.reverse).map pair) true) ∧
      Spells array.toList (.array ((escapedMembers.map pair).map Prod.snd) true) ∧
      (Route.ofJson other).toOption = some { path := "/a", service := "b" } ∧
      (Route.ofJson array).toOption = some { path := "/a", service := "b" } := by
  intro pair text other array
  have turned : Spells other.toList
      (.object ((idleMembers ++ escapedMembers.reverse).map pair) true) := by
    have spelled : ∀ member ∈ idleMembers ++ escapedMembers.reverse,
        Spells member.nameText (.string member.name) ∧ Spells member.valueText member.value :=
      List.forall_mem_append.mpr ⟨idleMembers_spelled,
        fun member inside => escapedMembers_spelled member (List.mem_reverse.mp inside)⟩
    exact .object_of_texts spelled (by decide +kernel)
  have values : Spells array.toList (.array ((escapedMembers.map pair).map Prod.snd) true) := by
    have written : (Tree.array [textTree "/a", textTree "b"] true).Written := by
      refine .array ?_
      simp only [List.forall_mem_cons, List.not_mem_nil, false_implies, implies_true, and_true]
      exact ⟨textTree_written _, textTree_written _⟩
    have same : Json.compact (Tree.array [textTree "/a", textTree "b"] true).tokens =
        array.toList := by decide +kernel
    rw [← same]
    exact written.spells
  have edits : Relation.EqvGen Route.Edit (escapedMembers.map pair)
      ((idleMembers ++ escapedMembers.reverse).map pair) := by
    let active : RawText × Tree := (.ofChars "isActive".toList, .bool true)
    have spelledOut : Route.Edit (escapedMembers.map pair) (active :: escapedMembers.map pair) :=
      @Route.Edit.spellOut _ "isActive" (.flag true) _ (by decide) (by decide) (by decide)
    have inserted := @Route.Edit.insert (.ofChars "z".toList) "z" _ _ (by decide) (by decide)
      (idleMembers_spelled _ (.head _)).2 (active :: escapedMembers.map pair)
    have turned : ((idleMembers ++ escapedMembers).map pair).Perm
        ((idleMembers ++ escapedMembers.reverse).map pair) :=
      ((List.reverse_perm _).symm.append_left _).map pair
    exact .trans _ _ _ (.rel _ _ spelledOut)
      (.trans _ _ _ (.rel _ _ inserted) (.rel _ _ (.permute turned)))
  obtain ⟨same, -, positional⟩ := route_decoded_from_known_members escapedMembers_object
  refine ⟨escapedMembers_object, turned, values, (same _ _ turned edits).trans escapedMembers_route,
    ?_⟩
  rw [positional array values (by decide) (by decide)]
  exact escapedMembers_route

/-- Half of a surrogate pair is no name. Where a member has it for a name, there is no route, though
all the fields are as they should be and nobody asks for this member. -/
theorem name_of_half_a_pair_is_refused :
    let pair := fun member : MemberText => (member.name, member.value)
    let text := "\x7b\"\\ud800\":null,\"p\\u0061th\":\"/a\",\"serviceURL\":\"b\"\x7d"
    let members := (halfPair, Tree.null) :: escapedMembers.map pair
    Spells text.toList (.object members true) ∧ Route.Complete members ∧
      (Route.ofJson text).toOption = none := by
  intro pair text members
  have spelled : ∀ member ∈
        ⟨"\"\\ud800\"".toList, halfPair, "null".toList, .null⟩ :: escapedMembers,
      Spells member.nameText (.string member.name) ∧ Spells member.valueText member.value :=
    List.forall_mem_cons.mpr ⟨⟨halfPair_spelled, .null .null (.self _)⟩, escapedMembers_spelled⟩
  have whole : Spells text.toList (.object members true) :=
    .object_of_texts spelled (by decide +kernel)
  have decoded := toOption_eq_some_iff.mp escapedMembers_route
  have complete := (Route.exists_described_iff escapedMembers_object.isWhole_of_member).mp
    ⟨_, (Route.ofJson_eq_ok_iff escapedMembers_object).mp decoded⟩
  exact ⟨whole, complete.2.cons_of_nameless (by decide) _, by decide +kernel⟩

end GatewayRouting
