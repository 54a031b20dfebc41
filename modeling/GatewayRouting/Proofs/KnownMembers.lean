import GatewayRouting.Proofs.FieldValues
import GatewayRouting.Proofs.WrittenRecords
import Mathlib.Data.List.Nodup
import Mathlib.Data.List.Perm.Basic

/-!
# Members that have a say

A record is decoded off an object from left to right: members that are fields are taken, the others
are skipped, and the first fault ends it. Put without an order, each member is either known, and
then it has a value of its field, or it has another name, and then its value has no say
(`RecordShape.Takes`); no field comes twice, and none that is required is missing
(`Json.recordOfMembers_eq_ok_iff`).

So it is a matter of the names of the members and of the values of those that are known whether
there is a record (`RecordShape.exists_gathers_iff`), and in another order the members make a record
of the same entries (`RecordShape.Gathers.perm`). In the order of declaration they need no names
(`Json.recordOfMembers_eq_recordOfItems`).
-/

namespace GatewayRouting

open Json (Tree RawText)

/-! ## Records, in any order -/

namespace Record

variable {record other : Record} {name : String}

theorem has_iff : record.has name = true ↔ name ∈ record.map Prod.fst := by
  refine ⟨fun has => ?_, fun inside => ?_⟩
  · by_contra absent
    rw [has_eq_false absent] at has
    cases has
  · obtain ⟨entry, listed, rfl⟩ := List.mem_map.mp inside
    rw [has, Option.isSome_iff_ne_none]
    intro absent
    simpa using List.lookup_eq_none_iff.mp absent entry listed

/-- Names stay distinct when a new one comes in. -/
theorem nodup_concat (distinct : (record.map Prod.fst).Nodup) (fresh : ¬ record.has name = true)
    (value : FieldValue) : ((record ++ [(name, value)]).map Prod.fst).Nodup := by
  rw [List.map_append]
  refine List.nodup_append.mpr ⟨distinct, List.nodup_singleton _, ?_⟩
  rintro one inside other here rfl
  obtain rfl := List.mem_singleton.mp here
  exact fresh (has_iff.mpr inside)

/-- Names that are distinct have not come before. -/
theorem not_has_of_nodup_append {value : FieldValue}
    (distinct : ((record ++ (name, value) :: other).map Prod.fst).Nodup) :
    ¬ record.has name = true := by
  intro has
  rw [List.map_append, List.nodup_append] at distinct
  exact distinct.2.2 name (has_iff.mp has) name (by simp) rfl

/-- Records with their entries in another order have the same values, if no name comes twice. -/
theorem lookup_perm (perm : record.Perm other) (distinct : (record.map Prod.fst).Nodup) :
    record.lookup name = other.lookup name := by
  induction perm with
  | nil => rfl
  | cons entry _ ih =>
    rw [List.lookup_cons, List.lookup_cons, ih (List.nodup_cons.mp distinct).2]
  | swap entry entry' rest =>
    have apart : entry'.1 ≠ entry.1 := fun same => by simp [same] at distinct
    rw [List.lookup_cons, List.lookup_cons, List.lookup_cons, List.lookup_cons]
    cases here : name == entry.1 with
    | false => rfl
    | true =>
      have other : (name == entry'.1) = false := by
        rw [eq_of_beq here, beq_eq_false_iff_ne]
        exact apart.symm
      rw [other]
  | trans perm _ ih ih' => rw [ih distinct, ih' ((perm.map Prod.fst).nodup_iff.mp distinct)]

end Record

theorem RecordShape.complete_eq_ok_iff {shape : RecordShape} {record other : Record} :
    shape.complete record = .ok other ↔
      (∀ field ∈ shape.fields, field.required = true → record.has field.name = true) ∧
        record = other := by
  rw [complete]
  cases missing : shape.fields.find? fun field => field.required && !record.has field.name with
  | some field =>
    have lacks := List.find?_some missing
    have inside := List.mem_of_find?_eq_some missing
    refine ⟨(fun refused => by cases refused), fun has => ?_⟩
    rw [Bool.and_eq_true] at lacks
    rw [has.1 field inside lacks.1] at lacks
    cases lacks.2
  | none =>
    have all := List.find?_eq_none.mp missing
    simp only [Except.ok.injEq, iff_and_self]
    intro _ field inside required
    simpa [required] using all field inside

/-! ## Members and records -/

/-- The names of members, as far as they are texts. -/
def Json.namesOf (members : List (RawText × Tree)) : List String :=
  members.filterMap fun member => member.1.text?

/-- A record takes what the members of its fields say. -/
inductive RecordShape.Takes (shape : RecordShape) : List (RawText × Tree) → Record → Prop where
  | nil : Takes shape [] []
  | skip {raw : RawText} {name : String} {value : Tree} {members : List (RawText × Tree)}
      {record : Record} (named : raw.text? = some name) (unknown : shape.field? name = none)
      (whole : value.isWhole = true) (rest : Takes shape members record) :
      Takes shape ((raw, value) :: members) record
  | take {raw : RawText} {name : String} {field : Field} {value : Tree} {given : FieldValue}
      {members : List (RawText × Tree)} {record : Record} (named : raw.text? = some name)
      (known : shape.field? name = some field) (is : Tree.Is field.kind value given)
      (rest : Takes shape members record) :
      Takes shape ((raw, value) :: members) ((name, given) :: record)

/-- A record gathers what the members of its fields say, none twice and all that are required. -/
structure RecordShape.Gathers (shape : RecordShape) (members : List (RawText × Tree))
    (record : Record) : Prop where
  /-- each member is taken or skipped -/
  takes : shape.Takes members record
  /-- no field comes twice -/
  distinct : (record.map Prod.fst).Nodup
  /-- what has to be given is given -/
  required : ∀ field ∈ shape.fields, field.required = true → record.has field.name = true

section

variable {shape : RecordShape} {raw : RawText} {name : String} {field : Field} {value : Tree}
  {members others : List (RawText × Tree)} {record : Record}

/-! ### The first member -/

theorem RecordShape.Takes.exists_name (takes : shape.Takes ((raw, value) :: members) record) :
    ∃ name, raw.text? = some name := by
  cases takes with
  | skip named => exact ⟨_, named⟩
  | take named => exact ⟨_, named⟩

theorem RecordShape.takes_cons_iff_of_unknown (named : raw.text? = some name)
    (unknown : shape.field? name = none) :
    shape.Takes ((raw, value) :: members) record ↔
      value.isWhole = true ∧ shape.Takes members record := by
  constructor
  · intro takes
    cases takes with
    | skip _ _ whole rest => exact ⟨whole, rest⟩
    | take named' known =>
      obtain rfl := Option.some.inj (named.symm.trans named')
      rw [unknown] at known
      cases known
  · rintro ⟨whole, rest⟩
    exact .skip named unknown whole rest

theorem RecordShape.takes_cons_iff_of_known (named : raw.text? = some name)
    (known : shape.field? name = some field) :
    shape.Takes ((raw, value) :: members) record ↔
      ∃ given rest, Tree.Is field.kind value given ∧ shape.Takes members rest ∧
        record = (name, given) :: rest := by
  constructor
  · intro takes
    cases takes with
    | skip named' unknown =>
      obtain rfl := Option.some.inj (named.symm.trans named')
      rw [unknown] at known
      cases known
    | take named' known' is rest =>
      obtain rfl := Option.some.inj (named.symm.trans named')
      obtain rfl := Option.some.inj (known.symm.trans known')
      exact ⟨_, _, is, rest, rfl⟩
  · rintro ⟨given, rest, is, takes, rfl⟩
    exact .take named known is takes

/-! ### What is decoded -/

/-- What is decoded behind what was given. -/
theorem Json.recordOfMembers_eq_ok_iff_of_given {given : Record}
    (fresh : (given.map Prod.fst).Nodup) :
    recordOfMembers shape given members true = .ok record ↔
      ∃ taken, shape.Takes members taken ∧ ((given ++ taken).map Prod.fst).Nodup ∧
        (∀ field ∈ shape.fields, field.required = true → (given ++ taken).has field.name = true) ∧
        given ++ taken = record := by
  induction members generalizing given with
  | nil =>
    have step : recordOfMembers shape given [] true = shape.complete given := rfl
    rw [step, RecordShape.complete_eq_ok_iff]
    constructor
    · rintro ⟨required, rfl⟩
      refine ⟨[], .nil, ?_⟩
      rw [List.append_nil]
      exact ⟨fresh, required, rfl⟩
    · rintro ⟨taken, ⟨⟩, -, required, rfl⟩
      rw [List.append_nil] at required ⊢
      exact ⟨required, rfl⟩
  | cons member members ih =>
    obtain ⟨raw, value⟩ := member
    rw [recordOfMembers]
    cases named : raw.text? with
    | none =>
      refine ⟨(fun refused => by cases refused), ?_⟩
      rintro ⟨taken, takes, -⟩
      obtain ⟨name, named'⟩ := takes.exists_name
      rw [named] at named'
      cases named'
    | some name =>
      dsimp only
      cases known : shape.field? name with
      | none =>
        dsimp only
        simp only [RecordShape.takes_cons_iff_of_unknown named known]
        by_cases whole : value.isWhole = true
        · simp only [whole, if_true, true_and, ih fresh]
        · simp [whole]
      | some field =>
        dsimp only
        simp only [RecordShape.takes_cons_iff_of_known named known]
        by_cases again : given.has name = true
        · rw [if_pos again]
          refine ⟨(fun refused => by cases refused), ?_⟩
          rintro ⟨taken, ⟨value, rest, -, -, rfl⟩, distinct, -⟩
          exact absurd again (Record.not_has_of_nodup_append distinct)
        · rw [if_neg again]
          have fresh' := Record.nodup_concat fresh again
          constructor
          · intro decoded
            cases decodes : value.decode field.kind with
            | error fault => simp [decodes] at decoded
            | ok value' =>
              rw [decodes] at decoded
              obtain ⟨taken, takes, rest⟩ := (ih (fresh' value')).mp decoded
              rw [List.append_assoc] at rest
              exact ⟨_, ⟨_, _, Tree.decode_eq_ok_iff.mp decodes, takes, rfl⟩, rest⟩
          · rintro ⟨taken, ⟨value', rest, is, takes, rfl⟩, others⟩
            rw [Tree.decode_eq_ok_iff.mpr is]
            refine (ih (fresh' value')).mpr ⟨rest, takes, ?_⟩
            rw [List.append_assoc]
            exact others

/-- **The records that are decoded are those that gather what the members say.** -/
theorem Json.recordOfMembers_eq_ok_iff :
    recordOfMembers shape [] members true = .ok record ↔ shape.Gathers members record := by
  refine (@recordOfMembers_eq_ok_iff_of_given shape members record [] .nil).trans ?_
  constructor
  · rintro ⟨taken, takes, distinct, required, rfl⟩
    exact ⟨takes, distinct, required⟩
  · rintro ⟨takes, distinct, required⟩
    exact ⟨record, takes, distinct, required, rfl⟩

/-! ### In another order -/

theorem RecordShape.Takes.perm (takes : shape.Takes members record) (perm : members.Perm others) :
    ∃ other, record.Perm other ∧ shape.Takes others other := by
  induction perm generalizing record with
  | nil => exact ⟨record, .refl _, takes⟩
  | cons member _ ih =>
    cases takes with
    | skip named unknown whole rest =>
      obtain ⟨other, same, takes⟩ := ih rest
      exact ⟨other, same, .skip named unknown whole takes⟩
    | take named known is rest =>
      obtain ⟨other, same, takes⟩ := ih rest
      exact ⟨_, same.cons _, .take named known is takes⟩
  | swap member member' members =>
    -- each of the two is skipped or taken, the one in front and the one behind it
    cases takes with
    | skip named unknown whole rest =>
      cases rest with
      | skip named' unknown' whole' rest =>
        exact ⟨_, .refl _, .skip named' unknown' whole' (.skip named unknown whole rest)⟩
      | take named' known' is' rest =>
        exact ⟨_, .refl _, .take named' known' is' (.skip named unknown whole rest)⟩
    | take named known is rest =>
      cases rest with
      | skip named' unknown' whole' rest =>
        exact ⟨_, .refl _, .skip named' unknown' whole' (.take named known is rest)⟩
      | take named' known' is' rest =>
        exact ⟨_, .swap _ _ _, .take named' known' is' (.take named known is rest)⟩
  | trans _ _ ih ih' =>
    obtain ⟨other, same, takes⟩ := ih takes
    obtain ⟨another, same', takes⟩ := ih' takes
    exact ⟨another, same.trans same', takes⟩

/-- **In another order, the same is gathered.** -/
theorem RecordShape.Gathers.perm (gathers : shape.Gathers members record)
    (perm : members.Perm others) : ∃ other, record.Perm other ∧ shape.Gathers others other := by
  obtain ⟨other, same, takes⟩ := gathers.takes.perm perm
  have names := same.map Prod.fst
  refine ⟨other, same, takes, names.nodup_iff.mp gathers.distinct, fun field inside required => ?_⟩
  rw [Record.has_iff, ← names.mem_iff, ← Record.has_iff]
  exact gathers.required field inside required

/-! ### What can be gathered -/

theorem Json.namesOf_cons (named : raw.text? = some name) (value : Tree)
    (members : List (RawText × Tree)) :
    namesOf ((raw, value) :: members) = name :: namesOf members := by
  simp only [namesOf, List.filterMap_cons, named]

/-- The names that are taken are those of fields, in the order of the members. -/
theorem RecordShape.Takes.names_eq (takes : shape.Takes members record) :
    record.map Prod.fst =
      (Json.namesOf members).filter fun name => (shape.field? name).isSome := by
  induction takes with
  | nil => rfl
  | skip named unknown _ _ ih =>
    rw [ih, Json.namesOf_cons named, List.filter_cons_of_neg (by simp [unknown])]
  | take named known _ _ ih =>
    rw [List.map_cons, ih, Json.namesOf_cons named, List.filter_cons_of_pos (by simp [known])]

/-- What no member names is not taken. -/
theorem RecordShape.Takes.not_mem_names (takes : shape.Takes members record)
    (missing : name ∉ Json.namesOf members) : name ∉ record.map Prod.fst := by
  rw [takes.names_eq]
  exact fun inside => missing (List.mem_filter.mp inside).1

/-- There is something to take if and only if all names are texts, what is not known was read to its
end, and what is known is a value of its field. -/
theorem RecordShape.exists_takes_iff :
    (∃ record, shape.Takes members record) ↔
      ∀ member ∈ members, ∃ name, member.1.text? = some name ∧
        match shape.field? name with
        | none => member.2.isWhole = true
        | some field => ∃ given, Tree.Is field.kind member.2 given := by
  induction members with
  | nil => exact ⟨nofun, fun _ => ⟨[], .nil⟩⟩
  | cons member members ih =>
    rw [List.forall_mem_cons, ← ih]
    constructor
    · rintro ⟨record, takes⟩
      cases takes with
      | skip named unknown whole rest => exact ⟨⟨_, named, by rwa [unknown]⟩, _, rest⟩
      | take named known is rest => exact ⟨⟨_, named, by rw [known]; exact ⟨_, is⟩⟩, _, rest⟩
    · rintro ⟨⟨name, named, here⟩, record, rest⟩
      cases known : shape.field? name with
      | none =>
        rw [known] at here
        exact ⟨_, .skip named known here rest⟩
      | some field =>
        rw [known] at here
        obtain ⟨given, is⟩ := here
        exact ⟨_, .take named known is rest⟩

/-- The field of a name is a field of that name. -/
theorem RecordShape.of_field? (known : shape.field? name = some field) :
    field ∈ shape.fields ∧ field.name = name :=
  ⟨List.mem_of_find?_eq_some known, by simpa using List.find?_some known⟩

theorem RecordShape.field?_of_mem (distinct : (shape.fields.map Field.name).Nodup)
    (inside : field ∈ shape.fields) : shape.field? field.name = some field := by
  cases found : shape.field? field.name with
  | none => simpa using List.find?_eq_none.mp found field inside
  | some other =>
    obtain ⟨inside', named⟩ := of_field? found
    rw [List.inj_on_of_nodup_map distinct inside' inside named]

/-- A field is taken if its name is among those of the members. -/
theorem RecordShape.Takes.has_iff (takes : shape.Takes members record)
    (distinct : (shape.fields.map Field.name).Nodup) (inside : field ∈ shape.fields) :
    record.has field.name = true ↔ field.name ∈ Json.namesOf members := by
  rw [Record.has_iff, takes.names_eq, List.mem_filter, field?_of_mem distinct inside]
  exact and_iff_left rfl

/-- No field is taken twice if the name of none comes twice. -/
theorem RecordShape.Takes.nodup_iff (takes : shape.Takes members record)
    (distinct : (shape.fields.map Field.name).Nodup) :
    (record.map Prod.fst).Nodup ↔
      ∀ field ∈ shape.fields, (Json.namesOf members).count field.name ≤ 1 := by
  rw [takes.names_eq, List.nodup_iff_count_le_one]
  let isField := fun name => (shape.field? name).isSome
  have counted {name : String} {field : Field} (known : shape.field? name = some field) :
      ((Json.namesOf members).filter isField).count name = (Json.namesOf members).count name :=
    List.count_filter (by simp [isField, known])
  constructor
  · intro once field inside
    rw [← counted (field?_of_mem distinct inside)]
    exact once field.name
  · intro once name
    cases known : shape.field? name with
    | none =>
      have absent : name ∉ (Json.namesOf members).filter isField := fun inside => by
        simp [isField, known] at inside
      rw [List.count_eq_zero_of_not_mem absent]
      exact Nat.zero_le 1
    | some field =>
      obtain ⟨inside, rfl⟩ := of_field? known
      rw [counted known]
      exact once field inside

/-- **Whether there is a record** shows in the names of the members and in the values of those that
are known: all names are texts; no field comes twice, and where one comes there is a value of it;
and no required field is missing. -/
theorem RecordShape.exists_gathers_iff (distinct : (shape.fields.map Field.name).Nodup)
    (whole : ∀ member ∈ members, member.2.isWhole = true) :
    (∃ record, shape.Gathers members record) ↔
      (∀ member ∈ members, ∃ name, member.1.text? = some name) ∧
        (∀ field ∈ shape.fields, (Json.namesOf members).count field.name ≤ 1 ∧
          ∀ member ∈ members, member.1.text? = some field.name →
            ∃ given, Tree.Is field.kind member.2 given) ∧
        ∀ field ∈ shape.fields, field.required = true → field.name ∈ Json.namesOf members := by
  constructor
  · rintro ⟨record, takes, once, required⟩
    have each := exists_takes_iff.mp ⟨record, takes⟩
    have counts := (takes.nodup_iff distinct).mp once
    refine ⟨fun member inside => ?_, fun field known => ⟨counts field known, ?_⟩,
      fun field known needed => (takes.has_iff distinct known).mp (required field known needed)⟩
    · obtain ⟨name, named, -⟩ := each member inside
      exact ⟨name, named⟩
    · intro member inside named
      obtain ⟨name, named', here⟩ := each member inside
      obtain rfl := Option.some.inj (named.symm.trans named')
      rw [field?_of_mem distinct known] at here
      exact here
  · rintro ⟨names, fits, needed⟩
    obtain ⟨record, takes⟩ := (@exists_takes_iff shape members).mpr fun member inside => by
      obtain ⟨name, named⟩ := names member inside
      refine ⟨name, named, ?_⟩
      cases known : shape.field? name with
      | none => exact whole member inside
      | some field =>
        obtain ⟨isField, rfl⟩ := of_field? known
        exact (fits field isField).2 member inside named
    exact ⟨record, takes, (takes.nodup_iff distinct).mpr fun field known => (fits field known).1,
      fun field known required => (takes.has_iff distinct known).mpr (needed field known required)⟩

/-! ### One member more -/

/-- A member of another name makes no difference. -/
theorem RecordShape.gathers_cons_iff_of_unknown (named : raw.text? = some name)
    (unknown : shape.field? name = none) (whole : value.isWhole = true) :
    shape.Gathers ((raw, value) :: members) record ↔ shape.Gathers members record := by
  have takes := @takes_cons_iff_of_unknown shape raw name value members record named unknown
  exact ⟨fun gathers => ⟨(takes.mp gathers.takes).2, gathers.distinct, gathers.required⟩,
    fun gathers => ⟨takes.mpr ⟨whole, gathers.takes⟩, gathers.distinct, gathers.required⟩⟩

/-- A member of a field that may be missing, and is, adds just what it says. -/
theorem RecordShape.gathers_cons_iff_of_optional (named : raw.text? = some name)
    (known : shape.field? name = some field)
    (optional : ∀ field ∈ shape.fields, field.required = true → field.name ≠ name)
    (missing : name ∉ Json.namesOf members) :
    shape.Gathers ((raw, value) :: members) record ↔
      ∃ given rest, Tree.Is field.kind value given ∧ shape.Gathers members rest ∧
        record = (name, given) :: rest := by
  constructor
  · rintro ⟨takes, distinct, required⟩
    obtain ⟨given, rest, is, others, rfl⟩ := (takes_cons_iff_of_known named known).mp takes
    refine ⟨given, rest, is, ⟨others, (List.nodup_cons.mp distinct).2, ?_⟩, rfl⟩
    intro other inside needed
    have has := Record.has_iff.mp (required other inside needed)
    rw [List.map_cons, List.mem_cons] at has
    exact Record.has_iff.mpr (has.resolve_left (optional other inside needed))
  · rintro ⟨given, rest, is, gathers, rfl⟩
    refine ⟨.take named known is gathers.takes, ?_, fun other inside needed => ?_⟩
    · exact List.nodup_cons.mpr ⟨gathers.takes.not_mem_names missing, gathers.distinct⟩
    · rw [Record.has_iff, List.map_cons]
      exact List.mem_cons_of_mem _ (Record.has_iff.mp (gathers.required other inside needed))

end

/-! ## Without names -/

section

variable {shape : RecordShape} {gone due : List Field} {given : Record}
  {members : List (RawText × Tree)}

/-- Nothing is missing at the end of an array, if what is still due may be missing. -/
theorem Json.recordOfItems_nil (optional : ∀ field ∈ due, field.required = false) :
    recordOfItems shape due [] true = .ok [] := by
  induction due with
  | nil => rfl
  | cons field due ih =>
    obtain ⟨here, optional⟩ := List.forall_mem_cons.mp optional
    simp only [recordOfItems, closing, if_true, here, Bool.false_eq_true, if_false]
    exact ih optional

/-- What is given by name is complete, if what is still due may be missing. -/
theorem RecordShape.complete_of_names (fields : shape.fields = gone ++ due)
    (names : given.map Prod.fst = gone.map Field.name)
    (optional : ∀ field ∈ due, field.required = false) : shape.complete given = .ok given := by
  refine complete_eq_ok_iff.mpr ⟨fun field inside required => ?_, rfl⟩
  rw [fields, List.mem_append] at inside
  rcases inside with inside | inside
  · rw [Record.has_iff, names]
    exact List.mem_map_of_mem inside
  · rw [optional field inside] at required
    cases required

/-- **Members in the order of declaration need no names**: behind the fields that are gone, what is
decoded off an object is decoded off the array of the values, and the fault is the same if there is
one. -/
theorem Json.recordOfMembers_eq_recordOfItems (fields : shape.fields = gone ++ due)
    (distinct : (shape.fields.map Field.name).Nodup)
    (names : given.map Prod.fst = gone.map Field.name)
    (inOrder : members.map (fun member => member.1.text?) <+: due.map fun field => some field.name)
    (enough : ∀ field ∈ due.drop members.length, field.required = false) :
    recordOfMembers shape given members true =
      (recordOfItems shape due (members.map Prod.snd) true).map (given ++ ·) := by
  induction members generalizing gone due given with
  | nil =>
    have step : recordOfMembers shape given [] true = shape.complete given := rfl
    have optional : ∀ field ∈ due, field.required = false := enough
    rw [step, RecordShape.complete_of_names fields names optional, List.map_nil,
      recordOfItems_nil optional]
    simp [Except.map]
  | cons member members ih =>
    obtain ⟨raw, value⟩ := member
    cases due with
    | nil => simp at inOrder
    | cons field due =>
      simp only [List.map_cons, List.cons_prefix_cons] at inOrder
      have known : shape.field? field.name = some field :=
        RecordShape.field?_of_mem distinct (by simp [fields])
      have fresh : given.has field.name = false := by
        refine Record.has_eq_false fun inside => ?_
        rw [fields, List.map_append, List.nodup_append] at distinct
        rw [names] at inside
        exact distinct.2.2 field.name inside field.name (by simp) rfl
      simp only [recordOfMembers, recordOfItems, List.map_cons, inOrder.1, known, fresh,
        Bool.false_eq_true, if_false]
      cases value.decode field.kind with
      | error fault => rfl
      | ok value =>
        have rest := @ih (gone ++ [field]) due (given ++ [(field.name, value)])
          (by rw [fields, List.append_assoc, List.singleton_append]) (by simp [names]) inOrder.2
          enough
        dsimp only
        rw [rest]
        cases recordOfItems shape due (members.map Prod.snd) true <;> simp [Except.map]

end

end GatewayRouting
