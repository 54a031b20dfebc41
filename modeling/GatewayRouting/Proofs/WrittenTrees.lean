import GatewayRouting.Json.Tree
import GatewayRouting.Proofs.WrittenTokens

/-!
# Trees that were written are read

The tokens of a tree (`Tree.tokens`) are built into that tree again, whatever is open around it, if
every array and object in it is closed (`Tree.Builds.array`, `Tree.Builds.object`). So the tree is
read from any text that is read as its tokens (`Tree.Builds.read_of_scans`).

A tree is *written* if it is of that sort and its numbers and texts are as `Numeral.ofInt` and
`RawText.ofChars` write them. Both layouts of it are read as the tree, with nothing left over
(`Tree.Written.read_compact`, `Tree.Written.read_pretty`).
-/

namespace GatewayRouting
namespace Json

/-! ## The tokens of a tree -/

/-- Groups of tokens with a comma between any two. -/
def separated : List (List Token) → List Token
  | [] => []
  | group :: groups => group ++ groups.flatMap (.comma :: ·)

mutual

/-- The tokens of a tree. -/
def Tree.tokens : Tree → List Token
  | .null => [.null]
  | .bool value => [.bool value]
  | .number numeral => [.number numeral]
  | .string raw => [.string raw]
  | .array items _ => .openArray :: separated (itemTokens items) ++ [.closeArray]
  | .object members _ => .openObject :: separated (memberTokens members) ++ [.closeObject]
  | .broken => [.bad]

/-- The tokens of each item. -/
def itemTokens : List Tree → List (List Token)
  | [] => []
  | item :: items => item.tokens :: itemTokens items

/-- The tokens of each member. -/
def memberTokens : List (RawText × Tree) → List (List Token)
  | [] => []
  | (name, value) :: members =>
    (.string name :: .colon :: value.tokens) :: memberTokens members

end

theorem itemTokens_eq_map (items : List Tree) : itemTokens items = items.map Tree.tokens := by
  induction items with
  | nil => rfl
  | cons item items ih => rw [itemTokens, ih, List.map_cons]

theorem memberTokens_eq_map (members : List (RawText × Tree)) :
    memberTokens members =
      members.map fun member => .string member.1 :: .colon :: member.2.tokens := by
  induction members with
  | nil => rfl
  | cons member members ih => rw [memberTokens, ih, List.map_cons]

/-- The trees that are written. -/
inductive Tree.Written : Tree → Prop where
  | null : Written .null
  | bool (value : Bool) : Written (.bool value)
  | number (i : Int) : Written (.number (.ofInt i))
  | string (text : List Char) : Written (.string (.ofChars text))
  | array {items : List Tree} (each : ∀ item ∈ items, item.Written) : Written (.array items true)
  | object {members : List (RawText × Tree)}
      (names : ∀ member ∈ members, ∃ text, member.1 = .ofChars text)
      (values : ∀ member ∈ members, member.2.Written) : Written (.object members true)

/-- A tree has a first token, and it does not close an array. -/
theorem Tree.tokens_eq_cons (tree : Tree) :
    ∃ token tokens, tree.tokens = token :: tokens ∧ token ≠ .closeArray := by
  cases tree with
  | null | bool | number | string | broken => exact ⟨_, [], rfl, nofun⟩
  | array => exact ⟨.openArray, _, rfl, nofun⟩
  | object => exact ⟨.openObject, _, rfl, nofun⟩

/-! ## Reading tokens -/

/-- Reading goes on behind a complete value. -/
def resume (value : Tree) : List Frame → List Token → Reading
  | [], rest => ⟨value, rest.isEmpty⟩
  | .array items :: frames, rest => build .separator (.array (value :: items) :: frames) rest
  | .object members :: frames, rest => build .separator (.object members :: frames) rest
  | .member members name :: frames, rest =>
    build .separator (.object ((name, value) :: members) :: frames) rest

/-- A token that completes a value. -/
theorem build_deliver {expected : Expected} {frames : List Frame} (inner : List Frame)
    {token : Token} {value : Tree}
    (move : Move.ofToken expected frames token = .deliver value inner)
    (rest : List Token) : build expected frames (token :: rest) = resume value inner rest := by
  rw [build, move]
  cases inner with
  | nil => rfl
  | cons frame frames => cases frame <;> rfl

/-- What starts a value may as well be the first item of an array. -/
theorem build_firstItem {token : Token} (h : token ≠ .closeArray) (frames : List Frame)
    (rest : List Token) :
    build .firstItem (.array [] :: frames) (token :: rest) =
      build .value (.array [] :: frames) (token :: rest) := by
  have same : Move.ofToken .firstItem (.array [] :: frames) token =
      Move.ofToken .value (.array [] :: frames) token := by
    cases token <;> first | rfl | exact absurd rfl h
  rw [build, build, same]

/-- What a reader makes of the tokens of a tree where a value is due. -/
def Tree.Builds (tree : Tree) : Prop :=
  ∀ frames rest, build .value frames (tree.tokens ++ rest) = resume tree frames rest

/-- The items behind the first one, and the end of the array. -/
theorem build_items {items : List Tree} (each : ∀ item ∈ items, item.Builds) (sofar : List Tree)
    (frames : List Frame) (rest : List Token) :
    build .separator (.array sofar :: frames)
        ((itemTokens items).flatMap (.comma :: ·) ++ .closeArray :: rest) =
      resume (.array (sofar.reverse ++ items) true) frames rest := by
  induction items generalizing sofar with
  | nil =>
    rw [List.append_nil]
    exact build_deliver frames rfl rest
  | cons item items ih =>
    calc build .separator (.array sofar :: frames)
          ((itemTokens (item :: items)).flatMap (.comma :: ·) ++ .closeArray :: rest)
      _ = build .value (.array sofar :: frames)
          (item.tokens ++ ((itemTokens items).flatMap (.comma :: ·) ++ .closeArray :: rest)) := by
        simp only [itemTokens, List.flatMap_cons, List.cons_append, List.append_assoc]
        rfl
      _ = build .separator (.array (item :: sofar) :: frames)
          ((itemTokens items).flatMap (.comma :: ·) ++ .closeArray :: rest) :=
        each item (by simp) _ _
      _ = resume (.array (sofar.reverse ++ item :: items) true) frames rest := by
        rw [ih (fun item member => each item (by simp [member]))]
        simp

/-- A member where a name is due. -/
theorem build_member {expected : Expected} (due : expected = .firstName ∨ expected = .name)
    {value : Tree} (builds : value.Builds) (sofar : List (RawText × Tree)) (name : RawText)
    (frames : List Frame) (rest : List Token) :
    build expected (.object sofar :: frames) (.string name :: .colon :: value.tokens ++ rest) =
      build .separator (.object ((name, value) :: sofar) :: frames) rest := by
  have entered : build expected (.object sofar :: frames)
      (.string name :: .colon :: value.tokens ++ rest) =
      build .value (.member sofar name :: frames) (value.tokens ++ rest) := by
    obtain rfl | rfl := due <;> rfl
  rw [entered, builds]
  rfl

/-- The members behind the first one, and the end of the object. -/
theorem build_members {members : List (RawText × Tree)}
    (each : ∀ member ∈ members, member.2.Builds) (sofar : List (RawText × Tree))
    (frames : List Frame) (rest : List Token) :
    build .separator (.object sofar :: frames)
        ((memberTokens members).flatMap (.comma :: ·) ++ .closeObject :: rest) =
      resume (.object (sofar.reverse ++ members) true) frames rest := by
  induction members generalizing sofar with
  | nil =>
    rw [List.append_nil]
    exact build_deliver frames rfl rest
  | cons member members ih =>
    obtain ⟨name, value⟩ := member
    calc build .separator (.object sofar :: frames)
          ((memberTokens ((name, value) :: members)).flatMap (.comma :: ·) ++ .closeObject :: rest)
      _ = build .name (.object sofar :: frames) (.string name :: .colon :: value.tokens ++
          ((memberTokens members).flatMap (.comma :: ·) ++ .closeObject :: rest)) := by
        simp only [memberTokens, List.flatMap_cons, List.cons_append, List.append_assoc]
        rfl
      _ = build .separator (.object ((name, value) :: sofar) :: frames)
          ((memberTokens members).flatMap (.comma :: ·) ++ .closeObject :: rest) :=
        build_member (.inr rfl) (each (name, value) (by simp)) _ _ _ _
      _ = resume (.object (sofar.reverse ++ (name, value) :: members) true) frames rest := by
        rw [ih (fun member inside => each member (by simp [inside]))]
        simp

/-- The tokens of an array, if those of the items are built into the items. -/
theorem Tree.Builds.array {items : List Tree} (each : ∀ item ∈ items, item.Builds) :
    (Tree.array items true).Builds := by
  intro frames rest
  cases items with
  | nil => exact build_deliver frames rfl rest
  | cons item items =>
    obtain ⟨token, tokens, first, notClosing⟩ := item.tokens_eq_cons
    calc Json.build .value frames ((Tree.array (item :: items) true).tokens ++ rest)
      _ = Json.build .firstItem (.array [] :: frames) (item.tokens ++
          ((itemTokens items).flatMap (.comma :: ·) ++ .closeArray :: rest)) := by
        simp only [Tree.tokens, itemTokens, separated, List.cons_append, List.append_assoc,
          List.nil_append]
        rfl
      _ = Json.build .value (.array [] :: frames) (item.tokens ++
          ((itemTokens items).flatMap (.comma :: ·) ++ .closeArray :: rest)) := by
        rw [first]
        exact build_firstItem notClosing _ _
      _ = Json.build .separator (.array [item] :: frames)
          ((itemTokens items).flatMap (.comma :: ·) ++ .closeArray :: rest) :=
        each item (by simp) _ _
      _ = resume (.array (item :: items) true) frames rest :=
        build_items (fun item member => each item (by simp [member])) [item] frames rest

/-- The tokens of an object, if those of the values are built into the values. -/
theorem Tree.Builds.object {members : List (RawText × Tree)}
    (each : ∀ member ∈ members, member.2.Builds) : (Tree.object members true).Builds := by
  intro frames rest
  cases members with
  | nil => exact build_deliver frames rfl rest
  | cons member members =>
    obtain ⟨name, value⟩ := member
    calc Json.build .value frames ((Tree.object ((name, value) :: members) true).tokens ++ rest)
      _ = Json.build .firstName (.object [] :: frames) (.string name :: .colon :: value.tokens ++
          ((memberTokens members).flatMap (.comma :: ·) ++ .closeObject :: rest)) := by
        simp only [Tree.tokens, memberTokens, separated, List.cons_append, List.append_assoc,
          List.nil_append]
        rfl
      _ = Json.build .separator (.object [(name, value)] :: frames)
          ((memberTokens members).flatMap (.comma :: ·) ++ .closeObject :: rest) :=
        build_member (.inl rfl) (each (name, value) (by simp)) _ _ _ _
      _ = resume (.object ((name, value) :: members) true) frames rest :=
        build_members (fun member inside => each member (by simp [inside])) [(name, value)]
          frames rest

/-- The tokens of a written tree are built into the tree. -/
theorem Tree.Written.build {tree : Tree} (written : tree.Written) : tree.Builds := by
  induction written with
  | null | bool | number | string => exact fun frames rest => build_deliver frames rfl rest
  | array _ ih => exact .array ih
  | object _ _ ih => exact .object ih

/-! ## Reading text -/

/-- Tokens that may follow any value. -/
structure Follows (tokens : List Token) : Prop where
  /-- they can be read -/
  readable : Readable tokens
  /-- the first one is no number -/
  other : ∀ next ∈ tokens.head?, next.isNumber = false

theorem Follows.nil : Follows [] := ⟨.nil, nofun⟩

theorem Follows.cons {token : Token} {tokens : List Token} (written : token.Written)
    (other : token.isNumber = false) (rest : Readable tokens) : Follows (token :: tokens) :=
  ⟨.cons_other written other rest, by rintro next ⟨⟩; exact other⟩

/-- Groups that are readable before whatever may follow a value are so with commas between them. -/
theorem readable_separated {groups : List (List Token)}
    (each : ∀ group ∈ groups, ∀ rest, Follows rest → Readable (group ++ rest))
    {rest : List Token} (follows : Follows rest) : Readable (separated groups ++ rest) := by
  have later {groups : List (List Token)}
      (each : ∀ group ∈ groups, ∀ rest, Follows rest → Readable (group ++ rest)) :
      Follows (groups.flatMap (.comma :: ·) ++ rest) := by
    induction groups with
    | nil => exact follows
    | cons group groups ih =>
      rw [List.flatMap_cons, List.append_assoc]
      exact .cons .comma rfl
        (each group (by simp) _ (ih fun group member => each group (by simp [member])))
  cases groups with
  | nil => exact follows.readable
  | cons group groups =>
    rw [separated, List.append_assoc]
    exact each group (by simp) _ (later fun group member => each group (by simp [member]))

/-- The tokens of a written tree are readable before whatever may follow a value. -/
theorem Tree.Written.readable {tree : Tree} (written : tree.Written) {rest : List Token}
    (follows : Follows rest) : Readable (tree.tokens ++ rest) := by
  induction written generalizing rest with
  | null => exact .cons_other .null rfl follows.readable
  | bool value => exact .cons_other (.bool value) rfl follows.readable
  | number i => exact .cons (.number i) (fun _ => follows.other) follows.readable
  | string text => exact .cons_other (.string text) rfl follows.readable
  | @array items each ih =>
    have groups : ∀ group ∈ itemTokens items, ∀ rest, Follows rest → Readable (group ++ rest) := by
      intro group listed rest follows
      obtain ⟨item, member, rfl⟩ := List.mem_map.mp (itemTokens_eq_map items ▸ listed)
      exact ih item member follows
    rw [Tree.tokens, List.append_assoc]
    exact .cons_other .openArray rfl
      (readable_separated groups (.cons .closeArray rfl follows.readable))
  | @object members names values ih =>
    have groups : ∀ group ∈ memberTokens members, ∀ rest, Follows rest →
        Readable (group ++ rest) := by
      intro group listed rest follows
      obtain ⟨member, inside, rfl⟩ := List.mem_map.mp (memberTokens_eq_map members ▸ listed)
      obtain ⟨text, name⟩ := names member inside
      rw [name]
      exact .cons_other (.string text) rfl
        (.cons_other .colon rfl (ih member inside follows))
    rw [Tree.tokens, List.append_assoc]
    exact .cons_other .openObject rfl
      (readable_separated groups (.cons .closeObject rfl follows.readable))

/-- A tree is read from a text that is read as its tokens, if these are built into it. -/
theorem Tree.Builds.read_of_scans {tree : Tree} (builds : tree.Builds) {text : List Char}
    (scans : Scans text tree.tokens) : read text = ⟨tree, true⟩ := by
  have built := builds [] []
  rw [List.append_nil] at built
  rw [read, scans.scan, built]
  rfl

/-- A written tree is read from its tokens with nothing between them. -/
theorem Tree.Written.read_compact {tree : Tree} (written : tree.Written) :
    read (compact tree.tokens) = ⟨tree, true⟩ := by
  have readable := written.readable .nil
  rw [List.append_nil] at readable
  exact written.build.read_of_scans (laid_compact readable).scans

/-- A written tree is read from its tokens on lines. -/
theorem Tree.Written.read_pretty {tree : Tree} (written : tree.Written) :
    read (pretty tree.tokens) = ⟨tree, true⟩ := by
  have readable := written.readable .nil
  rw [List.append_nil] at readable
  exact written.build.read_of_scans (laid_pretty readable).scans

end Json
end GatewayRouting
