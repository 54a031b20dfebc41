import GatewayRouting.Pattern
import Mathlib.Data.List.DropRight

/-!
# The grammar of path patterns

Whether a pattern accepts a path is decided from left to right. Here is what is decided: the least
relation between the segments of both (`Pattern.Fits`), where a segment that is written out stands
for itself, a parameter or a wildcard for any segment that is not empty, and a wildcard in the last
place for one segment or more. The decision agrees with it on all texts
(`accepts_exactly_grammar`).

The segments are the pieces between slashes without the empty ones at the two ends
(`segments_eq_innerPieces`), so slashes at the ends of a text have no say, however many there are.
Inside a path an empty piece is a segment, and only an empty segment of a pattern stands for it.
-/

namespace GatewayRouting

/-! ## Pieces -/

theorem splitOn_slash_cons (text : List Char) :
    ('/' :: text).splitOn '/' = [] :: text.splitOn '/' := by
  simp [List.splitOn, List.splitOnP_cons_eq_if_modifyHead]

/-- The pieces of the text in front of a slash, and of what starts behind it. -/
theorem splitOn_append_slash (before after : List Char) :
    (before ++ '/' :: after).splitOn '/' = before.splitOn '/' ++ after.splitOn '/' :=
  List.splitOnP_append_cons before after (beq_self_eq_true '/')

/-- A text that starts with another character starts with a piece that is not empty. -/
theorem splitOn_cons_of_ne {c : Char} (other : c ≠ '/') (text : List Char) :
    ∃ piece pieces, text.splitOn '/' = piece :: pieces ∧
      (c :: text).splitOn '/' = (c :: piece) :: pieces := by
  rcases split : text.splitOn '/' with _ | ⟨piece, pieces⟩
  · exact absurd split (List.splitOnP_ne_nil _ _)
  · refine ⟨piece, pieces, rfl, ?_⟩
    rw [List.splitOn] at split
    simp [List.splitOn, List.splitOnP_cons_eq_if_modifyHead, other, split]

theorem piecesBetweenSlashes_eq_splitOn (text : List Char) :
    piecesBetweenSlashes text = text.splitOn '/' := by
  induction text with
  | nil => rfl
  | cons c rest ih =>
    rw [piecesBetweenSlashes, ih]
    by_cases slash : c = '/'
    · rw [if_pos slash, slash, splitOn_slash_cons]
    · obtain ⟨piece, pieces, whole, split⟩ := splitOn_cons_of_ne slash rest
      rw [if_neg slash, whole, split]

/-- Pieces without the empty ones at the two ends. -/
def withoutEmptyEnds (pieces : List Segment) : List Segment :=
  (pieces.dropWhile List.isEmpty).rdropWhile List.isEmpty

/-- The pieces of a text between slashes, without the empty ones at its two ends. -/
def innerPieces (text : String) : List Segment :=
  withoutEmptyEnds (text.toList.splitOn '/')

theorem withoutEmptyEnds_cons (pieces : List Segment) :
    withoutEmptyEnds ([] :: pieces) = withoutEmptyEnds pieces := rfl

theorem withoutEmptyEnds_concat (pieces : List Segment) :
    withoutEmptyEnds (pieces ++ [[]]) = withoutEmptyEnds pieces := by
  rw [withoutEmptyEnds, withoutEmptyEnds, List.dropWhile_append]
  split
  · next allEmpty =>
    have gone : pieces.dropWhile List.isEmpty = [] := by simpa using allEmpty
    simp [gone]
  · exact List.rdropWhile_concat_pos _ _ _ rfl

/-! ### Cutting a text off is cutting pieces off -/

/-- The pieces of a text, of which there are none if it is empty. -/
def piecesOf (text : List Char) : List Segment :=
  if text = [] then [] else text.splitOn '/'

theorem splitOn_concat_slash (text : List Char) :
    (text ++ ['/']).splitOn '/' = text.splitOn '/' ++ [[]] :=
  List.splitOnP_append_cons text [] (beq_self_eq_true '/')

/-- A text that ends with another character ends with a piece that is not empty. -/
theorem splitOn_concat_of_ne {c : Char} (other : c ≠ '/') (text : List Char) :
    ∃ pieces piece, (text ++ [c]).splitOn '/' = pieces ++ [piece ++ [c]] := by
  induction text with
  | nil => exact ⟨[], [], by simp [List.splitOn, List.splitOnP_cons_eq_if_modifyHead, other]⟩
  | cons first text ih =>
    obtain ⟨pieces, piece, split⟩ := ih
    rw [List.cons_append]
    by_cases slash : first = '/'
    · refine ⟨[] :: pieces, piece, ?_⟩
      rw [slash, splitOn_slash_cons, split]
      rfl
    · obtain ⟨head, others, whole, longer⟩ := splitOn_cons_of_ne slash (text ++ [c])
      rw [split] at whole
      rw [longer]
      cases pieces with
      | nil =>
        obtain ⟨rfl, rfl⟩ := List.cons.inj whole
        exact ⟨[], first :: piece, rfl⟩
      | cons head pieces =>
        obtain ⟨rfl, rfl⟩ := List.cons.inj whole
        exact ⟨(first :: head) :: pieces, piece, rfl⟩

theorem dropWhile_splitOn (text : List Char) :
    (text.splitOn '/').dropWhile List.isEmpty = piecesOf (text.dropWhile (· == '/')) := by
  induction text with
  | nil => rfl
  | cons c rest ih =>
    by_cases slash : c = '/'
    · subst slash
      rw [splitOn_slash_cons]
      exact ih
    · obtain ⟨piece, pieces, -, split⟩ := splitOn_cons_of_ne slash rest
      rw [List.dropWhile_cons_of_neg (by simpa using slash), piecesOf, if_neg (by simp), split]
      rfl

theorem rdropWhile_splitOn (text : List Char) :
    (text.splitOn '/').rdropWhile List.isEmpty = piecesOf (text.rdropWhile (· == '/')) := by
  induction text using List.reverseRecOn with
  | nil => rfl
  | append_singleton rest c ih =>
    by_cases slash : c = '/'
    · subst slash
      rw [splitOn_concat_slash, List.rdropWhile_concat_pos _ _ _ rfl, ih,
        List.rdropWhile_concat_pos _ _ _ rfl]
    · obtain ⟨pieces, piece, split⟩ := splitOn_concat_of_ne slash rest
      rw [List.rdropWhile_concat_neg _ _ _ (by simpa using slash), piecesOf, if_neg (by simp),
        split]
      exact List.rdropWhile_concat_neg _ _ _ (by simp)

/-- The segments of a path are its pieces without the empty ones at its two ends. -/
theorem segments_eq_innerPieces (path : String) : segments path = innerPieces path := by
  have trimmed : segments path = piecesOf (trimSlashes path.toList) := by
    unfold segments piecesOf
    split
    · next empty => rw [empty, if_pos rfl]
    · next some => rw [if_neg some, piecesBetweenSlashes_eq_splitOn]
  have trims : trimSlashes path.toList =
      (path.toList.dropWhile (· == '/')).rdropWhile (· == '/') := rfl
  rw [trimmed, trims, innerPieces, withoutEmptyEnds, dropWhile_splitOn]
  generalize path.toList.dropWhile (· == '/') = text
  by_cases empty : text = []
  · subst empty
    rfl
  · rw [← rdropWhile_splitOn, piecesOf, if_neg empty]

/-! ### Slashes at the ends -/

/-- A number of slashes. -/
def slashes (n : Nat) : String :=
  String.ofList (List.replicate n '/')

theorem withoutEmptyEnds_between_slashes (m n : Nat) (text : List Char) :
    withoutEmptyEnds ((List.replicate m '/' ++ text ++ List.replicate n '/').splitOn '/') =
      withoutEmptyEnds (text.splitOn '/') := by
  induction m with
  | zero =>
    rw [List.replicate_zero, List.nil_append]
    induction n with
    | zero => rw [List.replicate_zero, List.append_nil]
    | succ n ih =>
      rw [List.replicate_succ', ← List.append_assoc, splitOn_concat_slash,
        withoutEmptyEnds_concat, ih]
  | succ m ih =>
    rw [List.replicate_succ, List.cons_append, List.cons_append, splitOn_slash_cons,
      withoutEmptyEnds_cons, ih]

theorem innerPieces_between_slashes (m n : Nat) (text : String) :
    innerPieces (slashes m ++ text ++ slashes n) = innerPieces text := by
  simp only [innerPieces, slashes, String.toList_append, String.toList_ofList]
  exact withoutEmptyEnds_between_slashes m n text.toList

/-! ## Segments -/

namespace Segment

/-- The segments that stand for any other one. -/
inductive Parameter : Segment → Prop where
  /-- a colon with something after it -/
  | colon {name : List Char} (named : name ≠ []) : Parameter (':' :: name)
  /-- braces with something between them -/
  | braces {name : List Char} (named : name ≠ []) : Parameter ('{' :: name ++ ['}'])

theorem isParameter_iff (s : Segment) : s.isParameter = true ↔ s.Parameter := by
  constructor
  · intro parameter
    simp only [isParameter, Bool.or_eq_true, Bool.and_eq_true, beq_iff_eq, decide_eq_true_eq,
      List.head?_eq_some_iff] at parameter
    rcases parameter with ⟨⟨name, rfl⟩, long⟩ | ⟨⟨⟨rest, rfl⟩, closes⟩, long⟩
    · refine .colon ?_
      rintro rfl
      simp at long
    · -- what closes the braces is not what opens them, as there are three characters at least
      rcases List.eq_nil_or_concat' rest with rfl | ⟨name, last, rfl⟩
      · simp at long
      · rw [← List.cons_append, List.getLast?_concat] at closes
        obtain rfl : last = '}' := Option.some.inj closes
        refine .braces ?_
        rintro rfl
        simp at long
  · intro parameter
    cases parameter with
    | colon named =>
      have long := List.length_pos_iff.mpr named
      simp [isParameter, long]
    | braces named =>
      have long := List.length_pos_iff.mpr named
      have closes : ∀ name : List Char, ('{' :: name ++ ['}']).getLast? = some '}' :=
        fun name => List.getLast?_concat
      simp only [isParameter, closes]
      simp
      omega

/-- What a segment of a pattern stands for. -/
inductive StandsFor (expected actual : Segment) : Prop where
  /-- a parameter or a wildcard stands for any segment that is not empty -/
  | any (free : expected.Parameter ∨ expected = wildcard) (some : actual ≠ [])
  /-- any other segment stands for itself -/
  | itself (closed : ¬ (expected.Parameter ∨ expected = wildcard)) (same : expected = actual)

theorem accepts_iff (expected actual : Segment) :
    expected.accepts actual = true ↔ expected.StandsFor actual := by
  have isOpen : (expected.isParameter || expected == wildcard) = true ↔
      expected.Parameter ∨ expected = wildcard := by
    rw [Bool.or_eq_true, isParameter_iff, beq_iff_eq]
  unfold accepts
  split
  · next any =>
    constructor
    · intro some
      exact .any (isOpen.mp any) (by simpa using some)
    · rintro (⟨-, some⟩ | ⟨closed, -⟩)
      · simpa using some
      · exact absurd (isOpen.mp any) closed
  · next closed =>
    constructor
    · intro same
      exact .itself (fun any => closed (isOpen.mpr any)) (eq_of_beq same)
    · rintro (⟨any, -⟩ | ⟨-, same⟩)
      · exact absurd (isOpen.mpr any) closed
      · exact beq_iff_eq.mpr same

end Segment

/-! ## Patterns -/

namespace Pattern

/-- How the segments of a pattern fit those of a path. -/
inductive Fits : List Segment → List Segment → Prop where
  /-- nothing fits nothing -/
  | nil : Fits [] []
  /-- a wildcard in the last place fits all that is left, if that is something -/
  | rest {path : List Segment} (some : path ≠ []) : Fits [Segment.wildcard] path
  /-- any other segment fits what it stands for -/
  | cons {expected actual : Segment} {pattern path : List Segment} (tail : Fits pattern path)
    (notLast : expected :: pattern ≠ [Segment.wildcard]) (here : expected.StandsFor actual) :
    Fits (expected :: pattern) (actual :: path)

theorem fits_nil_iff (path : List Segment) : Fits [] path ↔ path = [] := by
  constructor
  · rintro ⟨⟩
    rfl
  · rintro rfl
    exact .nil

theorem fits_wildcard_iff (path : List Segment) : Fits [Segment.wildcard] path ↔ path ≠ [] := by
  constructor
  · intro fits
    cases fits with
    | rest some => exact some
    | cons => exact List.cons_ne_nil _ _
  · exact .rest

theorem fits_cons_iff {expected : Segment} {pattern : List Segment}
    (notLast : expected :: pattern ≠ [Segment.wildcard]) (path : List Segment) :
    Fits (expected :: pattern) path ↔
      ∃ actual rest, path = actual :: rest ∧ expected.StandsFor actual ∧ Fits pattern rest := by
  constructor
  · intro fits
    cases fits with
    | rest => exact absurd rfl notLast
    | cons tail _ here => exact ⟨_, _, rfl, here, tail⟩
  · rintro ⟨actual, rest, rfl, here, tail⟩
    exact .cons tail notLast here

/-- The decision from left to right is the grammar's. -/
theorem acceptsAll_iff (pattern path : List Segment) :
    acceptsAll pattern path = true ↔ Fits pattern path := by
  induction pattern generalizing path with
  | nil => rw [acceptsAll, List.isEmpty_iff, fits_nil_iff]
  | cons expected pattern ih =>
    rw [acceptsAll.eq_def]
    dsimp only
    by_cases last : expected :: pattern = [Segment.wildcard]
    · obtain ⟨rfl, rfl⟩ := List.cons.inj last
      rw [fits_wildcard_iff]
      simp
    · have other : (expected == Segment.wildcard && pattern.isEmpty) = false := by
        by_contra both
        simp only [Bool.not_eq_false, Bool.and_eq_true, beq_iff_eq, List.isEmpty_iff] at both
        exact last (by rw [both.1, both.2])
      rw [fits_cons_iff last, other, if_neg Bool.false_ne_true]
      cases path with
      | nil => simp
      | cons actual path => simp [Segment.accepts_iff, ih]

end Pattern

/-- **The decision is the grammar's.** For every pattern and every path, both in any form: the
pattern accepts the path exactly if the pieces of the one fit those of the other, where empty pieces
at the ends do not count. So it makes no difference how many slashes stand at either end of either
of them. -/
theorem accepts_exactly_grammar (pattern path : String) :
    (Pattern.accepts pattern path = true ↔
      Pattern.Fits (innerPieces pattern) (innerPieces path)) ∧
    ∀ before after before' after' : Nat,
      Pattern.accepts (slashes before ++ pattern ++ slashes after)
          (slashes before' ++ path ++ slashes after') =
        Pattern.accepts pattern path := by
  constructor
  · rw [Pattern.accepts, Pattern.acceptsAll_iff, segments_eq_innerPieces, segments_eq_innerPieces]
  · intro before after before' after'
    simp only [Pattern.accepts, segments_eq_innerPieces, innerPieces_between_slashes]

/-- Only a wildcard in the last place stands for several segments, and for one at least. -/
example : (["/a/b", "/a/b/c", "/a/", "/a//", "/a//b", "/a"].map (Pattern.accepts "/a/*")) =
    [true, true, false, false, true, false] := by decide

end GatewayRouting
