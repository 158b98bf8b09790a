import Mathlib.Data.List.TakeDrop
import TickScript.Proofs.Computing

/-
  Searching and cutting texts.

  A search finds a place among the bytes of a text, and a slice is cut by counting characters.  The two meet
  in a division of the text, which has a length in characters and ends at one place:

    Occurs                 the needle stands after so many characters
    Finds                  an answer is the first such position, or there is none
    charIndex_of_splits    the characters before the place of a division
    finds_of_matchesAt     a search that matches where the needle follows finds its first position
    finds_text, finds_char the two searches
    occurs_slice           what is cut out occurs where the cut begins
    slice_of_occurs        and what occurs can be cut out
    search_consistent      the instructions
-/

namespace TickScript

namespace Text

open String.Slice.Pattern
open String.Slice.Pattern.Model

variable {text needle : String}

/-! ## Positions -/

/-- The needle stands in the text with that many characters before it. -/
def Occurs (text needle : String) (index : Nat) : Prop :=
  ∃ before after : String, text = before ++ (needle ++ after) ∧ before.length = index

/-- An answer to a search: the first position of the needle, or that there is none. -/
def Finds (text needle : String) : Option Nat → Prop
  | some index => Occurs text needle index ∧ ∀ earlier < index, ¬ Occurs text needle earlier
  | none => ∀ index, ¬ Occurs text needle index

theorem Finds.unique {a b : Option Nat} (ha : Finds text needle a) (hb : Finds text needle b) : a = b := by
  cases a with
  | none =>
    cases b with
    | none => rfl
    | some j => exact absurd hb.1 (ha j)
  | some i =>
    cases b with
    | none => exact absurd ha.1 (hb i)
    | some j =>
      have notAfter : ¬ i < j := fun before => hb.2 i before ha.1
      have notBefore : ¬ j < i := fun before => ha.2 j before hb.1
      exact congrArg some (by omega)

/-- The position of a place is the length of what is before it. -/
theorem charIndex_of_splits {place : text.Pos} {before after : String} (h : place.Splits before after) :
    charIndex place = before.length := by
  unfold charIndex
  rw [← Std.Iter.length_toList_eq_length, String.Slice.toList_chars, h.copy_sliceTo_eq,
    String.length_toList]

theorem exists_splits (before after : String) :
    ∃ place : (before ++ after).Pos, place.Splits before after :=
  ⟨⟨before.rawEndPos, String.Pos.Raw.isValid_iff_exists_append.2 ⟨before, after, rfl, rfl⟩⟩, rfl, rfl⟩

/-- An earlier place has a smaller position. -/
theorem charIndex_lt {place place' : text.Pos} (h : place < place') :
    charIndex place < charIndex place' := by
  obtain ⟨between, nonempty, split, -⟩ := (place.splits.lt_iff_exists_eq_append place'.splits).1 h
  have length : between.length ≠ 0 := fun zero => nonempty (String.length_eq_zero_iff.1 zero)
  rw [charIndex_of_splits place.splits, charIndex_of_splits place'.splits, split, String.length_append]
  omega

/-- Positions tell places apart, so the first place has the first position. -/
theorem lt_of_charIndex_lt {place place' : text.Pos} (h : charIndex place < charIndex place') :
    place < place' := by
  by_contra notBefore
  rcases Std.le_iff_lt_or_eq.1 (Std.not_lt.1 notBefore) with after | same
  · have := charIndex_lt after
    omega
  · rw [same] at h
    omega

/-! ## Searches -/

/-- A place from which on the needle follows. -/
def FollowedBy (needle : String) (place : text.Pos) : Prop :=
  ∃ before after, place.Splits before (needle ++ after)

theorem occurs_of_followedBy {place : text.Pos} (h : FollowedBy needle place) :
    Occurs text needle (charIndex place) := by
  obtain ⟨before, after, splits⟩ := h
  exact ⟨before, after, splits.eq_append, (charIndex_of_splits splits).symm⟩

theorem exists_followedBy_of_occurs {index : Nat} (h : Occurs text needle index) :
    ∃ place : text.Pos, FollowedBy needle place ∧ charIndex place = index := by
  obtain ⟨before, after, rfl, rfl⟩ := h
  obtain ⟨place, splits⟩ := exists_splits before (needle ++ after)
  exact ⟨place, ⟨before, after, splits⟩, charIndex_of_splits splits⟩

/-- The first place gives the first position. -/
theorem finds_some {place : text.Pos} (found : FollowedBy needle place)
    (first : ∀ earlier < place, ¬ FollowedBy needle earlier) :
    Finds text needle (some (charIndex place)) := by
  refine ⟨occurs_of_followedBy found, fun earlier before occurs => ?_⟩
  obtain ⟨place', found', rfl⟩ := exists_followedBy_of_occurs occurs
  exact first place' (lt_of_charIndex_lt before) found'

theorem finds_none (nowhere : ∀ place : text.Pos, ¬ FollowedBy needle place) :
    Finds text needle none := by
  intro index occurs
  obtain ⟨place, found, -⟩ := exists_followedBy_of_occurs occurs
  exact nowhere place found

/-- A search is right if its pattern matches exactly where the needle follows. -/
theorem finds_of_matchesAt {ρ : Type} (pat : ρ) [PatternModel pat] [StrictPatternModel pat]
    {σ : String.Slice → Type} [∀ s, Std.Iterator (σ s) Id (SearchStep s)]
    [∀ s, Std.Iterators.Finite (σ s) Id] [∀ s, Std.IteratorLoop (σ s) Id Id]
    [∀ s, Std.LawfulIteratorLoop (σ s) Id Id] [ToForwardSearcher pat σ] [LawfulToForwardSearcherModel pat]
    (follows : ∀ {s : String.Slice} {place : s.Pos},
      MatchesAt pat place ↔ ∃ before after, place.Splits before (needle ++ after)) :
    Finds text needle ((text.find? pat).map charIndex) := by
  have here (place : text.Pos) : MatchesAt pat place.toSlice ↔ FollowedBy needle place := by
    rw [follows]
    simp only [String.Pos.splits_toSlice_iff]
    rfl
  rw [String.find?_eq_find?_toSlice]
  cases found : text.toSlice.find? pat with
  | none =>
    have nowhere := (find?_eq_none_iff pat).1 found
    exact finds_none fun place => fun matched => nowhere place.toSlice ((here place).2 matched)
  | some place =>
    obtain ⟨matched, first⟩ := (find?_eq_some_iff pat).1 found
    rw [← String.Slice.Pos.toSlice_ofToSlice place] at matched
    refine finds_some ((here _).1 matched) fun earlier before matched' => ?_
    exact first earlier.toSlice (String.Pos.lt_ofToSlice_iff.1 before) ((here earlier).2 matched')

theorem finds_char (text : String) (c : Char) :
    Finds text (String.singleton c) ((text.find? c).map charIndex) :=
  finds_of_matchesAt c Model.Char.matchesAt_iff_splits

/-- The empty needle is found at the start of every text. -/
theorem find?_empty (text : String) : text.find? "" = some text.startPos := by
  rw [String.find?_eq_find?_toSlice, String.Slice.find?, ← Std.Iter.findSome?_toList,
    ForwardStringSearcher.toSearcher_empty, ForwardSliceSearcher.toList_emptyBefore_eq]
  split <;> rfl

theorem finds_text (text needle : String) : Finds text needle ((text.find? needle).map charIndex) := by
  by_cases empty : needle = ""
  · -- The library's account of searches is about patterns that take up room.
    rw [empty, find?_empty]
    have start := text.splits_startPos
    have zero : charIndex text.startPos = 0 := charIndex_of_splits start
    refine finds_some ⟨"", text, by simp⟩ fun earlier before => ?_
    have := charIndex_lt before
    omega
  · have strict := ForwardStringSearcher.strictPatternModel empty
    have lawful := ForwardStringSearcher.lawfulToForwardSearcherModel empty
    exact finds_of_matchesAt needle ForwardStringSearcher.matchesAt_iff_splits

/-! ## Slices -/

theorem toList_slice (text : String) (first last : Int32) : (slice text first last).toList =
    (text.toList.drop (clampedIndex text.length first)).take
      (clampedIndex text.length last - clampedIndex text.length first) :=
  String.toList_ofList

/-- Whatever the bounds, what is cut out occurs where the cut begins. -/
theorem occurs_slice (text : String) (first last : Int32) :
    Occurs text (slice text first last) (clampedIndex text.length first) := by
  let start := clampedIndex text.length first
  let size := clampedIndex text.length last - start
  have inside : start ≤ text.length := Nat.min_le_right ..
  refine ⟨.ofList (text.toList.take start), .ofList ((text.toList.drop start).drop size),
    String.toList_inj.1 ?_, ?_⟩
  · rw [String.toList_append, String.toList_append, String.toList_ofList, String.toList_ofList,
      toList_slice, List.take_append_drop, List.take_append_drop]
  · rw [String.length_ofList, List.length_take, String.length_toList]
    exact Nat.min_eq_left inside

/-- What occurs at a position is cut out from there to the position that lies its length further. -/
theorem slice_of_occurs {first last : Int32} (occurs : Occurs text needle first.toNatClampNeg)
    (apart : last.toNatClampNeg = first.toNatClampNeg + needle.length) :
    slice text first last = needle := by
  obtain ⟨before, after, rfl, length⟩ := occurs
  have start : clampedIndex (before ++ (needle ++ after)).length first = before.length := by
    unfold clampedIndex
    rw [String.length_append]
    omega
  have size : clampedIndex (before ++ (needle ++ after)).length last - before.length =
      needle.length := by
    unfold clampedIndex
    rw [String.length_append, String.length_append]
    omega
  refine String.toList_inj.1 ?_
  rw [toList_slice, start, size, String.toList_append, String.toList_append,
    List.drop_left' String.length_toList, List.take_left' String.length_toList]

/-- Where nothing occurs up to the first bound, nothing of the kind is cut out, even where the other bound
    has wrapped. -/
theorem slice_ne_of_not_occurs {first : Int32}
    (nowhere : ∀ index ≤ first.toNatClampNeg, ¬ Occurs text needle index) (last : Int32) :
    slice text first last ≠ needle := by
  rintro rfl
  exact nowhere _ (Nat.min_le_left ..) (occurs_slice text first last)

/-- Bounds in order cut like a list, wherever they lie. -/
theorem toList_slice_of_le (text : String) {first last : Int32}
    (inOrder : first.toNatClampNeg ≤ last.toNatClampNeg) : (slice text first last).toList =
      (text.toList.drop first.toNatClampNeg).take (last.toNatClampNeg - first.toNatClampNeg) := by
  have length := String.length_toList (s := text)
  rw [toList_slice]
  unfold clampedIndex
  by_cases inside : first.toNatClampNeg ≤ text.length
  · rw [Nat.min_eq_left inside, List.take_eq_take_iff, List.length_drop]
    omega
  · rw [List.drop_eq_nil_of_le (by omega), List.drop_eq_nil_of_le (by omega), List.take_nil,
      List.take_nil]

/-- Two slices that meet make up the text. -/
theorem slice_append_slice {text : String} {index length : Int32}
    (inside : index.toNatClampNeg ≤ length.toNatClampNeg) (whole : length.toNatClampNeg = text.length) :
    slice text 0 index ++ slice text index length = text := by
  have size : length.toNatClampNeg - index.toNatClampNeg =
      (text.toList.drop index.toNatClampNeg).length := by
    rw [List.length_drop, String.length_toList, whole]
  refine String.toList_inj.1 ?_
  rw [String.toList_append, toList_slice_of_le text (Nat.zero_le _), toList_slice_of_le text inside,
    size, List.take_length]
  exact List.take_append_drop ..

/-! ## Searching and slicing -/

theorem Occurs.add_length_le {index : Nat} (h : Occurs text needle index) :
    index + needle.length ≤ text.length := by
  obtain ⟨before, after, rfl, rfl⟩ := h
  rw [String.length_append, String.length_append]
  omega

theorem toNatClampNeg_mono {a b : Int32} (h : a ≤ b) : a.toNatClampNeg ≤ b.toNatClampNeg :=
  Int.toNat_le_toNat (Int32.le_iff_toInt_le.1 h)

theorem toNatClampNeg_lt_of_lt {a b : Int32} (nonneg : 0 ≤ a) (h : a < b) :
    a.toNatClampNeg < b.toNatClampNeg := by
  have low : 0 ≤ a.toInt := Int32.le_iff_toInt_le.1 nonneg
  have less : a.toInt < b.toInt := Int32.lt_iff_toInt_lt.1 h
  show a.toInt.toNat < b.toInt.toNat
  omega

open Arithmetic (ofLength)

/-- What an int can count is told as it is. -/
theorem ofLength_of_lt {n : Nat} (small : n < 2147483648) :
    0 ≤ ofLength n ∧ (ofLength n).toNatClampNeg = n := by
  refine ⟨Int32.le_iff_toInt_le.2 ?_, Int32.toNatClampNeg_ofNat_of_lt small⟩
  show 0 ≤ (Int32.ofNat n).toInt
  rw [Int32.toInt_ofNat_of_lt small]
  exact Int.natCast_nonneg n

theorem ofLength_add (m n : Nat) : ofLength (m + n) = ofLength m + ofLength n := Int32.ofNat_add m n

/-- A position as an int, or -1 for none. -/
def told (position : Option Nat) : Int32 := (position.map ofLength).getD (-1)

/-- The first int from 0 on from which the needle can be cut out, or -1 if there is no such int. -/
structure FirstSlice (text needle : String) (position : Int32) : Prop where
  first : position ≠ -1 → 0 ≤ position ∧
    slice text position (position + ofLength needle.length) = needle ∧
    ∀ i, 0 ≤ i → i < position → slice text i (i + ofLength needle.length) ≠ needle
  none_iff : position = -1 ↔ ∀ i, 0 ≤ i → slice text i (i + ofLength needle.length) ≠ needle

/-- An int from which the needle is cut out has an occurrence at or before it, so the first position comes
    first among the ints too. -/
theorem Finds.firstSlice {position : Option Nat} (small : text.length < 2147483648)
    (finds : Finds text needle position) : FirstSlice text needle (told position) := by
  cases position with
  | none =>
    refine ⟨fun found => absurd rfl found, fun _ i _ => ?_, fun _ => rfl⟩
    exact slice_ne_of_not_occurs (fun index _ => finds index) _
  | some index =>
    obtain ⟨occurs, earliest⟩ := finds
    have room := occurs.add_length_le
    obtain ⟨nonneg, start⟩ := ofLength_of_lt (show index < 2147483648 by omega)
    obtain ⟨-, stop⟩ := ofLength_of_lt (show index + needle.length < 2147483648 by omega)
    rw [ofLength_add] at stop
    have cut : slice text (ofLength index) (ofLength index + ofLength needle.length) = needle := by
      refine slice_of_occurs ?_ ?_
      · rw [start]
        exact occurs
      · rw [start]
        exact stop
    refine ⟨fun _ => ⟨nonneg, cut, fun i nonneg' before => ?_⟩, fun missing => ?_, fun nowhere => ?_⟩
    · have before' : i.toNatClampNeg < (ofLength index).toNatClampNeg :=
        toNatClampNeg_lt_of_lt nonneg' before
      exact slice_ne_of_not_occurs (fun earlier upTo => earliest earlier (by omega)) _
    · have negative : (0 : Int32) ≤ -1 := missing ▸ nonneg
      exact absurd negative (by decide)
    · exact absurd cut (nowhere _ nonneg)

/-! ## Codes of characters -/

/-- The Unicode scalar values: all code points but the surrogates. -/
def IsScalarValue (code : Int32) : Prop :=
  0 ≤ code.toInt ∧ code.toInt < 0xD800 ∨ 0xE000 ≤ code.toInt ∧ code.toInt < 0x110000

instance (code : Int32) : Decidable (IsScalarValue code) := inferInstanceAs (Decidable (_ ∨ _))

theorem charOf?_eq_some {code : Int32} (h : IsScalarValue code) :
    ∃ c : Char, Op.Text.charOf? code = some c ∧ (c.toNat : Int) = code.toInt := by
  have nonneg : 0 ≤ code.toInt := by
    rcases h with h | h <;> omega
  have notNegative : ¬ code < 0 := Int32.not_lt.2 (Int32.le_iff_toInt_le.2 nonneg)
  have code_eq : (code.toNatClampNeg : Int) = code.toInt := Int.toNat_of_nonneg nonneg
  have valid : code.toNatClampNeg.isValidChar := by
    unfold Nat.isValidChar
    rcases h with h | h <;> omega
  refine ⟨.ofNat code.toNatClampNeg, ?_, ?_⟩
  · unfold Op.Text.charOf? position?
    rw [if_neg notNegative]
    exact if_pos valid
  · rw [Char.ofNat, dif_pos valid]
    exact code_eq

theorem charOf?_eq_none {code : Int32} (h : ¬ IsScalarValue code) : Op.Text.charOf? code = none := by
  unfold Op.Text.charOf? position?
  by_cases negative : code < 0
  · rw [if_pos negative]
    rfl
  · have nonneg : 0 ≤ code.toInt := Int32.le_iff_toInt_le.1 (Int32.not_lt.1 negative)
    have code_eq : (code.toNatClampNeg : Int) = code.toInt := Int.toNat_of_nonneg nonneg
    rw [if_neg negative]
    refine if_neg fun valid => h ?_
    unfold IsScalarValue
    rcases valid with valid | valid <;> omega

end Text

/-! ## The instructions -/

namespace Runner

open Text
open Op (Text.table_listed)
open Op.Text (charOf?)

section Instructions

variable {r : Runner} (standard : r.registry = Op.standard)

include standard

theorem stringLength_yields (text : String) :
    r.Yields .stringLength [.text text] (.int (Arithmetic.ofLength text.length)) :=
  yields_of_listed (h := Op.Text.stringLength) standard Text.table_listed (Op.mem_of_lookup _ rfl)
    fun _ _ => rfl

theorem substring_yields (text : String) (first last : Int32) :
    r.Yields .substring [.text text, .int first, .int last] (.text (slice text first last)) :=
  yields_of_listed (h := Op.Text.substring) standard Text.table_listed (Op.mem_of_lookup _ rfl)
    fun _ _ => rfl

theorem substring_yields_iff (text : String) (first last : Int32) (part : String) :
    r.Yields .substring [.text text, .int first, .int last] (.text part) ↔
      slice text first last = part := by
  have cut := substring_yields standard text first last
  constructor
  · intro yields
    exact Value.text.inj (cut.unique yields)
  · rintro rfl
    exact cut

theorem stringIndexofString_yields (text needle : String) :
    r.Yields .stringIndexofString [.text text, .text needle]
      (.int (told ((text.find? needle).map charIndex))) :=
  yields_of_listed (h := Op.Text.stringIndexofString) standard Text.table_listed
    (Op.mem_of_lookup _ rfl) fun _ _ => rfl

theorem stringIndexofChar_yields (text : String) {code : Int32} {c : Char}
    (value : charOf? code = some c) :
    r.Yields .stringIndexofChar [.text text, .int code] (.int (told ((text.find? c).map charIndex))) := by
  refine yields_of_listed (h := Op.Text.stringIndexofChar) standard Text.table_listed
    (Op.mem_of_lookup _ rfl) fun s ints => ?_
  show (Op.orFail (.badCharCode code) (charOf? code) >>= fun c => do
    Op.Text.pushPosition (((← Op.popString).find? c).map charIndex)) r.env
      (s.pushed ints [.text text]) = _
  rw [value]
  rfl

theorem stringIndexofChar_refuses (text : String) {code : Int32} (missing : charOf? code = none) :
    r.Refuses .stringIndexofChar [.text text, .int code] (.badCharCode code) := by
  refine refuses_of_listed (h := Op.Text.stringIndexofChar) standard Text.table_listed
    (Op.mem_of_lookup _ rfl) fun s ints => ⟨s.pushed ints [.text text], ?_⟩
  show (Op.orFail (.badCharCode code) (charOf? code) >>= fun c => do
    Op.Text.pushPosition (((← Op.popString).find? c).map charIndex)) r.env
      (s.pushed ints [.text text]) = _
  rw [missing]
  rfl

end Instructions

/-- For texts that an int can count, the search for a needle answers with the first int from 0 on from which
    SUBSTRING cuts the needle out, over the length that STRING_LENGTH tells, and with -1 if and only if there
    is none.  The search for a character answers like the search for the needle of that character, for
    the code of every character, and refuses all other codes.

    SUBSTRING has an answer for all bounds.  Bounds from 0 on that are in order drop and keep characters, so
    the parts up to and from any position make up the text. -/
theorem search_consistent (library : Library) (config : Config) (budget : Option UInt32) :
    let r := Runner.standard library config budget
    (∀ text needle : String, text.length < 2147483648 → needle.length < 2147483648 →
      ∃ length position : Int32,
        r.Yields .stringLength [.text needle] (.int length) ∧ length.toInt = needle.length ∧
        r.Yields .stringIndexofString [.text text, .text needle] (.int position) ∧
        (position ≠ -1 → 0 ≤ position ∧
          r.Yields .substring [.text text, .int position, .int (position + length)] (.text needle) ∧
          ∀ i, 0 ≤ i → i < position →
            ¬ r.Yields .substring [.text text, .int i, .int (i + length)] (.text needle)) ∧
        (position = -1 ↔ ∀ i, 0 ≤ i →
          ¬ r.Yields .substring [.text text, .int i, .int (i + length)] (.text needle))) ∧
    (∀ (text : String) (code : Int32),
      (IsScalarValue code → ∃ c : Char, (c.toNat : Int) = code.toInt ∧ ∃ position : Int32,
        r.Yields .stringIndexofChar [.text text, .int code] (.int position) ∧
        r.Yields .stringIndexofString [.text text, .text (.singleton c)] (.int position)) ∧
      (¬ IsScalarValue code →
        r.Refuses .stringIndexofChar [.text text, .int code] (.badCharCode code))) ∧
    (∀ (text : String) (first last : Int32), ∃ part : String,
      r.Yields .substring [.text text, .int first, .int last] (.text part) ∧
      (0 ≤ first → first ≤ last → part.toList =
        (text.toList.drop first.toNatClampNeg).take (last.toNatClampNeg - first.toNatClampNeg))) ∧
    ∀ text : String, text.length < 2147483648 → ∃ length : Int32,
      r.Yields .stringLength [.text text] (.int length) ∧
      ∀ index, 0 ≤ index → index ≤ length → ∃ front rest : String,
        r.Yields .substring [.text text, .int 0, .int index] (.text front) ∧
        r.Yields .substring [.text text, .int index, .int length] (.text rest) ∧
        front ++ rest = text := by
  intro r
  have standard : r.registry = Op.standard := standard_registry library config budget
  refine ⟨fun text needle small small' => ?_, fun text code => ⟨fun scalar => ?_, fun other => ?_⟩,
    fun text first last => ?_, fun text small => ?_⟩
  · obtain ⟨first, none_iff⟩ := (finds_text text needle).firstSlice small
    simp only [substring_yields_iff standard]
    exact ⟨_, _, stringLength_yields standard needle, Int32.toInt_ofNat_of_lt small',
      stringIndexofString_yields standard text needle, first, none_iff⟩
  · obtain ⟨c, value, code_eq⟩ := charOf?_eq_some scalar
    have same : (text.find? c).map charIndex = (text.find? (String.singleton c)).map charIndex :=
      (finds_char text c).unique (finds_text text _)
    refine ⟨c, code_eq, _, stringIndexofChar_yields standard text value, ?_⟩
    rw [same]
    exact stringIndexofString_yields standard text _
  · exact stringIndexofChar_refuses standard text (charOf?_eq_none other)
  · refine ⟨_, substring_yields standard text first last, fun _ inOrder => ?_⟩
    exact toList_slice_of_le text (toNatClampNeg_mono inOrder)
  · have whole := (ofLength_of_lt small).2
    refine ⟨_, stringLength_yields standard text, fun index _ inside => ?_⟩
    exact ⟨_, _, substring_yields standard text 0 index, substring_yields standard text index _,
      slice_append_slice (toNatClampNeg_mono inside) whole⟩

/-- A needle behind a character of two bytes stands six characters from the start, and the empty needle at
    the start.  A character of four bytes is found like its needle, and a surrogate is refused.  It is two
    characters up to the end of that character. -/
theorem search_consistent_multibyte :
    let r := Runner.standard .empty .empty none
    r.Yields .stringIndexofString [.text "héllo wörld", .text "wör"] (.int 6) ∧
    r.Yields .stringIndexofString [.text "héllo", .text ""] (.int 0) ∧
    (∃ position : Int32, r.Yields .stringIndexofChar [.text "a😀b", .int 0x1F600] (.int position) ∧
      r.Yields .stringIndexofString [.text "a😀b", .text "😀"] (.int position)) ∧
    r.Refuses .stringIndexofChar [.text "a😀b", .int 0xD800] (.badCharCode 0xD800) ∧
    ∃ front rest : String, r.Yields .substring [.text "a😀b", .int 0, .int 2] (.text front) ∧
      r.Yields .substring [.text "a😀b", .int 2, .int 3] (.text rest) ∧ front ++ rest = "a😀b" := by
  intro r
  have standard : r.registry = Op.standard := standard_registry _ _ _
  obtain ⟨searches, chars, -, splits⟩ := search_consistent .empty .empty none
  refine ⟨?_, ?_, ?_, (chars "a😀b" 0xD800).2 (by decide), ?_⟩
  · obtain ⟨length, position, measured, -, answer, first, none_iff⟩ :=
      searches "héllo wörld" "wör" (by decide) (by decide)
    cases measured.unique (stringLength_yields standard "wör")
    have there : r.Yields .substring [.text "héllo wörld", .int 6, .int (6 + 3)] (.text "wör") :=
      (substring_yields_iff standard ..).2 (by decide)
    have found : position ≠ -1 := fun missing => none_iff.1 missing 6 (by decide) there
    obtain ⟨nonneg, cut, least⟩ := first found
    have notAfter : ¬ 6 < position := fun after => least 6 (by decide) after there
    have notBefore : ∀ i : Fin 6, slice "héllo wörld" (.ofNat i) (.ofNat i + 3) ≠ "wör" := by decide
    have upTo : position.toNatClampNeg ≤ 6 := toNatClampNeg_mono (Int32.not_lt.1 notAfter)
    rw [← position.ofNat_toNatClampNeg nonneg] at cut answer
    rcases Nat.lt_or_eq_of_le upTo with before | same
    · exact absurd ((substring_yields_iff standard ..).1 cut) (notBefore ⟨_, before⟩)
    · rw [same] at answer
      exact answer
  · obtain ⟨length, position, measured, -, answer, first, none_iff⟩ :=
      searches "héllo" "" (by decide) (by decide)
    cases measured.unique (stringLength_yields standard "")
    have there : r.Yields .substring [.text "héllo", .int 0, .int (0 + 0)] (.text "") :=
      (substring_yields_iff standard ..).2 (by decide)
    have found : position ≠ -1 := fun missing => none_iff.1 missing 0 (by decide) there
    obtain ⟨nonneg, -, least⟩ := first found
    have notAfter : ¬ 0 < position := fun after => least 0 (by decide) after there
    obtain rfl : position = 0 := Int32.le_antisymm (Int32.not_lt.1 notAfter) nonneg
    exact answer
  · obtain ⟨c, code, position, answers⟩ := (chars "a😀b" 0x1F600).1 (by decide)
    obtain rfl : '😀' = c := Char.toNat_inj.1 (Int.ofNat.inj code).symm
    exact ⟨position, answers⟩
  · obtain ⟨length, measured, halves⟩ := splits "a😀b" (by decide)
    cases measured.unique (stringLength_yields standard "a😀b")
    exact halves 2 (by decide) (by decide)

end Runner

end TickScript
