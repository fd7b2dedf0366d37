import CodeGo.Lib.Json
import CodeGo.Lib.Numeral
import CodeGo.Lib.Related
import CodeGo.Lib.Segments

set_option autoImplicit false

open Json Related Segments

namespace CodeGo.Gateway.Overrides

/- Negative indexes in the path of an override operation. A path is a text whose segments stand
   between dots; no segment uses the query syntax of the reader. -/

-- The match of `\.(-\d+)` behind a dot: a minus and the digits behind it.
def leading : List Char → Option (List Char)
  | '-' :: rest => if rest.takeWhile Char.isDigit = [] then none else some ('-' :: rest.takeWhile Char.isDigit)
  | _ => none

def negativeIndexes : List Char → List (List Char)
  | [] => []
  | c :: rest => if c = '.' then (leading rest).toList ++ negativeIndexes rest else negativeIndexes rest

-- A number out of the range of an int is taken for the smallest one, below every array as well.
def indexValue (negIndex : List Char) : Int := -(Nat.ofDigitChars 10 (negIndex.drop 1) 0 : Nat)

-- The empty path reads nothing.
def nodeAt (data : Json) (path : List Char) : Option Json :=
  if path = [] then none else data.get ((path.splitOn '.').map String.ofList)

def trimDot (path : List Char) : List Char := if path.getLast? = some '.' then path.dropLast else path

def digits (index : Nat) : List Char := (toString index).toList

section
variable (data : Json) (path : List Char)

-- The index from the front, in the array that stands before the first occurrence of the text in the path.
def actualIndex (negIndex : List Char) : Option Nat :=
  match nodeAt data (trimDot (before negIndex path)) with
  | some (.array items) =>
      if 0 ≤ (items.length : Int) + indexValue negIndex ∧ (items.length : Int) + indexValue negIndex < items.length then
        some ((items.length : Int) + indexValue negIndex).toNat
      else none
  | _ => none

def resolveIndex (result negIndex : List Char) : List Char :=
  match actualIndex data path negIndex with
  | none => result
  | some index => replaceFirst ('.' :: negIndex) ('.' :: digits index) result

def processNegativeIndex : List Char := (negativeIndexes path).foldl (resolveIndex data path) path

end

/- The purpose: every negative index of an array that is long enough counts from its end. -/

def fromEnd (node : Option Json) (segment : List Char) : Option Nat :=
  match node with
  | some (.array items) =>
      if leading segment = some segment ∧ 0 ≤ (items.length : Int) + indexValue segment ∧ indexValue segment < 0 then
        some ((items.length : Int) + indexValue segment).toNat
      else none
  | _ => none

def resolved (node : Option Json) (segment : List Char) : List Char :=
  match fromEnd node segment with
  | some index => digits index
  | none => segment

def below (node : Option Json) (segment : List Char) : Option Json :=
  node.bind fun inner => inner.child (String.ofList (resolved node segment))

def resolveFrom : Option Json → List (List Char) → List (List Char)
  | _, [] => []
  | node, segment :: rest => resolved node segment :: resolveFrom (below node segment) rest

def NegativesResolve (data : Json) (path : List Char) : Prop :=
  processNegativeIndex data path = join '.' (resolveFrom (some data) (path.splitOn '.'))

-- Each index text finds the index that counts in the array reached by the path so far, and its own segment first.
def Straight (index : List Char → Option Nat) : List (List Char) → Option Json → List (List Char) → Prop
  | _, _, [] => True
  | done, node, segment :: rest =>
      (∀ negIndex, leading segment = some negIndex →
        index negIndex = fromEnd node segment ∧ (fromEnd node segment ≠ none → ∀ part ∈ done, ¬ negIndex <+: part)) ∧
      Straight index (done ++ [resolved node segment]) (below node segment) rest

-- An index that is not found, but whose text begins with that of a later one that is.
def Shadowed (index : List Char → Option Nat) : Option Json → List (List Char) → Prop
  | _, [] => False
  | node, segment :: rest =>
      (fromEnd node segment ≠ none ∧ index segment = none ∧
        ∃ negIndex ∈ rest.filterMap leading, negIndex <+: segment ∧ index negIndex ≠ none) ∨
      Shadowed index (below node segment) rest

def Readable (data : Json) (path : List Char) : Prop :=
  match path.splitOn '.' with
  | [] => True
  | first :: rest => fromEnd (some data) first = none ∧ Straight (actualIndex data path) [] (below (some data) first) rest

def Overshadowed (data : Json) (path : List Char) : Prop :=
  match path.splitOn '.' with
  | [] => False
  | first :: rest => Shadowed (actualIndex data path) (below (some data) first) rest

/- The texts of the matches. -/

theorem leading_some (segment negIndex : List Char) (found : leading segment = some negIndex) :
    negIndex <+: segment ∧ (∃ numerals, negIndex = '-' :: numerals ∧ ∀ c ∈ numerals, c.isDigit = true) := by
  unfold leading at found
  split at found
  · rename_i rest
    split at found
    · cases found
    · rw [← Option.some.inj found]
      refine ⟨?_, rest.takeWhile Char.isDigit, rfl, ?_⟩
      · rw [List.cons_prefix_cons]
        exact ⟨rfl, List.takeWhile_prefix _⟩
      · intro c member
        exact List.mem_takeWhile_imp member
  · cases found

theorem leading_free (segment negIndex : List Char) (found : leading segment = some negIndex) : '.' ∉ negIndex := by
  obtain ⟨_, numerals, rfl, all⟩ := leading_some segment negIndex found
  rw [List.mem_cons, not_or]
  refine ⟨by decide, ?_⟩
  intro member
  have wrong := all '.' member
  simp at wrong

theorem leading_part (part : List Char) (rest : List (List Char)) : leading (part ++ after '.' rest) = leading part := by
  have same (numerals : List Char) : (numerals ++ after '.' rest).takeWhile Char.isDigit = numerals.takeWhile Char.isDigit := by
    induction numerals with
    | nil =>
        cases rest with
        | nil => rfl
        | cons next rest => rfl
    | cons c numerals ih =>
        rw [List.cons_append, List.takeWhile_cons, List.takeWhile_cons, ih]
  cases part with
  | nil =>
      cases rest with
      | nil => rfl
      | cons next rest => rfl
  | cons c part =>
      by_cases minus : c = '-'
      · subst minus
        rw [List.cons_append, leading, leading, same]
      · rw [List.cons_append]
        unfold leading
        simp [minus]

theorem negative_indexes_part (part rest : List Char) (free : '.' ∉ part) : negativeIndexes (part ++ rest) = negativeIndexes rest := by
  induction part with
  | nil => rfl
  | cons c part ih =>
      rw [List.mem_cons, not_or] at free
      rw [List.cons_append, negativeIndexes, if_neg (Ne.symm free.1), ih free.2]

theorem negative_indexes_parts (first : List Char) (rest : List (List Char)) (free : ∀ part ∈ first :: rest, '.' ∉ part) :
    negativeIndexes (first ++ after '.' rest) = rest.filterMap leading := by
  rw [negative_indexes_part first _ (free first List.mem_cons_self)]
  have others : ∀ part ∈ rest, '.' ∉ part := fun part member => free part (List.mem_cons_of_mem _ member)
  clear free
  induction rest with
  | nil => rfl
  | cons part rest ih =>
      have cut : after '.' (part :: rest) = '.' :: (part ++ after '.' rest) := rfl
      rw [cut, negativeIndexes, if_pos rfl, leading_part, negative_indexes_part part _ (others part List.mem_cons_self),
        ih fun other member => others other (List.mem_cons_of_mem _ member), List.filterMap_cons]
      cases leading part with
      | none => rfl
      | some negIndex => rfl

theorem digits_digit (index : Nat) (c : Char) (member : c ∈ digits index) : c.isDigit = true := Text.digits_of_nat index c member

theorem digits_free (index : Nat) : '.' ∉ digits index := by
  intro member
  have wrong := digits_digit index '.' member
  simp at wrong

theorem digits_head (index : Nat) (rest : List Char) : (digits index ++ rest).head? ≠ some '-' := by
  cases text : digits index with
  | nil =>
      have empty : toString index = "" := String.toList_inj.mp text
      exact absurd empty (by simp [toString, Nat.repr])
  | cons c more =>
      have digit := digits_digit index c (by simp [text])
      intro same
      rw [Option.some.inj same] at digit
      simp at digit

/- The replacements, segment by segment. -/

section
variable (index : List Char → Option Nat)

def segmentStep (parts : List (List Char)) (negIndex : List Char) : List (List Char) :=
  match index negIndex with
  | none => parts
  | some found => replacePart negIndex (digits found) parts

end

theorem process_parts (data : Json) (path first : List Char) (rest : List (List Char)) (negIndexes : List (List Char))
    (free : ∀ part ∈ first :: rest, '.' ∉ part) (freeIndexes : ∀ negIndex ∈ negIndexes, '.' ∉ negIndex) :
    negIndexes.foldl (resolveIndex data path) (first ++ after '.' rest) =
      first ++ after '.' (negIndexes.foldl (segmentStep (actualIndex data path)) rest) := by
  induction negIndexes generalizing rest with
  | nil => rfl
  | cons negIndex negIndexes ih =>
      have own := freeIndexes negIndex List.mem_cons_self
      have later : ∀ other ∈ negIndexes, '.' ∉ other := fun other member => freeIndexes other (List.mem_cons_of_mem _ member)
      rw [List.foldl_cons, List.foldl_cons, resolveIndex, segmentStep]
      cases found : actualIndex data path negIndex with
      | none => exact ih rest free later
      | some index =>
          simp only
          rw [replace_first_parts negIndex (digits index) first rest own free]
          apply ih
          · intro part member
            obtain rfl | inside := List.mem_cons.mp member
            · exact free part List.mem_cons_self
            · exact replace_part_free negIndex (digits index) rest (digits_free index) (fun other inside => free other (List.mem_cons_of_mem _ inside)) part inside
          · exact later

section
variable {index : List Char → Option Nat}

-- What the replacements do to one segment: nothing, or a front of it is gone for good.
def Passes (index : List Char → Option Nat) (negIndexes : List (List Char)) (segment result : List Char) : Prop :=
  result = segment ∨ (segment.head? = some '-' ∧ result.head? ≠ some '-' ∧ ∃ negIndex ∈ negIndexes, negIndex <+: segment ∧ index negIndex ≠ none)

theorem step_passes (parts : List (List Char)) (negIndex : List Char) (minus : negIndex.head? = some '-') :
    List.Forall₂ (Passes index [negIndex]) parts (segmentStep index parts negIndex) := by
  rw [segmentStep]
  cases found : index negIndex with
  | none => exact List.forall₂_same.mpr fun _ _ => .inl rfl
  | some number =>
      refine (replace_part_related negIndex (digits number) parts).imp ?_
      intro part result related
      obtain same | ⟨front, changed⟩ := related
      · exact .inl same
      · right
        obtain ⟨rest, rfl⟩ := front
        refine ⟨?_, ?_, negIndex, List.mem_singleton_self _, List.prefix_append _ _, by simp [found]⟩
        · cases negIndex with
          | nil => cases minus
          | cons c negIndex => exact minus
        · rw [changed]
          exact digits_head number _

theorem fold_passes (negIndexes parts : List (List Char)) (minus : ∀ negIndex ∈ negIndexes, negIndex.head? = some '-') :
    List.Forall₂ (Passes index negIndexes) parts (negIndexes.foldl (segmentStep index) parts) := by
  induction negIndexes generalizing parts with
  | nil => exact List.forall₂_same.mpr fun _ _ => .inl rfl
  | cons negIndex negIndexes ih =>
      have first := @step_passes index parts negIndex (minus negIndex List.mem_cons_self)
      have later := ih (segmentStep index parts negIndex) fun other member => minus other (List.mem_cons_of_mem _ member)
      refine forall_through _ _ _ first later ?_
      intro part _ middle _ result one others
      obtain same | ⟨starts, gone, other, member, front, found⟩ := one
      · subst same
        obtain same | ⟨starts, ends, other, member, front, found⟩ := others
        · exact .inl same
        · exact .inr ⟨starts, ends, other, List.mem_cons_of_mem _ member, front, found⟩
      · obtain same | ⟨again, _⟩ := others
        · subst same
          exact .inr ⟨starts, gone, other, List.mem_cons.mpr (.inl (List.mem_singleton.mp member)), front, found⟩
        · exact absurd again gone

-- What counts from the end of an array is a whole segment of a minus and digits.
theorem from_end_some (node : Option Json) (segment : List Char) (number : Nat) (found : fromEnd node segment = some number) :
    leading segment = some segment ∧ resolved node segment = digits number := by
  refine ⟨?_, by rw [resolved, found]⟩
  unfold fromEnd at found
  split at found
  · split at found
    · rename_i conditions
      exact conditions.1
    · cases found
  · cases found

theorem from_end_none (node : Option Json) (segment : List Char) (text : leading segment = none) : fromEnd node segment = none := by
  cases counted : fromEnd node segment with
  | none => rfl
  | some number =>
      rw [(from_end_some node segment number counted).1] at text
      cases text

theorem resolved_none (node : Option Json) (segment : List Char) (missing : fromEnd node segment = none) : resolved node segment = segment := by
  rw [resolved, missing]

theorem straight_fold (done : List (List Char)) (node : Option Json) (parts : List (List Char)) (straight : Straight index done node parts) :
    (parts.filterMap leading).foldl (segmentStep index) (done ++ parts) = done ++ resolveFrom node parts := by
  induction parts generalizing done node with
  | nil => rfl
  | cons segment rest ih =>
      obtain ⟨found, later⟩ := straight
      have others := ih (done ++ [resolved node segment]) (below node segment) later
      rw [List.append_assoc, List.append_assoc, List.singleton_append, List.singleton_append] at others
      rw [List.filterMap_cons, resolveFrom]
      cases text : leading segment with
      | none =>
          have missing := from_end_none node segment text
          rw [resolved_none node segment missing] at others ⊢
          exact others
      | some negIndex =>
          obtain ⟨same, apart⟩ := found negIndex text
          simp only [List.foldl_cons, segmentStep, same]
          cases counted : fromEnd node segment with
          | none =>
              rw [resolved_none node segment counted] at others ⊢
              exact others
          | some number =>
              obtain ⟨whole, result⟩ := from_end_some node segment number counted
              rw [whole] at text
              rw [← Option.some.inj text] at apart ⊢
              simp only
              rw [replace_part_here segment _ done segment rest (apart (by simp [counted])) (List.prefix_refl _), List.drop_length, List.append_nil,
                ← result]
              exact others

theorem first_front (front : List Char) (parts : List (List Char)) (some : ¬ ∀ part ∈ parts, ¬ front <+: part) :
    ∃ before part after, parts = before ++ part :: after ∧ front <+: part ∧ ∀ other ∈ before, ¬ front <+: other := by
  have found : ∃ part ∈ parts, front.isPrefixOf part = true := by
    simp only [not_forall, not_not] at some
    obtain ⟨part, member, begins⟩ := some
    exact ⟨part, member, List.isPrefixOf_iff_prefix.mpr begins⟩
  obtain ⟨part, first⟩ := Option.isSome_iff_exists.mp (List.find?_isSome.mpr found)
  obtain ⟨begins, before, after, split, others⟩ := List.find?_eq_some_iff_append.mp first
  refine ⟨before, part, after, split, List.isPrefixOf_iff_prefix.mp begins, ?_⟩
  intro other member starts
  have none := others other member
  rw [List.isPrefixOf_iff_prefix.mpr starts] at none
  cases none

theorem leading_minus (negIndexes : List (List Char)) (parts : List (List Char)) (all : negIndexes = parts.filterMap leading) :
    ∀ negIndex ∈ negIndexes, negIndex.head? = some '-' := by
  intro negIndex member
  rw [all] at member
  obtain ⟨part, _, found⟩ := List.mem_filterMap.mp member
  obtain ⟨_, numerals, rfl, _⟩ := leading_some part negIndex found
  rfl

theorem fold_straight (done : List (List Char)) (node : Option Json) (parts : List (List Char))
    (whole : (parts.filterMap leading).foldl (segmentStep index) (done ++ parts) = done ++ resolveFrom node parts) :
    Straight index done node parts ∨ Shadowed index node parts := by
  induction parts generalizing done node with
  | nil => exact .inl trivial
  | cons segment rest ih =>
      have minus := leading_minus _ rest rfl
      have next : (rest.filterMap leading).foldl (segmentStep index) (done ++ resolved node segment :: rest) = done ++ resolveFrom node (segment :: rest) →
          (∀ negIndex, leading segment = some negIndex →
            index negIndex = fromEnd node segment ∧ (fromEnd node segment ≠ none → ∀ part ∈ done, ¬ negIndex <+: part)) →
          Straight index done node (segment :: rest) ∨ Shadowed index node (segment :: rest) := by
        intro step own
        have later := ih (done ++ [resolved node segment]) (below node segment) (by
          rw [List.append_assoc, List.append_assoc, List.singleton_append, List.singleton_append]
          exact step)
        exact later.imp (fun straight => ⟨own, straight⟩) .inr
      rw [List.filterMap_cons] at whole
      cases text : leading segment with
      | none =>
          have missing := from_end_none node segment text
          rw [text] at whole
          apply next
          · rw [resolved_none node segment missing]
            exact whole
          · intro negIndex found
            rw [text] at found
            cases found
      | some negIndex =>
          obtain ⟨front, numerals, shape, _⟩ := leading_some segment negIndex text
          have starts : segment.head? = some '-' := by
            obtain ⟨back, rfl⟩ := front
            rw [shape]
            rfl
          rw [text] at whole
          simp only [List.foldl_cons, segmentStep] at whole
          cases found : index negIndex with
          | none =>
              rw [found] at whole
              simp only at whole
              cases counted : fromEnd node segment with
              | none =>
                  apply next
                  · rw [resolved_none node segment counted]
                    exact whole
                  · intro other same
                    rw [text] at same
                    rw [← Option.some.inj same, found]
                    exact ⟨counted.symm, fun wrong => absurd counted wrong⟩
              | some number =>
                  obtain ⟨own, result⟩ := from_end_some node segment number counted
                  rw [own] at text
                  have passes := @fold_passes index (rest.filterMap leading) (done ++ segment :: rest) minus
                  rw [whole, resolveFrom, result] at passes
                  have here := related_at done segment (digits number) rest _ passes
                  obtain same | ⟨_, _, later, member, begins, hit⟩ := here
                  · have wrong := digits_head number []
                    rw [List.append_nil, same] at wrong
                    exact absurd starts wrong
                  · rw [← Option.some.inj text] at found
                    exact .inr (.inl ⟨by simp [counted], found, later, member, begins, hit⟩)
          | some replaced =>
              rw [found] at whole
              simp only at whole
              by_cases apart : ∀ part ∈ done, ¬ negIndex <+: part
              · rw [replace_part_here negIndex _ done segment rest apart front] at whole
                have passes := @fold_passes index (rest.filterMap leading) (done ++ (digits replaced ++ segment.drop negIndex.length) :: rest) minus
                rw [whole, resolveFrom] at passes
                have here := related_at done _ _ rest _ passes
                have headed := digits_head replaced (segment.drop negIndex.length)
                obtain same | ⟨wrong, _⟩ := here
                · cases counted : fromEnd node segment with
                  | none =>
                      rw [resolved_none node segment counted] at same
                      rw [← same] at headed
                      exact absurd starts headed
                  | some number =>
                      obtain ⟨own, result⟩ := from_end_some node segment number counted
                      have equal : segment = negIndex := Option.some.inj (own.symm.trans text)
                      rw [result, ← equal, List.drop_length, List.append_nil] at same
                      have numbers : number = replaced := Text.nat_text_injective number replaced (String.toList_inj.mp same)
                      rw [← equal, List.drop_length, List.append_nil, ← same, ← result] at whole
                      apply next whole
                      intro other otherText
                      rw [text] at otherText
                      rw [← Option.some.inj otherText, found, counted, numbers]
                      exact ⟨rfl, fun _ => apart⟩
                · exact absurd wrong headed
              · obtain ⟨before, part, back, split, begins, others⟩ := first_front negIndex done apart
                rw [split, List.append_assoc, List.cons_append, replace_part_here negIndex _ before part (back ++ segment :: rest) others begins] at whole
                have passes := @fold_passes index (rest.filterMap leading)
                  (before ++ (digits replaced ++ part.drop negIndex.length) :: (back ++ segment :: rest)) minus
                rw [whole, List.append_assoc, List.cons_append] at passes
                have here := related_at before _ _ _ _ passes
                have headed := digits_head replaced (part.drop negIndex.length)
                have partStarts : part.head? = some '-' := by
                  obtain ⟨more, rfl⟩ := begins
                  rw [shape]
                  rfl
                obtain same | ⟨wrong, _⟩ := here
                · rw [← same] at headed
                  exact absurd partStarts headed
                · exact absurd wrong headed

end

theorem step_free (index : List Char → Option Nat) (negIndexes parts : List (List Char)) (free : ∀ part ∈ parts, '.' ∉ part) :
    ∀ part ∈ negIndexes.foldl (segmentStep index) parts, '.' ∉ part := by
  induction negIndexes generalizing parts with
  | nil => exact free
  | cons negIndex negIndexes ih =>
      apply ih
      rw [segmentStep]
      cases index negIndex with
      | none => exact free
      | some number => exact replace_part_free negIndex (digits number) parts (digits_free number) free

theorem resolve_free (node : Option Json) (parts : List (List Char)) (free : ∀ part ∈ parts, '.' ∉ part) :
    ∀ part ∈ resolveFrom node parts, '.' ∉ part := by
  induction parts generalizing node with
  | nil => exact free
  | cons segment rest ih =>
      intro part member
      obtain rfl | inside := List.mem_cons.mp member
      · rw [resolved]
        cases fromEnd node segment with
        | none => exact free segment List.mem_cons_self
        | some number => exact digits_free number
      · exact ih _ (fun other there => free other (List.mem_cons_of_mem _ there)) part inside

section

def lists : Json :=
  .object (.cons "a" (.array (.cons (.array .nil) (.cons (.array (.cons (.number 4) (.cons (.number 5) (.cons (.number 6) .nil)))) .nil))) .nil)

end

end CodeGo.Gateway.Overrides
