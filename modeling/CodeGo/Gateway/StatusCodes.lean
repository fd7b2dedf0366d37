import CodeGo.Lib.Numeral
import CodeGo.Lib.Pattern
import CodeGo.Lib.Ranges

set_option autoImplicit false

open Ranges Text

namespace CodeGo.Gateway.StatusCodes

/- Lists of HTTP status codes and ranges of them, as an administrator writes them. Texts are
   read as lists of characters. -/

abbrev StatusCodeRange := Range

def written (range : StatusCodeRange) : String :=
  if range.start = range.stop then toString range.start else toString range.start ++ "-" ++ toString range.stop

def statusCodeRangesToString (ranges : List StatusCodeRange) : String := String.intercalate "," (ranges.map written)

def shouldMatchStatusCodeRanges (ranges : List StatusCodeRange) (code : Int) : Bool :=
  if code < 100 ∨ 599 < code then false else scan code ranges

def spaceless (token : List Char) : List Char := (trimChars token).filter (· ≠ ' ')

-- strconv.Atoi: digits behind at most one sign, in the range of an int64.
def atoi (chars : List Char) : Option Int :=
  let digits :=
    match chars with
    | '-' :: rest => rest
    | '+' :: rest => rest
    | plain => plain
  if digits = [] ∨ digits.all Char.isDigit = false then none
  else
    let value : Int := Nat.ofDigitChars 10 digits 0
    let signed := if chars.head? = some '-' then -value else value
    if -9223372036854775808 ≤ signed ∧ signed ≤ 9223372036854775807 then some signed else none

def parseHTTPStatusCodeToken (token : List Char) : Except String StatusCodeRange :=
  let token := spaceless token
  if token = [] then .error "empty token"
  else if '-' ∈ token then
    match token.splitOn '-' with
    | [first, second] =>
        if first = [] ∨ second = [] then .error ("invalid range token: " ++ String.ofList token)
        else
          match atoi first with
          | none => .error ("invalid range start: " ++ String.ofList token)
          | some start =>
              match atoi second with
              | none => .error ("invalid range end: " ++ String.ofList token)
              | some stop =>
                  if stop < start then .error ("range start > end: " ++ String.ofList token)
                  else if start < 100 ∨ 599 < stop then .error ("range out of bounds: " ++ String.ofList token)
                  else .ok ⟨start, stop⟩
    | _ => .error ("invalid range token: " ++ String.ofList token)
  else
    match atoi token with
    | none => .error ("invalid status code: " ++ String.ofList token)
    | some code =>
        if code < 100 ∨ 599 < code then .error ("status code out of bounds: " ++ String.ofList token) else .ok ⟨code, code⟩

-- The full-width comma is read as a comma.
def plainComma (c : Char) : Char := if c = '，' then ',' else c

def segments (input : String) : List (List Char) := (((trimChars input.toList).map plainComma).splitOn ',').map trimChars

def read (token : List Char) : Option StatusCodeRange := (parseHTTPStatusCodeToken token).toOption

def parseHTTPStatusCodeRanges (input : String) : Except String (List StatusCodeRange) :=
  if trimChars input.toList = [] then .ok []
  else
    let filled := (segments input).filter (· ≠ [])
    let invalid := filled.filter fun token => (read token).isNone
    if invalid ≠ [] then .error ("invalid http status code rules: " ++ String.intercalate ", " (invalid.map String.ofList))
    else .ok (merge (sort (filled.filterMap read)))

/- What a token means: a numeral, or two of them around a minus sign, within the codes of HTTP. -/

def Numeral (chars : List Char) (value : Int) : Prop :=
  ∃ digits : List Char, (chars = digits ∨ chars = '+' :: digits) ∧ digits ≠ [] ∧ (∀ c ∈ digits, c.isDigit = true) ∧
    value = Nat.ofDigitChars 10 digits 0

def Writes (token : List Char) (range : StatusCodeRange) : Prop :=
  100 ≤ range.start ∧ range.start ≤ range.stop ∧ range.stop ≤ 599 ∧
    ((range.start = range.stop ∧ Numeral (spaceless token) range.start) ∨
      ∃ first second, spaceless token = first ++ '-' :: second ∧ Numeral first range.start ∧ Numeral second range.stop)

theorem digit_marks (c : Char) (digit : c.isDigit = true) : c ≠ '-' ∧ c ≠ '+' ∧ c ≠ ',' ∧ c ≠ ' ' ∧ c ≠ '，' := by
  refine ⟨?_, ?_, ?_, ?_, ?_⟩
  all_goals
    intro same
    rw [same] at digit
    revert digit
    decide

theorem numeral_plain (chars : List Char) (value : Int) (numeral : Numeral chars value) : chars ≠ [] ∧ '-' ∉ chars ∧ 0 ≤ value := by
  obtain ⟨digits, written, filled, digit, rfl⟩ := numeral
  have noMinus : '-' ∉ digits := fun member => (digit_marks '-' (digit '-' member)).1 rfl
  refine ⟨?_, ?_, by omega⟩
  · obtain rfl | rfl := written
    · exact filled
    · simp
  · obtain rfl | rfl := written
    · exact noMinus
    · simp [noMinus]

-- A numeral of an HTTP code is what Atoi reads as one.
theorem atoi_numeral (chars : List Char) (value : Int) (noMinus : '-' ∉ chars) (low : 0 ≤ value) (high : value ≤ 599) :
    atoi chars = some value ↔ Numeral chars value := by
  have noSign : chars.head? ≠ some '-' := by
    intro sign
    exact noMinus (List.mem_of_head? sign)
  have digitsRead (digits : List Char) :
      ((if digits = [] ∨ digits.all Char.isDigit = false then none
        else
          if -9223372036854775808 ≤ (Nat.ofDigitChars 10 digits 0 : Int) ∧ (Nat.ofDigitChars 10 digits 0 : Int) ≤ 9223372036854775807 then
            some (Nat.ofDigitChars 10 digits 0 : Int) else none) = some value) ↔
        digits ≠ [] ∧ (∀ c ∈ digits, c.isDigit = true) ∧ value = Nat.ofDigitChars 10 digits 0 := by
    by_cases bad : digits = [] ∨ digits.all Char.isDigit = false
    · rw [if_pos bad]
      constructor
      · intro none
        cases none
      · intro good
        obtain empty | other := bad
        · exact absurd empty good.1
        · rw [List.all_eq_true.mpr good.2.1] at other
          cases other
    · rw [if_neg bad]
      push Not at bad
      have digit : ∀ c ∈ digits, c.isDigit = true := by simpa using bad.2
      constructor
      · intro found
        split at found
        · exact ⟨bad.1, digit, (Option.some.inj found).symm⟩
        · cases found
      · intro good
        rw [if_pos ⟨by omega, by omega⟩, good.2.2]
  unfold atoi Numeral
  simp only [if_neg noSign]
  split
  · rename_i rest
    simp at noMinus
  · rename_i rest
    rw [digitsRead]
    constructor
    · intro good
      exact ⟨rest, .inr rfl, good⟩
    · intro numeral
      obtain ⟨digits, written, filled, digit, same⟩ := numeral
      obtain whole | tail := written
      · have plus := digit '+' (by simp [← whole])
        exact absurd rfl (digit_marks '+' plus).2.1
      · rw [(List.cons.inj tail).2]
        exact ⟨filled, digit, same⟩
  · rename_i notMinus notPlus
    rw [digitsRead]
    constructor
    · intro good
      exact ⟨chars, .inl rfl, good⟩
    · intro numeral
      obtain ⟨digits, written, filled, digit, same⟩ := numeral
      obtain whole | tail := written
      · rw [whole]
        exact ⟨filled, digit, same⟩
      · exact absurd tail (notPlus digits)

theorem split_two (token first second : List Char) :
    token.splitOn '-' = [first, second] ↔ token = first ++ '-' :: second ∧ '-' ∉ first ∧ '-' ∉ second := by
  constructor
  · intro split
    have whole := @List.intercalate_splitOn Char token _ _ '-'
    rw [split] at whole
    have token_eq : token = first ++ '-' :: second := by
      rw [← whole]
      simp [List.intercalate]
    obtain ⟨front, back, parts, free⟩ := List.eq_append_cons_of_mem (show '-' ∈ token by simp [token_eq])
    rw [parts, List.splitOn_append_cons_self_of_not_mem free] at split
    obtain ⟨sameFront, sameBack⟩ := List.cons.inj split
    have backFree : '-' ∉ back := by
      intro member
      obtain ⟨middle, tail, more, middleFree⟩ := List.eq_append_cons_of_mem member
      rw [more, List.splitOn_append_cons_self_of_not_mem middleFree] at sameBack
      exact List.splitOn_ne_nil '-' tail (List.cons.inj sameBack).2
    rw [List.splitOn_eq_singleton backFree] at sameBack
    exact ⟨token_eq, by rw [← sameFront]; exact free, by rw [← (List.cons.inj sameBack).1]; exact backFree⟩
  · intro parts
    obtain ⟨rfl, firstFree, secondFree⟩ := parts
    rw [List.splitOn_append_cons_self_of_not_mem firstFree, List.splitOn_eq_singleton secondFree]

theorem read_range (token first second : List Char) (range : StatusCodeRange) (parts : spaceless token = first ++ '-' :: second)
    (firstFree : '-' ∉ first) (secondFree : '-' ∉ second) :
    read token = some range ↔ first ≠ [] ∧ second ≠ [] ∧ atoi first = some range.start ∧ atoi second = some range.stop ∧
      range.start ≤ range.stop ∧ 100 ≤ range.start ∧ range.stop ≤ 599 := by
  have split := (split_two (spaceless token) first second).mpr ⟨parts, firstFree, secondFree⟩
  have filled : spaceless token ≠ [] := by simp [parts]
  have minus : '-' ∈ spaceless token := by simp [parts]
  simp only [read, parseHTTPStatusCodeToken, if_neg filled, if_pos minus, split]
  by_cases empty : first = [] ∨ second = []
  · rw [if_pos empty]
    constructor
    · intro failed
      cases failed
    · intro good
      obtain none | none := empty
      · exact absurd none good.1
      · exact absurd none good.2.1
  · rw [if_neg empty]
    push Not at empty
    cases low : atoi first with
    | none => simp [Except.toOption]
    | some start =>
        cases high : atoi second with
        | none => simp [Except.toOption]
        | some stop =>
            simp only [Option.some.injEq]
            by_cases turned : stop < start
            · rw [if_pos turned]
              simp only [Except.toOption, reduceCtorEq, false_iff]
              omega
            · rw [if_neg turned]
              by_cases outside : start < 100 ∨ 599 < stop
              · rw [if_pos outside]
                simp only [Except.toOption, reduceCtorEq, false_iff]
                omega
              · rw [if_neg outside]
                simp only [Except.toOption, Option.some.injEq, empty, ne_eq, not_false_eq_true, true_and]
                constructor
                · intro same
                  subst same
                  obtain ⟨above, below⟩ := not_or.mp outside
                  exact ⟨rfl, rfl, not_lt.mp turned, not_lt.mp above, not_lt.mp below⟩
                · intro good
                  obtain ⟨rfl, rfl, _⟩ := good
                  rfl

theorem read_code (token : List Char) (range : StatusCodeRange) (free : '-' ∉ spaceless token) :
    read token = some range ↔ spaceless token ≠ [] ∧ atoi (spaceless token) = some range.start ∧ range.start = range.stop ∧
      100 ≤ range.start ∧ range.stop ≤ 599 := by
  simp only [read, parseHTTPStatusCodeToken, if_neg free]
  by_cases empty : spaceless token = []
  · rw [if_pos empty]
    simp [Except.toOption, empty]
  · rw [if_neg empty]
    cases code : atoi (spaceless token) with
    | none => simp [Except.toOption]
    | some value =>
        simp only [Option.some.injEq]
        by_cases outside : value < 100 ∨ 599 < value
        · rw [if_pos outside]
          simp only [Except.toOption, reduceCtorEq, false_iff]
          omega
        · rw [if_neg outside]
          simp only [Except.toOption, Option.some.injEq, empty, ne_eq, not_false_eq_true, true_and]
          constructor
          · intro same
            subst same
            obtain ⟨above, below⟩ := not_or.mp outside
            exact ⟨rfl, rfl, not_lt.mp above, not_lt.mp below⟩
          · intro good
            obtain ⟨start, stop, _⟩ := good
            cases range
            simp only at start stop
            rw [start, ← stop]

-- A token is accepted with exactly the range it means.
theorem read_writes (token : List Char) (range : StatusCodeRange) : read token = some range ↔ Writes token range := by
  by_cases minus : '-' ∈ spaceless token
  · obtain ⟨first, second, parts, firstFree⟩ := List.eq_append_cons_of_mem minus
    by_cases again : '-' ∈ second
    · constructor
      · intro found
        have refused : ∀ one other, (spaceless token).splitOn '-' ≠ [one, other] := by
          intro one other split
          obtain ⟨whole, oneFree, otherFree⟩ := (split_two _ one other).mp split
          rw [parts] at whole
          obtain ⟨_, same⟩ := (Pattern.front_unique '-' first one second other firstFree oneFree).mp whole
          exact otherFree (same ▸ again)
        have filled : spaceless token ≠ [] := by simp [parts]
        simp only [read, parseHTTPStatusCodeToken, if_neg filled, if_pos minus] at found
        cases found
      · intro writes
        obtain ⟨_, _, _, ⟨_, numeral⟩ | ⟨one, other, whole, oneNumeral, otherNumeral⟩⟩ := writes
        · exact absurd minus (numeral_plain _ _ numeral).2.1
        · rw [parts] at whole
          obtain ⟨_, same⟩ :=
            (Pattern.front_unique '-' first one second other firstFree (numeral_plain _ _ oneNumeral).2.1).mp whole
          exact absurd (same ▸ again) (numeral_plain _ _ otherNumeral).2.1
    · rw [read_range token first second range parts firstFree again]
      constructor
      · intro good
        obtain ⟨_, _, low, high, ordered, above, below⟩ := good
        exact ⟨above, ordered, below, .inr ⟨first, second, parts,
          (atoi_numeral first range.start firstFree (by omega) (by omega)).mp low,
          (atoi_numeral second range.stop again (by omega) below).mp high⟩⟩
      · intro writes
        obtain ⟨above, ordered, below, ⟨_, numeral⟩ | ⟨one, other, whole, oneNumeral, otherNumeral⟩⟩ := writes
        · exact absurd minus (numeral_plain _ _ numeral).2.1
        · rw [parts] at whole
          obtain ⟨rfl, rfl⟩ :=
            (Pattern.front_unique '-' first one second other firstFree (numeral_plain _ _ oneNumeral).2.1).mp whole
          exact ⟨(numeral_plain _ _ oneNumeral).1, (numeral_plain _ _ otherNumeral).1,
            (atoi_numeral first range.start firstFree (by omega) (by omega)).mpr oneNumeral,
            (atoi_numeral second range.stop again (by omega) below).mpr otherNumeral, ordered, above, below⟩
  · rw [read_code token range minus]
    constructor
    · intro good
      obtain ⟨_, code, same, above, below⟩ := good
      exact ⟨above, by omega, below, .inl ⟨same, (atoi_numeral _ range.start minus (by omega) (by omega)).mp code⟩⟩
    · intro writes
      obtain ⟨above, ordered, below, ⟨same, numeral⟩ | ⟨one, other, whole, _⟩⟩ := writes
      · exact ⟨(numeral_plain _ _ numeral).1, (atoi_numeral _ range.start minus (by omega) (by omega)).mpr numeral, same, above, below⟩
      · exact absurd (by simp [whole]) minus

/- A list of tokens. -/

theorem parse_ok (input : String) (ranges : List StatusCodeRange) (parsed : parseHTTPStatusCodeRanges input = .ok ranges) :
    ranges = merge (sort (((segments input).filter (· ≠ [])).filterMap read)) ∧ ∀ token ∈ segments input, token ≠ [] → (read token).isSome = true := by
  unfold parseHTTPStatusCodeRanges at parsed
  by_cases empty : trimChars input.toList = []
  · rw [if_pos empty] at parsed
    have single : segments input = [[]] := by
      rw [segments, empty]
      rfl
    have nothing : sort [] = ([] : List Range) := List.mergeSort_nil
    rw [single]
    refine ⟨?_, ?_⟩
    · rw [← Except.ok.inj parsed]
      simp [nothing, merge]
    · simp
  · rw [if_neg empty] at parsed
    simp only at parsed
    split at parsed
    · cases parsed
    · rename_i valid
      refine ⟨(Except.ok.inj parsed).symm, ?_⟩
      intro token member filled
      by_contra refused
      apply valid
      apply List.ne_nil_of_mem
      apply List.mem_filter.mpr
      exact ⟨List.mem_filter.mpr ⟨member, by simpa using filled⟩, by simpa using refused⟩

theorem parse_error (input : String) : (∃ error, parseHTTPStatusCodeRanges input = .error error) ↔
    ∃ token ∈ segments input, token ≠ [] ∧ read token = none := by
  constructor
  · intro failed
    obtain ⟨error, parsed⟩ := failed
    unfold parseHTTPStatusCodeRanges at parsed
    by_cases empty : trimChars input.toList = []
    · rw [if_pos empty] at parsed
      cases parsed
    · rw [if_neg empty] at parsed
      simp only at parsed
      split at parsed
      · rename_i invalid
        obtain ⟨token, member⟩ := List.exists_mem_of_ne_nil _ invalid
        obtain ⟨inside, refused⟩ := List.mem_filter.mp member
        obtain ⟨listed, filled⟩ := List.mem_filter.mp inside
        exact ⟨token, listed, by simpa using filled, by simpa using refused⟩
      · cases parsed
  · intro refused
    obtain ⟨token, member, filled, none⟩ := refused
    cases parsed : parseHTTPStatusCodeRanges input with
    | error error => exact ⟨error, rfl⟩
    | ok ranges =>
        have accepted := (parse_ok input ranges parsed).2 token member filled
        simp [none] at accepted

theorem read_within (token : List Char) (range : StatusCodeRange) (found : read token = some range) :
    100 ≤ range.start ∧ range.Filled ∧ range.stop ≤ 599 := by
  obtain ⟨above, ordered, below, _⟩ := (read_writes token range).mp found
  exact ⟨above, ordered, below⟩

theorem parsed_ranges (input : String) (ranges : List StatusCodeRange) (parsed : parseHTTPStatusCodeRanges input = .ok ranges) :
    Apart ranges ∧ (∀ range ∈ ranges, 100 ≤ range.start ∧ range.Filled ∧ range.stop ≤ 599) ∧
      ∀ code, (∃ range ∈ ranges, range.Covers code) ↔ ∃ token ∈ segments input, ∃ range, Writes token range ∧ range.Covers code := by
  obtain ⟨rfl, _⟩ := parse_ok input ranges parsed
  have within : ∀ range ∈ sort (((segments input).filter (· ≠ [])).filterMap read), 100 ≤ range.start ∧ range.Filled ∧ range.stop ≤ 599 := by
    intro range member
    obtain ⟨token, _, found⟩ := List.mem_filterMap.mp ((mem_sort _ range).mp member)
    exact read_within token range found
  have ascending := sort_ascending (((segments input).filter (· ≠ [])).filterMap read)
  refine ⟨merge_apart _ ascending, merge_filled _ 100 599 within, ?_⟩
  intro code
  rw [merge_covers _ ascending (fun range member => (within range member).2.1) code]
  constructor
  · intro covered
    obtain ⟨range, member, covers⟩ := covered
    obtain ⟨token, inside, found⟩ := List.mem_filterMap.mp ((mem_sort _ range).mp member)
    exact ⟨token, (List.mem_filter.mp inside).1, range, (read_writes token range).mp found, covers⟩
  · intro covered
    obtain ⟨token, inside, range, writes, covers⟩ := covered
    have filled : token ≠ [] := by
      intro empty
      obtain ⟨_, _, _, ⟨_, numeral⟩ | ⟨first, second, parts, _⟩⟩ := writes
      · exact (numeral_plain _ _ numeral).1 (by simp [empty, spaceless, trimChars])
      · simp [empty, spaceless, trimChars] at parts
    refine ⟨range, (mem_sort _ range).mpr (List.mem_filterMap.mpr ⟨token, ?_, (read_writes token range).mpr writes⟩), covers⟩
    exact List.mem_filter.mpr ⟨inside, by simpa using filled⟩

/- Ranges written out and read again. -/

theorem trim_none (chars : List Char) (solid : ∀ c ∈ chars, isSpace c = false) : trimChars chars = chars := by
  have front : chars.dropWhile isSpace = chars := by
    cases chars with
    | nil => rfl
    | cons first rest => simp [solid first List.mem_cons_self]
  rw [trimChars, front, List.rdropWhile_eq_self_iff]
  intro filled
  simpa using solid _ (List.getLast_mem filled)

theorem int_numeral (value : Int) (low : 0 ≤ value) :
    Numeral (toString value).toList value ∧ ∀ c ∈ (toString value).toList, c.isDigit = true := by
  obtain ⟨number, rfl⟩ := Int.eq_ofNat_of_zero_le low
  have written : (toString (number : Int)).toList = Nat.toDigits 10 number := by
    rw [← String.toList_ofList (l := Nat.toDigits 10 number), ← Nat.repr_eq_ofList_toDigits]
    rfl
  have digits : ∀ c ∈ Nat.toDigits 10 number, c.isDigit = true := by
    intro c member
    exact Nat.isDigit_of_mem_toDigits (by decide) (by decide) member
  rw [written]
  exact ⟨⟨_, .inl rfl, Nat.toDigits_ne_nil, digits, by simp⟩, digits⟩

theorem written_chars (range : StatusCodeRange) (low : 0 ≤ range.start) (filled : range.Filled) :
    ∀ c ∈ (written range).toList, c.isDigit = true ∨ c = '-' := by
  have first := (int_numeral range.start low).2
  have second := (int_numeral range.stop (le_trans low filled)).2
  have minus : "-".toList = ['-'] := rfl
  unfold written
  intro c member
  split at member
  · exact .inl (first c member)
  · rw [String.toList_append, String.toList_append, minus, List.mem_append, List.mem_append, List.mem_singleton] at member
    obtain (here | sign) | there := member
    · exact .inl (first c here)
    · exact .inr sign
    · exact .inl (second c there)

theorem mark_solid (c : Char) (mark : c.isDigit = true ∨ c = '-') : isSpace c = false ∧ c ≠ ' ' ∧ c ≠ ',' ∧ plainComma c = c := by
  obtain digit | rfl := mark
  · obtain ⟨_, _, comma, space, wide⟩ := digit_marks c digit
    exact ⟨digit_solid c digit, space, comma, if_neg wide⟩
  · decide

theorem written_spaceless (range : StatusCodeRange) (low : 0 ≤ range.start) (filled : range.Filled) :
    spaceless (written range).toList = (written range).toList := by
  have marks := written_chars range low filled
  rw [spaceless, trim_none _ fun c member => (mark_solid c (marks c member)).1, List.filter_eq_self]
  intro c member
  simpa using (mark_solid c (marks c member)).2.1

theorem written_writes (range : StatusCodeRange) (within : 100 ≤ range.start ∧ range.Filled ∧ range.stop ≤ 599) :
    Writes (written range).toList range := by
  obtain ⟨above, filled, below⟩ := within
  have ordered : range.start ≤ range.stop := filled
  have low : 0 ≤ range.start := by omega
  refine ⟨above, ordered, below, ?_⟩
  rw [written_spaceless range low filled, written]
  by_cases single : range.start = range.stop
  · left
    rw [if_pos single]
    exact ⟨single, (int_numeral range.start low).1⟩
  · right
    rw [if_neg single]
    refine ⟨(toString range.start).toList, (toString range.stop).toList, ?_, (int_numeral range.start low).1,
      (int_numeral range.stop (le_trans low ordered)).1⟩
    have minus : "-".toList = ['-'] := rfl
    rw [String.toList_append, String.toList_append, minus]
    simp

theorem written_filled (range : StatusCodeRange) (within : 100 ≤ range.start ∧ range.Filled ∧ range.stop ≤ 599) :
    (written range).toList ≠ [] := by
  intro empty
  obtain ⟨_, _, _, ⟨_, numeral⟩ | ⟨first, second, parts, _⟩⟩ := written_writes range within
  · exact (numeral_plain _ _ numeral).1 (by simp [spaceless, trimChars, empty])
  · simp [spaceless, trimChars, empty] at parts

theorem mem_joined (pieces : List (List Char)) (c : Char) (member : c ∈ [','].intercalate pieces) : c = ',' ∨ ∃ piece ∈ pieces, c ∈ piece := by
  induction pieces with
  | nil => exact absurd member List.not_mem_nil
  | cons first rest ih =>
      cases rest with
      | nil => exact .inr ⟨first, List.mem_cons_self, by simpa using member⟩
      | cons second others =>
          rw [List.intercalate_cons_cons, List.append_assoc, List.mem_append, List.singleton_append, List.mem_cons] at member
          obtain here | comma | later := member
          · exact .inr ⟨first, List.mem_cons_self, here⟩
          · exact .inl comma
          · obtain comma | ⟨piece, inside, there⟩ := ih later
            · exact .inl comma
            · exact .inr ⟨piece, List.mem_cons_of_mem first inside, there⟩

theorem joined_segments (ranges : List StatusCodeRange) (some : ranges ≠ [])
    (within : ∀ range ∈ ranges, 100 ≤ range.start ∧ range.Filled ∧ range.stop ≤ 599) :
    segments (statusCodeRangesToString ranges) = ranges.map fun range => (written range).toList := by
  have marks : ∀ piece ∈ ranges.map fun range => (written range).toList, ∀ c ∈ piece, c.isDigit = true ∨ c = '-' := by
    intro piece member
    obtain ⟨range, listed, rfl⟩ := List.mem_map.mp member
    obtain ⟨above, filled, _⟩ := within range listed
    exact written_chars range (by omega) filled
  have chars : (statusCodeRangesToString ranges).toList = [','].intercalate (ranges.map fun range => (written range).toList) := by
    have comma : ",".toList = [','] := rfl
    rw [statusCodeRangesToString, String.toList_intercalate, List.map_map, comma]
    rfl
  have plain : ∀ c ∈ [','].intercalate (ranges.map fun range => (written range).toList), isSpace c = false ∧ plainComma c = c := by
    intro c member
    obtain rfl | ⟨piece, listed, here⟩ := mem_joined _ c member
    · decide
    · have mark := mark_solid c (marks piece listed c here)
      exact ⟨mark.1, mark.2.2.2⟩
  rw [segments, chars, trim_none _ fun c member => (plain c member).1]
  have kept : ([','].intercalate (ranges.map fun range => (written range).toList)).map plainComma =
      [','].intercalate (ranges.map fun range => (written range).toList) := by
    rw [List.map_congr_left fun c member => (plain c member).2]
    exact List.map_id _
  rw [kept, List.splitOn_intercalate]
  · have trimmed : ∀ piece ∈ ranges.map fun range => (written range).toList, trimChars piece = piece := by
      intro piece member
      exact trim_none piece fun c here => (mark_solid c (marks piece member c here)).1
    rw [List.map_congr_left trimmed]
    exact List.map_id _
  · intro piece member comma
    exact (mark_solid ',' (marks piece member ',' comma)).2.2.1 rfl
  · simpa using some

theorem reparsed (ranges : List StatusCodeRange) (apart : Apart ranges)
    (within : ∀ range ∈ ranges, 100 ≤ range.start ∧ range.Filled ∧ range.stop ≤ 599) :
    parseHTTPStatusCodeRanges (statusCodeRangesToString ranges) = .ok ranges := by
  cases parsed : parseHTTPStatusCodeRanges (statusCodeRangesToString ranges) with
  | error error =>
      obtain ⟨token, member, filled, none⟩ := (parse_error _).mp ⟨error, parsed⟩
      by_cases empty : ranges = []
      · rw [empty] at parsed
        cases parsed
      · rw [joined_segments ranges empty within] at member
        obtain ⟨range, listed, rfl⟩ := List.mem_map.mp member
        rw [(read_writes _ range).mpr (written_writes range (within range listed))] at none
        cases none
  | ok again =>
      by_cases empty : ranges = []
      · rw [empty] at parsed ⊢
        rw [← Except.ok.inj parsed]
      · obtain ⟨rfl, _⟩ := parse_ok _ again parsed
        have tokens : ((segments (statusCodeRangesToString ranges)).filter (· ≠ [])).filterMap read = ranges := by
          rw [joined_segments ranges empty within, List.filter_eq_self.mpr]
          · rw [List.filterMap_map]
            have each : ∀ range ∈ ranges, (read ∘ fun range => (written range).toList) range = some range := by
              intro range listed
              exact (read_writes _ range).mpr (written_writes range (within range listed))
            rw [List.filterMap_congr each]
            exact List.filterMap_some
          · intro piece member
            obtain ⟨range, listed, rfl⟩ := List.mem_map.mp member
            simpa using written_filled range (within range listed)
        rw [tokens, merge_sort_of_apart ranges apart fun range member => (within range member).2.1]

theorem should_match (ranges : List StatusCodeRange) (code : Int) (apart : Apart ranges)
    (within : ∀ range ∈ ranges, 100 ≤ range.start ∧ range.Filled ∧ range.stop ≤ 599) :
    shouldMatchStatusCodeRanges ranges code = true ↔ ∃ range ∈ ranges, range.Covers code := by
  unfold shouldMatchStatusCodeRanges
  by_cases outside : code < 100 ∨ 599 < code
  · rw [if_pos outside]
    simp only [Bool.false_eq_true, false_iff]
    intro covered
    obtain ⟨range, member, low, high⟩ := covered
    obtain ⟨above, _, below⟩ := within range member
    omega
  · rw [if_neg outside]
    exact scan_covers code ranges apart fun range member => (within range member).2.1

-- Accepted lists are normal, mean what their tokens mean and are written back as they are.
theorem status_code_policy (input : String) :
    (∀ ranges, parseHTTPStatusCodeRanges input = .ok ranges →
      Apart ranges ∧ (∀ range ∈ ranges, range.Filled) ∧
        (∀ code, shouldMatchStatusCodeRanges ranges code = true ↔
          ∃ token ∈ segments input, ∃ range, Writes token range ∧ range.Covers code) ∧
        parseHTTPStatusCodeRanges (statusCodeRangesToString ranges) = .ok ranges) ∧
      ((∃ error, parseHTTPStatusCodeRanges input = .error error) ↔
        ∃ token ∈ segments input, token ≠ [] ∧ ¬ ∃ range, Writes token range) := by
  constructor
  · intro ranges parsed
    obtain ⟨apart, within, covers⟩ := parsed_ranges input ranges parsed
    refine ⟨apart, fun range member => (within range member).2.1, ?_, reparsed ranges apart within⟩
    intro code
    rw [should_match ranges code apart within]
    exact covers code
  · rw [parse_error]
    have refused (token : List Char) : read token = none ↔ ¬ ∃ range, Writes token range := by
      simp only [← read_writes]
      cases read token <;> simp
    simp only [refused]

end CodeGo.Gateway.StatusCodes
