import CodeGo.Lib.Jumps

set_option autoImplicit false

/- The substring search of the text package. Strings are searched by their bytes; the table of jumps is filled by
   characters. -/

namespace CodeGo.Platform.Sunday

open Jumps

def bytesOf (chars : List Char) : List UInt8 := chars.flatMap String.utf8EncodeChar

-- A character starts at the byte `i` of the pattern.
def offsetLoop (length : Nat) : Nat → List Char → (Nat → Option Nat) → Nat → Option Nat
  | _, [], offset => offset
  | i, c :: rest, offset =>
      offsetLoop length (i + (String.utf8EncodeChar c).length) rest fun rune => if rune = c.toNat then some (length - i) else offset rune

def offsets (pattern : List Char) : Nat → Option Nat := offsetLoop (bytesOf pattern).length 0 pattern fun _ => none

inductive Outcome where
  | returns (found : Bool)
  | indexError
  | unfinished
deriving DecidableEq, Repr

-- How far the pattern matches from `i` on; nothing where the text is left.
def matchFrom (text : List UInt8) (i : Nat) : Nat → List UInt8 → Option Nat
  | j, [] => some j
  | j, unit :: rest =>
      match text[i + j]? with
      | none => none
      | some other => if other = unit then matchFrom text i (j + 1) rest else some j

def scan (offset : Nat → Option Nat) (text pattern : List UInt8) : Nat → Nat → Outcome
  | 0, _ => .unfinished
  | fuel + 1, i =>
      if i + pattern.length ≤ text.length then
        match matchFrom text i 0 pattern with
        | none => .indexError
        | some j =>
            if j = pattern.length then .returns true
            else if i + pattern.length < text.length then
              match text[i + pattern.length]? with
              | none => .indexError
              | some next =>
                  match offset next.toNat with
                  | some val => scan offset text pattern fuel (i + val)
                  | none => scan offset text pattern fuel (i + (pattern.length + 1))
            else .returns false
      else .returns false

def sundaySearch (text pattern : String) (fuel : Nat) : Outcome :=
  scan (offsets pattern.toList) (bytesOf text.toList) (bytesOf pattern.toList) fuel 0

-- The search ends, without an index error, and finds the bytes exactly where they occur.
def Correct (text pattern : String) : Prop :=
  ∃ answer, (∀ fuel, (bytesOf text.toList).length < fuel → sundaySearch text pattern fuel = .returns answer) ∧
    (answer = true ↔ bytesOf pattern.toList <:+: bytesOf text.toList)

section Table

theorem bytes_append (front back : List Char) : bytesOf (front ++ back) = bytesOf front ++ bytesOf back := List.flatMap_append

theorem bytes_cons (c : Char) (rest : List Char) : bytesOf (c :: rest) = String.utf8EncodeChar c ++ bytesOf rest := List.flatMap_cons

-- An entry stands for the last character of its code, or was there before.
theorem offset_entry (length i rune : Nat) (chars : List Char) (offset : Nat → Option Nat) :
    (∃ front c back, chars = front ++ c :: back ∧ c.toNat = rune ∧ (∀ other ∈ back, other.toNat ≠ rune) ∧
        offsetLoop length i chars offset rune = some (length - (i + (bytesOf front).length))) ∨
      (∀ c ∈ chars, c.toNat ≠ rune) ∧ offsetLoop length i chars offset rune = offset rune := by
  induction chars generalizing i offset with
  | nil => exact .inr ⟨fun _ listed => absurd listed List.not_mem_nil, rfl⟩
  | cons c rest ih =>
      rw [offsetLoop]
      rcases ih (i + (String.utf8EncodeChar c).length) (fun rune => if rune = c.toNat then some (length - i) else offset rune) with
        ⟨front, last, back, rfl, code, late, entry⟩ | ⟨missing, entry⟩
      · refine .inl ⟨c :: front, last, back, rfl, code, late, ?_⟩
        rw [entry, bytes_cons, List.length_append, Nat.add_assoc]
      · by_cases same : rune = c.toNat
        · refine .inl ⟨[], c, rest, rfl, same.symm, missing, ?_⟩
          rw [entry, if_pos same]
          rfl
        · refine .inr ⟨?_, ?_⟩
          · rw [List.forall_mem_cons]
            exact ⟨Ne.symm same, missing⟩
          · rw [entry, if_neg same]

-- The jump over a byte.
def shiftOf (pattern : List Char) (next : UInt8) : Nat := (offsets pattern next.toNat).getD ((bytesOf pattern).length + 1)

theorem shift_cases (pattern : List Char) (next : UInt8) :
    (∃ front c back, pattern = front ++ c :: back ∧ c.toNat = next.toNat ∧ (∀ other ∈ back, other.toNat ≠ next.toNat) ∧
        shiftOf pattern next + (bytesOf front).length = (bytesOf pattern).length) ∨
      (∀ c ∈ pattern, c.toNat ≠ next.toNat) ∧ shiftOf pattern next = (bytesOf pattern).length + 1 := by
  rcases offset_entry (bytesOf pattern).length 0 next.toNat pattern (fun _ => none) with ⟨front, c, back, parts, code, late, entry⟩ | ⟨missing, entry⟩
  · refine .inl ⟨front, c, back, parts, code, late, ?_⟩
    rw [shiftOf, offsets, entry, Option.getD_some]
    have inside : (bytesOf front).length ≤ (bytesOf pattern).length := by
      rw [parts, bytes_append, List.length_append]
      omega
    omega
  · refine .inr ⟨missing, ?_⟩
    rw [shiftOf, offsets, entry, Option.getD_none]

theorem encoded_pos (c : Char) : 0 < (String.utf8EncodeChar c).length := List.length_pos_of_ne_nil String.utf8EncodeChar_ne_nil

theorem shift_pos (pattern : List Char) (next : UInt8) : 0 < shiftOf pattern next := by
  rcases shift_cases pattern next with ⟨front, c, back, parts, _, _, shifts⟩ | ⟨_, shifts⟩
  · rw [parts, bytes_append, bytes_cons, List.length_append, List.length_append] at shifts
    rw [← parts] at shifts
    have some_ := encoded_pos c
    omega
  · omega

theorem shift_bounded (pattern : List Char) (next : UInt8) : shiftOf pattern next ≤ (bytesOf pattern).length + 1 := by
  rcases shift_cases pattern next with ⟨_, _, _, _, _, _, shifts⟩ | ⟨_, shifts⟩ <;> omega

end Table

section Scan

variable {text : List UInt8} {pattern : List Char}

-- Inside the text the loop over the window reads no byte that is not there.
theorem match_from (i j : Nat) (rest : List UInt8) (fits : i + j + rest.length ≤ text.length) :
    ∃ stop, matchFrom text i j rest = some stop ∧ stop ≤ j + rest.length ∧ (stop = j + rest.length ↔ rest <+: text.drop (i + j)) := by
  induction rest generalizing j with
  | nil => exact ⟨j, rfl, le_rfl, by simp⟩
  | cons unit rest ih =>
      rw [List.length_cons] at fits ⊢
      have inside : i + j < text.length := by omega
      rw [matchFrom, List.getElem?_eq_getElem inside, List.drop_eq_getElem_cons inside]
      by_cases same : text[i + j] = unit
      · obtain ⟨stop, ran, bounded, whole⟩ := ih (j + 1) (by omega)
        refine ⟨stop, ?_, by omega, ?_⟩
        · simp only [if_pos same, ran]
        · rw [List.cons_prefix_cons, ← same, show j + (rest.length + 1) = j + 1 + rest.length by omega, whole]
          exact ⟨fun leads => ⟨rfl, leads⟩, And.right⟩
      · refine ⟨j, ?_, by omega, ?_⟩
        · simp only [if_neg same]
        · rw [List.cons_prefix_cons]
          constructor
          · intro full
            omega
          · rintro ⟨equal, _⟩
            exact absurd equal.symm same

theorem scan_next (fuel i : Nat) (next : UInt8) :
    (match offsets pattern next.toNat with
      | some val => scan (offsets pattern) text (bytesOf pattern) fuel (i + val)
      | none => scan (offsets pattern) text (bytesOf pattern) fuel (i + ((bytesOf pattern).length + 1))) =
      scan (offsets pattern) text (bytesOf pattern) fuel (i + shiftOf pattern next) := by
  rw [shiftOf]
  cases offsets pattern next.toNat with
  | none => rfl
  | some val => rfl

theorem row_step {i : Nat} {next : UInt8} (missed : ¬ OccursAt (bytesOf pattern) text i) (behind : text[i + (bytesOf pattern).length]? = some next) :
    (∃ position, RowFrom (bytesOf pattern) text (shiftOf pattern) i position ∧ position ≤ text.length ∧ OccursAt (bytesOf pattern) text position) ↔
      ∃ position, RowFrom (bytesOf pattern) text (shiftOf pattern) (i + shiftOf pattern next) position ∧ position ≤ text.length ∧
        OccursAt (bytesOf pattern) text position := by
  constructor
  · rintro ⟨position, row, within, occurs⟩
    cases row with
    | here => exact absurd occurs missed
    | jump other otherBehind later =>
        obtain rfl : other = next := Option.some.inj (otherBehind.symm.trans behind)
        exact ⟨position, later, within, occurs⟩
  · rintro ⟨position, row, within, occurs⟩
    exact ⟨position, .jump next behind row, within, occurs⟩

-- The scan answers whether one of the places that its jumps lead to is an occurrence.
theorem scan_answers (fuel i : Nat) (some_ : 0 < fuel) (enough : text.length < i + fuel) :
    ∃ answer, scan (offsets pattern) text (bytesOf pattern) fuel i = .returns answer ∧
      (answer = true ↔ ∃ position, RowFrom (bytesOf pattern) text (shiftOf pattern) i position ∧ position ≤ text.length ∧
        OccursAt (bytesOf pattern) text position) := by
  have over_ : ∀ {i : Nat}, ¬ i + (bytesOf pattern).length ≤ text.length →
      ¬ ∃ position, RowFrom (bytesOf pattern) text (shiftOf pattern) i position ∧ position ≤ text.length ∧ OccursAt (bytesOf pattern) text position := by
    rintro i outside ⟨position, row, within, occurs⟩
    have later := row.le
    have short := occurs.length_le
    rw [List.length_drop] at short
    omega
  induction fuel generalizing i with
  | zero => omega
  | succ fuel ih =>
      rw [scan]
      by_cases fits : i + (bytesOf pattern).length ≤ text.length
      · obtain ⟨stop, ran, _, whole⟩ := @match_from text i 0 (bytesOf pattern) (by omega)
        rw [Nat.zero_add, Nat.add_zero] at whole
        rw [if_pos fits, ran]
        by_cases full : stop = (bytesOf pattern).length
        · refine ⟨true, if_pos full, iff_of_true rfl ⟨i, .here i, by omega, whole.mp full⟩⟩
        · have missed : ¬ OccursAt (bytesOf pattern) text i := fun occurs => full (whole.mpr occurs)
          simp only [if_neg full]
          by_cases more : i + (bytesOf pattern).length < text.length
          · have behind := List.getElem?_eq_getElem more
            have positive := shift_pos pattern text[i + (bytesOf pattern).length]
            obtain ⟨answer, continued, found⟩ := ih (i + shiftOf pattern text[i + (bytesOf pattern).length]) (by omega) (by omega)
            rw [if_pos more, behind]
            refine ⟨answer, ?_, found.trans (row_step missed behind).symm⟩
            rw [← continued]
            exact scan_next fuel i _
          · rw [if_neg more]
            refine ⟨false, rfl, iff_of_false Bool.false_ne_true ?_⟩
            rintro ⟨position, row, within, occurs⟩
            cases row with
            | here => exact missed occurs
            | jump next behind _ =>
                rw [List.getElem?_eq_none (by omega)] at behind
                cases behind
      · rw [if_neg fits]
        exact ⟨false, rfl, iff_of_false Bool.false_ne_true (over_ fits)⟩

end Scan

section Exactness

def Ascii (pattern : String) : Prop := ∀ c ∈ pattern.toList, c.toNat < 128

instance (pattern : String) : Decidable (Ascii pattern) := List.decidableBAll _ _

-- An occurrence that the jumps from the start of the text do not pass.
def Met (text pattern : String) : Prop :=
  ∃ position, RowFrom (bytesOf pattern.toList) (bytesOf text.toList) (shiftOf pattern.toList) 0 position ∧
    position ≤ (bytesOf text.toList).length ∧ OccursAt (bytesOf pattern.toList) (bytesOf text.toList) position

theorem correct_iff (text pattern : String) : Correct text pattern ↔ (bytesOf pattern.toList <:+: bytesOf text.toList → Met text pattern) := by
  have met_occurs : Met text pattern → bytesOf pattern.toList <:+: bytesOf text.toList := by
    rintro ⟨position, _, _, occurs⟩
    exact infix_iff.mpr ⟨position, occurs⟩
  constructor
  · rintro ⟨answer, answers, exact_⟩ occurs
    obtain ⟨other, ran, found⟩ := @scan_answers (bytesOf text.toList) pattern.toList ((bytesOf text.toList).length + 1) 0 (by omega) (by omega)
    have same : Outcome.returns answer = .returns other := (answers _ (Nat.lt_succ_self _)).symm.trans ran
    cases same
    exact found.mp (exact_.mpr occurs)
  · intro met
    by_cases occurs : bytesOf pattern.toList <:+: bytesOf text.toList
    · refine ⟨true, fun fuel enough => ?_, iff_of_true rfl occurs⟩
      obtain ⟨answer, ran, found⟩ := @scan_answers (bytesOf text.toList) pattern.toList fuel 0 (by omega) (by omega)
      rw [found.mpr (met occurs)] at ran
      exact ran
    · refine ⟨false, fun fuel enough => ?_, iff_of_false Bool.false_ne_true occurs⟩
      obtain ⟨answer, ran, found⟩ := @scan_answers (bytesOf text.toList) pattern.toList fuel 0 (by omega) (by omega)
      cases answer with
      | false => exact ran
      | true => exact absurd (met_occurs (found.mp rfl)) occurs

theorem encoded_ascii {c : Char} (ascii : c.toNat < 128) : String.utf8EncodeChar c = [UInt8.ofNat c.toNat] := by
  have small : c.val.toNat ≤ 0x7f := Nat.le_of_lt_succ ascii
  rw [String.utf8EncodeChar, if_pos small]
  rfl

-- A character outside ASCII ends with a byte outside ASCII, behind its first one.
theorem encoded_wide {c : Char} (wide : 128 ≤ c.toNat) :
    ∃ first rest last, String.utf8EncodeChar c = first :: rest ++ [last] ∧ 128 ≤ last.toNat := by
  have large : ¬ c.val.toNat ≤ 0x7f := by
    have same : c.val.toNat = c.toNat := rfl
    omega
  have ends : 128 ≤ (UInt8.ofNat (c.val.toNat % 0x40 + 0x80)).toNat := by
    rw [UInt8.toNat_ofNat']
    omega
  simp only [String.utf8EncodeChar, if_neg large]
  split
  · exact ⟨_, [], _, rfl, ends⟩
  · split
    · exact ⟨_, [_], _, rfl, ends⟩
    · exact ⟨_, [_, _], _, rfl, ends⟩

theorem bytes_ascii (chars : List Char) (ascii : ∀ c ∈ chars, c.toNat < 128) : bytesOf chars = chars.map fun c => UInt8.ofNat c.toNat := by
  induction chars with
  | nil => rfl
  | cons c rest ih =>
      obtain ⟨here, others⟩ := List.forall_mem_cons.mp ascii
      rw [bytes_cons, ih others, encoded_ascii here, List.map_cons, List.singleton_append]

theorem safe_of_ascii (chars : List Char) (ascii : ∀ c ∈ chars, c.toNat < 128) : Safe (bytesOf chars) (shiftOf chars) := by
  refine ⟨shift_pos chars, shift_bounded chars, ?_⟩
  intro index next listed
  have bytes := bytes_ascii chars ascii
  rw [bytes, List.getElem?_map, Option.map_eq_some_iff] at listed
  obtain ⟨c, there, rfl⟩ := listed
  have small := ascii c (List.mem_of_getElem? there)
  have code : (UInt8.ofNat c.toNat).toNat = c.toNat := by
    rw [UInt8.toNat_ofNat']
    omega
  rcases shift_cases chars (UInt8.ofNat c.toNat) with ⟨front, last, back, parts, _, late, shifts⟩ | ⟨missing, _⟩
  · have before : index ≤ front.length := by
      by_contra behind
      rw [parts, List.getElem?_append_right (by omega), show index - front.length = index - front.length - 1 + 1 by omega,
        List.getElem?_cons_succ] at there
      exact late c (List.mem_of_getElem? there) code.symm
    have width : (bytesOf front).length = front.length := by
      rw [bytes_ascii front fun other member => ascii other (parts ▸ List.mem_append_left _ member), List.length_map]
    omega
  · exact absurd code.symm (missing c (List.mem_of_getElem? there))

theorem met_of_ascii (text pattern : String) (ascii : Ascii pattern) (occurs : bytesOf pattern.toList <:+: bytesOf text.toList) :
    Met text pattern := by
  obtain ⟨position, there⟩ := infix_iff.mp occurs
  by_cases empty : bytesOf pattern.toList = []
  · refine ⟨0, .here 0, Nat.zero_le _, ?_⟩
    rw [OccursAt, empty]
    exact List.nil_prefix
  · have fits := there.fits empty
    exact ⟨position, (safe_of_ascii pattern.toList ascii).reaches empty (Nat.zero_le _) there, by omega, there⟩

-- The last character outside ASCII of a pattern that has one.
theorem last_wide (chars : List Char) (wide : ¬ ∀ c ∈ chars, c.toNat < 128) :
    ∃ front c back, chars = front ++ c :: back ∧ 128 ≤ c.toNat ∧ ∀ other ∈ back, other.toNat < 128 := by
  induction chars with
  | nil => exact absurd (fun _ listed => absurd listed List.not_mem_nil) wide
  | cons c rest ih =>
      by_cases narrow : ∀ other ∈ rest, other.toNat < 128
      · refine ⟨[], c, rest, rfl, ?_, narrow⟩
        by_contra small
        exact wide (List.forall_mem_cons.mpr ⟨by omega, narrow⟩)
      · obtain ⟨front, last, back, rfl, large, late⟩ := ih narrow
        exact ⟨c :: front, last, back, rfl, large, late⟩

-- An entry for a byte outside ASCII stands no later than the last character that has such bytes.
theorem shift_long {front back : List Char} {c : Char} (late : ∀ other ∈ back, other.toNat < 128) {next : UInt8} (wide : 128 ≤ next.toNat) :
    (bytesOf (front ++ c :: back)).length ≤ shiftOf (front ++ c :: back) next + (bytesOf front).length := by
  rcases shift_cases (front ++ c :: back) next with ⟨others, last, rest, parts, code, _, shifts⟩ | ⟨_, shifts⟩
  · have early : others.length ≤ front.length := by
      by_contra behind
      have there : (front ++ c :: back)[others.length]? = some last := by
        rw [parts, List.getElem?_append_right le_rfl, Nat.sub_self, List.getElem?_cons_zero]
      rw [List.getElem?_append_right (by omega), show others.length - front.length = others.length - front.length - 1 + 1 by omega,
        List.getElem?_cons_succ] at there
      have narrow := late last (List.mem_of_getElem? there)
      omega
    have leads : others <+: front := by
      apply List.prefix_of_prefix_length_le _ (List.prefix_append front (c :: back)) early
      rw [parts]
      exact List.prefix_append others (last :: rest)
    obtain ⟨between, rfl⟩ := leads
    have width : (bytesOf (others ++ between)).length = (bytesOf others).length + (bytesOf between).length := by
      rw [bytes_append, List.length_append]
    omega
  · omega

-- A letter that the bytes do not begin with.
def otherLetter (bytes : List UInt8) : Char := if bytes.head? = some 97 then 'b' else 'a'

theorem other_letter (bytes : List UInt8) :
    ∃ letter, String.utf8EncodeChar (otherLetter bytes) = [letter] ∧ bytes.head? ≠ some letter := by
  unfold otherLetter
  split
  · rename_i begins
    refine ⟨98, by decide, ?_⟩
    rw [begins]
    decide
  · exact ⟨97, by decide, ‹_›⟩

-- A text in which the search misses the pattern: letters up to the place from which the first jump passes it.
theorem missed_text (pattern : String) (wide : ¬ Ascii pattern) : ∃ text, ¬ Correct text pattern := by
  obtain ⟨front, c, back, parts, large, late⟩ := last_wide pattern.toList wide
  obtain ⟨first, rest, last, encoded, ends⟩ := encoded_wide large
  obtain ⟨letter, lettered, begins⟩ := other_letter (bytesOf pattern.toList)
  let gap := (bytesOf back).length + 1
  let filler := List.replicate gap (otherLetter (bytesOf pattern.toList))
  have filled : bytesOf filler = List.replicate gap letter := by
    rw [bytesOf, List.flatMap_replicate, lettered]
    simp
  have bytes : bytesOf (String.ofList (filler ++ pattern.toList)).toList = List.replicate gap letter ++ bytesOf pattern.toList := by
    rw [String.toList_ofList, bytes_append, filled]
  refine ⟨String.ofList (filler ++ pattern.toList), fun correct => ?_⟩
  have occurs : bytesOf pattern.toList <:+: bytesOf (String.ofList (filler ++ pattern.toList)).toList := by
    rw [bytes]
    exact (List.suffix_append _ _).isInfix
  obtain ⟨position, row, _, there⟩ := (correct_iff _ pattern).mp correct occurs
  rw [bytes] at row there
  have split : bytesOf pattern.toList = (bytesOf front ++ first :: rest) ++ last :: bytesOf back := by
    rw [parts, bytes_append, bytes_cons, encoded]
    simp
  have size : (bytesOf pattern.toList).length = (bytesOf front ++ first :: rest).length + gap := by
    rw [split, List.length_append, List.length_cons]
  have nonempty : bytesOf pattern.toList ≠ [] := by
    rw [split]
    simp
  have fits := there.fits nonempty
  rw [List.length_append, List.length_replicate] at fits
  cases row with
  | here =>
      rw [OccursAt, List.drop_zero] at there
      obtain ⟨tail, same⟩ := there
      have heads := congrArg List.head? same
      rw [List.head?_append_of_ne_nil _ nonempty, List.replicate_succ, List.cons_append, List.head?_cons] at heads
      exact begins heads
  | jump next behind later =>
      have found : next = last := by
        rw [Nat.zero_add, List.getElem?_append_right (by rw [List.length_replicate]; omega), List.length_replicate, size, Nat.add_sub_cancel,
          split, List.getElem?_append_right le_rfl, Nat.sub_self, List.getElem?_cons_zero] at behind
        exact (Option.some.inj behind).symm
      have long := @shift_long front back c late last ends
      rw [← parts] at long
      have reach := later.le
      rw [found] at reach
      rw [List.length_append, List.length_cons] at size
      omega

/- The search is right on every text exactly for the patterns of ASCII characters; and on a single text exactly where the
   bytes do not occur or the jumps from its start meet an occurrence. -/
theorem search_exact (pattern : String) :
    ((∀ text, Correct text pattern) ↔ Ascii pattern) ∧
      ∀ text, Correct text pattern ↔ (bytesOf pattern.toList <:+: bytesOf text.toList → Met text pattern) := by
  refine ⟨?_, fun text => correct_iff text pattern⟩
  constructor
  · intro correct
    by_contra wide
    obtain ⟨text, wrong⟩ := missed_text pattern wide
    exact wrong (correct text)
  · intro ascii text
    exact (correct_iff text pattern).mpr (met_of_ascii text pattern ascii)

-- The letter behind two others, which ends the text.
theorem accented_missed : sundaySearch "aaé" "é" 10 = .returns false ∧ bytesOf "é".toList <:+: bytesOf "aaé".toList ∧ ¬ Correct "aaé" "é" := by
  have ran : sundaySearch "aaé" "é" 10 = .returns false := by decide +kernel
  have occurs : bytesOf "é".toList <:+: bytesOf "aaé".toList := by decide +kernel
  refine ⟨ran, occurs, ?_⟩
  rintro ⟨answer, answers, exact_⟩
  have same := (answers 10 (by decide +kernel)).symm.trans ran
  rw [exact_.mpr occurs] at same
  cases same

end Exactness

end CodeGo.Platform.Sunday
