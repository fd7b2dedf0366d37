import Mathlib.Data.List.DropRight
import Mathlib.Data.String.Basic

set_option autoImplicit false

namespace Text

-- The Unicode White_Space characters.
def isSpace (c : Char) : Bool :=
  c.val ∈ ([0x09, 0x0A, 0x0B, 0x0C, 0x0D, 0x20, 0x85, 0xA0, 0x1680, 0x2028, 0x2029, 0x202F, 0x205F, 0x3000] : List UInt32) ||
    (0x2000 ≤ c.val && c.val ≤ 0x200A)

def trimChars (chars : List Char) : List Char := (chars.dropWhile isSpace).rdropWhile isSpace

def trimSpace (text : String) : String := String.ofList (trimChars text.toList)

-- Blank is how callers reject a missing field: nothing is left after trimming.
def Blank (text : String) : Prop := trimSpace text = ""

instance (text : String) : Decidable (Blank text) := inferInstanceAs (Decidable (trimSpace text = ""))

def SolidHead (text : String) : Prop := text.toList.head?.any (fun c => !isSpace c) = true

def SolidLast (text : String) : Prop := text.toList.getLast?.any (fun c => !isSpace c) = true

instance (text : String) : Decidable (SolidHead text) := inferInstanceAs (Decidable (_ = true))

instance (text : String) : Decidable (SolidLast text) := inferInstanceAs (Decidable (_ = true))

-- A text whose two ends are not white space; trimming fixes it.
def Tight (text : String) : Prop := SolidHead text ∧ SolidLast text

instance (text : String) : Decidable (Tight text) := inferInstanceAs (Decidable (_ ∧ _))

def hasPrefix (front text : String) : Bool := front.toList.isPrefixOf text.toList

def hasSuffix (back text : String) : Bool := back.toList.isSuffixOf text.toList

def trimPrefix (front text : String) : String :=
  if hasPrefix front text then String.ofList (text.toList.drop front.length) else text

def trimSuffix (back text : String) : String :=
  if hasSuffix back text then String.ofList (text.toList.take (text.length - back.length)) else text

-- Every occurrence from the left, none overlapping the one before it.
def replaceChars (old new : List Char) : (skip : Nat) → List Char → List Char
  | _, [] => []
  | skip + 1, _ :: rest => replaceChars old new skip rest
  | 0, c :: rest =>
      if old.isPrefixOf (c :: rest) then new ++ replaceChars old new (old.length - 1) rest else c :: replaceChars old new 0 rest

def replaceAll (old new text : String) : String := String.ofList (replaceChars old.toList new.toList 0 text.toList)

theorem trim_chars_head (chars : List Char) : (trimChars chars).head?.all (fun c => !isSpace c) = true := by
  cases core : chars.dropWhile isSpace with
  | nil => simp [trimChars, core]
  | cons first rest =>
      have solid : isSpace first = false := by
        have head := List.head_dropWhile_not isSpace (l := chars) (by simp [core])
        simpa [core] using head
      cases kept : (first :: rest).rdropWhile isSpace with
      | nil => simp [trimChars, core, kept]
      | cons keptFirst keptRest =>
          have pre : keptFirst :: keptRest <+: first :: rest := kept ▸ List.rdropWhile_prefix isSpace _
          have same : keptFirst = first := (List.cons_prefix_cons.mp pre).1
          simp [trimChars, core, kept, same, solid]

theorem trim_chars_last (chars : List Char) : (trimChars chars).getLast?.all (fun c => !isSpace c) = true := by
  cases kept : trimChars chars with
  | nil => rfl
  | cons first rest =>
      have nonempty : (chars.dropWhile isSpace).rdropWhile isSpace ≠ [] := by
        simpa [trimChars] using (by simp [kept] : trimChars chars ≠ [])
      have solid := List.rdropWhile_last_not isSpace _ nonempty
      have last : (first :: rest).getLast? = some (((chars.dropWhile isSpace).rdropWhile isSpace).getLast nonempty) := by
        rw [← kept, trimChars, List.getLast?_eq_some_getLast nonempty]
      simpa [last] using solid

theorem solid_head_append (front back : String) (solid : SolidHead front) : SolidHead (front ++ back) := by
  unfold SolidHead at *
  rw [String.toList_append]
  cases chars : front.toList with
  | nil => simp [chars] at solid
  | cons first rest => simpa [chars] using solid

theorem solid_last_append (front back : String) (solid : SolidLast back) : SolidLast (front ++ back) := by
  unfold SolidLast at *
  rw [String.toList_append, List.getLast?_append]
  cases last : back.toList.getLast? with
  | none => simp [last] at solid
  | some c => simpa [last] using solid

theorem tight_append (front back : String) (head : SolidHead front) (last : SolidLast back) : Tight (front ++ back) :=
  ⟨solid_head_append front back head, solid_last_append front back last⟩

theorem trim_space_tight (text : String) (tight : Tight text) : trimSpace text = text := by
  obtain ⟨head, last⟩ := tight
  have noLead : text.toList.dropWhile isSpace = text.toList := by
    unfold SolidHead at head
    cases chars : text.toList with
    | nil => rfl
    | cons first rest =>
        rw [List.dropWhile_cons_of_neg]
        simpa [chars] using head
  have noTrail : text.toList.rdropWhile isSpace = text.toList := by
    rw [List.rdropWhile_eq_self_iff]
    intro nonempty
    unfold SolidLast at last
    rw [List.getLast?_eq_some_getLast nonempty] at last
    simpa using last
  rw [trimSpace, trimChars, noLead, noTrail, String.ofList_toList]

theorem tight_trim_space (text : String) (present : ¬ Blank text) : Tight (trimSpace text) := by
  have nonempty : trimChars text.toList ≠ [] := by
    intro nothing
    exact present (by simp [Blank, trimSpace, nothing])
  have head := trim_chars_head text.toList
  have last := trim_chars_last text.toList
  rw [List.head?_eq_some_head nonempty] at head
  rw [List.getLast?_eq_some_getLast nonempty] at last
  constructor
  · simpa [SolidHead, trimSpace, String.toList_ofList, List.head?_eq_some_head nonempty] using head
  · simpa [SolidLast, trimSpace, String.toList_ofList, List.getLast?_eq_some_getLast nonempty] using last

theorem not_blank_of_tight (text : String) (tight : Tight text) : ¬ Blank text := by
  intro blank
  rw [Blank, trim_space_tight text tight] at blank
  simp [Tight, SolidHead, blank] at tight

@[simp] theorem trim_space_idem (text : String) : trimSpace (trimSpace text) = trimSpace text := by
  by_cases blank : Blank text
  · rw [Blank] at blank
    rw [blank]
    rfl
  · exact trim_space_tight _ (tight_trim_space text blank)

theorem append_left_injective (front : String) (first second : String) (same : front ++ first = front ++ second) :
    first = second := by
  have chars := congrArg String.toList same
  rw [String.toList_append, String.toList_append] at chars
  exact String.toList_inj.mp (List.append_cancel_left chars)

theorem append_right_injective (back : String) (first second : String) (same : first ++ back = second ++ back) :
    first = second := by
  have chars := congrArg String.toList same
  rw [String.toList_append, String.toList_append] at chars
  exact String.toList_inj.mp (List.append_cancel_right chars)

-- Trimming never reaches into a tight text in front.
theorem trim_space_front (front back : String) (tight : Tight front) : ∃ rest, trimSpace (front ++ back) = front ++ rest := by
  obtain ⟨head, last⟩ := tight
  unfold SolidHead at head
  unfold SolidLast at last
  have noLead : (front.toList ++ back.toList).dropWhile isSpace = front.toList ++ back.toList := by
    cases chars : front.toList with
    | nil => simp [chars] at head
    | cons first rest =>
        rw [List.cons_append, List.dropWhile_cons_of_neg]
        simpa [chars] using head
  refine ⟨String.ofList (back.toList.rdropWhile isSpace), ?_⟩
  have nonempty : front.toList ≠ [] := by
    intro nothing
    simp [nothing] at head
  have stops : front.toList.reverse.dropWhile isSpace = front.toList.reverse := by
    have solid : isSpace (front.toList.getLast nonempty) = false := by
      rw [List.getLast?_eq_some_getLast nonempty] at last
      simpa using last
    cases reversed : front.toList.reverse with
    | nil => simp [nonempty] at reversed
    | cons final others =>
        have isLast : final = front.toList.getLast nonempty := by
          have := congrArg List.head? reversed
          simpa [List.head?_reverse, List.getLast?_eq_some_getLast nonempty] using this.symm
        rw [List.dropWhile_cons_of_neg]
        simp [isLast, solid]
  apply String.toList_inj.mp
  rw [trimSpace, trimChars, String.toList_append, noLead, String.toList_ofList, String.toList_append, String.toList_ofList]
  simp only [List.rdropWhile, List.reverse_append, List.dropWhile_append, stops]
  split
  · rename_i empty
    rw [List.isEmpty_iff] at empty
    simp [empty]
  · simp

theorem not_blank_front (front back : String) (tight : Tight front) : ¬ Blank (front ++ back) := by
  obtain ⟨rest, trimmed⟩ := trim_space_front front back tight
  intro blank
  rw [Blank, trimmed] at blank
  have chars := congrArg String.toList blank
  rw [String.toList_append] at chars
  have empty : front.toList = [] := (List.append_eq_nil_iff.mp chars).1
  simp [Tight, SolidHead, empty] at tight

-- Two texts that stay different whatever is put behind them.
def Apart (first second : String) : Prop := ¬ first.toList <+: second.toList ∧ ¬ second.toList <+: first.toList

instance (first second : String) : Decidable (Apart first second) := inferInstanceAs (Decidable (_ ∧ _))

theorem Apart.ne {first second : String} (apart : Apart first second) (firstRest secondRest : String) :
    first ++ firstRest ≠ second ++ secondRest := by
  intro same
  have chars := congrArg String.toList same
  rw [String.toList_append, String.toList_append] at chars
  have firstIn : first.toList <+: second.toList ++ secondRest.toList := chars ▸ List.prefix_append _ _
  rcases List.prefix_or_prefix_of_prefix firstIn (List.prefix_append second.toList secondRest.toList) with before | before
  · exact apart.1 before
  · exact apart.2 before

theorem Apart.trim_ne {first second : String} (apart : Apart first second) (tight : Tight first) (firstRest secondRest : String) :
    trimSpace (first ++ firstRest) ≠ second ++ secondRest := by
  obtain ⟨rest, trimmed⟩ := trim_space_front first firstRest tight
  rw [trimmed]
  exact apart.ne rest secondRest

end Text
