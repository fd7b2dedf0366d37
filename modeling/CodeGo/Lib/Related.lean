import Mathlib.Data.List.Forall2

set_option autoImplicit false

/- Two lists that are related item by item. -/

namespace Related

theorem forall_through {Part Item Piece : Type} {first : Part → Item → Prop} {second : Item → Piece → Prop} {third : Part → Piece → Prop}
    (parts : List Part) (items : List Item) (pieces : List Piece) (left : List.Forall₂ first parts items)
    (right : List.Forall₂ second items pieces)
    (through : ∀ part ∈ parts, ∀ item ∈ items, ∀ piece, first part item → second item piece → third part piece) :
    List.Forall₂ third parts pieces := by
  induction left generalizing pieces with
  | nil =>
      cases right
      exact .nil
  | cons here _ ih =>
      cases right with
      | cons there others =>
          refine .cons (through _ List.mem_cons_self _ List.mem_cons_self _ here there) (ih _ others fun part member item itemMember => ?_)
          exact through part (List.mem_cons_of_mem _ member) item (List.mem_cons_of_mem _ itemMember)

theorem related_at {Part : Type} {related : Part → Part → Prop} (front : List Part) (part result : Part) (rest results : List Part)
    (all : List.Forall₂ related (front ++ part :: rest) (front ++ result :: results)) : related part result := by
  induction front with
  | nil =>
      cases all with
      | cons head _ => exact head
  | cons first front ih =>
      cases all with
      | cons _ tail => exact ih tail

end Related
