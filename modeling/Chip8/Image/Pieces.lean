/-!
# Lists in pieces

Files and blocks of pixels take a list a few items at a time. The pieces of a list
together are the list (`flatten_pieces`), and none is longer than asked for
(`length_le_of_mem_pieces`).
-/
namespace Chip8

/-- Items in pieces of `n`, the last of which may be shorter. -/
def pieces {α : Type} (n : Nat) (items : List α) : List (List α) :=
  match items with
  | [] => []
  | a :: rest => (a :: rest.take (n - 1)) :: pieces n (rest.drop (n - 1))
termination_by items.length
decreasing_by simp only [List.length_drop, List.length_cons]; omega

theorem flatten_pieces {α : Type} (n : Nat) (items : List α) :
    (pieces n items).flatten = items := by
  fun_induction pieces n items with
  | case1 => rfl
  | case2 a rest ih => rw [List.flatten_cons, ih, List.cons_append, List.take_append_drop]

theorem length_le_of_mem_pieces {α : Type} {n : Nat} (hn : 0 < n) {items piece : List α}
    (h : piece ∈ pieces n items) : piece.length ≤ n := by
  fun_induction pieces n items with
  | case1 => cases h
  | case2 a rest ih =>
    rcases List.mem_cons.mp h with rfl | h
    · rw [List.length_cons, List.length_take]; omega
    · exact ih h

def columns {α : Type} (rows : List (List α)) : List (List α) :=
  rows.foldr (List.zipWith List.cons) (List.replicate ((rows.head?.map List.length).getD 0) [])

end Chip8
