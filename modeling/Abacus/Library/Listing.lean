import Mathlib.Data.List.Sort

/-! Listings: the selected rows in an order, page by page, and how many there are of them.
Whatever the order is, the pages of a listing together are its rows, each of them once.
-/
set_option autoImplicit false

namespace Sql

variable {Row View : Type}

/-- `LIMIT … OFFSET …`. -/
def page (rows : List Row) (limit offset : ℕ) : List Row := (rows.drop offset).take limit

def pages (rows : List Row) (limit count : ℕ) : List (List Row) :=
  (List.range count).map fun index => page rows limit (index * limit)

theorem mem_of_page {rows : List Row} {limit offset : ℕ} {row : Row}
    (member : row ∈ page rows limit offset) : row ∈ rows :=
  List.mem_of_mem_drop (List.mem_of_mem_take member)

theorem map_page (view : Row → View) (rows : List Row) (limit offset : ℕ) :
    (page rows limit offset).map view = page (rows.map view) limit offset := by
  simp [page,List.map_drop]

theorem flatten_pages (rows : List Row) (limit count : ℕ) :
    (pages rows limit count).flatten = rows.take (count * limit) := by
  induction count with
  | zero => simp [pages]
  | succ count ih =>
      rw [pages] at ih
      rw [pages,List.range_succ,List.map_append,List.flatten_append,ih,Nat.succ_mul,List.take_add]
      simp [page]

/-- Enough pages are all of the rows. -/
theorem flatten_pages_of_le {rows : List Row} {limit count : ℕ} (enough : rows.length ≤ count * limit) :
    (pages rows limit count).flatten = rows := by
  rw [flatten_pages,List.take_of_length_le enough]

end Sql
