import Mathlib.Data.List.Basic

/-!
# Rasters

The cells of a picture stand row by row in a list.  A raster that is produced
row by row has the produced cells, and a smaller raster that is copied into a
larger one covers a box of it and leaves the rest.
-/

namespace CarplayRgi

namespace Raster

variable {Cell : Type*}

/-- The place of a cell in the list. -/
def place (width x y : Nat) : Nat := y * width + x

theorem place_lt {width height x y : Nat} (column : x < width) (row : y < height) :
    place width x y < height * width := by
  have below : y * width + width ≤ height * width := by
    rw [← Nat.succ_mul]
    exact Nat.mul_le_mul_right width row
  unfold place
  omega

/-- A place tells its row and its column. -/
theorem eq_of_place {width x y otherY : Nat} (column : x < width)
    (low : otherY * width ≤ place width x y)
    (high : place width x y < otherY * width + width) : y = otherY := by
  unfold place at low high
  rcases Nat.lt_trichotomy y otherY with before | same | behind
  · have := Nat.mul_le_mul_right width (Nat.succ_le_of_lt before)
    rw [Nat.succ_mul] at this
    omega
  · exact same
  · have := Nat.mul_le_mul_right width (Nat.succ_le_of_lt behind)
    rw [Nat.succ_mul] at this
    omega

theorem length_rows {width : Nat} (row : Nat → List Cell) (height : Nat)
    (wide : ∀ y < height, (row y).length = width) :
    ((List.range height).flatMap row).length = height * width := by
  induction height with
  | zero => simp
  | succ height ih =>
      rw [List.range_succ, List.flatMap_append, List.length_append,
        ih fun y below => wide y (Nat.lt_succ_of_lt below), List.flatMap_singleton,
        wide height (Nat.lt_succ_self height), Nat.succ_mul]

/-- The cells of rows that have been put one behind the other. -/
theorem getElem?_rows {width : Nat} (row : Nat → List Cell) {height x y : Nat}
    (wide : ∀ y < height, (row y).length = width) (column : x < width) (inside : y < height) :
    ((List.range height).flatMap row)[place width x y]? = (row y)[x]? := by
  induction height with
  | zero => exact absurd inside (Nat.not_lt_zero y)
  | succ height ih =>
      have wideBelow : ∀ y < height, (row y).length = width :=
        fun y below => wide y (Nat.lt_succ_of_lt below)
      have long := length_rows row height wideBelow
      rw [List.range_succ, List.flatMap_append, List.flatMap_singleton]
      by_cases below : y < height
      · rw [List.getElem?_append_left (by rw [long]; exact place_lt column below),
          ih wideBelow below]
      · have last : y = height := by omega
        rw [List.getElem?_append_right (by rw [long, last]; exact Nat.le_add_right _ _), long,
          last, place, Nat.add_sub_cancel_left]

/-- The list with other cells from a place on. -/
def overwrite (cells : List Cell) (start : Nat) (new : List Cell) : List Cell :=
  cells.take start ++ new ++ cells.drop (start + new.length)

theorem length_overwrite {cells new : List Cell} {start : Nat}
    (fits : start + new.length ≤ cells.length) :
    (overwrite cells start new).length = cells.length := by
  simp only [overwrite, List.length_append, List.length_take, List.length_drop]
  omega

theorem getElem?_overwrite {cells new : List Cell} {start : Nat}
    (fits : start + new.length ≤ cells.length) (index : Nat) :
    (overwrite cells start new)[index]? =
      if start ≤ index ∧ index < start + new.length then new[index - start]? else cells[index]? := by
  have front : (cells.take start).length = start := by rw [List.length_take]; omega
  unfold overwrite
  by_cases before : index < start
  · rw [if_neg (by omega), List.append_assoc, List.getElem?_append_left (by omega),
      List.getElem?_take_of_lt before]
  by_cases within : index < start + new.length
  · rw [if_pos (by omega), List.append_assoc, List.getElem?_append_right (by omega), front,
      List.getElem?_append_left (by omega)]
  · rw [if_neg (by omega), List.getElem?_append_right (by rw [List.length_append]; omega),
      List.length_append, front, List.getElem?_drop]
    congr 1
    omega

/-- The first rows of a smaller raster, copied into a canvas with their first
cell at `left` and `top`. -/
def blit (canvas small : List Cell) (width smallWidth left top rows : Nat) : List Cell :=
  (List.range rows).foldl (fun canvas y =>
    overwrite canvas (place width left (top + y)) ((small.drop (y * smallWidth)).take smallWidth))
    canvas

theorem blit_succ (canvas small : List Cell) (width smallWidth left top rows : Nat) :
    blit canvas small width smallWidth left top (rows + 1) =
      overwrite (blit canvas small width smallWidth left top rows)
        (place width left (top + rows)) ((small.drop (rows * smallWidth)).take smallWidth) := by
  rw [blit, List.range_succ, List.foldl_append, List.foldl_cons, List.foldl_nil, blit]

section Blit

variable {canvas small : List Cell} {width height smallWidth smallHeight left top : Nat}

theorem length_row (whole : small.length = smallHeight * smallWidth) {y : Nat}
    (inside : y < smallHeight) :
    ((small.drop (y * smallWidth)).take smallWidth).length = smallWidth := by
  have below := Nat.mul_le_mul_right smallWidth (Nat.succ_le_of_lt inside)
  rw [Nat.succ_mul] at below
  rw [List.length_take, List.length_drop, whole]
  omega

theorem row_fits (whole : canvas.length = height * width) (right : left + smallWidth ≤ width)
    {y : Nat} (inside : y < height) : place width left y + smallWidth ≤ canvas.length := by
  have below := Nat.mul_le_mul_right width (Nat.succ_le_of_lt inside)
  rw [Nat.succ_mul] at below
  rw [whole, place]
  omega

theorem length_blit (whole : canvas.length = height * width)
    (wholeSmall : small.length = smallHeight * smallWidth) (right : left + smallWidth ≤ width)
    (bottom : top + smallHeight ≤ height) {rows : Nat} (few : rows ≤ smallHeight) :
    (blit canvas small width smallWidth left top rows).length = height * width := by
  induction rows with
  | zero => exact whole
  | succ rows ih =>
      have long := ih (Nat.le_of_succ_le few)
      have row := length_row wholeSmall (Nat.lt_of_succ_le few)
      rw [blit_succ, length_overwrite, long]
      rw [row]
      exact row_fits long right (by omega)

/-- The box holds the cells of the smaller raster, and the rest is the canvas. -/
theorem getElem?_blit (whole : canvas.length = height * width)
    (wholeSmall : small.length = smallHeight * smallWidth) (right : left + smallWidth ≤ width)
    (bottom : top + smallHeight ≤ height) {rows : Nat} (few : rows ≤ smallHeight) {x y : Nat}
    (column : x < width) :
    (blit canvas small width smallWidth left top rows)[place width x y]? =
      if left ≤ x ∧ x < left + smallWidth ∧ top ≤ y ∧ y < top + rows then
        small[place smallWidth (x - left) (y - top)]?
      else canvas[place width x y]? := by
  induction rows with
  | zero => rw [if_neg (by omega), blit, List.range_zero, List.foldl_nil]
  | succ rows ih =>
      have long := length_blit whole wholeSmall right bottom (Nat.le_of_succ_le few)
      have row := length_row wholeSmall (Nat.lt_of_succ_le few)
      have fits : place width left (top + rows) + smallWidth ≤
          (blit canvas small width smallWidth left top rows).length :=
        row_fits long right (by omega)
      have inRow : (place width left (top + rows) ≤ place width x y ∧
          place width x y < place width left (top + rows) + smallWidth) ↔
            left ≤ x ∧ x < left + smallWidth ∧ y = top + rows := by
        constructor
        · rintro ⟨low, high⟩
          have sameRow : y = top + rows := by
            refine eq_of_place column ?_ ?_
            · exact Nat.le_trans (Nat.le_add_right _ left) low
            · unfold place at high ⊢
              omega
          rw [sameRow] at low high
          unfold place at low high
          omega
        · rintro ⟨low, high, sameRow⟩
          rw [sameRow]
          unfold place
          omega
      rw [blit_succ, getElem?_overwrite (by rw [row]; exact fits), row]
      by_cases inside : left ≤ x ∧ x < left + smallWidth ∧ y = top + rows
      · obtain ⟨low, high, sameRow⟩ := inside
        have offset : place width x y - place width left (top + rows) = x - left := by
          rw [sameRow]
          unfold place
          omega
        rw [if_pos (inRow.mpr ⟨low, high, sameRow⟩), if_pos (by omega), offset,
          List.getElem?_take_of_lt (by omega), List.getElem?_drop, sameRow,
          Nat.add_sub_cancel_left, place]
      · rw [if_neg fun within => inside (inRow.mp within), ih (Nat.le_of_succ_le few)]
        by_cases earlier : left ≤ x ∧ x < left + smallWidth ∧ top ≤ y ∧ y < top + rows
        · rw [if_pos earlier, if_pos (by omega)]
        · rw [if_neg earlier, if_neg (by omega)]

end Blit

end Raster

end CarplayRgi
