/-!
# Tables of code points

A property of characters is given as a sorted table of inclusive ranges. Membership halves the
table, so a look-up costs the logarithm of its length.
-/

namespace TokenGrammar.Text

/-- Whether one of the ranges at positions `low` to `high` (exclusive) of a sorted table covers a
code point. -/
def coversBetween (table : Array (Nat × Nat)) (point low high : Nat) : Bool :=
  if _h : low < high then
    let middle := (low + high) / 2
    let (first, last) := table.getD middle (0, 0)
    if point < first then coversBetween table point low middle
    else if last < point then coversBetween table point (middle + 1) high
    else decide (middle < table.size)
  else false
termination_by high - low

def covers (table : Array (Nat × Nat)) (point : Nat) : Bool :=
  coversBetween table point 0 table.size

theorem exists_range_of_coversBetween (table : Array (Nat × Nat)) (point low high : Nat)
    (hcovers : coversBetween table point low high = true) :
    ∃ i, ∃ h : i < table.size, table[i].1 ≤ point ∧ point ≤ table[i].2 := by
  fun_induction coversBetween table point low high with
  | case1 low high hlt middle first last _ _ ih => exact ih hcovers
  | case2 low high hlt middle first last _ _ _ ih => exact ih hcovers
  | case3 low high hlt middle first last hrange hfirst hlast =>
      have hmiddle : middle < table.size := of_decide_eq_true hcovers
      have hget : table[middle] = (first, last) := by
        rw [← hrange, Array.getD_eq_getD_getElem?, Array.getElem?_eq_getElem hmiddle]
        rfl
      exact ⟨middle, hmiddle, by rw [hget]; exact ⟨Nat.le_of_not_lt hfirst, Nat.le_of_not_lt hlast⟩⟩
  | case4 => exact absurd hcovers Bool.false_ne_true

end TokenGrammar.Text
