/-!
# Charts of characters

Standards for East Asian writing lay characters out in charts: rows of cells, where a cell holds a
character or is free.  A chart is written as runs of characters, each with the number of its first
cell when the cells are counted row by row.
-/

namespace ClientGen.Text

/-- A chart of characters: how many cells a row has, and the cells row by row. -/
structure Chart where
  width : Nat
  cells : Array Char

namespace Chart

/-- What a free cell holds. -/
def free : Char := Char.ofNat 0

/-- The cells with characters put into them, from cell `i` on. -/
def fill (cells : Array Char) : Nat → List Char → Array Char
  | _, [] => cells
  | i, c :: rest => fill (cells.setIfInBounds i c) (i + 1) rest

/-- The chart of some rows of some width that holds the characters of the runs. -/
def ofRuns (height width : Nat) (runs : List (Nat × String)) : Chart :=
  ⟨width, runs.foldl (fun cells run => fill cells run.1 run.2.toList)
    (Array.replicate (height * width) free)⟩

/-- The character in a cell, when there is one. -/
def char? (chart : Chart) (row cell : Nat) : Option Char :=
  if cell < chart.width then
    (chart.cells[row * chart.width + cell]?).filter fun c => c ≠ free
  else none

/-- The characters from U+`first` on, `count` of them, that are not in the chart, in order. -/
def missing (chart : Chart) (first count : Nat) : Array Char :=
  let held := chart.cells.foldl (fun held c =>
      if first ≤ c.toNat then held.setIfInBounds (c.toNat - first) true else held)
    (Array.replicate count false)
  ((Array.range count).filter fun i => !held.getD i false).map fun i => Char.ofNat (first + i)

/-- The character for two octets, which count rows and cells from 21 on. -/
def at? (chart : Chart) (row cell : Nat) : Option Char :=
  if 0x21 ≤ row ∧ 0x21 ≤ cell then chart.char? (row - 0x21) (cell - 0x21) else none

end Chart

end ClientGen.Text
