/-!
# Character grids

A large set of characters is laid out in a grid whose places are numbered row by row. A table gives
the characters in runs; what no run covers stays empty.
-/

namespace Newsstand.Text

/-- Runs of characters, each with the number of its first place. -/
abbrev Runs := List (Nat × String)

/-- The places that runs fill, with their characters. -/
def Runs.places (runs : Runs) : List (Nat × Char) :=
  runs.flatMap fun (first, text) => text.toList.zipIdx.map fun (c, i) => (first + i, c)

/-- A grid: the character of each place that has one. -/
abbrev Grid := Array (Option Char)

namespace Grid

/-- The grid with characters put in places. -/
def put (grid : Grid) (places : List (Nat × Char)) : Grid :=
  places.foldl (fun grid (place, c) => grid.setIfInBounds place (some c)) grid

/-- The grid of a number of places, of which some are filled. -/
def ofPlaces (size : Nat) (places : List (Nat × Char)) : Grid :=
  put (Array.replicate size none) places

/-- The character of a place. -/
def at? (grid : Grid) (place : Nat) : Option Char :=
  (grid[place]?).join

/-- For each of a number of code points from `first` on, whether the grid has its character. -/
def held (grid : Grid) (first count : Nat) : Array Bool :=
  grid.foldl (fun held c? =>
    match c? with
    | some c => if first ≤ c.toNat then held.setIfInBounds (c.toNat - first) true else held
    | none => held) (Array.replicate count false)

/-- The characters among a number of code points from `first` on that the grid does not have. -/
def absent (grid : Grid) (first count : Nat) : List Char :=
  let held := grid.held first count
  let others := (List.range count).filter fun i =>
    held[i]? == some false && (first + i).isValidChar
  others.map fun i => Char.ofNat (first + i)

end Grid

end Newsstand.Text
