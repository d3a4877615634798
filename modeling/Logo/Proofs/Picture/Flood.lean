import Logo.Picture.Flood
import Logo.Proofs.Picture.Grid
import Mathlib.Data.Set.Card
import Mathlib.Logic.Relation

/-!
# A flood fills a region

The region of a seed is all that can be reached from it over neighbouring
places in the color of the seed.  A flood paints its region, all of it and
nothing else, and counts the places in it.

The places that wait to be visited may have been painted in the meantime, and
may be waiting twice.  What holds all along is that every neighbour in the
color of the seed of a painted place is painted or waits, and that everything
painted or waiting in this color is in the region.  When nothing waits any
more, the painted places are closed under neighbours and so are the region.
-/

namespace Logo

namespace Picture

/-- Places that have a side in common. -/
def Adjacent (pixel other : Pixel) : Prop :=
  (pixel.x - other.x).natAbs + (pixel.y - other.y).natAbs = 1

namespace Grid

variable {α : Type}

/-- Adjacent places of a grid that both have a color. -/
def Linked (grid : Grid α) (color : α) (pixel other : Pixel) : Prop :=
  Adjacent pixel other ∧ grid.get? pixel = some color ∧ grid.get? other = some color

/-- The places that a path joins to a seed, all of them in the color of the seed. -/
def region (grid : Grid α) (seed : Pixel) : Set Pixel :=
  { pixel | ∃ color, grid.get? seed = some color ∧
    Relation.ReflTransGen (grid.Linked color) seed pixel }

variable {grid : Grid α} {seed pixel other : Pixel} {target replacement : α}

/-- The region of a seed is what can be reached from it over links. -/
theorem mem_region (seeded : grid.get? seed = some target) :
    pixel ∈ grid.region seed ↔
      Relation.ReflTransGen (grid.Linked target) seed pixel := by
  constructor
  · rintro ⟨color, colored, joined⟩
    cases seeded.symm.trans colored
    exact joined
  · intro joined
    exact ⟨target, seeded, joined⟩

theorem contains_of_get? (seen : grid.get? pixel = some target) :
    grid.contains pixel = true := by
  by_contra off
  rw [get?, if_neg off] at seen
  cases seen

/-- Neighbours are the adjacent places on the grid. -/
theorem mem_neighbours :
    other ∈ grid.neighbours pixel ↔ Adjacent pixel other ∧ grid.contains other = true := by
  obtain ⟨x, y⟩ := pixel
  obtain ⟨x', y'⟩ := other
  simp only [neighbours, List.mem_filter, List.mem_cons, Pixel.mk.injEq, List.not_mem_nil, or_false,
    Adjacent]
  refine and_congr_left fun _ => ?_
  omega

theorem length_neighbours_le (grid : Grid α) (pixel : Pixel) :
    (grid.neighbours pixel).length ≤ 4 :=
  List.length_filter_le _ _

/-- A region has one color, that of its seed. -/
theorem get?_of_mem_region (seeded : grid.get? seed = some target)
    (mem : pixel ∈ grid.region seed) : grid.get? pixel = some target := by
  cases (mem_region seeded).mp mem with
  | refl => exact seeded
  | tail _ link => exact link.2.2

/-! ## The loop comes to its end -/

/-- A flood that goes on until nothing waits, however many visits that takes. -/
inductive Floods (target replacement : α) :
    List Pixel → Grid α → Nat → Grid α × Nat → Prop where
  | done {grid : Grid α} {count : Nat} :
      Floods target replacement [] grid count (grid, count)
  | paint {pixel : Pixel} {waiting : List Pixel} {grid : Grid α} {count : Nat}
      {result : Grid α × Nat} (has : grid.get? pixel = some target)
      (floods : Floods target replacement (grid.neighbours pixel ++ waiting)
        (grid.set pixel replacement) (count + 1) result) :
      Floods target replacement (pixel :: waiting) grid count result
  | pass {pixel : Pixel} {waiting : List Pixel} {grid : Grid α} {count : Nat}
      {result : Grid α × Nat} (lacks : grid.get? pixel ≠ some target)
      (floods : Floods target replacement waiting grid count result) :
      Floods target replacement (pixel :: waiting) grid count result

/-- With each painted place one place less has the color of the seed. -/
theorem count_set [DecidableEq α] (differs : replacement ≠ target)
    (has : grid.get? pixel = some target) :
    (grid.set pixel replacement).cells.count target + 1 = grid.cells.count target := by
  have on := contains_of_get? has
  have kept : grid.cells[grid.index pixel]? = some target := by
    rwa [get?, if_pos on] at has
  obtain ⟨bound, same⟩ := Array.getElem?_eq_some_iff.mp kept
  have some : 0 < grid.cells.count target :=
    Array.count_pos_iff.mpr (same ▸ Array.getElem_mem bound)
  have changed : (grid.set pixel replacement).cells =
      grid.cells.set (grid.index pixel) replacement bound := by
    rw [Grid.set, if_pos on]
    exact dif_pos bound
  rw [changed, Array.count_set, same, if_pos (beq_self_eq_true target),
    if_neg (by simpa using differs)]
  omega

/--
Visits that suffice: one for each place that waits, and four for each place
that may still be painted.
-/
theorem spread_floods [DecidableEq α] (differs : replacement ≠ target) {visits : Nat}
    {waiting : List Pixel} {count : Nat}
    (enough : 4 * grid.cells.count target + waiting.length ≤ visits) :
    Floods target replacement waiting grid count
      (spread target replacement visits waiting grid count) := by
  induction visits generalizing waiting grid count with
  | zero =>
      obtain rfl : waiting = [] := List.length_eq_zero_iff.mp (by omega)
      exact .done
  | succ visits induction =>
      cases waiting with
      | nil => exact .done
      | cons pixel waiting =>
          rw [List.length_cons] at enough
          unfold spread
          split
          · rename_i has
            have has : grid.get? pixel = some target := by simpa using has
            have fewer := count_set differs has
            have around := length_neighbours_le grid pixel
            refine .paint has (induction ?_)
            rw [List.length_append]
            omega
          · rename_i lacks
            exact .pass (by simpa using lacks) (induction (by omega))

/-! ## What is painted -/

/-- How far a flood has come, with the places that it has painted. -/
structure Flooding (original : Grid α) (seed : Pixel) (target replacement : α)
    (painted : Finset Pixel) (waiting : List Pixel) (grid : Grid α) (count : Nat) : Prop where
  size : Grid.SameSize original grid
  looks : ∀ pixel, grid.get? pixel =
    if pixel ∈ painted then some replacement else original.get? pixel
  counted : count = painted.card
  inside : ∀ pixel ∈ painted, pixel ∈ original.region seed
  sound : ∀ pixel ∈ waiting, original.get? pixel = some target → pixel ∈ original.region seed
  seeded : seed ∈ painted ∨ seed ∈ waiting
  closed : ∀ pixel ∈ painted, ∀ other, original.Linked target pixel other →
    other ∈ painted ∨ other ∈ waiting

namespace Flooding

variable {original : Grid α} {painted : Finset Pixel} {waiting : List Pixel} {count : Nat}

theorem start (seeded : original.get? seed = some target) :
    Flooding original seed target replacement ∅ [seed] original 0 where
  size := .refl original
  looks _ := by rw [if_neg (Finset.notMem_empty _)]
  counted := Finset.card_empty.symm
  inside _ mem := absurd mem (Finset.notMem_empty _)
  sound := List.forall_mem_singleton.mpr fun _ => (mem_region seeded).mpr .refl
  seeded := .inr (List.mem_singleton_self seed)
  closed _ mem := absurd mem (Finset.notMem_empty _)

/-- A place that is seen in the color of the seed has not been painted. -/
theorem unpainted
    (flooding : Flooding original seed target replacement painted waiting grid count)
    (differs : replacement ≠ target) (has : grid.get? pixel = some target) :
    pixel ∉ painted ∧ original.get? pixel = some target := by
  rw [flooding.looks] at has
  split at has
  · exact absurd (Option.some.inj has) differs
  · exact ⟨‹_›, has⟩

/--
Painting a place of the seed's color keeps the flood in order.  What was
waiting still waits, apart from this place.
-/
theorem paint
    (flooding : Flooding original seed target replacement painted (pixel :: waiting) grid count)
    (origin : original.get? seed = some target) (differs : replacement ≠ target)
    (has : grid.get? pixel = some target) :
    Flooding original seed target replacement (insert pixel painted)
      (grid.neighbours pixel ++ waiting) (grid.set pixel replacement) (count + 1) := by
  obtain ⟨size, looks, counted, inside, sound, seeded, closed⟩ := flooding
  obtain ⟨fresh, seen⟩ :=
    unpainted ⟨size, looks, counted, inside, sound, seeded, closed⟩ differs has
  have here : pixel ∈ original.region seed := sound pixel List.mem_cons_self seen
  have moved (spot : Pixel) (waits : spot ∈ painted ∨ spot ∈ pixel :: waiting) :
      spot ∈ insert pixel painted ∨ spot ∈ grid.neighbours pixel ++ waiting := by
    rcases waits with mem | mem
    · exact .inl (Finset.mem_insert_of_mem mem)
    · rcases List.mem_cons.mp mem with rfl | mem
      · exact .inl (Finset.mem_insert_self _ _)
      · exact .inr (List.mem_append_right _ mem)
  refine ⟨size.trans (.set grid pixel replacement), ?_, ?_, ?_, ?_, moved seed seeded, ?_⟩
  · intro spot
    by_cases same : spot = pixel
    · subst same
      rw [get?_set_self, if_pos (contains_of_get? has), if_pos (Finset.mem_insert_self _ _)]
    · rw [get?_set_ne replacement same, looks]
      simp only [Finset.mem_insert, same, false_or]
  · rw [Finset.card_insert_of_notMem fresh, counted]
  · intro spot mem
    rcases Finset.mem_insert.mp mem with rfl | mem
    · exact here
    · exact inside spot mem
  · intro spot mem colored
    rcases List.mem_append.mp mem with mem | mem
    · rw [mem_region origin] at here ⊢
      exact here.tail ⟨(mem_neighbours.mp mem).1, seen, colored⟩
    · exact sound spot (List.mem_cons_of_mem _ mem) colored
  · intro spot mem next link
    rcases Finset.mem_insert.mp mem with rfl | mem
    · have on : grid.contains next = true := by
        rw [← size.contains]
        exact contains_of_get? link.2.2
      exact .inr (List.mem_append_left _ (mem_neighbours.mpr ⟨link.1, on⟩))
    · exact moved next (closed spot mem next link)

/--
So does passing a place of another color.  A place in the color of the seed is
only passed when it has been painted.
-/
theorem pass
    (flooding : Flooding original seed target replacement painted (pixel :: waiting) grid count)
    (origin : original.get? seed = some target) (lacks : grid.get? pixel ≠ some target) :
    Flooding original seed target replacement painted waiting grid count := by
  have kept (spot : Pixel) (colored : original.get? spot = some target)
      (waits : spot ∈ painted ∨ spot ∈ pixel :: waiting) : spot ∈ painted ∨ spot ∈ waiting := by
    rcases waits with mem | mem
    · exact .inl mem
    · rcases List.mem_cons.mp mem with rfl | mem
      · left
        by_contra fresh
        rw [flooding.looks, if_neg fresh] at lacks
        exact lacks colored
      · exact .inr mem
  exact
    { flooding with
      sound := fun spot mem => flooding.sound spot (List.mem_cons_of_mem _ mem)
      seeded := kept seed origin flooding.seeded
      closed := fun spot mem next link => kept next link.2.2 (flooding.closed spot mem next link) }

/-- When nothing waits any more, the region is painted. -/
theorem painted_eq (flooding : Flooding original seed target replacement painted [] grid count)
    (origin : original.get? seed = some target) : ↑painted = original.region seed := by
  refine Set.Subset.antisymm flooding.inside fun spot mem => ?_
  have joined := (mem_region origin).mp mem
  induction joined with
  | refl => exact flooding.seeded.resolve_right List.not_mem_nil
  | tail joined link reached =>
      have before := reached ((mem_region origin).mpr joined)
      exact (flooding.closed _ before _ link).resolve_right List.not_mem_nil

end Flooding

/-- From wherever a flood has come, the loop paints what is left of the region. -/
theorem Floods.flooding {original : Grid α} {painted : Finset Pixel} {waiting : List Pixel}
    {count : Nat} {result : Grid α × Nat}
    (floods : Floods target replacement waiting grid count result)
    (origin : original.get? seed = some target) (differs : replacement ≠ target)
    (flooding : Flooding original seed target replacement painted waiting grid count) :
    ∃ all, Flooding original seed target replacement all [] result.1 result.2 := by
  induction floods generalizing painted with
  | done => exact ⟨painted, flooding⟩
  | paint has _ induction => exact induction (flooding.paint origin differs has)
  | pass lacks _ induction => exact induction (flooding.pass origin lacks)

/-! ## What a flood comes to -/

/--
A grid after the region of a seed has changed its color: nothing else has
changed, and the places of the region have been counted.
-/
structure Recolors (grid : Grid α) (seed : Pixel) (replacement : α)
    (result : Grid α × Nat) : Prop where
  size : Grid.SameSize grid result.1
  painted : ∀ pixel, result.1.get? pixel = some replacement ↔
    pixel ∈ grid.region seed ∨ grid.get? pixel = some replacement
  others : ∀ pixel, pixel ∉ grid.region seed → result.1.get? pixel = grid.get? pixel
  counted : (grid.region seed).encard = result.2

/-- A flood with nothing waiting has recolored the region. -/
theorem Flooding.recolors {original : Grid α} {painted : Finset Pixel} {count : Nat}
    (flooding : Flooding original seed target replacement painted [] grid count)
    (origin : original.get? seed = some target) :
    Recolors original seed replacement (grid, count) := by
  have all (spot : Pixel) : spot ∈ painted ↔ spot ∈ original.region seed := by
    rw [← flooding.painted_eq origin, Finset.mem_coe]
  refine ⟨flooding.size, fun spot => ?_, fun spot outside => ?_, ?_⟩
  · rw [flooding.looks, ← all]
    by_cases mem : spot ∈ painted
    · simp only [mem, if_true, true_or]
    · simp only [mem, if_false, false_or]
  · rw [flooding.looks, if_neg (mt (all spot).mp outside)]
  · rw [← flooding.painted_eq origin, Set.encard_coe_eq_coe_finsetCard, flooding.counted]

/-- A flood that changes the color of its seed runs its loop to the end and changes the region. -/
theorem flood_recolors [DecidableEq α] (replace : α → α) (seeded : grid.get? seed = some target)
    (differs : replace target ≠ target) :
    Floods target (replace target) [seed] grid 0 (grid.flood seed replace) ∧
      Recolors grid seed (replace target) (grid.flood seed replace) := by
  have flooded : grid.flood seed replace =
      spread target (replace target) (visitLimit grid) [seed] grid 0 := by
    simp only [flood, seeded, beq_eq_false_iff_ne.mpr differs, Bool.false_eq_true, if_false]
  have enough : 4 * grid.cells.count target + [seed].length ≤ visitLimit grid := by
    have few : grid.cells.count target ≤ grid.cells.size := Array.count_le_size
    rw [grid.size_cells] at few
    simp only [visitLimit, List.length_singleton]
    omega
  have floods : Floods target (replace target) [seed] grid 0 (grid.flood seed replace) := by
    rw [flooded]
    exact spread_floods differs enough
  obtain ⟨all, flooding⟩ := floods.flooding seeded differs (.start seeded)
  exact ⟨floods, flooding.recolors seeded⟩

/--
A flood from a place that is not on the grid changes nothing, and neither does
one with the color that the place has.  Any other flood, and every flood that
inverts, comes to its end and gives the new color to just the region of the
seed: the places that can be reached from it over neighbours of its color.
Every place outside the region is as it was, so it is seen in the new color
afterwards only if it had that color before.  The count is the size of the
region.
-/
theorem flood_paints_region [DecidableEq α] [Tone α] (grid : Grid α) (seed : Pixel) :
    (grid.contains seed = false →
        (∀ color, grid.fill seed color = (grid, 0)) ∧ grid.reverse seed = (grid, 0)) ∧
      (grid.contains seed = true → ∃ target, grid.get? seed = some target ∧
        grid.fill seed target = (grid, 0) ∧
        (∀ color, color ≠ target →
          Floods target color [seed] grid 0 (grid.fill seed color) ∧
            Recolors grid seed color (grid.fill seed color)) ∧
        Tone.color (Tone.invert target) = (Tone.color target).invert ∧
          Floods target (Tone.invert target) [seed] grid 0 (grid.reverse seed) ∧
          Recolors grid seed (Tone.invert target) (grid.reverse seed)) := by
  constructor
  · intro off
    have unseen : grid.get? seed = none := by simp [get?, off]
    constructor
    · intro color
      simp only [fill, flood, unseen]
    · simp only [reverse, flood, unseen]
  · intro on
    obtain ⟨target, seeded⟩ : ∃ target, grid.get? seed = some target := by
      rw [get?, if_pos on]
      exact ⟨_, Array.getElem?_eq_getElem (Grid.index_lt on)⟩
    refine ⟨target, seeded, ?_, fun color differs => flood_recolors (fun _ => color) seeded differs,
      Tone.color_invert target, flood_recolors Tone.invert seeded (Tone.invert_ne target)⟩
    simp only [fill, flood, seeded, beq_self_eq_true, if_true]

/-- Nothing that covers all is told apart from something of its color that does not. -/
example : ((Grid.filled 2 1 ⟨.black, 0⟩ : Grid Shade).fill ⟨0, 0⟩ ⟨.black, 255⟩).2 = 2 := by decide

/-- A flooded place and one beside it that has the new color already. -/
def redBesideBlue : Surface :=
  ⟨2, 1, #[⟨255, 0, 0⟩, ⟨0, 0, 255⟩], rfl⟩

/--
A place that is seen in the new color after a flood need not be in the region:
the blue place beside a red one that is filled with blue is not.
-/
theorem fill_redBesideBlue_blue :
    redBesideBlue.get? ⟨0, 0⟩ = some ⟨255, 0, 0⟩ ∧
      ¬∀ pixel, (redBesideBlue.fill ⟨0, 0⟩ ⟨0, 0, 255⟩).1.get? pixel = some ⟨0, 0, 255⟩ ↔
        pixel ∈ redBesideBlue.region ⟨0, 0⟩ := by
  refine ⟨by decide, fun claimed => ?_⟩
  have mem : (⟨1, 0⟩ : Pixel) ∈ redBesideBlue.region ⟨0, 0⟩ := (claimed ⟨1, 0⟩).mp (by decide)
  have red : redBesideBlue.get? ⟨1, 0⟩ = some ⟨255, 0, 0⟩ :=
    get?_of_mem_region (by decide) mem
  exact absurd red (by decide)

end Grid

end Picture

end Logo
