import Logo.Proofs.Canvas.Ink
import Logo.Proofs.Canvas.Motion
import Logo.Proofs.Picture.Rectangle

/-!
# A reversing pen turns every place once

A reversing pen draws its strokes one after the other and keeps the places
that it has turned.  The invariant of this is `Turned`: the places kept are
the places on the picture that some stroke has touched, those are inverted,
and everything else is as it was.

The main statement is that this holds of any strokes of one thickness, in any
order and however they overlap.  So strokes that are drawn twice, the second
time with no place kept, leave the picture as it was, and so does a motion
that is done twice.
-/

namespace Logo

open Picture Animation

/-- The opposite of the opposite is the color itself. -/
theorem Color.invert_involutive : Function.Involutive Color.invert := by
  intro color
  simp only [invert, sub_sub_self]

/--
Where a reversing pen is that has touched some places of a surface: these are kept as turned and
inverted, and all others are as they were.
-/
structure Turned (surface : Surface) (touched : Pixel → Prop) (after : Surface)
    (turned : Places) : Prop where
  size : Grid.SameSize surface after
  mem_turned : ∀ pixel, pixel ∈ turned ↔ surface.contains pixel = true ∧ touched pixel
  inverted : ∀ pixel, pixel ∈ turned → after.get? pixel = (surface.get? pixel).map Color.invert
  kept : ∀ pixel, pixel ∉ turned → after.get? pixel = surface.get? pixel

namespace Turned

variable {surface after : Surface} {touched touched' : Pixel → Prop} {turned : Places}

/-- Nothing is touched at the start. -/
theorem start (surface : Surface) : Turned surface (fun _ => False) surface {} where
  size := .refl surface
  mem_turned pixel := by simp
  inverted pixel never := by simp at never
  kept _ _ := rfl

/-- Only places on the surface matter. -/
theorem congr (now : Turned surface touched after turned)
    (same : ∀ pixel, surface.contains pixel = true → (touched pixel ↔ touched' pixel)) :
    Turned surface touched' after turned where
  size := now.size
  mem_turned pixel := by
    rw [now.mem_turned]
    exact and_congr_right (same pixel)
  inverted := now.inverted
  kept := now.kept

/-- One place is turned over, unless it has been already. -/
theorem turnOver (now : Turned surface touched after turned) (pixel : Pixel) :
    Turned surface (fun spot => touched spot ∨ spot = pixel)
      (Canvas.turnOver after turned pixel).1 (Canvas.turnOver after turned pixel).2 := by
  have already (covered : surface.contains pixel = true → touched pixel) :
      Turned surface (fun spot => touched spot ∨ spot = pixel) after turned := by
    refine now.congr fun spot on => ⟨Or.inl, ?_⟩
    rintro (before | rfl)
    · exact before
    · exact covered on
  unfold Canvas.turnOver
  split
  · rename_i done
    exact already fun _ => ((now.mem_turned pixel).mp (Std.HashSet.mem_iff_contains.mpr done)).2
  · rename_i fresh
    have apart : pixel ∉ turned := fun member => fresh (Std.HashSet.mem_iff_contains.mp member)
    have shown : (after.get? pixel).isSome = surface.contains pixel := by
      rw [now.size.contains, Grid.isSome_get?]
    cases seen : after.get? pixel with
    | none =>
        refine already fun on => ?_
        rw [seen, on] at shown
        cases shown
    | some color =>
        have on : surface.contains pixel = true := by
          rw [← shown, seen]
          rfl
        refine ⟨now.size.trans (.set _ _ _), fun spot => ?_, fun spot member => ?_,
          fun spot missing => ?_⟩
        · rw [Std.HashSet.mem_insert, beq_iff_eq, now.mem_turned]
          constructor
          · rintro (rfl | ⟨held, before⟩)
            · exact ⟨on, Or.inr rfl⟩
            · exact ⟨held, Or.inl before⟩
          · rintro ⟨held, before | rfl⟩
            · exact Or.inr ⟨held, before⟩
            · exact Or.inl rfl
        · rcases Std.HashSet.mem_insert.mp member with same | before
          · obtain rfl : pixel = spot := eq_of_beq same
            rw [Grid.get?_set_self, ← now.size.contains, if_pos on, ← now.kept pixel apart, seen]
            rfl
          · have other : spot ≠ pixel := fun same => apart (same ▸ before)
            rw [Grid.get?_set_ne _ other, now.inverted spot before]
        · rw [Std.HashSet.mem_insert, beq_iff_eq, not_or] at missing
          rw [Grid.get?_set_ne _ (Ne.symm missing.1), now.kept spot missing.2]

/-- The marked ones of some places are turned over. -/
theorem turnMarked (now : Turned surface touched after turned) (stencil : Grid Bool)
    (pixels : List Pixel) :
    Turned surface (fun spot => touched spot ∨ spot ∈ pixels ∧ stencil.get? spot = some true)
      (Canvas.turnMarked stencil pixels after turned).1
      (Canvas.turnMarked stencil pixels after turned).2 := by
  induction pixels generalizing touched after turned with
  | nil => exact now.congr fun spot _ => by simp
  | cons pixel rest induction =>
      rw [Canvas.turnMarked]
      split
      · rename_i marked
        have marked : stencil.get? pixel = some true := eq_of_beq marked
        refine (induction (now.turnOver pixel)).congr fun spot _ => ?_
        rw [List.mem_cons, or_assoc, or_and_right]
        refine or_congr_right (or_congr_left ?_)
        constructor
        · rintro rfl
          exact ⟨rfl, marked⟩
        · exact And.left
      · rename_i unmarked
        refine (induction now).congr fun spot _ => ?_
        rw [List.mem_cons, or_and_right]
        refine or_congr_right (or_iff_right ?_).symm
        rintro ⟨rfl, marked⟩
        exact unmarked (by rw [marked]; rfl)

end Turned

/-- A stencil of the size of a surface with no mark on it. -/
def Canvas.IsBlank (surface : Surface) (stencil : Grid Bool) : Prop :=
  stencil = .filled surface.width surface.height false

/-- Whether a stencil is blank for a surface depends on the size only. -/
theorem Canvas.IsBlank.congr {surface after : Surface} {stencil : Grid Bool}
    (blank : IsBlank surface stencil) (size : Grid.SameSize surface after) :
    IsBlank after stencil := by
  rw [IsBlank, ← size.width, ← size.height]
  exact blank

namespace Turned

variable {surface after : Surface} {touched : Pixel → Prop} {turned : Places}
  {stencil : Grid Bool}

theorem get?_blank (blank : Canvas.IsBlank surface stencil) (pixel : Pixel) :
    stencil.get? pixel = if surface.contains pixel then some false else none := by
  rw [blank, Grid.get?_filled]
  rfl

theorem contains_blank (blank : Canvas.IsBlank surface stencil) (pixel : Pixel) :
    stencil.contains pixel = surface.contains pixel := by
  rw [blank]
  rfl

/-- What is marked on a blank stencil are the places of the stroke on the surface. -/
theorem marked_iff (blank : Canvas.IsBlank surface stencil) {pixels : List Pixel} {pixel : Pixel} :
    (stencil.paint pixels true).get? pixel = some true ↔
      surface.contains pixel = true ∧ pixel ∈ pixels := by
  by_cases member : pixel ∈ pixels
  · rw [Grid.get?_paint_of_mem true member, contains_blank blank]
    simp [member]
  · rw [Grid.get?_paint_of_not_mem true member, get?_blank blank]
    simp [member]

/-- Wiping the places around a stroke takes all its marks off. -/
theorem wiped (blank : Canvas.IsBlank surface stencil) {pixels around : List Pixel}
    (covers : ∀ pixel ∈ pixels, surface.contains pixel = true → pixel ∈ around) :
    (stencil.paint pixels true).paint around false = stencil := by
  apply Grid.ext_get?
  · simp
  · simp
  intro pixel
  rw [get?_blank blank]
  by_cases inside : pixel ∈ around
  · rw [Grid.get?_paint_of_mem false inside, Grid.contains_paint, contains_blank blank]
  · rw [Grid.get?_paint_of_not_mem false inside]
    by_cases member : pixel ∈ pixels
    · have off : ¬ surface.contains pixel = true := fun on => inside (covers pixel member on)
      rw [Grid.get?_paint_of_mem true member, contains_blank blank, if_neg off, if_neg off]
    · rw [Grid.get?_paint_of_not_mem true member, get?_blank blank]

/-- A stroke turns over the places that it touches, and leaves the stencil blank. -/
theorem reverseStroke (now : Turned surface touched after turned)
    (blank : Canvas.IsBlank surface stencil) (pixels : List Pixel) :
    Turned surface (fun spot => touched spot ∨ spot ∈ pixels)
      (Canvas.reverseStroke after stencil turned pixels).1
      (Canvas.reverseStroke after stencil turned pixels).2.2 ∧
    (Canvas.reverseStroke after stencil turned pixels).2.1 = stencil := by
  have covers (pixel : Pixel) (member : pixel ∈ pixels) (on : surface.contains pixel = true) :
      pixel ∈ ((Rectangle.around pixels).clip after.width after.height).pixels := by
    rw [now.size.contains] at on
    rw [Rectangle.mem_pixels, Rectangle.contains_clip]
    exact ⟨Rectangle.contains_around member, Grid.contains_iff.mp on⟩
  refine ⟨?_, wiped blank covers⟩
  refine (now.turnMarked (stencil.paint pixels true) _).congr fun spot on => or_congr_right ?_
  rw [marked_iff blank]
  constructor
  · exact fun marked => marked.2.2
  · exact fun member => ⟨covers spot member on, on, member⟩

end Turned

/-! ## Strokes in a row -/

/-- A place that one of some segments touches. -/
def Canvas.Touches [Rasterizer] (surface : Surface) (breadth : Nat)
    (segments : List (Point × Point))
    (pixel : Pixel) : Prop :=
  ∃ segment ∈ segments,
    pixel ∈ Rasterizer.line surface.width surface.height segment.1 segment.2 breadth

/-- What lines touch depends on the size only. -/
theorem Canvas.touches_congr [Rasterizer] {surface after : Surface}
    (size : Grid.SameSize surface after)
    (breadth : Nat) (segments : List (Point × Point)) :
    Touches after breadth segments = Touches surface breadth segments := by
  funext pixel
  simp only [Touches, size.width, size.height]

/-- Draw segments one after the other, each leaving alone what those before it have turned. -/
def Canvas.strokes [Rasterizer] (turtle : Turtle) :
    List (Point × Point) → Places → ExceptT Fault (StateM Canvas) Places
  | [], done => pure done
  | (start, stop) :: rest, done => do
      let done ← stroke start stop turtle done
      strokes turtle rest done

/-- A stroke of the reversing pen runs over the places of its line. -/
theorem Canvas.run_stroke_of_reverse [Rasterizer] {surface : Surface} {turtle : Turtle}
    {breadth : Nat}
    (reverses : turtle.penMode = .reverse) (sized : thickness surface turtle = .ok breadth)
    (start stop : Point) (saved : Option Patch) (stencil : Grid Bool) (turned done : Places) :
    (stroke start stop turtle done).run ⟨surface, saved, stencil, turned⟩ =
      (let drawn := reverseStroke surface stencil done
        (Rasterizer.line surface.width surface.height start stop breadth)
      (.ok drawn.2.2, ⟨drawn.1, saved, drawn.2.1, turned⟩)) := by
  simp only [stroke, ExceptT.run, sized, reverses, beq_self_eq_true, if_true]

namespace Turned

variable {surface after : Surface} {touched : Pixel → Prop} {turned : Places}
  {stencil : Grid Bool} {turtle : Turtle} {breadth : Nat}

/-- Strokes in a row turn over the places that any of them touches. -/
theorem strokes [Rasterizer] (now : Turned surface touched after turned)
    (blank : Canvas.IsBlank surface stencil) (reverses : turtle.penMode = .reverse)
    (sized : Canvas.thickness surface turtle = .ok breadth) (segments : List (Point × Point))
    (saved : Option Patch) (others : Places) :
    ∃ final done,
      (Canvas.strokes turtle segments turned).run ⟨after, saved, stencil, others⟩ =
        (.ok done, ⟨final, saved, stencil, others⟩) ∧
      Turned surface (fun pixel => touched pixel ∨ Canvas.Touches surface breadth segments pixel)
        final done := by
  induction segments generalizing touched after turned with
  | nil =>
      refine ⟨after, turned, rfl, now.congr fun pixel _ => ?_⟩
      simp [Canvas.Touches]
  | cons segment rest induction =>
      obtain ⟨start, stop⟩ := segment
      obtain ⟨drawn, wiped⟩ := now.reverseStroke blank
        (Rasterizer.line surface.width surface.height start stop breadth)
      obtain ⟨final, done, ran, ended⟩ := induction drawn
      refine ⟨final, done, ?_, ended.congr fun pixel _ => ?_⟩
      · rw [← Canvas.thickness_congr now.size] at sized
        rw [Canvas.strokes, Effectful.run_bind, Canvas.run_stroke_of_reverse reverses sized,
          ← now.size.width, ← now.size.height]
        simp only [wiped]
        exact ran
      · simp only [Canvas.Touches, List.mem_cons, exists_eq_or_imp, or_assoc]

/-- A place that was touched has turned. -/
theorem get?_of_touched (now : Turned surface touched after turned) {pixel : Pixel}
    (here : touched pixel) : after.get? pixel = (surface.get? pixel).map Color.invert := by
  by_cases on : surface.contains pixel = true
  · exact now.inverted pixel ((now.mem_turned pixel).mpr ⟨on, here⟩)
  · have missing : pixel ∉ turned := fun member => on ((now.mem_turned pixel).mp member).1
    have unseen : surface.get? pixel = none := by
      rw [← Option.not_isSome_iff_eq_none, Grid.isSome_get?]
      exact on
    rw [now.kept pixel missing, unseen]
    rfl

/-- A place that was not touched is as it was. -/
theorem get?_of_untouched (now : Turned surface touched after turned) {pixel : Pixel}
    (elsewhere : ¬ touched pixel) : after.get? pixel = surface.get? pixel :=
  now.kept pixel fun member => elsewhere ((now.mem_turned pixel).mp member).2

/-- What is turned over twice is as it was. -/
theorem restores {final : Surface} {again : Places} (first : Turned surface touched after turned)
    (second : Turned after touched final again) : final = surface := by
  have size := first.size.trans second.size
  refine Grid.ext_get? size.width.symm size.height.symm fun pixel => ?_
  have both : pixel ∈ again ↔ pixel ∈ turned := by
    rw [first.mem_turned, second.mem_turned, first.size.contains]
  by_cases member : pixel ∈ turned
  · rw [second.inverted pixel (both.mpr member), first.inverted pixel member, Option.map_map,
      Color.invert_involutive.comp_self, Option.map_id, id]
  · rw [second.kept pixel (mt both.mp member), first.kept pixel member]

end Turned

/-- Strokes that start with nothing turned turn over the places that any of them touches. -/
theorem Canvas.run_strokes [Rasterizer] (canvas : Canvas) {turtle : Turtle} {breadth : Nat}
    (blank : IsBlank canvas.surface canvas.stencil) (reverses : turtle.penMode = .reverse)
    (sized : thickness canvas.surface turtle = .ok breadth) (segments : List (Point × Point)) :
    ∃ surface turned,
      (strokes turtle segments {}).run canvas = (.ok turned, { canvas with surface }) ∧
      Turned canvas.surface (Touches canvas.surface breadth segments) surface turned := by
  obtain ⟨surface, turned, ran, ended⟩ := (Turned.start canvas.surface).strokes blank reverses
    sized segments canvas.saved canvas.turned
  exact ⟨surface, turned, ran, ended.congr fun pixel _ => by rw [false_or]⟩

/-! ## Motions -/

/-- The line of one frame of a motion. -/
def Ink.ofFrame (before after : Turtle) (steps step : Nat) : Ink :=
  let start := motionPosition before after steps step
  let stop := motionPosition before after steps (step + 1)
  .line start.1 start.2 stop.1 stop.2 after.pen

/-- With the pen down, a motion forgets what was turned before, and draws its lines. -/
theorem ink_motion {before after : Turtle} (steps : Nat) (down : after.penDown = true) :
    (Request.motion before after steps).brushwork.flatMap Brushwork.ink =
      .begun :: (List.range (max 1 steps)).map (Ink.ofFrame before after (max 1 steps)) := by
  obtain ⟨count, some⟩ : ∃ count, max 1 steps = count + 1 := ⟨max 1 steps - 1, by omega⟩
  have first : (motionFrame before after (count + 1) 0).ink =
      [.begun, .ofFrame before after (count + 1) 0] := by
    simp [motionFrame, Brushwork.ink, Ink.ofFrame, down]
  have later (step : Nat) : (motionFrame before after (count + 1) (step + 1)).ink =
      [.ofFrame before after (count + 1) (step + 1)] := by
    simp [motionFrame, Brushwork.ink, Ink.ofFrame, down]
  rw [brushwork_motion, some, List.range_succ_eq_map, List.map_cons, List.map_map,
    List.flatMap_cons, List.flatMap_map, first, List.map_cons, List.map_map, List.map_eq_flatMap]
  simp only [Function.comp_apply, Nat.succ_eq_add_one, later]
  rfl

/-- With the pen up, a motion leaves no line. -/
theorem ink_motion_of_up {before after : Turtle} (steps : Nat) (up : after.penDown = false) :
    (Request.motion before after steps).brushwork.flatMap Brushwork.ink = [.begun] := by
  obtain ⟨count, some⟩ : ∃ count, max 1 steps = count + 1 := ⟨max 1 steps - 1, by omega⟩
  rw [brushwork_motion, some, List.range_succ_eq_map]
  simp [motionFrame, Brushwork.ink, up]

/-- The segment of one frame of a motion on a surface. -/
def Picture.Surface.segment (surface : Surface) (before after : Turtle) (steps step : Nat) :
    Point × Point :=
  let start := motionPosition before after steps step
  let stop := motionPosition before after steps (step + 1)
  ((Sheet.onSurface surface).point start.1 start.2, (Sheet.onSurface surface).point stop.1 stop.2)

/-- Where a segment runs depends on the size only. -/
theorem Picture.Surface.segment_congr {surface after : Surface}
    (size : Grid.SameSize surface after) (before turtle : Turtle) (steps step : Nat) :
    after.segment before turtle steps step = surface.segment before turtle steps step := by
  simp only [segment, Sheet.point, Sheet.onSurface, size.width, size.height]

namespace Sheet

variable [Rasterizer] {sheet : Sheet} {turtle : Turtle} {breadth : Nat}

/-- A pen that can draw on a surface touches the places of its line. -/
theorem touched?_of_thickness (sized : Canvas.thickness sheet.surface turtle = .ok breadth)
    (start stop : Point) :
    sheet.touched? start stop turtle.pen =
      some (Rasterizer.line sheet.surface.width sheet.surface.height start stop breadth) := by
  simp only [Canvas.thickness] at sized
  simp only [touched?, Turtle.pen]
  cases whole : Canvas.nearestWhole turtle.penSize with
  | error fault =>
      rw [whole] at sized
      cases sized
  | ok size =>
      rw [whole] at sized
      cases sized
      rfl

/-- A reversing pen draws the line of a frame as a stroke. -/
theorem mark_ofFrame (reverses : turtle.penMode = .reverse)
    (sized : Canvas.thickness sheet.surface turtle = .ok breadth) (before : Turtle)
    (steps step : Nat) :
    sheet.mark (.ofFrame before turtle steps step) =
      (let segment := sheet.surface.segment before turtle steps step
      let drawn := Canvas.reverseStroke sheet.surface sheet.stencil sheet.turned
        (Rasterizer.line sheet.surface.width sheet.surface.height segment.1 segment.2 breadth)
      ⟨drawn.1, drawn.2.1, drawn.2.2⟩) := by
  simp only [Ink.ofFrame, mark, line, touched?_of_thickness sized]
  simp only [Turtle.pen, reverses]
  rfl

end Sheet

namespace Turned

variable [Rasterizer] {surface : Surface} {touched : Pixel → Prop} {sheet : Sheet}
  {turtle : Turtle} {breadth : Nat}

/-- The lines of a reversing pen turn over the places that any of them touches. -/
theorem lines (now : Turned surface touched sheet.surface sheet.turned)
    (blank : Canvas.IsBlank surface sheet.stencil) (reverses : turtle.penMode = .reverse)
    (sized : Canvas.thickness surface turtle = .ok breadth) (before : Turtle) (steps : Nat)
    (frames : List Nat) :
    let drawn := (frames.map (Ink.ofFrame before turtle steps)).foldl Sheet.mark sheet
    Turned surface
      (fun pixel => touched pixel ∨
        Canvas.Touches surface breadth (frames.map (surface.segment before turtle steps)) pixel)
      drawn.surface drawn.turned ∧ drawn.stencil = sheet.stencil := by
  induction frames generalizing touched sheet with
  | nil =>
      refine ⟨now.congr fun pixel _ => ?_, rfl⟩
      simp [Canvas.Touches]
  | cons frame rest induction =>
      have same : sheet.surface.segment before turtle steps frame =
          surface.segment before turtle steps frame :=
        Surface.segment_congr now.size before turtle steps frame
      obtain ⟨drawn, wiped⟩ := now.reverseStroke blank
        (Rasterizer.line surface.width surface.height (surface.segment before turtle steps frame).1
          (surface.segment before turtle steps frame).2 breadth)
      have marks := Sheet.mark_ofFrame reverses
        ((Canvas.thickness_congr now.size turtle).trans sized) before steps frame
      rw [same, ← now.size.width, ← now.size.height] at marks
      rw [List.map_cons, List.foldl_cons, marks]
      obtain ⟨ended, stencil⟩ := @induction _ ⟨_, _, _⟩ drawn (wiped.symm ▸ blank)
      refine ⟨ended.congr fun pixel _ => ?_, stencil.trans wiped⟩
      simp only [Canvas.Touches, List.map_cons, List.mem_cons, exists_eq_or_imp, or_assoc]

/-- A motion with a reversing pen turns over the places that its segments touch. -/
theorem motion (blank : Canvas.IsBlank sheet.surface sheet.stencil)
    (reverses : turtle.penMode = .reverse)
    (sized : Canvas.thickness sheet.surface turtle = .ok breadth) (down : turtle.penDown = true)
    (before : Turtle) (steps : Nat) :
    let drawn := sheet.draw (Request.motion before turtle steps).brushwork
    Turned sheet.surface
      (Canvas.Touches sheet.surface breadth
        ((List.range (max 1 steps)).map (sheet.surface.segment before turtle (max 1 steps))))
      drawn.surface drawn.turned ∧ drawn.stencil = sheet.stencil := by
  have begun : Turned sheet.surface (fun _ => False) (sheet.mark .begun).surface
      (sheet.mark .begun).turned :=
    start sheet.surface
  obtain ⟨ended, stencil⟩ := begun.lines blank reverses sized before (max 1 steps)
    (List.range (max 1 steps))
  rw [Sheet.draw, ink_motion steps down, List.foldl_cons]
  exact ⟨ended.congr fun pixel _ => by rw [false_or], stencil⟩

end Turned

/-- Brushwork in two parts is drawn one part after the other. -/
theorem Sheet.draw_append [Rasterizer] (sheet : Sheet) (first second : List Brushwork) :
    sheet.draw (first ++ second) = (sheet.draw first).draw second := by
  simp only [draw, List.flatMap_append, List.foldl_append]

theorem Canvas.stencil_lift (canvas : Canvas) : canvas.lift.stencil = canvas.stencil := by
  obtain ⟨surface, _ | patch, stencil, turned⟩ := canvas <;> rfl

/-- A motion of a reversing pen that is done twice leaves the picture as it was. -/
theorem Sheet.draw_motion_twice [Rasterizer] {sheet : Sheet} {turtle : Turtle} {breadth : Nat}
    (blank : Canvas.IsBlank sheet.surface sheet.stencil) (reverses : turtle.penMode = .reverse)
    (sized : Canvas.thickness sheet.surface turtle = .ok breadth) (before : Turtle) (steps : Nat) :
    ((sheet.draw (Request.motion before turtle steps).brushwork).draw
      (Request.motion before turtle steps).brushwork).surface = sheet.surface := by
  cases down : turtle.penDown with
  | false =>
      simp only [draw, ink_motion_of_up steps down]
      rfl
  | true =>
      obtain ⟨first, stencil⟩ := Turned.motion blank reverses sized down before steps
      have size := first.size
      have sized' := (Canvas.thickness_congr size turtle).trans sized
      obtain ⟨second, -⟩ :=
        Turned.motion (stencil.symm ▸ blank.congr size) reverses sized' down before steps
      refine first.restores (second.congr fun pixel _ => ?_)
      rw [Canvas.touches_congr size, funext (Surface.segment_congr size before turtle _)]

/--
Strokes of one thickness with a reversing pen, drawn from a blank stencil with nothing turned
before, come to their end.  They invert each place of the picture that at least one of them
touches, whatever their number, order and overlap, and change nothing else; the places that they
give back are those, and the stencil is blank again.  So the same strokes drawn once more leave
the canvas as it was.  So does a motion that is done twice, once the sprite is lifted.
-/
theorem reversing_inverts_once [Rasterizer] (canvas : Canvas) (turtle : Turtle)
    (segments : List (Point × Point)) {breadth : Nat}
    (blank : canvas.stencil = .filled canvas.surface.width canvas.surface.height false)
    (reverses : turtle.penMode = .reverse)
    (sized : Canvas.thickness canvas.surface turtle = .ok breadth) :
    (∃ surface turned,
      (Canvas.strokes turtle segments {}).run canvas = (.ok turned, { canvas with surface }) ∧
      Grid.SameSize canvas.surface surface ∧
      (∀ pixel, Canvas.Touches canvas.surface breadth segments pixel →
        surface.get? pixel = (canvas.surface.get? pixel).map Color.invert) ∧
      (∀ pixel, ¬ Canvas.Touches canvas.surface breadth segments pixel →
        surface.get? pixel = canvas.surface.get? pixel) ∧
      (∀ pixel, pixel ∈ turned ↔
        canvas.surface.contains pixel = true ∧
          Canvas.Touches canvas.surface breadth segments pixel) ∧
      ∃ again,
        (Canvas.strokes turtle segments {}).run { canvas with surface } = (.ok again, canvas)) ∧
    ∀ (before : Turtle) (steps : Nat),
      (∀ piece ∈ (Request.motion before turtle steps).brushwork,
        canvas.HoldsSprite piece.turtle) →
      (worldAfter Canvas.apply ((Request.motion before turtle steps).brushwork ++
        (Request.motion before turtle steps).brushwork) canvas).lift.surface =
          canvas.lift.surface := by
  obtain ⟨surface, turned, ran, first⟩ := canvas.run_strokes blank reverses sized segments
  refine ⟨⟨surface, turned, ran, first.size, fun pixel => first.get?_of_touched,
    fun pixel => first.get?_of_untouched, first.mem_turned, ?_⟩, fun before steps holds => ?_⟩
  · obtain ⟨final, again, reran, second⟩ := Canvas.run_strokes { canvas with surface }
      (Canvas.IsBlank.congr blank first.size) reverses
      ((Canvas.thickness_congr first.size turtle).trans sized) segments
    rw [Canvas.touches_congr first.size] at second
    obtain rfl := first.restores second
    exact ⟨again, reran⟩
  · have held : ∀ piece ∈ (Request.motion before turtle steps).brushwork ++
        (Request.motion before turtle steps).brushwork, canvas.HoldsSprite piece.turtle :=
      fun piece member => holds piece ((List.mem_append.mp member).elim id id)
    have size := canvas.sameSize_lift
    have lifted : Canvas.IsBlank canvas.lift.sheet.surface canvas.lift.sheet.stencil := by
      have same : canvas.lift.sheet.stencil = canvas.stencil := canvas.stencil_lift
      rw [same]
      exact Canvas.IsBlank.congr blank size
    have sized' : Canvas.thickness canvas.lift.sheet.surface turtle = .ok breadth :=
      (Canvas.thickness_congr size turtle).trans sized
    rw [Canvas.lift_worldAfter held, Sheet.draw_append]
    exact Sheet.draw_motion_twice lifted reverses sized' before steps

/-- A turtle with a thin reversing pen. -/
def reversingTurtle : Turtle :=
  { penMode := .reverse, penSize := 1 }

/-- There and back again along the upper edge of a stamp. -/
def thereAndBack : List (Point × Point) :=
  [(⟨0, 0⟩, ⟨2, 0⟩), (⟨2, 0⟩, ⟨0, 0⟩)]

/-- Places that are passed twice are inverted once, and all is white when it is done again. -/
theorem thereAndBack_inverts_once :
    letI := Platform.standard
    Canvas.thickness stamp reversingTurtle = .ok 1 ∧
      ∃ surface turned,
        (Canvas.strokes reversingTurtle thereAndBack {}).run (.onSurface stamp) =
          (.ok turned, { Canvas.onSurface stamp with surface }) ∧
        surface.get? ⟨1, 0⟩ = some .black ∧ surface.get? ⟨1, 1⟩ = some .white ∧
        (⟨1, 0⟩ : Pixel) ∈ turned ∧
        ∃ again, (Canvas.strokes reversingTurtle thereAndBack {}).run
          { Canvas.onSurface stamp with surface } = (.ok again, .onSurface stamp) := by
  let _ := Platform.standard
  have sized : Canvas.thickness stamp reversingTurtle = .ok 1 := by decide +kernel
  have passed : Canvas.Touches stamp 1 thereAndBack ⟨1, 0⟩ :=
    ⟨(⟨0, 0⟩, ⟨2, 0⟩), List.mem_cons_self, by decide +kernel⟩
  have apart : ∀ segment ∈ thereAndBack,
      (⟨1, 1⟩ : Pixel) ∉ Rasterizer.line stamp.width stamp.height segment.1 segment.2 1 := by
    decide +kernel
  have missed : ¬ Canvas.Touches stamp 1 thereAndBack ⟨1, 1⟩ := by
    rintro ⟨segment, member, touched⟩
    exact apart segment member touched
  obtain ⟨⟨surface, turned, ran, -, inverted, kept, gone, again⟩, -⟩ :=
    reversing_inverts_once (.onSurface stamp) reversingTurtle thereAndBack rfl rfl sized
  refine ⟨sized, surface, turned, ran, (inverted _ passed).trans ?_, (kept _ missed).trans ?_,
    (gone _).mpr ⟨?_, passed⟩, again⟩
  · decide +kernel
  · decide +kernel
  · decide +kernel

end Logo
