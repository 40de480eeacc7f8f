import Mathlib.Data.List.Chain
import Sophia.Authority.LineFootprints
import Sophia.Lib.Numbers

/-! The loop that draws a line, in the machine's arithmetic: how far it goes and where. -/
namespace Sophia.Authority

open Sophia.Protocol

/-- A list of places from one to another, one pixel at a time and never outside their box. -/
structure Walk (source target : ℤ × ℤ) (places : List (ℤ × ℤ)) : Prop where
  first : places.head? = some source
  last : places.getLast? = some target
  length : (places.length : ℤ) = max |target.1 - source.1| |target.2 - source.2| + 1
  steps : places.IsChain fun p q => |q.1 - p.1| ≤ 1 ∧ |q.2 - p.2| ≤ 1
  inside : ∀ p ∈ places, (min source.1 target.1 ≤ p.1 ∧ p.1 ≤ max source.1 target.1) ∧
    min source.2 target.2 ≤ p.2 ∧ p.2 ≤ max source.2 target.2

def XPoint.place (point : XPoint) : ℤ × ℤ := (point.x.toInt, point.y.toInt)

namespace Line

variable {line : Line} {cursor : LineCursor} {i j k : ℤ} {fuel : ℕ} {start target : XPoint}

/-- The pixels of the longer way. -/
def reach (line : Line) : ℤ := max line.dx (-line.dy)

/-- After `k` steps the cursor is `k` pixels on the longer way, and goes on there next. -/
structure OnBeat (line : Line) (cursor : LineCursor) (i j k : ℤ) : Prop extends
    line.OnPath cursor i j where
  flat : -line.dy ≤ line.dx → i = k ∧ line.goesAcross cursor
  steep : line.dx ≤ -line.dy → j = k ∧ line.goesAlong cursor

theorem onBeat_start (start target : XPoint) :
    (between start target).OnBeat ((between start target).start start) 0 0 0 := by
  have hpath := onPath_start start target
  have herror : ((between start target).start start).error =
      (between start target).dx + (between start target).dy := rfl
  have hdx := hpath.across
  have hdy := hpath.along
  refine ⟨hpath, fun hflat => ⟨rfl, ?_⟩, fun hsteep => ⟨rfl, ?_⟩⟩
  · unfold goesAcross
    omega
  · unfold goesAlong
    omega

theorem advance_error (line : Line) (cursor : LineCursor) :
    (line.advance cursor).error = cursor.error + (if line.goesAcross cursor then line.dy else 0) +
      if line.goesAlong cursor then line.dx else 0 := by
  by_cases hacross : line.goesAcross cursor <;> by_cases halong : line.goesAlong cursor <;>
    simp [advance, hacross, halong]

/-- Every step is one on the longer way. -/
theorem OnBeat.advance (h : line.OnBeat cursor i j k) (hend : i < line.dx ∨ j < -line.dy) :
    ∃ i' j', line.OnBeat (line.advance cursor) i' j' (k + 1) := by
  obtain ⟨hnext, -⟩ := h.toOnPath.advance hend
  have herror := advance_error line cursor
  obtain ⟨hi, hdx⟩ := h.across
  obtain ⟨hj, hdy⟩ := h.along
  refine ⟨_, _, hnext, fun hflat => ?_, fun hsteep => ?_⟩
  · obtain ⟨hcount, hgo⟩ := h.flat hflat
    rw [if_pos hgo] at herror ⊢
    refine ⟨by omega, ?_⟩
    unfold goesAcross at hgo ⊢
    by_cases halong : line.goesAlong cursor
    · rw [if_pos halong] at herror
      omega
    · rw [if_neg halong] at herror
      unfold goesAlong at halong
      omega
  · obtain ⟨hcount, hgo⟩ := h.steep hsteep
    rw [if_pos hgo] at herror ⊢
    refine ⟨by omega, ?_⟩
    unfold goesAlong at hgo ⊢
    by_cases hacross : line.goesAcross cursor
    · rw [if_pos hacross] at herror
      omega
    · rw [if_neg hacross] at herror
      unfold goesAcross at hacross
      omega

/-- A cursor that is not at the target has some of the longer way before it. -/
theorem OnBeat.lt_reach (h : line.OnBeat cursor i j k)
    (hat : ¬ (cursor.x = line.targetX ∧ cursor.y = line.targetY)) : k < line.reach := by
  have hend := h.unfinished hat
  unfold reach
  rcases le_total (-line.dy) line.dx with hflat | hsteep
  · obtain ⟨rfl, hgo⟩ := h.flat hflat
    have hleft := h.across_left hend hgo
    omega
  · obtain ⟨rfl, hgo⟩ := h.steep hsteep
    have hleft := h.along_left hend hgo
    omega

theorem between_turns (start target : XPoint) :
    ((between start target).sx = 1 ∨ (between start target).sx = -1) ∧
      ((between start target).sy = 1 ∨ (between start target).sy = -1) := by
  simp only [between]
  constructor <;> split <;> simp

/-- A cursor at the target has the longer way behind it. -/
theorem OnBeat.eq_reach (h : (between start target).OnBeat cursor i j k)
    (hat : cursor.x = (between start target).targetX ∧
      cursor.y = (between start target).targetY) : k = (between start target).reach := by
  obtain ⟨hx, hy⟩ := between_turns start target
  have hi : (between start target).dx - i = 0 := by
    have hplace := h.x
    rw [hat.1] at hplace
    rcases hx with hx | hx <;> rw [hx] at hplace <;> omega
  have hj : -(between start target).dy - j = 0 := by
    have hplace := h.y
    rw [hat.2] at hplace
    rcases hy with hy | hy <;> rw [hy] at hplace <;> omega
  unfold reach
  rcases le_total (-(between start target).dy) (between start target).dx with hflat | hsteep
  · have hcount := (h.flat hflat).1
    omega
  · have hcount := (h.steep hsteep).1
    omega

theorem head?_visits (line : Line) (cursor : LineCursor) (hfuel : 0 < fuel) :
    (line.visits fuel cursor).head? = some (cursor.x, cursor.y) := by
  obtain ⟨fuel, rfl⟩ := Nat.exists_eq_succ_of_ne_zero (Nat.pos_iff_ne_zero.mp hfuel)
  rfl

/-- Whatever the error, a step is at most one pixel each way. -/
theorem isChain_visits (fuel : ℕ) (cursor : LineCursor) :
    ((between start target).visits fuel cursor).IsChain fun p q =>
      |q.1 - p.1| ≤ 1 ∧ |q.2 - p.2| ≤ 1 := by
  induction fuel generalizing cursor with
  | zero => exact .nil
  | succ fuel ih =>
    rw [visits]
    split
    · exact .singleton _
    cases fuel with
    | zero => exact .singleton _
    | succ fuel =>
      refine .cons_cons ?_ (ih _)
      obtain ⟨hx, hy⟩ := between_turns start target
      simp only [Line.advance]
      constructor
      · split <;> split <;> rcases hx with hx | hx <;> simp [hx]
      · split <;> split <;> rcases hy with hy | hy <;> simp [hy]

theorem length_visits (h : (between start target).OnBeat cursor i j k)
    (hfuel : (between start target).reach - k < fuel) :
    (((between start target).visits fuel cursor).length : ℤ) =
      (between start target).reach - k + 1 := by
  induction fuel generalizing cursor i j k with
  | zero =>
    by_cases hat : cursor.x = (between start target).targetX ∧
        cursor.y = (between start target).targetY
    · have hcount := h.eq_reach hat
      omega
    · have hcount := h.lt_reach hat
      omega
  | succ fuel ih =>
    rw [visits]
    split
    · rename_i hat
      have hcount := h.eq_reach hat
      simp only [List.length_singleton]
      omega
    · rename_i hat
      obtain ⟨i', j', hnext⟩ := h.advance (h.unfinished hat)
      have hrest := ih hnext (by push_cast at hfuel; omega)
      rw [List.length_cons]
      push_cast
      omega

theorem fuel_enough (start target : XPoint) :
    (between start target).reach < (between start target).fuel := by
  have hpath := onPath_start start target
  have hdx := hpath.across
  have hdy := hpath.along
  unfold reach fuel
  omega

/-- The pixels of a line are a walk from its first point to its second. -/
theorem walk_visits (start target : XPoint) :
    Walk start.place target.place ((between start target).visits (between start target).fuel
      ((between start target).start start)) where
  first := head?_visits _ _ (Nat.succ_pos _)
  last := reaches_target start target
  length := by
    have hfuel := fuel_enough start target
    rw [length_visits (onBeat_start start target) (by omega), sub_zero]
    simp [reach, between, XPoint.place]
  steps := isChain_visits _ _
  inside := by
    intro p hp
    obtain ⟨cursor, i, j, hpath, rfl⟩ := mem_visits (onPath_start start target) hp
    exact hpath.between

end Line

/-- The variables of the loop that it never changes. -/
structure LineEnds where
  targetX : Int32
  targetY : Int32
  dx : Int32
  sx : Int32
  dy : Int32
  sy : Int32

/-- The variables the loop goes on with. -/
structure LineRegisters where
  x : Int32
  y : Int32
  error : Int32

namespace LineEnds

/-- The way from one coordinate to another. -/
def direction (coordinate target : Int32) : Int32 := if coordinate < target then 1 else -1

/-- What is computed before the loop. -/
def prepare (start target : XPoint) : Except I32.Panic (LineEnds × LineRegisters) := do
  let dx ← I32.abs (← I32.sub target.x.toInt32 start.x.toInt32)
  let dy ← I32.neg (← I32.abs (← I32.sub target.y.toInt32 start.y.toInt32))
  let error ← I32.add dx dy
  return (
    { targetX := target.x.toInt32
      targetY := target.y.toInt32
      dx
      sx := direction start.x.toInt32 target.x.toInt32
      dy
      sy := direction start.y.toInt32 target.y.toInt32 },
    { x := start.x.toInt32, y := start.y.toInt32, error })

/-- The end of one round: the error and the centre move on. -/
def advance (ends : LineEnds) (registers : LineRegisters) : Except I32.Panic LineRegisters := do
  let doubled := saturateInt32 (registers.error.toInt * 2)
  let registers ← if ends.dy ≤ doubled then do
      let error ← I32.add registers.error ends.dy
      let x ← I32.add registers.x ends.sx
      pure { registers with error, x }
    else pure registers
  if doubled ≤ ends.dx then do
    let error ← I32.add registers.error ends.dx
    let y ← I32.add registers.y ends.sy
    return { registers with error, y }
  else return registers

/-- The square around a centre. -/
def square (width : Int32) (registers : LineRegisters) : Except I32.Panic Rect := do
  let offset ← I32.div width 2
  return { x := saturateInt32 (registers.x.toInt - offset.toInt)
           y := saturateInt32 (registers.y.toInt - offset.toInt)
           width
           height := width }

/-- The loop, as far as it gets in so many rounds: the centres it drew at and the buffer. -/
def loop (ends : LineEnds) (width : Int32) (gc : XGraphicsContextValues) :
    ℕ → LineRegisters → XAuthorityCpuBufferSnapshot →
      Except I32.Panic (Option (List (Int32 × Int32) × XAuthorityCpuBufferSnapshot))
  | 0, _, _ => return none
  | rounds + 1, registers, buffer => do
    let rect ← square width registers
    let buffer := buffer.fillRect rect gc.foreground gc
    if registers.x = ends.targetX ∧ registers.y = ends.targetY then
      return some ([(registers.x, registers.y)], buffer)
    else
      let done ← loop ends width gc rounds (← ends.advance registers) buffer
      return done.map fun (centres, buffer) => ((registers.x, registers.y) :: centres, buffer)

/-- `draw_line` within so many rounds of its loop; `none` is a loop that would go on. -/
def drawLine (rounds : ℕ) (buffer : XAuthorityCpuBufferSnapshot) (start target : XPoint)
    (width : Int32) (gc : XGraphicsContextValues) :
    Except I32.Panic (Option (List (Int32 × Int32) × XAuthorityCpuBufferSnapshot)) := do
  let (ends, registers) ← prepare start target
  ends.loop width gc rounds registers buffer

end LineEnds

section Machine

variable {start target : XPoint} {ends : LineEnds} {registers : LineRegisters} {i j k : ℤ}

/-- The numbers the variables stand for. -/
def LineEnds.line (ends : LineEnds) : Line :=
  ⟨ends.targetX.toInt, ends.targetY.toInt, ends.dx.toInt, ends.sx.toInt, ends.dy.toInt,
    ends.sy.toInt⟩

def LineRegisters.cursor (registers : LineRegisters) : LineCursor :=
  ⟨registers.x.toInt, registers.y.toInt, registers.error.toInt⟩

theorem place_bounds (a : Int16) : -2 ^ 15 ≤ a.toInt ∧ a.toInt < 2 ^ 15 :=
  ⟨a.le_toInt, a.toInt_lt⟩

/-- A sum that fits is what the machine computes. -/
theorem add_eq {a b : Int32} (h : I32.Fits (a.toInt + b.toInt)) :
    ∃ c, I32.add a b = .ok c ∧ c.toInt = a.toInt + b.toInt :=
  ⟨_, I32.ofInt_eq h, I32.toInt_ofInt h⟩

theorem sub_eq {a b : Int32} (h : I32.Fits (a.toInt - b.toInt)) :
    ∃ c, I32.sub a b = .ok c ∧ c.toInt = a.toInt - b.toInt :=
  ⟨_, I32.ofInt_eq h, I32.toInt_ofInt h⟩

theorem abs_eq {a : Int32} (h : I32.Fits |a.toInt|) :
    ∃ c, I32.abs a = .ok c ∧ c.toInt = |a.toInt| := by
  rw [Int.abs_eq_natAbs] at h ⊢
  exact ⟨_, I32.ofInt_eq h, I32.toInt_ofInt h⟩

theorem neg_eq {a : Int32} (h : I32.Fits (-a.toInt)) :
    ∃ c, I32.neg a = .ok c ∧ c.toInt = -a.toInt :=
  ⟨_, I32.ofInt_eq h, I32.toInt_ofInt h⟩

theorem toInt_direction (a b : Int16) :
    (LineEnds.direction a.toInt32 b.toInt32).toInt = if a.toInt < b.toInt then 1 else -1 := by
  have hlt : a.toInt32 < b.toInt32 ↔ a.toInt < b.toInt := by
    rw [Int32.lt_iff_toInt_lt, Int16.toInt_toInt32, Int16.toInt_toInt32]
  unfold LineEnds.direction
  simp only [hlt]
  split <;> rfl

/-- The distance of two coordinates is computed as it is. -/
theorem distance_eq (a b : Int16) :
    ∃ c d, I32.sub b.toInt32 a.toInt32 = .ok c ∧ I32.abs c = .ok d ∧
      d.toInt = |b.toInt - a.toInt| ∧ |b.toInt - a.toInt| < 2 ^ 16 := by
  have ha := place_bounds a
  have hb := place_bounds b
  have hsmall : |b.toInt - a.toInt| < 2 ^ 16 := by
    rw [abs_lt]
    omega
  have hsub : I32.Fits (b.toInt32.toInt - a.toInt32.toInt) := by
    rw [Int16.toInt_toInt32, Int16.toInt_toInt32]
    exact ⟨by omega, by omega⟩
  obtain ⟨c, hc, hcv⟩ := sub_eq hsub
  rw [Int16.toInt_toInt32, Int16.toInt_toInt32] at hcv
  have habs : I32.Fits |c.toInt| := by
    rw [hcv]
    have hpos := abs_nonneg (b.toInt - a.toInt)
    exact ⟨by omega, by omega⟩
  obtain ⟨d, hd, hdv⟩ := abs_eq habs
  exact ⟨c, d, hc, hd, by rw [hdv, hcv], hsmall⟩

/-- Nothing before the loop overflows. -/
theorem prepare_eq (start target : XPoint) :
    ∃ ends registers, LineEnds.prepare start target = .ok (ends, registers) ∧
      ends.line = Line.between start target ∧
        registers.cursor = (Line.between start target).start start := by
  obtain ⟨x, dx, hx, hdx, hdxv, hdxs⟩ := distance_eq start.x target.x
  obtain ⟨y, ay, hy, hay, hayv, hays⟩ := distance_eq start.y target.y
  have hxpos := abs_nonneg (target.x.toInt - start.x.toInt)
  have hypos := abs_nonneg (target.y.toInt - start.y.toInt)
  obtain ⟨dy, hdy, hdyv⟩ := neg_eq (a := ay) ⟨by omega, by omega⟩
  obtain ⟨error, herror, herrorv⟩ := add_eq (a := dx) (b := dy) ⟨by omega, by omega⟩
  rw [hayv] at hdyv
  refine ⟨⟨target.x.toInt32, target.y.toInt32, dx,
    LineEnds.direction start.x.toInt32 target.x.toInt32, dy,
    LineEnds.direction start.y.toInt32 target.y.toInt32⟩,
    ⟨start.x.toInt32, start.y.toInt32, error⟩, ?_, ?_, ?_⟩
  · unfold LineEnds.prepare
    exact Fallible.bind_eq_ok.mpr ⟨x, hx, Fallible.bind_eq_ok.mpr ⟨dx, hdx,
      Fallible.bind_eq_ok.mpr ⟨y, hy, Fallible.bind_eq_ok.mpr ⟨ay, hay,
        Fallible.bind_eq_ok.mpr ⟨dy, hdy, Fallible.bind_eq_ok.mpr ⟨error, herror, rfl⟩⟩⟩⟩⟩⟩
  · simp only [LineEnds.line, Line.between, hdxv, hdyv, Int16.toInt_toInt32, toInt_direction]
  · simp only [LineRegisters.cursor, Line.start, Line.between, herrorv, hdxv, hdyv,
      Int16.toInt_toInt32]

/-- Nothing in a round overflows, and the round is the one of the numbers. -/
theorem advance_eq (hends : ends.line = Line.between start target)
    (h : (Line.between start target).OnPath registers.cursor i j) :
    ∃ next, ends.advance registers = .ok next ∧
      next.cursor = (Line.between start target).advance registers.cursor := by
  obtain ⟨⟨hxlow, hxhigh⟩, hylow, hyhigh⟩ := h.between
  obtain ⟨hlow, hhigh⟩ := h.bounded
  have hturns := Line.between_turns start target
  have hx := place_bounds start.x
  have hx' := place_bounds target.x
  have hy := place_bounds start.y
  have hy' := place_bounds target.y
  have hdx : (Line.between start target).dx < 2 ^ 16 := by
    obtain ⟨-, -, -, -, -, hsmall⟩ := distance_eq start.x target.x
    exact hsmall
  have hdy : -2 ^ 16 < (Line.between start target).dy := by
    obtain ⟨-, -, -, -, -, hsmall⟩ := distance_eq start.y target.y
    exact neg_lt_neg hsmall
  have hacross := h.across
  have halong := h.along
  rw [← hends] at *
  simp only [LineEnds.line, LineRegisters.cursor] at *
  have hdoubled : (saturateInt32 (registers.error.toInt * 2)).toInt =
      registers.error.toInt * 2 := by
    rw [toInt_saturateInt32, saturated]
    omega
  simp only [LineEnds.advance, Line.advance, Int32.le_iff_toInt_le, hdoubled, bind, Except.bind,
    pure, Except.pure]
  obtain ⟨x, hxadd, hxv⟩ := add_eq (a := registers.x) (b := ends.sx) ⟨by omega, by omega⟩
  obtain ⟨y, hyadd, hyv⟩ := add_eq (a := registers.y) (b := ends.sy) ⟨by omega, by omega⟩
  obtain ⟨less, hless, hlessv⟩ := add_eq (a := registers.error) (b := ends.dy)
    ⟨by omega, by omega⟩
  obtain ⟨more, hmore, hmorev⟩ := add_eq (a := registers.error) (b := ends.dx)
    ⟨by omega, by omega⟩
  obtain ⟨both, hboth, hbothv⟩ := add_eq (a := less) (b := ends.dx) ⟨by omega, by omega⟩
  by_cases hgo : ends.dy.toInt ≤ registers.error.toInt * 2 <;>
    by_cases hgo' : registers.error.toInt * 2 ≤ ends.dx.toInt
  · refine ⟨⟨x, y, both⟩, ?_, ?_⟩
    · simp only [hgo, hgo', if_true, hless, hxadd, hboth, hyadd]
    · simp only [hgo, hgo', if_true, hxv, hyv, hbothv, hlessv]
  · refine ⟨⟨x, registers.y, less⟩, ?_, ?_⟩
    · simp only [hgo, hgo', if_true, if_false, hless, hxadd]
    · simp only [hgo, hgo', if_true, if_false, hxv, hlessv]
  · refine ⟨⟨registers.x, y, more⟩, ?_, ?_⟩
    · simp only [hgo, hgo', if_true, if_false, hmore, hyadd]
    · simp only [hgo, hgo', if_true, if_false, hyv, hmorev]
  · omega

/-- The squares around the pixels, drawn one after another. -/
def drawn (gc : XGraphicsContextValues) (pixels : List (ℤ × ℤ))
    (buffer : XAuthorityCpuBufferSnapshot) : XAuthorityCpuBufferSnapshot :=
  pixels.foldl (fun buffer pixel =>
    buffer.fillRect
      { x := saturateInt32 (pixel.1 - brush gc.lineWidth / 2)
        y := saturateInt32 (pixel.2 - brush gc.lineWidth / 2)
        width := .ofInt (brush gc.lineWidth)
        height := .ofInt (brush gc.lineWidth) } gc.foreground gc) buffer

def LineEnds.place (centre : Int32 × Int32) : ℤ × ℤ := (centre.1.toInt, centre.2.toInt)

theorem toInt_brush (lineWidth : UInt16) :
    (Int32.ofInt (brush lineWidth)).toInt = brush lineWidth := by
  have hbrush := brush_bounds lineWidth
  exact Int32.toInt_ofInt_of_le (by omega) (by omega)

theorem square_eq (registers : LineRegisters) (lineWidth : UInt16) :
    LineEnds.square (.ofInt (brush lineWidth)) registers = .ok
      { x := saturateInt32 (registers.cursor.x - brush lineWidth / 2)
        y := saturateInt32 (registers.cursor.y - brush lineWidth / 2)
        width := .ofInt (brush lineWidth)
        height := .ofInt (brush lineWidth) } := by
  have hbrush := brush_bounds lineWidth
  have hhalf : (Int32.ofInt (brush lineWidth)).toInt.tdiv (2 : Int32).toInt =
      brush lineWidth / 2 := by
    rw [toInt_brush]
    exact Int.tdiv_eq_ediv_of_nonneg (by omega)
  have hfits : I32.Fits ((Int32.ofInt (brush lineWidth)).toInt.tdiv (2 : Int32).toInt) := by
    rw [hhalf]
    exact ⟨by omega, by omega⟩
  unfold LineEnds.square
  refine Fallible.bind_eq_ok.mpr ⟨_, I32.ofInt_eq hfits, ?_⟩
  rw [I32.toInt_ofInt hfits, hhalf]
  rfl

theorem at_target_iff (hends : ends.line = Line.between start target)
    (registers : LineRegisters) : registers.x = ends.targetX ∧ registers.y = ends.targetY ↔
      registers.cursor.x = (Line.between start target).targetX ∧
        registers.cursor.y = (Line.between start target).targetY := by
  rw [← hends]
  exact and_congr Int32.toInt_inj.symm Int32.toInt_inj.symm

/-- From a cursor on its way, the loop goes on to the target and no further, without overflow. -/
theorem loop_eq (hends : ends.line = Line.between start target) (gc : XGraphicsContextValues)
    (left : ℕ) (h : (Line.between start target).OnBeat registers.cursor i j k)
    (hleft : (Line.between start target).reach - k = left) :
    ∃ centres, (∀ fuel, left < fuel →
        centres.map LineEnds.place = (Line.between start target).visits fuel registers.cursor) ∧
      centres.length = left + 1 ∧
      ∀ rounds buffer, ends.loop (.ofInt (brush gc.lineWidth)) gc rounds registers buffer =
        .ok (if centres.length ≤ rounds then
          some (centres, drawn gc (centres.map LineEnds.place) buffer) else none) := by
  induction left generalizing registers i j k with
  | zero =>
    have hdone : registers.cursor.x = (Line.between start target).targetX ∧
        registers.cursor.y = (Line.between start target).targetY := by
      by_contra hnot
      have hlt := h.lt_reach hnot
      omega
    refine ⟨[(registers.x, registers.y)], fun fuel hfuel => ?_, rfl, fun rounds buffer => ?_⟩
    · obtain ⟨fuel, rfl⟩ := Nat.exists_eq_succ_of_ne_zero (Nat.pos_iff_ne_zero.mp hfuel)
      rw [Line.visits, if_pos hdone]
      rfl
    · cases rounds with
      | zero => rfl
      | succ rounds =>
        rw [LineEnds.loop, square_eq]
        simp only [bind, Except.bind, if_pos ((at_target_iff hends registers).mpr hdone)]
        simp [pure, Except.pure, drawn, LineEnds.place, LineRegisters.cursor]
  | succ left ih =>
    have hnot : ¬ (registers.cursor.x = (Line.between start target).targetX ∧
        registers.cursor.y = (Line.between start target).targetY) := by
      intro hdone
      have heq := h.eq_reach hdone
      omega
    obtain ⟨next, hnext, hcursor⟩ := advance_eq hends h.toOnPath
    obtain ⟨i', j', hbeat⟩ := h.advance (h.unfinished hnot)
    rw [← hcursor] at hbeat
    obtain ⟨centres, hcentres, hlength, hloop⟩ := ih hbeat (by omega)
    refine ⟨(registers.x, registers.y) :: centres, fun fuel hfuel => ?_, by simp [hlength],
      fun rounds buffer => ?_⟩
    · obtain ⟨fuel, rfl⟩ := Nat.exists_eq_succ_of_ne_zero (Nat.ne_zero_of_lt hfuel)
      rw [Line.visits, if_neg hnot, List.map_cons, hcentres fuel (by omega), hcursor]
      rfl
    · cases rounds with
      | zero => rfl
      | succ rounds =>
        rw [LineEnds.loop, square_eq]
        simp only [bind, Except.bind, if_neg (mt (at_target_iff hends registers).mp hnot), hnext,
          hloop]
        by_cases hrounds : centres.length ≤ rounds
        · simp [pure, Except.pure, hrounds, drawn, LineEnds.place, LineRegisters.cursor]
        · simp [pure, Except.pure, hrounds]

/-- A line is drawn in as many rounds as it has centres, without overflow: a walk from its first
point to its second, and the squares around it. -/
theorem draw_line_walks (start target : XPoint) (gc : XGraphicsContextValues) :
    ∃ centres, Walk start.place target.place (centres.map LineEnds.place) ∧
      ∀ rounds buffer,
        LineEnds.drawLine rounds buffer start target (.ofInt (brush gc.lineWidth)) gc =
          .ok (if centres.length ≤ rounds then
            some (centres, buffer.drawLine start target (brush gc.lineWidth) gc) else none) := by
  obtain ⟨ends, registers, hprepared, hends, hcursor⟩ := prepare_eq start target
  have hbeat := Line.onBeat_start start target
  have hreach : 0 ≤ (Line.between start target).reach :=
    le_max_of_le_left (hbeat.across.1.trans hbeat.across.2)
  have hfuel := Line.fuel_enough start target
  rw [← hcursor] at hbeat
  obtain ⟨centres, hcentres, -, hloop⟩ := loop_eq hends gc
    (Line.between start target).reach.toNat hbeat (by omega)
  have hplaces := hcentres (Line.between start target).fuel (by omega)
  rw [hcursor] at hplaces
  refine ⟨centres, hplaces ▸ Line.walk_visits start target, fun rounds buffer => ?_⟩
  rw [LineEnds.drawLine, hprepared]
  refine (hloop rounds buffer).trans ?_
  rw [hplaces]
  rfl

end Machine
end Sophia.Authority
