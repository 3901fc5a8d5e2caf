import Janetland.Foundations.Rounding
import Janetland.Tinyjl.Frames
import Janetland.Tinyjl.Toggles
import Mathlib.Data.Rat.Floor

namespace Janetland.Tinyjl
open Act

theorem mathRound_away (value : Rat) : mathRound value = Rounding.away value := rfl

-- What one axis of a resize leaves: the position of the view, and the size that is sent.
def axisPosition (low high offset : Int) (border : Rat) (lower upper : Bool) : Int :=
  mathRound ((dragged low high border lower upper).1 - offset)

def axisSize (low high : Int) (border : Rat) (lower upper : Bool) : Int :=
  mathRound ((dragged low high border lower upper).2 - (dragged low high border lower upper).1)

-- One axis of the resulting frame: the size that is sent is positive, and the edge
-- opposite to the dragged one is where it was.
def AxisKept (low high offset position size : Int) (lower upper : Bool) : Prop :=
  1 ≤ size ∧ (lower = true → position + offset + size = high) ∧
    (lower = false → upper = true → position + offset = low)

-- Either the border is clamped, or it is far enough from the opposite edge and its
-- distance from the surface is rounded as the size is.
def AxisFits (low high offset : Int) (border : Rat) (lower upper : Bool) : Prop :=
  (lower = true → (high : Rat) ≤ border ∨
      1/2 ≤ (high : Rat) - border ∧ ¬Rounding.UpperHalf (border - (offset : Rat))) ∧
    (lower = false → upper = true → border ≤ (low : Rat) ∨ 1/2 ≤ border - (low : Rat))

-- The dragged edge, or the upper one, as seen from the edge opposite to it.
def extent (low high : Int) (border : Rat) (lower upper : Bool) : Rat :=
  if lower then high - border else if upper then border - low else high - low

-- The size of an X11 window is sent modulo 2^16. Behind a dragged lower edge it has to
-- arrive whole; elsewhere it only must not arrive as zero.
def AxisNarrow (low high : Int) (border : Rat) (lower upper : Bool) : Prop :=
  (lower = true → extent low high border lower upper < (65535 : Int) + 1/2) ∧
    (lower = false → ∀ k : Int, 1 ≤ k → ¬(((65536 * k : Int) : Rat) - 1/2 ≤ extent low high border lower upper ∧
      extent low high border lower upper < ((65536 * k : Int) : Rat) + 1/2))

def AxisMeets (xwayland : Bool) (low high offset : Int) (border : Rat) (lower upper : Bool) : Prop :=
  AxisFits low high offset border lower upper ∧ (xwayland = true → AxisNarrow low high border lower upper)

section
variable {low high offset : Int} {border : Rat}

theorem lower_clamped (low offset : Int) (upper : Bool) (clamped : (high : Rat) ≤ border) :
    axisPosition low high offset border true upper = high - 1 - offset ∧
      axisSize low high border true upper = 1 := by
  have edges : dragged low high border true upper = ((high : Rat) - 1,(high : Rat)) := by simp [dragged,clamped]
  have position : (high : Rat) - 1 - offset = ((high - 1 - offset : Int) : Rat) := by push_cast; ring
  have size : (high : Rat) - ((high : Rat) - 1) = ((1 : Int) : Rat) := by push_cast; ring
  unfold axisPosition axisSize
  rw [edges]
  simp only [position,size,mathRound_away,Rounding.away_intCast,and_self]

theorem upper_clamped (high : Int) (clamped : border ≤ (low : Rat)) :
    axisSize low high border false true = 1 := by
  have edges : dragged low high border false true = ((low : Rat),(low : Rat) + 1) := by simp [dragged,clamped]
  have size : (low : Rat) + 1 - low = ((1 : Int) : Rat) := by push_cast; ring
  unfold axisSize
  rw [edges]
  simp only [size,mathRound_away,Rounding.away_intCast]

theorem upper_position (upper : Bool) : axisPosition low high offset border false upper = low - offset := by
  have first : (dragged low high border false upper).1 = (low : Rat) := by
    cases upper <;> simp [dragged]
  have position : (low : Rat) - offset = ((low - offset : Int) : Rat) := by push_cast; ring
  unfold axisPosition
  rw [first,position,mathRound_away,Rounding.away_intCast]

theorem lower_exact (upper : Bool) :
    AxisKept low high offset (axisPosition low high offset border true upper)
      (axisSize low high border true upper) true upper ↔ AxisFits low high offset border true upper := by
  by_cases clamped : (high : Rat) ≤ border
  · obtain ⟨position,size⟩ := lower_clamped low offset upper clamped
    rw [position,size]
    refine iff_of_true ⟨by omega,fun _ => by omega,by simp⟩ ⟨fun _ => .inl clamped,by simp⟩
  · have edges : dragged low high border true upper = (border,(high : Rat)) := by simp [dragged,clamped]
    have shifted : (high : Rat) - border = ((high - offset : Int) : Rat) - (border - offset) := by push_cast; ring
    have below : border - (offset : Rat) < ((high - offset : Int) : Rat) := by
      push_cast
      linarith
    have sum := Rounding.away_sum (high - offset) below
    unfold axisPosition axisSize
    rw [edges,mathRound_away,mathRound_away]
    simp only [AxisKept,AxisFits,clamped,Rounding.one_le_away,false_or,true_implies,Bool.true_eq_false,
      false_implies,and_true]
    rw [← sum,shifted]
    constructor
    · rintro ⟨large,kept⟩
      exact ⟨large,by omega⟩
    · rintro ⟨large,kept⟩
      exact ⟨large,by omega⟩

theorem upper_exact :
    AxisKept low high offset (axisPosition low high offset border false true)
      (axisSize low high border false true) false true ↔ AxisFits low high offset border false true := by
  have kept : low - offset + offset = low := by omega
  rw [upper_position]
  by_cases clamped : border ≤ (low : Rat)
  · rw [upper_clamped high clamped]
    refine iff_of_true ⟨by omega,by simp,fun _ _ => kept⟩ ⟨by simp,fun _ _ => .inl clamped⟩
  · have edges : dragged low high border false true = ((low : Rat),border) := by simp [dragged,clamped]
    unfold axisSize
    rw [edges,mathRound_away]
    simp [AxisKept,AxisFits,clamped,Rounding.one_le_away,kept]

theorem undragged_exact (wide : low < high) :
    AxisKept low high offset (axisPosition low high offset border false false)
      (axisSize low high border false false) false false ↔ AxisFits low high offset border false false := by
  have size : (dragged low high border false false).2 - (dragged low high border false false).1 =
      ((high - low : Int) : Rat) := by
    simp [dragged]
  unfold axisSize
  rw [size,mathRound_away (((high - low : Int) : Rat)),Rounding.away_intCast]
  simp only [AxisKept,AxisFits]
  simp
  omega

theorem axis_exact (wide : low < high) (lower upper : Bool) :
    AxisKept low high offset (axisPosition low high offset border lower upper)
      (axisSize low high border lower upper) lower upper ↔ AxisFits low high offset border lower upper := by
  cases lower with
  | true => exact lower_exact upper
  | false => cases upper with
    | true => exact upper_exact
    | false => exact undragged_exact wide

-- Dragging the lower edge, the position and the size are rounded at most one apart.
theorem lower_sum (low high offset : Int) (border : Rat) (upper : Bool) :
    axisPosition low high offset border true upper + offset + axisSize low high border true upper = high ∨
      axisPosition low high offset border true upper + offset + axisSize low high border true upper = high + 1 := by
  by_cases clamped : (high : Rat) ≤ border
  · obtain ⟨position,size⟩ := lower_clamped low offset upper clamped
    omega
  · have edges : dragged low high border true upper = (border,(high : Rat)) := by simp [dragged,clamped]
    have shifted : (high : Rat) - border = ((high - offset : Int) : Rat) - (border - offset) := by push_cast; ring
    have below : border - (offset : Rat) < ((high - offset : Int) : Rat) := by
      push_cast
      linarith
    have size : axisSize low high border true upper = high - offset - ⌈border - (offset : Rat) - 1/2⌉ := by
      unfold axisSize
      rw [edges,mathRound_away,shifted]
      exact Rounding.away_complement _ below
    have position : axisPosition low high offset border true upper = Rounding.away (border - (offset : Rat)) := by
      unfold axisPosition
      rw [edges,mathRound_away]
    by_cases half : Rounding.UpperHalf (border - (offset : Rat))
    · have up := Rounding.upperHalf_up half
      omega
    · have same := Rounding.away_ceil.mpr half
      omega

theorem size_extent (border : Rat) (wide : low < high) (lower upper : Bool) :
    extent low high border lower upper ≤ 0 ∧ axisSize low high border lower upper = 1 ∨
      0 ≤ extent low high border lower upper ∧
        axisSize low high border lower upper = Rounding.away (extent low high border lower upper) := by
  have apart : (low : Rat) < high := by exact_mod_cast wide
  cases lower with
  | true =>
      by_cases clamped : (high : Rat) ≤ border
      · exact .inl ⟨by simpa [extent] using clamped,(lower_clamped low 0 upper clamped).2⟩
      · refine .inr ⟨by simpa [extent] using (not_le.mp clamped).le,?_⟩
        simp [axisSize,dragged,clamped,extent,mathRound_away]
  | false => cases upper with
    | true =>
        by_cases clamped : border ≤ (low : Rat)
        · exact .inl ⟨by simpa [extent] using clamped,upper_clamped high clamped⟩
        · refine .inr ⟨by simpa [extent] using (not_le.mp clamped).le,?_⟩
          simp [axisSize,dragged,clamped,extent,mathRound_away]
    | false =>
        refine .inr ⟨by simpa [extent] using apart.le,?_⟩
        simp [axisSize,dragged,extent,mathRound_away]

theorem narrow_size (wide : low < high) (lower upper : Bool) : AxisNarrow low high border lower upper ↔
    (lower = true → axisSize low high border lower upper ≤ 65535) ∧
      (lower = false → ∀ k : Int, 1 ≤ k → axisSize low high border lower upper ≠ 65536 * k) := by
  unfold AxisNarrow
  rcases size_extent border wide lower upper with ⟨short,size⟩ | ⟨nonneg,size⟩
  · rw [size]
    refine iff_of_true ⟨fun _ => by push_cast; linarith,fun _ k positive => ?_⟩ ⟨by simp,fun _ k positive => by omega⟩
    rintro ⟨reached,_⟩
    have large : (1 : Rat) ≤ k := by exact_mod_cast positive
    push_cast at reached
    linarith
  · rw [size,← Rounding.away_le nonneg]
    refine and_congr Iff.rfl (imp_congr Iff.rfl (forall_congr' fun k => imp_congr Iff.rfl ?_))
    rw [← Rounding.le_away nonneg,← Rounding.away_le nonneg]
    omega

theorem size_nonneg (border : Rat) (wide : low < high) (lower upper : Bool) :
    0 ≤ axisSize low high border lower upper := by
  rcases size_extent border wide lower upper with ⟨_,size⟩ | ⟨nonneg,size⟩
  · omega
  · rw [size]
    exact (Rounding.le_away nonneg 0).mpr (by push_cast; linarith)

theorem narrowed_exact (wide : low < high) (lower upper : Bool) :
    AxisKept low high offset (axisPosition low high offset border lower upper)
      (uint16Type.convert (axisSize low high border lower upper)) lower upper ↔
    AxisFits low high offset border lower upper ∧ AxisNarrow low high border lower upper := by
  have nonneg := size_nonneg border wide lower upper
  have kept : uint16Type.convert (axisSize low high border lower upper) =
      axisSize low high border lower upper % 65536 := uint16Type.convert_unsigned rfl _
  rw [← axis_exact wide lower upper,narrow_size wide lower upper,kept]
  unfold AxisKept
  cases lower with
  | true =>
      have sum := lower_sum low high offset border upper
      simp only [true_implies,Bool.true_eq_false,false_implies,and_true]
      omega
  | false =>
      have same : axisPosition low high offset border false upper + offset = low := by
        rw [upper_position]
        omega
      simp only [same,Bool.false_eq_true,false_implies,true_implies,and_true,implies_true]
      constructor
      · intro positive
        exact ⟨by omega,trivial,fun k large same => by omega⟩
      · rintro ⟨positive,_,apart⟩
        have other := apart (axisSize low high border false upper / 65536)
        omega

theorem sent_exact (wide : low < high) (xwayland lower upper : Bool) :
    AxisKept low high offset (axisPosition low high offset border lower upper)
      (Toggles.sent xwayland (axisSize low high border lower upper)) lower upper ↔
    AxisMeets xwayland low high offset border lower upper := by
  cases xwayland with
  | true => simpa [AxisMeets,Toggles.sent] using narrowed_exact wide lower upper
  | false => simpa [AxisMeets,Toggles.sent] using axis_exact wide lower upper

end

-- A resize that begin-interactive has recorded, in a server and the answers it gets.
structure Resizing (answers : Answers) (s : Server) (view : Nat) (grabX grabY : Rat) (geobox : Box)
    (edges : List String) (geometry : Box) : Prop where
  grabbed : s.grabbedView = some view
  left : s.grabX = some grabX
  top : s.grabY = some grabY
  frame : s.grabGeobox = some geobox
  dragging : s.resizeEdges = some edges
  current : getGeometryFromView answers view s = .ok geometry

-- The position that is left, and the size that is sent.
def newX (s : Server) (grabX : Rat) (geobox : Box) (edges : List String) (geometry : Box) : Int :=
  axisPosition geobox.x (geobox.x + geobox.width) geometry.x (s.cursorX - grabX)
    (contains edges "left") (contains edges "right")

def newY (s : Server) (grabY : Rat) (geobox : Box) (edges : List String) (geometry : Box) : Int :=
  axisPosition geobox.y (geobox.y + geobox.height) geometry.y (s.cursorY - grabY)
    (contains edges "top") (contains edges "bottom")

def newWidth (s : Server) (grabX : Rat) (geobox : Box) (edges : List String) : Int :=
  axisSize geobox.x (geobox.x + geobox.width) (s.cursorX - grabX) (contains edges "left") (contains edges "right")

def newHeight (s : Server) (grabY : Rat) (geobox : Box) (edges : List String) : Int :=
  axisSize geobox.y (geobox.y + geobox.height) (s.cursorY - grabY) (contains edges "top") (contains edges "bottom")

-- The view is in the scene, and wlroots takes the new numbers.
structure Sendable (s : Server) (view : Nat) (grabX grabY : Rat) (geobox : Box) (edges : List String)
    (geometry : Box) : Prop where
  shown : ∃ tree, (s.tables view).sceneTree = some tree ∧ (s.trees tree).alive = true
  x : fitsInt32 (newX s grabX geobox edges geometry) = true
  y : fitsInt32 (newY s grabY geobox edges geometry) = true
  width : fitsInt32 (newWidth s grabX geobox edges) = true
  height : fitsInt32 (newHeight s grabY geobox edges) = true

theorem setPosition_kept (tree : Option Nat) (x y : Int) (s : Server) :
    Ensures (wlrSceneNodeSetPosition tree x y) s (fun _ t => t = s) fun _ => True := by
  refine ensures_bind (ensures_lift (fun id _ => ?_) trivial)
  refine ensures_bind (ensures_lift (fun _ _ => ?_) trivial)
  refine ensures_bind (ensures_lift (fun _ _ => ?_) trivial)
  exact ensures_look (fun _ _ => rfl) fun _ _ => trivial

theorem position_returns {s : Server} {returned : Unit → Server → Prop} (shown : own = some tree)
    (x : fitsInt32 horizontal = true) (y : fitsInt32 vertical = true) (alive : (s.trees tree).alive = true)
    (holds : returned () s) : Returns (wlrSceneNodeSetPosition own horizontal vertical) s returned := by
  subst shown
  refine returns_bind (returns_lift rfl ?_)
  refine returns_bind (returns_lift (if_pos x) ?_)
  refine returns_bind (returns_lift (if_pos y) ?_)
  exact returns_look (if_pos alive) holds

section
variable {answers : Answers} {s : Server} {view : Nat} {grabX grabY : Rat} {geobox geometry : Box}
  {edges : List String}

theorem resize_result (resizing : Resizing answers s view grabX grabY geobox edges geometry) :
    Ensures (processCursorResize answers) s (fun size t =>
      (t.tables view).x = newX s grabX geobox edges geometry ∧
      (t.tables view).y = newY s grabY geobox edges geometry ∧
      size = (Toggles.sent (s.surfaces view).xwayland (newWidth s grabX geobox edges),
        Toggles.sent (s.surfaces view).xwayland (newHeight s grabY geobox edges))) fun _ => True := by
  unfold processCursorResize newX newY newWidth newHeight axisPosition axisSize
  push_cast
  refine ensures_bind (ensures_found (by rw [resizing.grabbed]; rfl) ?_)
  refine ensures_bind (ensures_found (by rw [resizing.left]; rfl) ?_)
  refine ensures_bind (ensures_found (by rw [resizing.top]; rfl) ?_)
  refine ensures_bind (ensures_found (by rw [resizing.frame]; rfl) ?_)
  refine ensures_bind (ensures_found (by rw [resizing.dragging]; rfl) ?_)
  refine ensures_bind (ensures_found resizing.current ?_)
  refine ensures_bind (ensures_modify ?_)
  refine ensures_bind (ensures_modify ?_)
  refine ensures_bind (ensures_read ?_)
  refine ensures_bind (ensures_mono (setPosition_kept _ _ _ _) fun _ t same => ?_)
  subst same
  refine ensures_bind (ensures_read ?_)
  refine ensures_lift (fun size sent => ?_) trivial
  exact ⟨by simp [Server.setTable],by simp [Server.setTable],(Toggles.sendSize_exact sent).2.2⟩

theorem resize_returns (resizing : Resizing answers s view grabX grabY geobox edges geometry)
    (sendable : Sendable s view grabX grabY geobox edges geometry) :
    Returns (processCursorResize answers) s fun _ _ => True := by
  obtain ⟨⟨tree,shown,alive⟩,x,y,width,height⟩ := sendable
  unfold newX axisPosition at x
  unfold newY axisPosition at y
  unfold newWidth axisSize at width
  unfold newHeight axisSize at height
  push_cast at x y width height
  unfold processCursorResize
  refine returns_bind (returns_look (by rw [resizing.grabbed]; rfl) ?_)
  refine returns_bind (returns_look (by rw [resizing.left]; rfl) ?_)
  refine returns_bind (returns_look (by rw [resizing.top]; rfl) ?_)
  refine returns_bind (returns_look (by rw [resizing.frame]; rfl) ?_)
  refine returns_bind (returns_look (by rw [resizing.dragging]; rfl) ?_)
  refine returns_bind (returns_look resizing.current ?_)
  refine returns_bind (returns_modify ?_)
  refine returns_bind (returns_modify ?_)
  refine returns_bind (returns_read ?_)
  refine returns_bind (position_returns ?_ ?_ ?_ alive ?_)
  · simp [Server.setTable,shown]
  · simpa [Server.setTable] using x
  · simpa [Server.setTable] using y
  refine returns_bind (returns_read ?_)
  refine returns_lift (Toggles.sendSize_returns ?_ ?_ width height) trivial
  · simpa [Server.setTable] using x
  · simpa [Server.setTable] using y

-- The size is sent whenever it can be, and where it is, the axes are kept exactly when they fit.
theorem resize_exact (resizing : Resizing answers s view grabX grabY geobox edges geometry)
    (wide : 1 ≤ geobox.width) (high : 1 ≤ geobox.height) :
    (Sendable s view grabX grabY geobox edges geometry →
      Returns (processCursorResize answers) s fun _ _ => True) ∧
    ∀ width height t, processCursorResize answers s = (.ok (width,height),t) →
      ((AxisKept geobox.x (geobox.x + geobox.width) geometry.x (t.tables view).x width
          (contains edges "left") (contains edges "right") ∧
        AxisKept geobox.y (geobox.y + geobox.height) geometry.y (t.tables view).y height
          (contains edges "top") (contains edges "bottom")) ↔
      AxisMeets (s.surfaces view).xwayland geobox.x (geobox.x + geobox.width) geometry.x (s.cursorX - grabX)
          (contains edges "left") (contains edges "right") ∧
        AxisMeets (s.surfaces view).xwayland geobox.y (geobox.y + geobox.height) geometry.y (s.cursorY - grabY)
          (contains edges "top") (contains edges "bottom")) := by
  refine ⟨resize_returns resizing,?_⟩
  intro width height t ran
  have result := resize_result resizing
  unfold Ensures at result
  rw [ran] at result
  obtain ⟨x,y,size⟩ := result
  obtain ⟨rfl,rfl⟩ := Prod.mk.inj size
  have horizontal : geobox.x < geobox.x + geobox.width := by omega
  have vertical : geobox.y < geobox.y + geobox.height := by omega
  rw [x,y]
  exact and_congr (sent_exact horizontal _ _ _) (sent_exact vertical _ _ _)

end

def sizeSent : Res (Int × Int) → Option (Int × Int)
  | .ok size => some size
  | .panic _ => none
  | .fault _ => none

theorem sizeSent_ran (sent : sizeSent (processCursorResize answers s).1 = some size) :
    processCursorResize answers s = (.ok size,(processCursorResize answers s).2) := by
  cases ran : processCursorResize answers s with
  | mk result t =>
      rw [ran] at sent
      cases result with
      | ok value =>
          obtain rfl := Option.some.inj sent
          rfl
      | panic error => simp [sizeSent] at sent
      | fault kind => simp [sizeSent] at sent

-- The cursor has dragged a border of a toplevel of 100 by 100.
def resizingServer (cursorX : Rat) (edges : List String) : Server := { start with
  trees := fun tree => ⟨decide (tree ≤ 1),none,none,none⟩
  tables := fun _ => ⟨some 1,none,0,0⟩
  cursorMode := .resize
  grabbedView := some 0
  grabX := some 0
  grabY := some 0
  grabGeobox := some ⟨0,0,100,100⟩
  resizeEdges := some edges
  cursorX := cursorX
  cursorY := 50 }

theorem resizingServer_resizing :
    Resizing granted (resizingServer cursorX edges) 0 0 0 ⟨0,0,100,100⟩ edges granted.geometry :=
  ⟨rfl,rfl,rfl,rfl,rfl,rfl⟩

-- The same of an XWayland surface.
def resizingWindow (cursorX : Rat) (edges : List String) : Server :=
  (resizingServer cursorX edges).setSurface 0 fun surface => { surface with xwayland := true, mapped := true }

theorem resizingWindow_resizing :
    Resizing granted (resizingWindow cursorX edges) 0 0 0 ⟨0,0,100,100⟩ edges granted.geometry :=
  ⟨rfl,rfl,rfl,rfl,rfl,rfl⟩

def resized (cursorX : Rat) (edges : List String) : Res (Int × Int) × Server :=
  processCursorResize granted (resizingServer cursorX edges)

theorem resize_exact_left : sizeSent (resized (81/4) ["left"]).1 = some (80,100) ∧
    AxisKept 0 100 0 ((resized (81/4) ["left"]).2.tables 0).x 80 true false := by
  have sent : sizeSent (resized (81/4) ["left"]).1 = some (80,100) := by
    decide +kernel
  refine ⟨sent,?_⟩
  have quarter : ¬Rounding.UpperHalf ((81/4 : Rat) - 0 - (0 : Int)) := by
    rintro ⟨_,k,half⟩
    have quadruple : 4 * (k : Rat) = 79 := by
      push_cast at half
      linarith
    have whole : 4 * k = 79 := by exact_mod_cast quadruple
    omega
  have fits : AxisMeets false 0 (0 + 100) 0 ((81/4 : Rat) - 0) true false := by
    refine ⟨⟨fun _ => .inr ⟨?_,quarter⟩,by simp⟩,by simp⟩
    norm_num
  have undragged : AxisMeets false 0 (0 + 100) 0 ((50 : Rat) - 0) false false := ⟨⟨by simp,by simp⟩,by simp⟩
  exact (((resize_exact resizingServer_resizing (by decide) (by decide)).2 80 100 _ (sizeSent_ran sent)).mpr
    ⟨fits,undragged⟩).1

-- A border too near the opposite edge, one that is rounded the same way as the size, and
-- an X11 window whose width comes out as zero.
theorem resize_unkept :
    (Resizing granted (resizingServer (1/4) ["right"]) 0 0 0 ⟨0,0,100,100⟩ ["right"] granted.geometry ∧
      sizeSent (resized (1/4) ["right"]).1 = some (0,100)) ∧
    (Resizing granted (resizingServer (1/2) ["left"]) 0 0 0 ⟨0,0,100,100⟩ ["left"] granted.geometry ∧
      sizeSent (resized (1/2) ["left"]).1 = some (100,100) ∧
      ¬AxisKept 0 100 0 ((resized (1/2) ["left"]).2.tables 0).x 100 true false) ∧
    Resizing granted (resizingWindow 65536 ["right"]) 0 0 0 ⟨0,0,100,100⟩ ["right"] granted.geometry ∧
      sizeSent (processCursorResize granted (resizingWindow 65536 ["right"])).1 = some (0,100) := by
  refine ⟨⟨resizingServer_resizing,by decide +kernel⟩,⟨resizingServer_resizing,by decide +kernel,?_⟩,
    resizingWindow_resizing,by decide +kernel⟩
  intro kept
  have moved : ((resized (1/2) ["left"]).2.tables 0).x = 1 := by decide +kernel
  have border := kept.2.1 rfl
  rw [moved] at border
  omega

end Janetland.Tinyjl
