import Janetland.Tinyjl.Handlers
import Janetland.Foundations.Runs

namespace Janetland.Tinyjl
open Act

-- What reaches the compositor from wlroots.
inductive Event where
  | newXdgSurface (answers : Answers) (id : Nat)
  | newXwaylandSurface (id : Nat) (wantsFocus : Bool)
  | setParent (id : Nat) (parent : Option Nat)
  | setWantsFocus (id : Nat) (wantsFocus : Bool)
  | map (answers : Answers) (id : Nat)
  | unmap (answers : Answers) (id : Nat)
  | destroy (id : Nat)
  | requestMove (answers : Answers) (id : Nat) (serial : BitVec 32)
  | requestResize (answers : Answers) (id : Nat) (serial : BitVec 32) (edges : List String)
  | cursorMotion (answers : Answers) (x y : Rat)
  | cursorButton (answers : Answers) (button : Nat) (state : ButtonState)
  | keyF1 (answers : Answers)
  | modifiers
  -- wlroots moves or clears the keyboard focus by itself
  | keyboardFocus (surface : Option WlSurface)

def liveXwayland (s : Server) (id : Nat) : Bool := decide ((s.surfaces id).life = .alive) && (s.surfaces id).xwayland

-- The order in which wlroots emits the events of one surface.
def admits (s : Server) : Event → Bool
  | .newXdgSurface _ id | .newXwaylandSurface id _ => decide ((s.surfaces id).life = .unborn)
  | .setParent id none => liveXwayland s id
  | .setParent id (some parent) => liveXwayland s id && liveXwayland s parent && decide (id ≠ parent)
  | .setWantsFocus id _ => liveXwayland s id
  | .map _ id => decide ((s.surfaces id).life = .alive) && !(s.surfaces id).mapped
  | .unmap _ id => decide ((s.surfaces id).life = .alive) && (s.surfaces id).mapped
  | .destroy id => decide ((s.surfaces id).life = .alive) && !(s.surfaces id).mapped
  | .requestMove _ id _ | .requestResize _ id _ _ => decide ((s.surfaces id).life = .alive)
  | .cursorMotion .. | .cursorButton .. | .keyF1 _ | .modifiers | .keyboardFocus _ => true

-- A handler of a view runs while its listeners are bound.
def listened (id : Nat) (handler : Act Server Unit) : Act Server Unit := do
  let bound ← read fun s => (s.surfaces id).bound
  when bound handler

def byKind (id : Nat) (xdg xwayland : Act Server Unit) : Act Server Unit := do
  let kind ← read fun s => (s.surfaces id).xwayland
  if kind then xwayland else xdg

def perform : Event → Act Server Unit
  | .newXdgSurface answers id => do
    modify fun s => s.setSurface id Surface.waking
    handleXdgShellNewSurface answers id
  | .newXwaylandSurface id wantsFocus => do
    modify fun s => s.setSurface id fun surface =>
      { surface with life := .alive, xwayland := true, wantsFocus := wantsFocus }
    handleXwaylandNewSurface id
  | .setParent id parent => modify fun s => s.setSurface id fun surface => { surface with parent := parent }
  | .setWantsFocus id wantsFocus =>
    modify fun s => s.setSurface id fun surface => { surface with wantsFocus := wantsFocus }
  | .map answers id => do
    modify fun s => s.setSurface id Surface.mapping
    listened id (handleSurfaceMap answers id)
  | .unmap answers id => do
    modify fun s => s.setSurface id fun surface => { surface with mapped := false }
    listened id (handleSurfaceUnmap answers id)
  | .destroy id => destroySurface id
  | .requestMove answers id serial => listened id <|
    byKind id (handleXdgToplevelRequestMove answers id serial) (handleXwaylandSurfaceRequestMove answers id)
  | .requestResize answers id serial edges => listened id <|
    byKind id (handleXdgToplevelRequestResize answers id serial edges)
      (handleXwaylandSurfaceRequestResize answers id edges)
  | .cursorMotion answers x y => handleCursorMotion answers x y
  | .cursorButton answers button state => handleCursorButton answers button state
  | .keyF1 answers => focusNextView answers
  | .modifiers => pure ()
  | .keyboardFocus surface => modify fun s => { s with focusedSurface := surface }

-- The error of a handler ends the handler only. Undefined runs end the run.
def step (s : Server) (event : Event) : Option Server :=
  if admits s event then match perform event s with
    | (.ok _,t) => some t
    | (.panic _,t) => some t
    | (.fault _,_) => none
  else none

-- Every call succeeds, and nothing is below the cursor.
def granted : Answers := ⟨true,true,.ok (),true,false,false,none,none,some,⟨0,0,10,10⟩,0⟩

-- A property that a handler keeps when it returns and when it raises holds after its event.
theorem step_ensures (accepted : step s event = some next)
    (kept : admits s event → Ensures (perform event) s (fun _ t => holds t) holds) : holds next := by
  unfold step at accepted
  split at accepted
  · rename_i admitted
    have left : leaves (perform event s) = some next := by
      rw [← accepted]
      rcases perform event s with ⟨result,t⟩
      cases result <;> rfl
    exact ensures_leaves left (kept admitted)
  · simp at accepted

theorem step_admits (accepted : step s event = some next) : admits s event := by
  unfold step at accepted
  split at accepted
  · assumption
  · simp at accepted

end Janetland.Tinyjl
