import Mathlib.Data.List.Iterate
import Mathlib.Data.List.Rotate
import Janetland.Tinyjl.ViewList

namespace Janetland.Tinyjl
open Act EventRuns

-- A view that can get the focus, and whose tree can be raised.
structure Focusable (s : Server) (view : Nat) : Prop where
  ready : Ready s.scenery view
  raised : ∀ tree, (s.tables view).sceneTree = some tree → (s.trees tree).alive = true

-- There is a keyboard, nothing grabs the seat, and the last surface gives its activation up.
structure Calm (answers : Answers) : Prop where
  keyboard : answers.keyboard = true
  ungrabbed : answers.seatGrab = false
  deactivated : answers.deactivated = .ok ()

-- The keyboard focus is on the last view or on none.
structure Cycling (s : Server) : Prop where
  several : 2 ≤ s.views.length
  distinct : s.views.Nodup
  focusable : ∀ view ∈ s.views, Focusable s view
  focus : s.focusedSurface = none ∨ s.focusedSurface = s.views.getLast?.map WlSurface.main

def Server.refocused (s : Server) (views : List Nat) (focused : Option WlSurface) : Server :=
  { s with views := views, focusedSurface := focused }

-- The first view has become the last, with the focus.
def Server.cycled (s : Server) : Server := s.refocused (s.views.rotate 1) (s.views.head?.map WlSurface.main)

-- The states around the presses of F1.
def pressed (s : Server) (presses : List Answers) : List Server := visited step s (presses.map .keyF1)

-- What any number of presses does.
structure Cycles (s : Server) (presses : List Answers) : Prop where
  lists : (pressed s presses).map Server.views = (List.range (presses.length + 1)).map s.views.rotate
  focuses : (pressed s presses).tail.map Server.focusedSurface =
    (List.range presses.length).map fun k => s.views[k % s.views.length]?.map WlSurface.main
  again : ∀ t ∈ (pressed s presses).tail, Cycling t ∧ t.focusedSurface = t.views.getLast?.map WlSurface.main
  -- each view gets the focus once
  round : presses.length = s.views.length → ((pressed s presses).getLast?.map Server.views = some s.views ∧
    (pressed s presses).tail.map Server.focusedSurface = s.views.map fun view => some (.main view))

structure FocusLaw : Prop where
  press : ∀ s answers, Cycling s → Calm answers → focusNextView answers s = (.ok (),s.cycled)
  presses : ∀ s presses, Cycling s → (∀ answers ∈ presses, Calm answers) → Cycles s presses
  moves : ∀ s answers view surface before after, s.views = before ++ view :: after → s.views.Nodup →
    Focusable s view → Calm answers → s.focusedSurface ≠ surface →
    focusView answers view surface s = (.ok (),s.refocused (before ++ after ++ [view]) (some (.main view)))
  stays : ∀ s answers view surface, s.focusedSurface = surface → focusView answers view surface s = (.ok (),s)

section
variable {s : Server} {answers : Answers} {view : Nat} {surface : Option WlSurface} {presses : List Answers}

theorem focusable_own (focusable : Focusable s view) : ownSurface s view = some (.main view) := by
  have mapped : (s.surfaces view).mapped = true := focusable.ready.mapped
  simp [ownSurface,mapped]

theorem when_returns {returned : Unit → Server → Prop} (runs : condition = true → Returns act s returned)
    (skips : condition = false → returned () s) : Returns (when condition act) s returned := by
  cases condition with
  | true => exact runs rfl
  | false => exact returns_pure () (skips rfl)

theorem deactivated_returns {returned : Unit → Server → Prop} (calm : Calm answers) (holds : returned () s) :
    Returns (when condition (lift answers.deactivated)) s returned :=
  when_returns (fun _ => returns_lift calm.deactivated holds) fun _ => holds

-- The listed view is taken out of the middle and comes last.
theorem moved_last (listed : s.views = before ++ view :: after) (distinct : s.views.Nodup) :
    contains s.views view = true ∧ removeElement s.views view ++ [view] = before ++ after ++ [view] := by
  have apart : view ∉ before := by
    rw [listed] at distinct
    intro member
    exact (List.disjoint_of_nodup_append distinct) member List.mem_cons_self
  refine ⟨(contains_exact s.views view).mpr (by simp [listed]),?_⟩
  rw [removeElement_erase,listed,List.erase_append_right _ apart,List.erase_cons_head]

theorem focusView_focused (focused : s.focusedSurface = surface) :
    focusView answers view surface s = (.ok (),s) := by
  simp [focusView,bind_run,Act.read,Act.look,focused]
  rfl

theorem focusView_moves (focusable : Focusable s view) (calm : Calm answers)
    (elsewhere : s.focusedSurface ≠ surface) (listed : s.views = before ++ view :: after)
    (distinct : s.views.Nodup) :
    focusView answers view surface s = (.ok (),s.refocused (before ++ after ++ [view]) (some (.main view))) := by
  obtain ⟨tree,shown⟩ := Option.isSome_iff_exists.mp focusable.ready.shown
  obtain ⟨contained,moved⟩ := moved_last listed distinct
  have own : ∀ views, ownSurface { s with views := views } view = some (.main view) :=
    fun views => focusable_own (s := s) focusable
  suffices returned : Returns (focusView answers view surface) s
      fun _ t => t = s.refocused (before ++ after ++ [view]) (some (.main view)) by
    obtain ⟨_,t,ran,rfl⟩ := returned
    exact ran
  refine returns_bind (returns_read ?_)
  rw [if_neg elsewhere]
  refine returns_bind (deactivated_returns calm ?_)
  refine returns_bind (returns_look (by rw [show (s.tables view).sceneTree = some tree from shown]; rfl) ?_)
  refine returns_bind (returns_look (if_pos (focusable.raised tree shown)) ?_)
  refine returns_bind (returns_modify ?_)
  rw [if_pos contained,moved]
  refine returns_bind (returns_read ?_)
  refine when_returns (fun _ => ?_) fun absent => ?_
  · refine returns_bind (returns_lift (by rw [own]; rfl) ?_)
    refine when_returns (fun _ => ?_) fun grabbed => ?_
    · exact returns_modify rfl
    · simp [calm.ungrabbed] at grabbed
  · simp [calm.keyboard] at absent

theorem Cycling.views (cycling : Cycling s) : ∃ first rest, s.views = first :: rest ∧ rest ≠ [] := by
  have several := cycling.several
  cases listed : s.views with
  | nil => simp [listed] at several
  | cons first rest =>
      refine ⟨first,rest,rfl,?_⟩
      intro alone
      simp [listed,alone] at several

-- The focus is not on the first view, which is not the last.
theorem Cycling.elsewhere (cycling : Cycling s) (listed : s.views = first :: rest) (others : rest ≠ []) :
    s.focusedSurface ≠ some (.main first) := by
  rcases cycling.focus with none | last
  · simp [none]
  · intro focused
    rw [listed,List.getLast?_cons_of_ne_nil others,List.getLast?_eq_some_getLast others] at last
    rw [last] at focused
    have same : rest.getLast others = first := by simpa using focused
    have distinct := cycling.distinct
    rw [listed,List.nodup_cons] at distinct
    exact distinct.1 (same ▸ List.getLast_mem others)

theorem focusNextView_cycles (cycling : Cycling s) (calm : Calm answers) :
    focusNextView answers s = (.ok (),s.cycled) := by
  obtain ⟨first,rest,listed,others⟩ := cycling.views
  obtain ⟨second,more,rfl⟩ := List.exists_cons_of_ne_nil others
  have focusable : Focusable s first := cycling.focusable first (by simp [listed])
  have foremost : s.views = [] ++ first :: second :: more := listed
  have moved := focusView_moves focusable calm (cycling.elsewhere listed others) foremost cycling.distinct
  have next : focusNextView answers s = focusView answers first (ownSurface s first) s := by
    simp [focusNextView,bind_run,Act.read,Act.look,listed]
  rw [next,focusable_own focusable,moved]
  simp [Server.cycled,listed]

theorem step_cycles (cycling : Cycling s) (calm : Calm answers) : step s (.keyF1 answers) = some s.cycled := by
  simp [step,admits,perform,focusNextView_cycles cycling calm]

theorem cycled_focus (cycling : Cycling s) :
    s.cycled.focusedSurface = s.cycled.views.getLast?.map WlSurface.main := by
  obtain ⟨first,rest,listed,_⟩ := cycling.views
  simp [Server.cycled,Server.refocused,listed]

theorem cycled_cycling (cycling : Cycling s) : Cycling s.cycled where
  several := by
    rw [Server.cycled,Server.refocused,List.length_rotate]
    exact cycling.several
  distinct := List.nodup_rotate.mpr cycling.distinct
  focusable view member := by
    have before := cycling.focusable view (List.mem_rotate.mp member)
    exact ⟨before.ready,before.raised⟩
  focus := .inr (cycled_focus cycling)

theorem iterate_cycling (cycling : Cycling s) (k : Nat) : Cycling (Server.cycled^[k] s) := by
  induction k with
  | zero => exact cycling
  | succ k ih =>
      rw [Function.iterate_succ_apply']
      exact cycled_cycling ih

theorem iterate_views (s : Server) (k : Nat) : (Server.cycled^[k] s).views = s.views.rotate k := by
  induction k with
  | zero => simp
  | succ k ih =>
      rw [Function.iterate_succ_apply']
      change (Server.cycled^[k] s).views.rotate 1 = s.views.rotate (k + 1)
      rw [ih,List.rotate_rotate]

-- The k-th press focuses the view that is first after k presses.
theorem iterate_focused (cycling : Cycling s) (k : Nat) : (Server.cycled^[k + 1] s).focusedSurface =
    s.views[k % s.views.length]?.map WlSurface.main := by
  have several := cycling.several
  have inside : k % s.views.length < s.views.length := Nat.mod_lt k (by omega)
  rw [Function.iterate_succ_apply']
  change (Server.cycled^[k] s).views.head?.map WlSurface.main = _
  rw [iterate_views,← List.rotate_mod,List.head?_rotate inside]

theorem pressed_iterate (cycling : Cycling s) (calm : ∀ answers ∈ presses, Calm answers) :
    pressed s presses = List.iterate Server.cycled s (presses.length + 1) := by
  induction presses generalizing s with
  | nil => rfl
  | cons answers rest ih =>
      have accepted := step_cycles cycling (calm answers List.mem_cons_self)
      have later := ih (cycled_cycling cycling) fun answers member => calm answers (.tail _ member)
      unfold pressed at later ⊢
      rw [List.map_cons,visited_accepted accepted,later]
      rfl

theorem presses_cycle (cycling : Cycling s) (calm : ∀ answers ∈ presses, Calm answers) : Cycles s presses := by
  have states := pressed_iterate cycling calm
  have later : (pressed s presses).tail = (List.range presses.length).map fun k => Server.cycled^[k + 1] s := by
    rw [states]
    change List.iterate Server.cycled s.cycled presses.length = _
    rw [← List.range_map_iterate]
    rfl
  have lists : (pressed s presses).map Server.views = (List.range (presses.length + 1)).map s.views.rotate := by
    rw [states,← List.range_map_iterate,List.map_map]
    exact List.map_congr_left fun k _ => iterate_views s k
  have focuses : (pressed s presses).tail.map Server.focusedSurface =
      (List.range presses.length).map fun k => s.views[k % s.views.length]?.map WlSurface.main := by
    rw [later,List.map_map]
    exact List.map_congr_left fun k _ => iterate_focused cycling k
  refine ⟨lists,focuses,?_,?_⟩
  · rw [later]
    intro t member
    obtain ⟨k,_,rfl⟩ := List.mem_map.mp member
    rw [Function.iterate_succ_apply']
    have before := iterate_cycling cycling k
    exact ⟨cycled_cycling before,cycled_focus before⟩
  · intro round
    constructor
    · rw [← List.getLast?_map,lists,round]
      simp [List.range_succ]
    · rw [focuses,round]
      apply List.ext_getElem
      · simp
      · intro k short _
        have inside : k < s.views.length := by simpa using short
        simp [Nat.mod_eq_of_lt inside,inside]

theorem focus_cycling : FocusLaw where
  press _ _ cycling calm := focusNextView_cycles cycling calm
  presses _ _ cycling calm := presses_cycle cycling calm
  moves _ _ _ _ _ _ listed distinct focusable calm elsewhere :=
    focusView_moves focusable calm elsewhere listed distinct
  stays _ _ _ _ focused := focusView_focused focused

end

def threeToplevels : List Event := [
  .newXdgSurface granted 0,.map granted 0,.newXdgSurface granted 1,.map granted 1,.newXdgSurface granted 2,
  .map granted 2]

-- Three toplevels, of which the last was mapped last.
def crowd : Server := (visited step start threeToplevels).getLastD start

theorem crowd_cycling : Cycling crowd where
  several := by decide
  distinct := by decide
  focusable view member := by
    have known : ∀ view ∈ crowd.views, (crowd.surfaces view).mapped = true ∧
        (crowd.surfaces view).xwayland = false ∧ (crowd.tables view).sceneTree = some (view + 1) ∧
        (crowd.trees (view + 1)).alive = true := by
      decide
    obtain ⟨mapped,kind,shown,alive⟩ := known view member
    refine ⟨⟨mapped,fun xwayland => ?_,?_⟩,?_⟩
    · exact absurd (xwayland.symm.trans kind) (by decide)
    · exact Option.isSome_of_eq_some shown
    · intro tree own
      obtain rfl := Option.some.inj (own.symm.trans shown)
      exact alive
  focus := by decide

theorem crowd_cycled : (pressed crowd [granted,granted,granted]).map Server.views =
    [[0,1,2],[1,2,0],[2,0,1],[0,1,2]] :=
  (focus_cycling.presses crowd [granted,granted,granted] crowd_cycling fun answers member => by
    have same : answers = granted := by simpa using member
    subst same
    exact ⟨rfl,rfl,rfl⟩).lists.trans (by decide)

end Janetland.Tinyjl
