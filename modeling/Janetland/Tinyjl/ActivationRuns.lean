import Janetland.Tinyjl.Activations
import Janetland.Tinyjl.ViewList

namespace Janetland.Tinyjl
open Act

section
variable {answers : Answers} {id : Nat}

-- Only focus-view and wlroots move the keyboard focus.
theorem cursorMove_focus : Keeps Server.focusedSurface processCursorMove := by
  apply keeps_bind (keeps_look _)
  intro grabX
  apply keeps_bind (keeps_look _)
  intro view
  refine keeps_bind (keeps_modify fun _ => rfl) fun _ => ?_
  apply keeps_bind (keeps_look _)
  intro grabY
  refine keeps_bind (keeps_modify fun _ => rfl) fun _ => ?_
  apply keeps_bind (keeps_read _)
  intro table
  apply keeps_bind setPosition_keeps
  intro _
  apply keeps_bind (keeps_read _)
  intro xwayland
  apply keeps_when
  apply keeps_bind (keeps_look _)
  intro surface
  exact keeps_pure ()

theorem cursorResize_focus : Keeps Server.focusedSurface (processCursorResize answers) := by
  apply keeps_bind (keeps_look _)
  intro view
  apply keeps_bind (keeps_look _)
  intro borderX
  apply keeps_bind (keeps_look _)
  intro borderY
  apply keeps_bind (keeps_look _)
  intro geobox
  apply keeps_bind (keeps_look _)
  intro edges
  apply keeps_bind (keeps_look _)
  intro geoBox
  refine keeps_bind (keeps_modify fun _ => rfl) fun _ => ?_
  refine keeps_bind (keeps_modify fun _ => rfl) fun _ => ?_
  apply keeps_bind (keeps_read _)
  intro table
  apply keeps_bind setPosition_keeps
  intro _
  apply keeps_bind (keeps_read _)
  intro xwayland
  exact keeps_lift _

theorem cursorMotion_focus : Keeps Server.focusedSurface (handleCursorMotion answers x y) := by
  refine keeps_bind (keeps_modify fun _ => rfl) fun _ => ?_
  apply keeps_bind (keeps_read _)
  intro mode
  cases mode with
  | passthrough =>
      apply keeps_bind desktopViewAt_keeps
      intro _
      exact keeps_pure ()
  | move => exact cursorMove_focus
  | resize =>
      apply keeps_bind cursorResize_focus
      intro _
      exact keeps_pure ()

theorem newToplevel_focus : Keeps Server.focusedSurface (handleXdgShellNewSurface answers view) := by
  apply keeps_bind
  · apply keeps_bind reach_keeps
    intro _
    split
    · exact fun _ => rfl
    · exact keeps_lift _
  intro sceneTree
  refine keeps_bind (keeps_modify fun _ => rfl) fun _ => ?_
  refine keeps_bind (keeps_modify fun _ => rfl) fun _ => ?_
  refine keeps_bind (keeps_modify fun _ => rfl) fun _ => ?_
  exact keeps_modify fun _ => rfl

theorem destroySurface_focus : Keeps Server.focusedSurface (destroySurface id) := by
  apply keeps_bind (keeps_read _)
  intro tree
  apply keeps_bind
  · cases tree with
    | none => exact keeps_pure ()
    | some tree =>
        apply keeps_bind reach_keeps
        intro _
        exact keeps_modify fun _ => rfl
  intro _
  exact keeps_modify fun _ => rfl

end

end Janetland.Tinyjl

namespace Janetland.Tinyjl.Activation
open Act EventRuns

def living (s : Server) (id : Nat) : Prop := (s.surfaces id).life ≠ .destroyed

-- The views that were told to be activated are those whose surface has the keyboard focus.
def Coherent (s : Activation) : Prop :=
  ∀ view, living s.server view → (s.told view = true ↔ s.server.focusedSurface = some (.main view))

-- A call of focus-view, with the surface of the view and whether it has a :scene-tree.
structure Request where
  answers : Answers
  view : Nat
  surface : Option WlSurface
  own : Option WlSurface
  shown : Bool

def requestOf (answers : Answers) (s : Server) (view : Nat) (surface : Option WlSurface) : Request :=
  ⟨answers,view,surface,ownSurface s view,(s.tables view).sceneTree.isSome⟩

-- The keyboard focus goes to the view.
def Request.moves (request : Request) : Bool :=
  request.answers.keyboard && !request.answers.seatGrab && request.own.isSome

-- focus-view has nothing to do, cannot take the activation away from the view that has it,
-- or ends with the focus where the activation is.
def Settles (s : Server) (request : Request) : Prop :=
  s.focusedSurface = request.surface ∨
  (s.focusedSurface.isSome = true ∧ request.answers.deactivated ≠ .ok ()) ∨
  (request.shown = false ∧ ∀ view, living s view → s.focusedSurface ≠ some (.main view)) ∨
  (request.shown = true ∧
    (request.moves = true ∨ ∀ view, living s view → (s.focusedSurface = some (.main view) ↔ view = request.view)))

-- Once an XWayland surface has its trees.
def mapAsks (answers : Answers) (s : Server) (view : Nat) : Option Request :=
  if unfocusable s view then none
  else some ⟨answers,view,some (.main view),some (.main view),(s.surfaces view).xwayland ||
    (s.tables view).sceneTree.isSome⟩

def clickAsks (answers : Answers) (s : Server) : Option Request :=
  answers.nodeAt.bind fun node => (viewUnder answers s).bind fun view =>
    if unfocusable s view then none else some (requestOf answers s view (some node.2))

def hidden (s : Server) (id : Nat) : Server := s.setSurface id fun surface => { surface with mapped := false }

-- What focus-view is called with in the course of an event.
def asked (s : Server) : Event → Option Request
  | .map answers id =>
    if !(s.surfaces id).bound || (s.surfaces id).xwayland && mapRaises answers id s then none
    else mapAsks answers s id
  | .unmap answers id => if (s.surfaces id).bound then (removeElement s.views id).getLast?.map fun nextView =>
      requestOf answers (hidden s id) nextView (ownSurface (hidden s id) nextView)
    else none
  | .cursorButton answers _ .pressed =>
    if answers.alt then none else clickAsks answers s
  | .keyF1 answers => match s.views with
    | nextView :: _ :: _ => some (requestOf answers s nextView (ownSurface s nextView))
    | _ => none
  | _ => none

-- The events with which the focus may move.
def focuses : Event → Bool
  | .map .. | .unmap .. | .cursorButton .. | .keyF1 _ | .keyboardFocus _ => true
  | _ => false

-- What wlroots does to the focus by itself must not take it from a view or give it to one.
def Passes (s : Server) : Event → Prop
  | .keyboardFocus surface =>
    ∀ view, living s view → (s.focusedSurface = some (.main view) ↔ surface = some (.main view))
  | event => ∀ request ∈ asked s event, Settles s request

section
variable {s t : Activation} {answers : Answers} {view id : Nat}

theorem own_main {s : Server} (found : ownSurface s view = some surface) : surface = .main view := by
  unfold ownSurface at found
  split at found <;> cases found
  rfl

theorem toFront_surfaces (view : Nat) (s : Server) : (toFront view s).surfaces = s.surfaces := by
  unfold toFront
  split <;> rfl

theorem toFront_focus (view : Nat) (s : Server) : (toFront view s).focusedSurface = s.focusedSurface := by
  unfold toFront
  split <;> rfl

theorem on_ensures {act : Act Server α} {returned : α → Activation → Prop} {raised : Activation → Prop}
    (ended : Ensures act s.server (fun value t => returned value { s with server := t })
      fun t => raised { s with server := t }) : Ensures (onServer act) s returned raised := ensures_on ended

-- Nobody is activated any more, and nothing else has changed.
def Quiet (s t : Activation) : Prop := t.server = s.server ∧ ∀ view, living s.server view → t.told view = false

theorem deactivate_quiet (coherent : Coherent s) :
    Ensures (s.server.focusedSurface.elim (pure ()) (deactivate answers)) s
      (fun _ t => Quiet s t ∧ (s.server.focusedSurface = none ∨ answers.deactivated = .ok ()))
      fun t => t = s ∧ s.server.focusedSurface.isSome = true ∧ answers.deactivated ≠ .ok () := by
  cases focused : s.server.focusedSurface with
  | none =>
      refine ensures_pure () ⟨⟨rfl,?_⟩,.inl rfl⟩
      intro view alive
      have told := coherent view alive
      rw [focused] at told
      simpa using told
  | some previous =>
      apply ensures_bind
      apply ensures_look
      · intro _ done
        refine ensures_modify ⟨⟨silence_server previous s,?_⟩,.inr done⟩
        intro view alive
        have told := coherent view alive
        rw [focused] at told
        cases previous with
        | main other =>
            by_cases same : view = other
            · simp [silence,tell,same]
            · simpa [silence,tell,same,Ne.symm same] using told
        | other other => simpa [silence] using told
      · intro error failed
        exact ⟨rfl,rfl,by simp [failed]⟩

-- One view has been activated: the focus must be there as well.
theorem told_coherent (quiet : ∀ other, living s.server other → s.told other = false)
    (same : ∀ other, living t.server other ↔ living s.server other) (told : t.told = Function.update s.told view true) :
    Coherent t ↔ ∀ other, living s.server other → (t.server.focusedSurface = some (.main other) ↔ other = view) := by
  have one : ∀ other, living s.server other → (t.told other = true ↔ other = view) := by
    intro other alive
    rw [told]
    by_cases equal : other = view
    · simp [equal]
    · simp [equal,quiet other alive]
  unfold Coherent
  refine forall_congr' fun other => ?_
  rw [same other]
  refine forall_congr' fun alive => ?_
  rw [one other alive]
  exact iff_comm

theorem enter_ensures {s : Server} {returned : Unit → Server → Prop} {raised : Server → Prop}
    (moved : ∀ surface, own = some surface → answers.keyboard = true → answers.seatGrab = false →
      returned () { s with focusedSurface := some surface })
    (stayed : (answers.keyboard && !answers.seatGrab && own.isSome) = false → returned () s ∧ raised s) :
    Ensures (enter answers own) s returned raised := by
  apply when_ensures
  · intro keyboard
    cases own with
    | none => exact (stayed (by simp)).2
    | some surface =>
        change Ensures (when (!answers.seatGrab) (modify _)) s returned raised
        apply when_ensures
        · intro free
          exact moved surface rfl keyboard (by simpa using free)
        · intro grabbed
          exact (stayed (by simpa using fun _ => grabbed)).1
  · intro none
    exact (stayed (by simp [none])).1

-- What activate leaves, when nobody was activated before it.
theorem activate_settles (quiet : ∀ other, living s.server other → s.told other = false)
    (asks : Request) (same : requestOf answers s.server view asks.surface = asks) :
    Ensures (activate answers view) s
      (fun _ t => Coherent t ↔ asks.moves = true ∨ ∀ other, living s.server other →
        (s.server.focusedSurface = some (.main other) ↔ other = view))
      fun t => Coherent t ↔ asks.moves = true ∨ ∀ other, living s.server other →
        (s.server.focusedSurface = some (.main other) ↔ other = view) := by
  have one : ∀ t : Activation, t.server.surfaces = s.server.surfaces → t.told = Function.update s.told view true →
      (Coherent t ↔ ∀ other, living s.server other →
        (t.server.focusedSurface = some (.main other) ↔ other = view)) := by
    intro t surfaces told
    exact told_coherent quiet (fun _ => by rw [living,living,surfaces]) told
  have own : ownSurface (toFront view s.server) view = ownSurface s.server view := by
    unfold ownSurface
    rw [toFront_surfaces]
  have moves : asks.moves = (answers.keyboard && !answers.seatGrab && (ownSurface s.server view).isSome) := by
    rw [← same]
    rfl
  rw [moves]
  apply ensures_bind
  apply on_ensures
  apply ensures_modify
  apply ensures_bind
  apply ensures_modify
  apply ensures_bind
  apply ensures_read
  apply on_ensures
  apply enter_ensures
  · intro wlrSurface found keyboard free
    have found : ownSurface s.server view = some wlrSurface := own.symm.trans found
    obtain rfl := own_main found
    refine (one _ (toFront_surfaces view s.server) rfl).trans (iff_of_true ?_ (.inl (by simp [keyboard,free,found])))
    intro other _
    simp [eq_comm]
  · intro still
    have still : (answers.keyboard && !answers.seatGrab && (ownSurface (toFront view s.server) view).isSome) = false :=
      still
    rw [own] at still
    have stays : Coherent (tell view true { s with server := toFront view s.server }) ↔ ∀ other,
        living s.server other → (s.server.focusedSurface = some (.main other) ↔ other = view) := by
      have kept := one (tell view true { s with server := toFront view s.server }) (toFront_surfaces view s.server) rfl
      have focused : (tell view true { s with server := toFront view s.server }).server.focusedSurface =
          s.server.focusedSurface := toFront_focus view s.server
      rwa [focused] at kept
    rw [still]
    simp only [Bool.false_eq_true,false_or]
    exact ⟨stays,stays⟩

theorem settles_ready {s : Server} {request : Request} (elsewhere : s.focusedSurface ≠ request.surface)
    (ready : s.focusedSurface = none ∨ request.answers.deactivated = .ok ()) : Settles s request ↔
      if request.shown then request.moves = true ∨
        ∀ view, living s view → (s.focusedSurface = some (.main view) ↔ view = request.view)
      else ∀ view, living s view → s.focusedSurface ≠ some (.main view) := by
  have engaged : ¬(s.focusedSurface.isSome = true ∧ request.answers.deactivated ≠ .ok ()) := by
    rintro ⟨focused,failed⟩
    rcases ready with none | done
    · simp [none] at focused
    · exact failed done
  unfold Settles
  rw [or_iff_right elsewhere,or_iff_right engaged]
  cases request.shown <;> simp

theorem focusView_settles (coherent : Coherent s) :
    Ensures (focusView answers view surface) s
      (fun _ t => Coherent t ↔ Settles s.server (requestOf answers s.server view surface))
      fun t => Coherent t ↔ Settles s.server (requestOf answers s.server view surface) := by
  apply ensures_bind
  apply ensures_read
  split
  · rename_i same
    exact ensures_pure () (iff_of_true coherent (.inl same))
  · rename_i other
    apply ensures_bind
    apply ensures_weaken (deactivate_quiet coherent)
    · rintro _ ⟨server,after⟩ ⟨⟨same,quiet⟩,ready⟩
      subst same
      have engaged : s.server.focusedSurface = none ∨ (requestOf answers s.server view surface).answers.deactivated = .ok () :=
        ready
      rw [settles_ready other engaged]
      apply ensures_bind
      apply on_ensures
      apply ensures_look
      · intro sceneTree found
        have shown : (requestOf answers s.server view surface).shown = true := by
          cases tree : (s.server.tables view).sceneTree with
          | none => simp [needed,panicf,tree] at found
          | some tree => simp [requestOf,tree]
        rw [if_pos shown]
        apply ensures_bind
        apply on_ensures
        apply reach_ensures
        intro _
        exact activate_settles quiet (requestOf answers s.server view surface) rfl
      · intro error missing
        have hidden : (requestOf answers s.server view surface).shown = false := by
          cases tree : (s.server.tables view).sceneTree with
          | none => simp [requestOf,tree]
          | some tree => simp [needed,tree] at missing
        rw [if_neg (by simp [hidden])]
        refine forall_congr' fun view => forall_congr' fun alive => ?_
        rw [quiet view alive]
        simp
    · rintro t ⟨rfl,focused,failed⟩
      exact iff_of_true coherent (.inr (.inl ⟨focused,failed⟩))

-- How the map handler gets to focus-view.
structure Readied (s : Server) (view : Nat) (t : Server) : Prop where
  focused : t.focusedSurface = s.focusedSurface
  life : ∀ id, (t.surfaces id).life = (s.surfaces id).life
  skipped : unfocusable t view = unfocusable s view
  own : ownSurface t view = some (.main view)
  shown : (t.tables view).sceneTree.isSome = ((s.surfaces view).xwayland || (s.tables view).sceneTree.isSome)

theorem mapped_life (s : Server) (view id : Nat) :
    (((s.setSurface view Surface.mapping).pushed view).surfaces id).life = (s.surfaces id).life := by
  by_cases same : id = view
  · subst same
    simp [Server.pushed,Server.setSurface,Surface.mapping]
  · simp [Server.pushed,Server.setSurface,same]

theorem hidden_life (s : Server) (view id : Nat) : ((hidden s view).surfaces id).life = (s.surfaces id).life := by
  by_cases same : id = view
  · subst same
    simp [hidden,Server.setSurface]
  · simp [hidden,Server.setSurface,same]

theorem listening_life (s : Server) (view tree id : Nat) :
    ((s.listening view tree).surfaces id).life = (s.surfaces id).life := by
  by_cases same : id = view
  · subst same
    simp [Server.listening,Server.setSurface]
  · simp [Server.listening,Server.setSurface,same]

theorem attached_life (s : Server) (view tree surfaceTree id : Nat) :
    ((s.attached view tree surfaceTree).surfaces id).life = (s.surfaces id).life := by
  by_cases same : id = view
  · subst same
    simp [Server.attached,Server.setTree,Server.setTable,Server.setSurface]
  · simp [Server.attached,Server.setTree,Server.setTable,Server.setSurface,same]

theorem attached_readied {s u : Server} (xwayland : (s.surfaces view).xwayland = true)
    (focused : u.focusedSurface = s.focusedSurface) (life : ∀ id, (u.surfaces id).life = (s.surfaces id).life)
    (skipped : unfocusable u view = unfocusable s view) (own : ownSurface u view = some (.main view)) :
    Readied s view (u.attached view tree surfaceTree) := by
  refine ⟨focused,fun id => (attached_life u view tree surfaceTree id).trans (life id),?_,?_,?_⟩
  · rw [← skipped]
    simp [unfocusable,Server.attached,Server.setTable,Server.setSurface,Server.setTree]
  · rw [← own]
    simp [ownSurface,Server.attached,Server.setTable,Server.setSurface,Server.setTree]
  · simp [xwayland,Server.attached,Server.setTable,Server.setSurface,Server.setTree]

theorem put_readied {s : Server} :
    Ensures (when (s.surfaces view).xwayland (putIntoScene answers view)) ((s.setSurface view Surface.mapping).pushed view)
      (fun _ t => Readied s view t ∧ ((s.surfaces view).xwayland && mapRaises answers view s) = false)
      fun t => t.focusedSurface = s.focusedSurface ∧ (∀ id, (t.surfaces id).life = (s.surfaces id).life) ∧
        ((s.surfaces view).xwayland && mapRaises answers view s) = true := by
  have raises : mapRaises answers view ((s.setSurface view Surface.mapping).pushed view) =
      mapRaises answers view s := mapRaises_same mapping_same
  have life := mapped_life s view
  have skipped : unfocusable ((s.setSurface view Surface.mapping).pushed view) view = unfocusable s view := by
    simp [unfocusable,Server.pushed,Server.setSurface,Surface.mapping]
  have own : ownSurface ((s.setSurface view Surface.mapping).pushed view) view = some (.main view) := by
    simp [ownSurface,Server.pushed,Server.setSurface,Surface.mapping]
  apply when_ensures
  · intro xwayland
    apply putIntoScene_ensures
    · intro raised
      exact ⟨rfl,life,by simp [xwayland,← raises,raised]⟩
    · intro raised parent _ _
      exact ⟨rfl,life,by simp [xwayland,← raises,raised]⟩
    · intro calm tree _ _
      exact ⟨attached_readied xwayland rfl life skipped own,by simp [← raises,calm]⟩
    · intro calm parent _ _ _
      refine ⟨attached_readied xwayland rfl (fun id => (listening_life _ _ _ id).trans (life id)) ?_ ?_,
        by simp [← raises,calm]⟩
      · rw [← skipped]
        simp [unfocusable,Server.listening,Server.grown,Server.setSurface]
      · rw [← own]
        simp [ownSurface,Server.listening,Server.grown,Server.setSurface]
  · intro plain
    exact ⟨⟨rfl,life,skipped,own,by simp [plain,Server.pushed,Server.setSurface]⟩,by simp [plain]⟩

theorem settles_same {s t : Server} (focused : t.focusedSurface = s.focusedSurface)
    (life : ∀ id, (t.surfaces id).life = (s.surfaces id).life) : Settles t request ↔ Settles s request := by
  unfold Settles living
  simp only [focused,life]

theorem coherent_same {t : Server} (coherent : Coherent s) (focused : t.focusedSurface = s.server.focusedSurface)
    (life : ∀ id, (t.surfaces id).life = (s.server.surfaces id).life) : Coherent { s with server := t } := by
  intro view alive
  have before : living s.server view := by
    unfold living at alive ⊢
    rwa [life] at alive
  exact (coherent view before).trans (iff_of_eq (congrArg (fun focus => focus = some (WlSurface.main view)) focused.symm))

-- What a handler does to coherence, by what it asks focus-view for.
def Outcome (s : Server) (asks : Option Request) (t : Activation) : Prop :=
  Coherent t ↔ ∀ request ∈ asks, Settles s request

theorem unasked {server : Server} (coherent : Coherent s) : Outcome server none s := iff_of_true coherent (by simp)

theorem asked_once {server : Server} {request : Request} : Outcome server (some request) t ↔
    (Coherent t ↔ Settles server request) := by
  simp [Outcome]

-- A handler that calls focus-view when the server is as it was before it.
theorem focus_outcome {server : Server} (coherent : Coherent s) (focused : s.server.focusedSurface = server.focusedSurface)
    (life : ∀ id, (s.server.surfaces id).life = (server.surfaces id).life)
    (same : requestOf answers s.server view surface = request) :
    Ensures (focusView answers view surface) s (fun _ t => Outcome server (some request) t)
      (Outcome server (some request)) := by
  subst same
  have settled : ∀ t, (Coherent t ↔ Settles s.server (requestOf answers s.server view surface)) →
      Outcome server (some (requestOf answers s.server view surface)) t := by
    intro t same
    exact asked_once.mpr (same.trans (settles_same focused life))
  exact ensures_weaken (focusView_settles coherent) (fun _ t => settled t) settled

theorem focusMapped_outcome {t : Server} (coherent : Coherent s) (readied : Readied s.server view t) :
    Ensures (focusMapped answers view) { s with server := t }
      (fun _ u => Outcome s.server (mapAsks answers s.server view) u) (Outcome s.server (mapAsks answers s.server view)) := by
  apply ensures_bind
  apply ensures_read
  change Ensures (onServer (when (unfocusable t view) _) >>= fun _ => when (!unfocusable t view) _) _ _ _
  rw [readied.skipped]
  unfold mapAsks
  apply ensures_bind
  apply on_ensures
  cases skipped : unfocusable s.server view with
  | true =>
      apply ensures_modify
      exact unasked (coherent_same (s := s) (t := { t with views := t.views.dropLast }) coherent readied.focused
        readied.life)
  | false =>
      apply ensures_pure
      apply ensures_bind
      apply ensures_read
      apply focus_outcome (coherent_same coherent readied.focused readied.life) readied.focused readied.life
      have own : ownSurface t view = some (.main view) := readied.own
      change requestOf answers t view (ownSurface t view) = _
      unfold requestOf
      rw [own,readied.shown]

theorem map_outcome (coherent : Coherent s) :
    Ensures (perform (.map answers view)) s (fun _ t => Outcome s.server (asked s.server (.map answers view)) t)
      (Outcome s.server (asked s.server (.map answers view))) := by
  have mapping : ∀ id, ((s.server.setSurface view Surface.mapping).surfaces id).life = (s.server.surfaces id).life :=
    mapped_life s.server view
  have bound : ((s.server.setSurface view Surface.mapping).surfaces view).bound = (s.server.surfaces view).bound := by
    simp [Server.setSurface,Surface.mapping]
  have xwayland : (((s.server.setSurface view Surface.mapping).pushed view).surfaces view).xwayland =
      (s.server.surfaces view).xwayland := by
    simp [Server.pushed,Server.setSurface,Surface.mapping]
  have asks : asked s.server (.map answers view) = if !(s.server.surfaces view).bound ||
      (s.server.surfaces view).xwayland && mapRaises answers view s.server then none
    else mapAsks answers s.server view := rfl
  rw [asks]
  apply ensures_bind
  apply on_ensures
  apply ensures_modify
  apply ensures_bind
  apply ensures_read
  change Ensures (when ((s.server.setSurface view Surface.mapping).surfaces view).bound _) _ _ _
  rw [bound]
  cases listening : (s.server.surfaces view).bound with
  | false =>
      exact unasked (coherent_same (s := s) (t := s.server.setSurface view Surface.mapping) coherent rfl mapping)
  | true =>
      apply ensures_bind
      apply on_ensures
      apply ensures_modify
      apply ensures_bind
      apply ensures_read
      change Ensures (onServer (when (((s.server.setSurface view Surface.mapping).pushed view).surfaces view).xwayland
        _) >>= _) _ _ _
      rw [xwayland]
      apply ensures_bind
      apply on_ensures
      apply ensures_weaken put_readied
      · rintro _ t ⟨readied,calm⟩
        rw [calm]
        exact focusMapped_outcome coherent readied
      · rintro t ⟨focused,life,refused⟩
        rw [refused]
        exact unasked (coherent_same (s := s) (t := t) coherent focused life)

theorem focusLast_outcome {server : Server} (coherent : Coherent s) (focused : s.server.focusedSurface = server.focusedSurface)
    (life : ∀ id, (s.server.surfaces id).life = (server.surfaces id).life)
    (same : (s.server.views.getLast?.map fun nextView =>
      requestOf answers s.server nextView (ownSurface s.server nextView)) = asks) :
    Ensures (focusLastView answers) s (fun _ t => Outcome server asks t) (Outcome server asks) := by
  apply ensures_bind
  apply ensures_read
  cases last : s.server.views.getLast? with
  | none =>
      rw [last] at same
      subst same
      exact unasked coherent
  | some nextView =>
      rw [last] at same
      subst same
      apply ensures_bind
      apply ensures_read
      exact focus_outcome coherent focused life rfl

theorem unmap_outcome (coherent : Coherent s) :
    Ensures (perform (.unmap answers view)) s (fun _ t => Outcome s.server (asked s.server (.unmap answers view)) t)
      (Outcome s.server (asked s.server (.unmap answers view))) := by
  have asks : asked s.server (.unmap answers view) = if (s.server.surfaces view).bound then
      (removeElement s.server.views view).getLast?.map fun nextView => requestOf answers (hidden s.server view) nextView
        (ownSurface (hidden s.server view) nextView)
    else none := rfl
  have life : ∀ id, ((hidden s.server view).surfaces id).life = (s.server.surfaces id).life := hidden_life s.server view
  have bound : ((hidden s.server view).surfaces view).bound = (s.server.surfaces view).bound := by
    simp [hidden,Server.setSurface]
  rw [asks]
  apply ensures_bind
  apply on_ensures
  apply ensures_modify
  apply ensures_bind
  apply ensures_read
  change Ensures (when ((hidden s.server view).surfaces view).bound _) _ _ _
  rw [bound]
  cases listening : (s.server.surfaces view).bound with
  | false => exact unasked (coherent_same (s := s) (t := hidden s.server view) coherent rfl life)
  | true =>
      -- whether or not the handler ended an interaction
      have last : ∀ t : Server, t.surfaces = (hidden s.server view).surfaces → t.tables = s.server.tables →
          t.views = removeElement s.server.views view → t.focusedSurface = s.server.focusedSurface →
          Ensures (focusLastView answers) { s with server := t }
            (fun _ u => Outcome s.server ((removeElement s.server.views view).getLast?.map fun nextView =>
              requestOf answers (hidden s.server view) nextView (ownSurface (hidden s.server view) nextView)) u)
            (Outcome s.server ((removeElement s.server.views view).getLast?.map fun nextView =>
              requestOf answers (hidden s.server view) nextView (ownSurface (hidden s.server view) nextView))) := by
        intro t surfaces tables views focused
        have lives : ∀ id, (t.surfaces id).life = (s.server.surfaces id).life := by
          intro id
          rw [surfaces]
          exact life id
        apply focusLast_outcome (coherent_same coherent focused lives) focused lives
        rw [views]
        have one : ∀ nextView, requestOf answers t nextView (ownSurface t nextView) =
            requestOf answers (hidden s.server view) nextView (ownSurface (hidden s.server view) nextView) := by
          intro nextView
          unfold requestOf ownSurface
          rw [surfaces,tables]
          rfl
        exact congrArg (Option.map · _) (funext one)
      apply ensures_bind
      apply ensures_read
      apply ensures_bind
      apply on_ensures
      apply when_ensures
      · intro _
        apply ensures_bind
        apply ensures_modify
        apply ensures_modify
        apply ensures_bind
        apply on_ensures
        apply ensures_modify
        exact last _ rfl rfl rfl rfl
      · intro _
        apply ensures_bind
        apply on_ensures
        apply ensures_modify
        exact last _ rfl rfl rfl rfl

theorem next_outcome (coherent : Coherent s) :
    Ensures (perform (.keyF1 answers)) s (fun _ t => Outcome s.server (asked s.server (.keyF1 answers)) t)
      (Outcome s.server (asked s.server (.keyF1 answers))) := by
  apply ensures_bind
  apply ensures_read
  unfold asked
  match s.server.views with
  | [] | [_] => exact unasked coherent
  | nextView :: _ :: _ =>
      apply ensures_bind
      apply ensures_read
      exact focus_outcome coherent rfl (fun _ => rfl) rfl

theorem desktopViewAt_found {s : Server} : Ensures (desktopViewAt answers) s
    (fun found t => t = s ∧ found = answers.nodeAt.bind fun node => (viewUnder answers s).map fun view => (view,node.2))
    fun t => t = s ∧ viewUnder answers s = none := by
  unfold desktopViewAt viewUnder
  cases answers.nodeAt with
  | none => exact ensures_pure none ⟨rfl,rfl⟩
  | some node =>
      apply ensures_bind
      apply reach_ensures
      intro _
      apply ensures_bind
      cases climbed : Forest.climb s.parentTree (fun tree => (s.trees tree).data) node.1 with
      | none => exact ensures_look (fun view found => by simp [needed,panicf,climbed] at found) fun _ _ => ⟨rfl,climbed⟩
      | some view =>
          apply ensures_look
          · intro value found
            rw [climbed] at found
            cases found
            exact ensures_pure _ ⟨rfl,by simp [climbed]⟩
          · intro error found
            simp [needed,climbed] at found

theorem viewAt_outcome {server : Server} (coherent : Coherent { s with server := server }) :
    Ensures (focusViewAt answers) { s with server := server } (fun _ t => Outcome server (clickAsks answers server) t)
      (Outcome server (clickAsks answers server)) := by
  unfold clickAsks
  apply ensures_bind
  apply on_ensures
  apply ensures_weaken desktopViewAt_found
  · rintro found t ⟨rfl,rfl⟩
    cases answers.nodeAt with
    | none => exact unasked coherent
    | some node =>
        cases viewUnder answers t with
        | none => exact unasked coherent
        | some view =>
            apply ensures_bind
            apply ensures_read
            change Ensures (when (!unfocusable t view) _) _ _ _
            cases skipped : unfocusable t view with
            | true =>
                simp only [Option.bind_some,skipped,if_true]
                exact unasked coherent
            | false =>
                simp only [Option.bind_some,skipped]
                exact focus_outcome coherent rfl (fun _ => rfl) rfl
  · rintro t ⟨rfl,missed⟩
    rw [missed]
    cases answers.nodeAt with
    | none => exact unasked coherent
    | some node => exact unasked coherent

theorem still_coherent {act : Act Server Unit} (coherent : Coherent s)
    (kept : Keeps (fun s => (s.scenery,s.focusedSurface)) act) :
    Ensures (onServer act) s (fun _ t => Coherent t) Coherent := by
  apply on_ensures
  refine ensures_imp (fun t same => ?_) (kept s.server)
  have surfaces : t.surfaces = s.server.surfaces := congrArg (fun both => both.1.surfaces) same
  exact coherent_same coherent (congrArg Prod.snd same) fun id => by rw [surfaces]

theorem reset_keeps : Keeps (fun s => (s.scenery,s.focusedSurface)) resetCursorMode :=
  keeps_both (keeps_view resetCursorMode_keeps Prod.fst) (keeps_view resetCursorMode_apart Prod.snd)

theorem altButton_keeps (alt : answers.alt = true) :
    Keeps (fun s => (s.scenery,s.focusedSurface)) (Tinyjl.handleCursorButton answers button state) := by
  have begun : ∀ view mode edges,
      Keeps (fun s => (s.scenery,s.focusedSurface)) (beginInteractive answers view mode edges) := fun _ _ _ =>
    keeps_both (keeps_view beginInteractive_keeps Prod.fst) (keeps_view beginInteractive_apart Prod.snd)
  unfold Tinyjl.handleCursorButton
  rw [alt]
  cases state with
  | released => exact reset_keeps
  | pressed =>
      apply keeps_bind desktopViewAt_keeps
      intro found
      split
      · exact begun _ _ _
      · split
        · exact begun _ _ _
        · exact keeps_pure ()

theorem release_coherent (coherent : Coherent s) :
    Ensures (handleCursorButton answers button .released) s (fun _ t => Coherent t) Coherent := by
  unfold handleCursorButton
  split
  · rename_i alt
    exact still_coherent coherent (altButton_keeps alt)
  · apply ensures_bind
    refine ensures_weaken (still_coherent coherent (keeps_modify fun _ => rfl)) (fun _ t after => ?_) fun _ after => after
    exact still_coherent after reset_keeps

theorem press_outcome (coherent : Coherent s) : Ensures (handleCursorButton answers button .pressed) s
    (fun _ t => Outcome s.server (if answers.alt then none else clickAsks answers s.server) t)
    (Outcome s.server (if answers.alt then none else clickAsks answers s.server)) := by
  unfold handleCursorButton
  split
  · rename_i alt
    exact ensures_imp (fun _ => unasked) (still_coherent coherent (altButton_keeps alt))
  · apply ensures_bind
    apply on_ensures
    apply ensures_modify
    exact viewAt_outcome (coherent_same (s := s) coherent rfl fun _ => rfl)

theorem button_outcome (coherent : Coherent s) :
    Ensures (perform (.cursorButton answers button state)) s
      (fun _ t => Outcome s.server (asked s.server (.cursorButton answers button state)) t)
      (Outcome s.server (asked s.server (.cursorButton answers button state))) := by
  cases state with
  | released => exact ensures_imp (fun _ => unasked) (release_coherent coherent)
  | pressed => exact press_outcome coherent

theorem step_event (s : Activation) (event : Event) :
    (step s event).map server = Tinyjl.step s.server event := by
  unfold step Tinyjl.step
  cases admits s.server event with
  | false => rfl
  | true =>
      have same := (simulates_leaves (perform_projects event s)).1
      rw [if_pos rfl,if_pos rfl,← same]
      rcases Tinyjl.perform event s.server with ⟨_ | _ | _,t⟩ <;> rfl

theorem step_ended {holds : Activation → Prop} (accepted : step s event = some t)
    (ended : Ensures (perform event) s (fun _ u => holds u) holds) : holds t := by
  unfold step at accepted
  split at accepted
  · exact ensures_leaves accepted ended
  · cases accepted

-- A destroyed surface does not come back.
theorem destroyed_stays {c d : Server.Scenery} (moved : SceneStep c event d) (gone : (c.surfaces id).life = .destroyed) :
    (d.surfaces id).life = .destroyed := by
  have apart : ∀ {other}, (c.surfaces other).life ≠ .destroyed → id ≠ other := by
    rintro other living rfl
    exact living gone
  cases moved with
  | refused unborn | shown unborn | born unborn =>
      have other := apart (unborn.trans_ne (by decide))
      simp [Server.Scenery.mark,Server.Scenery.adopt,other,gone]
  | linked _ alive | hinted alive | unmapped alive | mapped alive | leaked alive | reused alive | made alive =>
      have other := apart (alive.trans_ne (by decide))
      simp [Server.Scenery.mark,Server.Scenery.adopt,Server.Scenery.grown,other,gone]
  | destroyed alive =>
      have other := apart (alive.trans_ne (by decide))
      simp [Server.Scenery.destroyed,other,gone]
  | still => exact gone

theorem other_keeps {event : Event} (other : focuses event = false) : perform event = onServer (Tinyjl.perform event) ∧ Keeps Server.focusedSurface (Tinyjl.perform event) := by
  cases event with
  | map | unmap | cursorButton | keyF1 | keyboardFocus => cases other
  | newXdgSurface answers id =>
      refine ⟨rfl,keeps_bind (keeps_modify fun _ => rfl) fun _ => ?_⟩
      exact newToplevel_focus
  | newXwaylandSurface id wantsFocus =>
      refine ⟨rfl,keeps_bind (keeps_modify fun _ => rfl) fun _ => ?_⟩
      refine keeps_bind (keeps_modify fun _ => rfl) fun _ => ?_
      exact keeps_modify fun _ => rfl
  | setParent | setWantsFocus => exact ⟨rfl,keeps_modify fun _ => rfl⟩
  | destroy id => exact ⟨rfl,destroySurface_focus⟩
  | requestMove answers id serial => exact ⟨rfl,keeps_view interactive_apart Prod.snd⟩
  | requestResize answers id serial edges => exact ⟨rfl,keeps_view interactive_apart Prod.snd⟩
  | cursorMotion answers x y => exact ⟨rfl,cursorMotion_focus⟩
  | modifiers => exact ⟨rfl,keeps_pure ()⟩

theorem other_coherent (valid : Sound s.server.scenery) (coherent : Coherent s) (other : focuses event = false)
    (accepted : step s event = some t) : Coherent t := by
  obtain ⟨same,kept⟩ := other_keeps other
  have moved : Tinyjl.step s.server event = some t.server := by rw [← step_event,accepted]; rfl
  have ended : t.told = s.told ∧ t.server.focusedSurface = s.server.focusedSurface := by
    apply step_ended accepted
    rw [same]
    apply on_ensures
    exact ensures_imp (fun _ focused => ⟨rfl,focused⟩) (kept s.server)
  intro view alive
  have before : living s.server view := fun gone => alive (destroyed_stays (step_scene valid moved) gone)
  rw [ended.1,ended.2]
  exact coherent view before

theorem step_coherent (valid : Sound s.server.scenery) (coherent : Coherent s) (accepted : step s event = some t) :
    Coherent t ↔ Passes s.server event := by
  cases event with
  | map answers id => exact step_ended accepted (map_outcome coherent)
  | unmap answers id => exact step_ended accepted (unmap_outcome coherent)
  | cursorButton answers button state => exact step_ended accepted (button_outcome coherent)
  | keyF1 answers => exact step_ended accepted (next_outcome coherent)
  | keyboardFocus surface =>
      apply step_ended accepted
      apply on_ensures
      apply ensures_modify
      refine forall_congr' fun view => forall_congr' fun alive => ?_
      rw [← coherent view alive]
  | newXdgSurface | newXwaylandSurface | setParent | setWantsFocus | destroy | requestMove | requestResize
  | cursorMotion | modifiers =>
      exact iff_of_true (other_coherent valid coherent rfl accepted) fun _ none => by cases none

structure ActivationLaw (events : List Event) : Prop where
  -- a machine beside the desktop's own
  refines : (visited step start events).map server = visited Tinyjl.step Tinyjl.start events
  coherent : (∀ t ∈ visited step start events, Coherent t) ↔ ∀ row ∈ taken step start events, Passes row.1.server row.2

theorem activation_exact (events : List Event) : ActivationLaw events := by
  have one : ∀ s event t, Sound s.server.scenery → step s event = some t → Sound t.server.scenery := by
    intro s event t valid accepted
    have moved : Tinyjl.step s.server event = some t.server := by rw [← step_event,accepted]; rfl
    exact scene_preserved valid (step_scene valid moved)
  constructor
  · have followed : (visited step start events).map server = visited Tinyjl.step start.server (events.map id) :=
      visited_projected server id (fun _ => True) (fun s event _ => ⟨step_event s event,fun _ _ => trivial⟩) trivial
    rw [List.map_id] at followed
    exact followed
  · apply gate_exact (fun s => Sound s.server.scenery) Coherent fun s event => Passes s.server event
    · exact fun s event t valid accepted => one s event t valid accepted
    · exact fun s event t valid coherent accepted => step_coherent valid coherent accepted
    · exact start_sound
    · intro view _
      simp [start,Tinyjl.start]

end

end Janetland.Tinyjl.Activation
