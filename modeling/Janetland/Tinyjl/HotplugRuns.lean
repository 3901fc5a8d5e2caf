import Janetland.Tinyjl.HotplugSteps

namespace Janetland.Tinyjl.Hotplug
open Act

-- A keyboard that could be set up joins the list, and one that goes leaves it.
def keyboardsAfter (s : Desk) : Plug → List Nat
  | .newInput answers device type =>
    if type = 0 ∧ keyboardMade answers = true then s.keyboards ++ [device] else s.keyboards
  | .inputDestroy device => s.keyboards.erase device
  | _ => s.keyboards

def outputsAfter (s : Desk) : Plug → List Nat
  | .newOutput answers output => if outputUsable answers = true then s.outputs ++ [output] else s.outputs
  | .outputDestroy output => s.outputs.erase output
  | _ => s.outputs

-- What holds between the events, and what the next event does to the lists.
structure PlugLaw (s : Desk) : Prop where
  orderly : Orderly s
  defined : ∀ event, admits s event = true → ∃ t, step s event = some t
  keyboards : ∀ event t, step s event = some t → t.keyboards = keyboardsAfter s event
  outputs : ∀ event t, step s event = some t → t.outputs = outputsAfter s event
  frames : s.sceneAttached = true → ∀ output ∈ s.outputs, handleWlrOutputFrame output s = (.ok (),s)

section
variable {s t : Desk} {event : Plug}

theorem outcome_keyboards (outcome : Outcome s event t) : t.keyboards = keyboardsAfter s event := by
  cases outcome with
  | plugged plugged =>
      cases plugged with
      | keyboard kind made kept =>
          simp only [arrived,Function.update_self] at kind
          exact (if_pos ⟨kind,made⟩).symm
      | other kind =>
          simp only [arrived,Function.update_self] at kind
          exact (if_neg fun both => kind both.1).symm
  | refused refused =>
      cases refused with
      | keyboard kind unmade => exact (if_neg fun both => by simp [unmade] at both).symm
      | unknown kind =>
          simp only [arrived,Function.update_self] at kind
          exact (if_neg fun both => by omega).symm
  | unplugged listed fewer => exact removeElement_erase ..
  | unlisted missing => exact (List.erase_of_not_mem missing).symm
  | displayed _ | unused _ | removed _ _ | unshown _ | frame => rfl

theorem outcome_outputs (outcome : Outcome s event t) : t.outputs = outputsAfter s event := by
  cases outcome with
  | plugged plugged => cases plugged <;> rfl
  | refused refused => cases refused <;> rfl
  | unplugged _ _ | unlisted _ | frame => rfl
  | displayed usable => exact (if_pos usable).symm
  | unused unusable => exact (if_neg (by simp [unusable])).symm
  | removed listed fewer => exact removeElement_erase ..
  | unshown missing => exact (List.erase_of_not_mem missing).symm

theorem frame_drawn (orderly : Orderly s) (attached : s.sceneAttached = true) (shown : output ∈ s.outputs) :
    handleWlrOutputFrame output s = (.ok (),s) := by
  have inside : s.layout.contains output = true := by
    rw [orderly.followed]
    exact List.contains_iff_mem.mpr shown
  unfold handleWlrOutputFrame look
  simp only [attached,inside,Bool.and_self,if_true]

theorem plug_law (orderly : Orderly s) : PlugLaw s where
  orderly := orderly
  defined := by
    intro event admitted
    obtain ⟨t,left,_⟩ := ends_leaves (perform_ends orderly event)
    exact ⟨t,(if_pos admitted).trans left⟩
  keyboards event t accepted := outcome_keyboards (step_outcome orderly accepted).2
  outputs event t accepted := outcome_outputs (step_outcome orderly accepted).2
  frames attached output shown := frame_drawn orderly attached shown

end

theorem run_orderly (sceneAttached : Bool) (events : List Plug) :
    ∀ s ∈ EventRuns.visited step (start sceneAttached) events, Orderly s :=
  EventRuns.visited_invariant Orderly step_orderly (start_orderly sceneAttached)

theorem unplugged_unbound (orderly : Orderly s) (unplugged : ∀ device, (s.devices device).life ≠ .alive)
    (dark : ∀ output, s.lives output ≠ .alive) : s.keyboardBound = [] ∧ s.outputBound = [] := by
  have none : s.keyboards = [] := by
    refine List.eq_nil_iff_forall_not_mem.mpr fun k inside => unplugged k ?_
    rw [orderly.listed k inside]
  have unshown : s.outputs = [] :=
    List.eq_nil_iff_forall_not_mem.mpr fun o inside => dark o (orderly.shown o inside)
  have bound := orderly.bound
  have attached := orderly.attached
  rw [none] at bound
  rw [unshown] at attached
  exact ⟨List.perm_nil.mp bound,List.perm_nil.mp attached⟩

-- No listener is taken out twice or left behind, and the lists are the working devices.
theorem hotplug_exact (sceneAttached : Bool) (events : List Plug) :
    (∀ s ∈ EventRuns.visited step (start sceneAttached) events, PlugLaw s) ∧
    ∀ s ∈ EventRuns.visited step (start sceneAttached) events, (∀ device, (s.devices device).life ≠ .alive) →
      (∀ output, s.lives output ≠ .alive) → s.keyboardBound = [] ∧ s.outputBound = [] :=
  ⟨fun s member => plug_law (run_orderly sceneAttached events s member),
    fun s member => unplugged_unbound (run_orderly sceneAttached events s member)⟩

-- The seat offers clients a keyboard exactly while one is listed.
def Announces (s : Desk) : Prop := s.capabilities &&& 2 ≠ 0 ↔ s.keyboards ≠ []

def UnplugsLast (s : Desk) : Plug → Prop
  | .inputDestroy device => s.keyboards = [device]
  | _ => False

-- Every xkb object that is still referred to belongs to a listed keyboard.
def Tidy (s : Desk) : Prop := ∀ reference ∈ s.references, ∃ k ∈ s.keyboards, ∃ keymap, reference = .keyboard k keymap

def Strays : Plug → Prop
  | .newInput answers _ type => type = 0 ∧ strays answers = true
  | _ => False

section
variable {s t : Desk} {event : Plug}

theorem announced_exact (keyboards : List Nat) : announced keyboards &&& 2 ≠ 0 ↔ keyboards ≠ [] := by
  cases keyboards <;> simp [announced]

theorem erase_empty {keyboards : List Nat} (listed : device ∈ keyboards) : keyboards.erase device = [] ↔ keyboards = [device] := by
  constructor
  · intro none
    have all := List.perm_cons_erase listed
    rw [none] at all
    exact List.perm_singleton.mp all
  · rintro rfl
    simp

theorem announces_kept (orderly : Orderly s) (before : Announces s) (accepted : step s event = some t) :
    Announces t ↔ ¬UnplugsLast s event := by
  obtain ⟨_,outcome⟩ := step_outcome orderly accepted
  cases outcome with
  | plugged plugged =>
      refine iff_of_true ?_ id
      cases plugged with
      | keyboard kind made kept => exact announced_exact _
      | other kind => exact announced_exact _
  | refused refused =>
      refine iff_of_true ?_ id
      cases refused with
      | keyboard kind unmade => exact before
      | unknown kind => exact before
  | unplugged listed fewer =>
      have set := before.mpr (List.ne_nil_of_mem listed)
      change (s.capabilities &&& 2 ≠ 0 ↔ removeElement s.keyboards _ ≠ []) ↔ s.keyboards ≠ [_]
      rw [removeElement_erase]
      simp only [set,ne_eq,not_false_eq_true,true_iff,erase_empty listed]
  | unlisted missing =>
      refine iff_of_true before fun only => missing ?_
      rw [show s.keyboards = [_] from only]
      exact List.mem_singleton_self _
  | displayed _ | unused _ | removed _ _ | unshown _ | frame => exact iff_of_true before id

theorem tidy_kept (orderly : Orderly s) (before : Tidy s) (accepted : step s event = some t) :
    Tidy t ↔ ¬Strays event := by
  obtain ⟨_,outcome⟩ := step_outcome orderly accepted
  cases outcome with
  | @plugged answers device _ _ plugged =>
      cases plugged with
      | keyboard kind made kept =>
          refine iff_of_true ?_ ?_
          · intro reference inside
            rcases List.mem_append.mp (kept.subset inside) with old | new
            · obtain ⟨k,listed,keymap,rfl⟩ := before reference old
              exact ⟨k,List.mem_append_left _ listed,keymap,rfl⟩
            · unfold keptBy at new
              split at new
              · exact ⟨device,List.mem_append_right _ (List.mem_singleton_self _),_,List.mem_singleton.mp new⟩
              · simp at new
          · rintro ⟨_,stray⟩
            simp only [keyboardMade,Bool.and_eq_true] at made
            simp [strays,made] at stray
      | other kind =>
          simp only [arrived,Function.update_self] at kind
          exact iff_of_true before fun stray => kind stray.1
  | @refused answers device _ _ refused =>
      cases refused with
      | keyboard kind unmade =>
          simp only [arrived,Function.update_self] at kind
          cases stray : strays answers with
          | true =>
              refine iff_of_false (fun tidy => ?_) fun clean => clean ⟨kind,stray⟩
              obtain ⟨_,_,_,same⟩ := tidy (.context s.nextXkb) (by simp [arrived])
              cases same
          | false =>
              refine iff_of_true ?_ fun strayed => by simp [strayed.2] at stray
              simpa [Tidy,arrived] using before
      | unknown kind =>
          simp only [arrived,Function.update_self] at kind
          refine iff_of_true before ?_
          rintro ⟨keyboard,_⟩
          omega
  | unplugged listed fewer =>
      refine iff_of_true ?_ id
      intro reference inside
      obtain ⟨held,other⟩ := List.mem_filter.mp inside
      obtain ⟨k,there,keymap,rfl⟩ := before reference held
      refine ⟨k,?_,keymap,rfl⟩
      change k ∈ removeElement s.keyboards _
      rw [removeElement_erase]
      exact (List.mem_erase_of_ne (by simpa using other)).mpr there
  | unlisted missing =>
      exact iff_of_true (fun reference inside => before reference (List.mem_of_mem_filter inside)) id
  | displayed _ | unused _ | removed _ _ | unshown _ | frame => exact iff_of_true before id

theorem returned_announces (ran : perform (.newInput answers device type) s = (.ok (),t)) : Announces t := by
  have plugged := ends_returned (newInput_ends (arrived s device type)) ran
  cases plugged with
  | keyboard kind made kept => exact announced_exact _
  | other kind => exact announced_exact _

-- What the script forgot to give back stays.
theorem context_kept (t : Desk) (event : Plug) (next : Desk) (before : Orderly t ∧ .context n ∈ t.references)
    (accepted : step t event = some next) : Orderly next ∧ .context n ∈ next.references := by
  refine ⟨step_orderly t event next before.1 accepted,?_⟩
  obtain ⟨_,outcome⟩ := step_outcome before.1 accepted
  cases outcome with
  | plugged plugged =>
      cases plugged with
      | keyboard kind made kept => exact kept.symm.subset (List.mem_append_left _ before.2)
      | other kind => exact before.2
  | refused refused =>
      cases refused with
      | keyboard kind unmade => exact List.mem_append_left _ before.2
      | unknown kind => exact before.2
  | unplugged _ _ | unlisted _ => exact List.mem_filter.mpr ⟨before.2,rfl⟩
  | displayed _ | unused _ | removed _ _ | unshown _ | frame => exact before.2

end

-- The keyboard capability is right throughout a run exactly if no last keyboard was
-- unplugged in it, and any new device that is set up puts it right again.
theorem capabilities_exact (sceneAttached : Bool) (events : List Plug) :
    ((∀ s ∈ EventRuns.visited step (start sceneAttached) events, Announces s) ↔
      ∀ row ∈ EventRuns.taken step (start sceneAttached) events, ¬UnplugsLast row.1 row.2) ∧
    ∀ s answers device type t, perform (.newInput answers device type) s = (.ok (),t) → Announces t := by
  refine ⟨?_,fun _ _ _ _ _ ran => returned_announces ran⟩
  refine EventRuns.gate_exact Orderly Announces (fun s event => ¬UnplugsLast s event) step_orderly ?_
    (start_orderly sceneAttached) ?_
  · exact fun t event next orderly before accepted => announces_kept orderly before accepted
  · simp [Announces,start]

-- Contexts and keymaps go with their keyboards, unless a context was made without a keymap.
theorem references_exact (sceneAttached : Bool) (events : List Plug) :
    ((∀ s ∈ EventRuns.visited step (start sceneAttached) events, Tidy s) ↔
      ∀ row ∈ EventRuns.taken step (start sceneAttached) events, ¬Strays row.2) ∧
    ∀ s ∈ EventRuns.visited step (start sceneAttached) events, ∀ n, .context n ∈ s.references →
      ∀ later, ∀ t ∈ EventRuns.visited step s later, .context n ∈ t.references := by
  constructor
  · refine EventRuns.gate_exact Orderly Tidy (fun _ event => ¬Strays event) step_orderly ?_
      (start_orderly sceneAttached) ?_
    · exact fun t event next orderly before accepted => tidy_kept orderly before accepted
    · simp [Tidy,start]
  · intro s member n held later t reached
    have orderly := run_orderly sceneAttached events s member
    exact (EventRuns.visited_invariant (fun u => Orderly u ∧ .context n ∈ u.references) context_kept
      ⟨orderly,held⟩ t reached).2

end Janetland.Tinyjl.Hotplug
