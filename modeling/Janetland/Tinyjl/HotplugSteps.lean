import Janetland.Tinyjl.Hotplug

namespace Janetland.Tinyjl.Hotplug
open Act

-- What the server keeps of its keyboards and outputs agrees with what is plugged in.
structure Orderly (s : Desk) : Prop where
  listed : ∀ k ∈ s.keyboards, s.devices k = ⟨.alive,0⟩
  distinct : s.keyboards.Nodup
  bound : Rosters.Exact (fun _ => keyboardListeners) s.keyboards s.keyboardBound
  focused : ∀ k, s.seatKeyboard = some k → k ∈ s.keyboards
  shown : ∀ o ∈ s.outputs, s.lives o = .alive
  single : s.outputs.Nodup
  attached : Rosters.Exact (fun _ => outputListeners) s.outputs s.outputBound
  followed : s.layout = s.outputs

def keyboardMade (answers : InputAnswers) : Bool :=
  answers.keyboardFound && answers.contextMade && answers.keymapMade

-- The keymap could not be made, and the context of the attempt is never given back.
def strays (answers : InputAnswers) : Bool :=
  answers.keyboardFound && answers.contextMade && !answers.keymapMade

-- Without modes there is nothing to commit.
def outputUsable (answers : OutputAnswers) : Bool :=
  !answers.hasModes || answers.modesRead && answers.preferredMode && answers.committed

def keptBy (answers : InputAnswers) (device keymap : Nat) : List Reference :=
  if answers.keymapTaken then [.keyboard device keymap] else []

def unlisted (s : Desk) (device : Nat) (bound : List (Nat × KeyboardListener)) : Desk :=
  { s with keyboardBound := bound, keyboards := removeElement s.keyboards device }

def unshown (s : Desk) (output : Nat) (bound : List (Nat × OutputListener)) : Desk :=
  { s with outputBound := bound, outputs := removeElement s.outputs output }

def displayed (s : Desk) (output : Nat) : Desk := { s with
  outputBound := s.outputBound ++ [(output,.frame)] ++ [(output,.destroy)]
  outputs := s.outputs ++ [output]
  layout := s.layout ++ [output] }

def joined (s : Desk) (device : Nat) (references : List Reference) (next : Nat) : Desk := { s with
  keyboards := s.keyboards ++ [device]
  keyboardBound := s.keyboardBound ++ [(device,.modifiers)] ++ [(device,.key)] ++ [(device,.destroy)]
  seatKeyboard := some device
  references := references
  nextXkb := next }

-- The seat has a pointer always, and a keyboard while one is listed.
def announced (keyboards : List Nat) : BitVec 32 := if keyboards.isEmpty then 1 else 3

-- How a new device leaves the desk when its handler returns, and when it raises.
inductive Plugged (answers : InputAnswers) (device : Nat) (s : Desk) : Desk → Prop
  | keyboard (type : (s.devices device).type = 0) (made : keyboardMade answers = true)
      (kept : references.Perm (s.references ++ keptBy answers device keymap)) :
      Plugged answers device s { joined s device references next with
        capabilities := announced (s.keyboards ++ [device]) }
  | other (type : (s.devices device).type ≠ 0) :
      Plugged answers device s { s with pointers := pointers, capabilities := announced s.keyboards }

inductive Refused (answers : InputAnswers) (device : Nat) (s : Desk) : Desk → Prop
  | keyboard (type : (s.devices device).type = 0) (unmade : keyboardMade answers = false) :
      Refused answers device s { s with
        references := s.references ++ if strays answers then [.context s.nextXkb] else []
        nextXkb := next }
  | unknown (type : 6 ≤ (s.devices device).type) : Refused answers device s s

-- All that an event can lead to, whether its handler returns or raises.
inductive Outcome (s : Desk) : Plug → Desk → Prop
  | plugged (plugged : Plugged answers device (arrived s device type) t) : Outcome s (.newInput answers device type) t
  | refused (refused : Refused answers device (arrived s device type) t) : Outcome s (.newInput answers device type) t
  | unplugged (listed : device ∈ s.keyboards)
      (fewer : Rosters.Exact (fun _ => keyboardListeners) (s.keyboards.erase device) bound) :
      Outcome s (.inputDestroy device) (departed (unlisted s device bound) device)
  | unlisted (missing : device ∉ s.keyboards) : Outcome s (.inputDestroy device) (departed s device)
  | displayed (usable : outputUsable answers = true) :
      Outcome s (.newOutput answers output) (displayed (lit s output) output)
  | unused (unusable : outputUsable answers = false) : Outcome s (.newOutput answers output) (lit s output)
  | removed (listed : output ∈ s.outputs)
      (fewer : Rosters.Exact (fun _ => outputListeners) (s.outputs.erase output) bound) :
      Outcome s (.outputDestroy output) (removed (unshown s output bound) output)
  | unshown (missing : output ∉ s.outputs) : Outcome s (.outputDestroy output) (removed s output)
  | frame : Outcome s (.frame output) s

section
variable {s t : Desk} {answers : InputAnswers} {device type output : Nat} {event : Plug}

theorem context_ends (holds : answers.contextMade = true → returned s.nextXkb
      { s with references := s.references ++ [.context s.nextXkb], nextXkb := s.nextXkb + 1 })
    (failed : answers.contextMade = false → raised s) : Ends (xkbContextNew answers) s returned raised :=
  ends_bind (ends_check (fun made => holds made) failed)

theorem keymap_ends (holds : answers.keymapMade = true → returned s.nextXkb
      { s with references := s.references ++ [.keymap s.nextXkb], nextXkb := s.nextXkb + 1 })
    (failed : answers.keymapMade = false → raised s) : Ends (xkbKeymapNewFromNames answers) s returned raised :=
  ends_bind (ends_check (fun made => holds made) failed)

theorem unref_ends {returned : Unit → Desk → Prop} (held : reference ∈ s.references)
    (holds : returned () { s with references := s.references.erase reference }) :
    Ends (unref reference) s returned raised :=
  ends_bind (ends_look (if_pos held) holds)

theorem keymap_taken (answers : InputAnswers) (s : Desk) : wlrKeyboardSetKeymap answers device keymap s =
    (.ok (),{ s with references := s.references ++ keptBy answers device keymap }) := by
  unfold wlrKeyboardSetKeymap keptBy
  cases answers.keymapTaken with
  | true => rfl
  | false => simp [when,pure,lift]

theorem given_back (references kept : List Reference) :
    (((references ++ [Reference.context context] ++ [Reference.keymap keymap] ++ kept).erase (.keymap keymap)).erase
      (.context context)).Perm (references ++ kept) := by
  have all : (references ++ [Reference.context context] ++ [Reference.keymap keymap] ++ kept).Perm
      (.keymap keymap :: .context context :: (references ++ kept)) := by
    simp only [List.append_assoc,List.cons_append,List.nil_append]
    exact List.perm_middle.trans ((List.perm_middle.cons _).trans (.swap ..))
  have fewer := (all.erase (.keymap keymap)).erase (.context context)
  rwa [List.erase_cons_head,List.erase_cons_head] at fewer

theorem newKeyboard_ends (s : Desk) : Ends (serverNewKeyboard answers device) s
    (fun _ t => keyboardMade answers = true ∧ ∃ references keymap next,
      references.Perm (s.references ++ keptBy answers device keymap) ∧ t = joined s device references next)
    fun t => keyboardMade answers = false ∧ ∃ stray next, t = { s with references := stray, nextXkb := next } ∧
      stray = s.references ++ if strays answers then [.context s.nextXkb] else [] := by
  refine ends_bind (ends_check (fun foundIt => ?_) fun missing => ?_)
  · refine ends_bind (context_ends (fun made => ?_) fun missing => ?_)
    · refine ends_bind (keymap_ends (fun mapped => ?_) fun missing => ?_)
      · refine ends_bind (ends_run (keymap_taken answers _) ?_)
        refine ends_bind (unref_ends (by simp) ?_)
        refine ends_bind (unref_ends ?_ ?_)
        · exact (List.mem_erase_of_ne (by simp)).mpr (by simp)
        · exact ⟨by simp [keyboardMade,foundIt,made,mapped],_,_,_,given_back s.references _,rfl⟩
      · exact ⟨by simp [keyboardMade,missing],_,_,rfl,by simp [strays,foundIt,made,missing]⟩
    · exact ⟨by simp [keyboardMade,missing],s.references,s.nextXkb,rfl,by simp [strays,missing]⟩
  · exact ⟨by simp [keyboardMade,missing],s.references,s.nextXkb,rfl,by simp [strays,missing]⟩

theorem capabilities_run (s : Desk) (keyboards : List Nat) :
    wlrSeatSetCapabilities (capabilityKeys keyboards) s = (.ok (),{ s with capabilities := announced keyboards }) := by
  cases keyboards <;> rfl

theorem newDevice_other (s : Desk) (other : type ≠ 0) (known : type < 6) : ∃ value,
    deviceType type = .ok value ∧ ∃ pointers, newDevice answers device value s = (.ok (),{ s with pointers := pointers }) := by
  match type with
  | 0 => exact absurd rfl other
  | 1 => exact ⟨_,rfl,_,rfl⟩
  | 2 | 3 | 4 | 5 => exact ⟨_,rfl,s.pointers,rfl⟩
  | later + 6 => omega

theorem newInput_ends (s : Desk) : Ends (handleBackendNewInput answers device) s
    (fun _ t => Plugged answers device s t) (Refused answers device s) := by
  by_cases keyboard : (s.devices device).type = 0
  · have named : deviceType (s.devices device).type = .ok (.keyword "keyboard") := by rw [keyboard]; rfl
    refine ends_bind (ends_look named (ends_bind (ends_mono (newKeyboard_ends s) ?_ ?_)))
    · rintro _ t ⟨made,references,keymap,next,kept,rfl⟩
      exact ends_bind (ends_read (ends_run (capabilities_run _ _) (.keyboard keyboard made kept)))
    · rintro t ⟨unmade,_,next,rfl,rfl⟩
      exact .keyboard keyboard unmade
  · by_cases known : (s.devices device).type < 6
    · obtain ⟨value,named,changes⟩ := newDevice_other s keyboard known
      obtain ⟨pointers,ran⟩ := changes
      refine ends_bind (ends_look named (ends_bind (ends_run ran ?_)))
      exact ends_bind (ends_read (ends_run (capabilities_run _ _) (.other keyboard)))
    · have raised : ∃ error, deviceType (s.devices device).type = .panic error :=
        ⟨_,if_pos (Nat.le_of_not_lt known)⟩
      obtain ⟨error,raised⟩ := raised
      exact ends_bind (ends_raise raised (.unknown (Nat.le_of_not_lt known)))

theorem ends_when {returned : Unit → Desk → Prop} (on : condition = true → Ends act s returned raised)
    (off : condition = false → returned () s) : Ends (when condition act) s returned raised := by
  cases condition with
  | true => exact on rfl
  | false => exact off rfl

theorem listed_exact (orderly : Orderly s) : s.keyboardBound.contains (device,.destroy) = true ↔ device ∈ s.keyboards := by
  rw [List.contains_iff_mem,Rosters.exact_member orderly.bound]
  simp [keyboardListeners]

theorem shown_exact (orderly : Orderly s) (listener : OutputListener) :
    s.outputBound.contains (output,listener) = true ↔ output ∈ s.outputs := by
  rw [List.contains_iff_mem,Rosters.exact_member orderly.attached]
  cases listener <;> simp [outputListeners]

-- A device that comes is new to the desk, and stays unlisted until its handler lists it.
theorem arrived_orderly (orderly : Orderly s) (unborn : (s.devices device).life = .unborn) :
    Orderly (arrived s device type) ∧ device ∉ s.keyboards := by
  have fresh : device ∉ s.keyboards := by
    intro inside
    simp [orderly.listed device inside] at unborn
  refine ⟨{ orderly with listed := ?_ },fresh⟩
  intro k inside
  have other : k ≠ device := fun same => fresh (same ▸ inside)
  simpa [arrived,other] using orderly.listed k inside

theorem joined_orderly (orderly : Orderly s) (alive : s.devices device = ⟨.alive,0⟩)
    (fresh : device ∉ s.keyboards) (references : List Reference) (next : Nat) : Orderly (joined s device references next) where
  listed := by
    intro k inside
    rcases List.mem_append.mp inside with old | new
    · exact orderly.listed k old
    · obtain rfl := List.mem_singleton.mp new
      exact alive
  distinct := by
    refine List.nodup_append.mpr ⟨orderly.distinct,List.nodup_singleton _,?_⟩
    intro k inside other new same
    obtain rfl := List.mem_singleton.mp new
    exact fresh (same ▸ inside)
  bound := by simpa [joined,keyboardListeners] using Rosters.exact_joined orderly.bound device
  focused := by
    intro k same
    obtain rfl := Option.some.inj same
    simp [joined]
  shown := orderly.shown
  single := orderly.single
  attached := orderly.attached
  followed := orderly.followed

theorem plugged_orderly (orderly : Orderly s) (alive : s.devices device = ⟨.alive,type⟩)
    (fresh : device ∉ s.keyboards) (plugged : Plugged answers device s t) : Orderly t := by
  cases plugged with
  | @keyboard references _ next kind made kept =>
      have board : s.devices device = ⟨.alive,0⟩ := by
        rw [alive] at kind ⊢
        exact congrArg _ kind
      exact { joined_orderly orderly board fresh references next with }
  | other kind => exact { orderly with }

theorem refused_orderly (orderly : Orderly s) (refused : Refused answers device s t) : Orderly t := by
  cases refused with
  | keyboard kind unmade => exact { orderly with }
  | unknown kind => exact orderly

theorem unlisted_orderly (orderly : Orderly s) (missing : device ∉ s.keyboards) : Orderly (departed s device) := by
  refine { orderly with listed := ?_, focused := ?_ }
  · intro k inside
    have other : k ≠ device := fun same => missing (same ▸ inside)
    simpa [departed,other] using orderly.listed k inside
  · intro k same
    obtain ⟨there,_⟩ := Option.filter_eq_some_iff.mp same
    exact orderly.focused k there

theorem retired_orderly (orderly : Orderly s)
    (fewer : Rosters.Exact (fun _ => keyboardListeners) (s.keyboards.erase device) bound) :
    Orderly (departed (unlisted s device bound) device) := by
  have left : ∀ k, k ∈ s.keyboards.erase device ↔ k ≠ device ∧ k ∈ s.keyboards :=
    fun k => orderly.distinct.mem_erase_iff
  rw [unlisted,removeElement_erase]
  refine { orderly with listed := ?_, distinct := orderly.distinct.erase device, bound := fewer, focused := ?_ }
  · intro k inside
    obtain ⟨other,listed⟩ := (left k).mp inside
    simpa [departed,other] using orderly.listed k listed
  · intro k same
    obtain ⟨there,other⟩ := Option.filter_eq_some_iff.mp same
    exact (left k).mpr ⟨by simpa using other,orderly.focused k there⟩

theorem removed_orderly (orderly : Orderly s)
    (fewer : Rosters.Exact (fun _ => outputListeners) (s.outputs.erase output) bound) :
    Orderly (removed (unshown s output bound) output) := by
  rw [unshown,removeElement_erase]
  refine { orderly with shown := ?_, single := orderly.single.erase output, attached := fewer, followed := ?_ }
  · intro o inside
    obtain ⟨other,listed⟩ := orderly.single.mem_erase_iff.mp inside
    simpa [removed,other] using orderly.shown o listed
  · exact congrArg (·.erase output) orderly.followed

theorem unshown_orderly (orderly : Orderly s) (missing : output ∉ s.outputs) : Orderly (removed s output) := by
  refine { orderly with shown := ?_, followed := ?_ }
  · intro o inside
    have other : o ≠ output := fun same => missing (same ▸ inside)
    simpa [removed,other] using orderly.shown o inside
  · change s.layout.erase output = s.outputs
    rw [orderly.followed,List.erase_of_not_mem missing]

theorem lit_orderly (orderly : Orderly s) (unborn : s.lives output = .unborn) :
    Orderly (lit s output) ∧ output ∉ s.outputs := by
  have fresh : output ∉ s.outputs := by
    intro inside
    simp [orderly.shown output inside] at unborn
  refine ⟨{ orderly with shown := ?_ },fresh⟩
  intro o inside
  have other : o ≠ output := fun same => fresh (same ▸ inside)
  simpa [lit,other] using orderly.shown o inside

theorem displayed_orderly (orderly : Orderly s) (alive : s.lives output = .alive) (fresh : output ∉ s.outputs) :
    Orderly (displayed s output) := by
  refine { orderly with shown := ?_, single := ?_, attached := ?_, followed := ?_ }
  · intro o inside
    rcases List.mem_append.mp inside with old | new
    · exact orderly.shown o old
    · obtain rfl := List.mem_singleton.mp new
      exact alive
  · refine List.nodup_append.mpr ⟨orderly.single,List.nodup_singleton _,?_⟩
    intro o inside other new same
    obtain rfl := List.mem_singleton.mp new
    exact fresh (same ▸ inside)
  · simpa [displayed,outputListeners] using Rosters.exact_joined orderly.attached output
  · exact congrArg (· ++ [output]) orderly.followed

theorem unbindKeyboard_ends (orderly : Orderly s) (listed : device ∈ s.keyboards)
    (holds : ∀ bound, Rosters.Exact (fun _ => keyboardListeners) (s.keyboards.erase device) bound →
      returned () { s with keyboardBound := bound }) :
    Ends (unbindKeyboard device [.modifiers,.key,.destroy]) s returned raised := by
  obtain ⟨bound,taken,fewer⟩ := Rosters.exact_left orderly.bound listed (List.Perm.refl _)
  have held : found (Rosters.withdrawAll s.keyboardBound device [.modifiers,.key,.destroy]) = .ok bound :=
    congrArg found taken
  exact ends_bind (ends_look held (holds bound fewer))

theorem unbindOutput_ends (orderly : Orderly s) (listed : output ∈ s.outputs)
    (holds : ∀ bound, Rosters.Exact (fun _ => outputListeners) (s.outputs.erase output) bound →
      returned () { s with outputBound := bound }) :
    Ends (unbindOutput output [.frame,.destroy]) s returned raised := by
  obtain ⟨bound,taken,fewer⟩ := Rosters.exact_left orderly.attached listed (List.Perm.refl _)
  have held : found (Rosters.withdrawAll s.outputBound output [.frame,.destroy]) = .ok bound :=
    congrArg found taken
  exact ends_bind (ends_look held (holds bound fewer))

theorem modeSet_ends {answers : OutputAnswers} (s : Desk) : Ends (modeSet answers) s
    (fun usable t => usable = outputUsable answers ∧ t = s) fun t => outputUsable answers = false ∧ t = s := by
  unfold modeSet
  split
  · rename_i modes
    refine ends_bind (ends_check (fun logged => ?_) fun unread => ⟨by simp [outputUsable,modes,unread],rfl⟩)
    refine ends_bind (ends_check (fun preferred => ?_) fun none => ⟨by simp [outputUsable,modes,none],rfl⟩)
    exact ⟨by simp [outputUsable,modes,logged,preferred],rfl⟩
  · rename_i modes
    exact ⟨by simp [outputUsable,modes],rfl⟩

theorem perform_ends (orderly : Orderly s) (event : Plug) :
    Ends (perform event) s (fun _ t => Outcome s event t) (Outcome s event) := by
  cases event with
  | newInput answers device type =>
      exact ends_bind (ends_modify (ends_mono (newInput_ends _) (fun _ _ => .plugged) fun _ => .refused))
  | inputDestroy device =>
      refine ends_bind (ends_read (ends_bind (ends_when (fun bound => ?_) fun unbound => ?_)))
      · have listed := (listed_exact orderly).mp bound
        exact ends_bind (unbindKeyboard_ends orderly listed fun _ fewer => .unplugged listed fewer)
      · refine .unlisted fun inside => ?_
        rw [(listed_exact orderly).mpr inside] at unbound
        cases unbound
  | newOutput answers output =>
      refine ends_bind (ends_modify (ends_bind (ends_mono (modeSet_ends _) ?_ ?_)))
      · rintro _ t ⟨rfl,rfl⟩
        exact ends_when (fun usable => .displayed usable) fun unusable => .unused unusable
      · rintro t ⟨unusable,rfl⟩
        exact .unused unusable
  | outputDestroy output =>
      refine ends_bind (ends_read (ends_bind (ends_when (fun bound => ?_) fun unbound => ?_)))
      · have listed := (shown_exact orderly .destroy).mp bound
        exact ends_bind (unbindOutput_ends orderly listed fun _ fewer => .removed listed fewer)
      · refine .unshown fun inside => ?_
        rw [(shown_exact orderly .destroy).mpr inside] at unbound
        cases unbound
  | frame output =>
      refine ends_bind (ends_read (ends_when (fun bound => ?_) fun _ => .frame))
      unfold handleWlrOutputFrame
      by_cases attached : (s.sceneAttached && s.layout.contains output) = true
      · exact ends_look (if_pos attached) .frame
      · exact ends_raise (if_neg attached) .frame

theorem outcome_orderly (orderly : Orderly s) (admitted : admits s event = true) (outcome : Outcome s event t) :
    Orderly t := by
  cases outcome with
  | plugged plugged =>
      obtain ⟨here,fresh⟩ := arrived_orderly orderly (of_decide_eq_true admitted)
      exact plugged_orderly here (Function.update_self ..) fresh plugged
  | refused refused =>
      obtain ⟨here,_⟩ := arrived_orderly orderly (of_decide_eq_true admitted)
      exact refused_orderly here refused
  | unplugged listed fewer => exact retired_orderly orderly fewer
  | unlisted missing => exact unlisted_orderly orderly missing
  | displayed _ =>
      obtain ⟨here,fresh⟩ := lit_orderly orderly (of_decide_eq_true admitted)
      exact displayed_orderly here (Function.update_self ..) fresh
  | unused _ => exact (lit_orderly orderly (of_decide_eq_true admitted)).1
  | removed listed fewer => exact removed_orderly orderly fewer
  | unshown missing => exact unshown_orderly orderly missing
  | frame => exact orderly

theorem start_orderly (sceneAttached : Bool) : Orderly (start sceneAttached) where
  listed := by simp [start]
  distinct := List.nodup_nil
  bound := .refl _
  focused := by simp [start]
  shown := by simp [start]
  single := List.nodup_nil
  attached := .refl _
  followed := rfl

theorem step_outcome (orderly : Orderly s) (accepted : step s event = some t) :
    admits s event = true ∧ Outcome s event t := by
  unfold step at accepted
  split at accepted
  · rename_i admitted
    obtain ⟨next,left,outcome⟩ := ends_leaves (perform_ends orderly event)
    rw [left] at accepted
    obtain rfl := Option.some.inj accepted
    exact ⟨admitted,outcome⟩
  · cases accepted

theorem step_orderly (t : Desk) (event : Plug) (next : Desk) (orderly : Orderly t)
    (accepted : step t event = some next) : Orderly next := by
  obtain ⟨admitted,outcome⟩ := step_outcome orderly accepted
  exact outcome_orderly orderly admitted outcome

end

end Janetland.Tinyjl.Hotplug
