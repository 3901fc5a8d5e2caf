import Janetland.EventForwarding
import Janetland.IntegerArguments

namespace Janetland

-- The array on the stack; `none` stands for a cell that was never written, and an access
-- outside of the array or of an unwritten cell is undefined.
abbrev KeyArray := Nat → Option (BitVec 32)

namespace KeyArray

def unwritten : KeyArray := fun _ => none

def set (cells : KeyArray) (i : Nat) (value : BitVec 32) : KeyArray := fun j => if j = i then some value else cells j

def store (cells : KeyArray) (i : Nat) (value : BitVec 32) : Res KeyArray :=
  if i < keycodesCap then .ok (cells.set i value) else .fault .badRead

-- What wlroots reads of the array from `i` on.
def read (cells : KeyArray) : Nat → Nat → Res (List (BitVec 32))
  | _,0 => .ok []
  | i,count+1 =>
    if i < keycodesCap then match cells i with
      | some value => do
        let rest ← read cells (i+1) count
        return value :: rest
      | none => .fault .badRead
    else .fault .badRead

-- The array after the values were stored from `i` on.
def written (cells : KeyArray) : Nat → List (BitVec 32) → KeyArray
  | _,[] => cells
  | i,value :: rest => (cells.set i value).written (i+1) rest

theorem written_below (cells : KeyArray) (values : List (BitVec 32)) (below : j < i) :
    cells.written i values j = cells j := by
  induction values generalizing cells i with
  | nil => rfl
  | cons value rest ih =>
      rw [written,ih _ (Nat.lt_succ_of_lt below),set,if_neg (Nat.ne_of_lt below)]

theorem read_written (cells : KeyArray) (values : List (BitVec 32)) (room : i + values.length ≤ keycodesCap) :
    (cells.written i values).read i values.length = .ok values := by
  induction values generalizing cells i with
  | nil => rfl
  | cons value rest ih =>
      rw [List.length_cons] at room ⊢
      have inside : i < keycodesCap := by omega
      have first : (cells.written i (value :: rest)) i = some value := by
        rw [written,written_below _ _ (Nat.lt_succ_self i),set,if_pos rfl]
      have later : (cells.written i (value :: rest)).read (i+1) rest.length = .ok rest := ih _ (by omega)
      simp [read,inside,first,later]

end KeyArray

section
variable (scan : List UInt8 → Option (BitVec 64))

-- The loop from index `i` on.
def fillKeycodes : List Janet → Nat → KeyArray → Res KeyArray
  | [],_,keycodes => .ok keycodes
  | item :: rest,i,keycodes => do
    let keycode ← janetUnwrapU64 scan item
    let keycodes ← keycodes.store i (keycode.setWidth 32)
    fillKeycodes rest (i+1) keycodes

def enterCall (argv : List Janet) : Res LibCall := do
  janetFixarity argv 4
  let seat ← jlGetAbsObjPointer argv 0 .jwlrAtWlrSeat
  let surface ← jlGetAbsObjPointer argv 1 .jwlrAtWlrSurface
  let kcView ← janetGetindexed argv 2
  let modifiers ← jlGetAbsObjPointer argv 3 .jwlrAtWlrKeyboardModifiers
  if keycodesCap < kcView.length then
    panicf "expected at most %d key codes, got %d" [janetInteger keycodesCap,janetInteger kcView.length]
  else do
    let keycodes ← fillKeycodes scan kcView 0 .unwritten
    let passed ← keycodes.read 0 kcView.length
    return .seatKeyboardNotifyEnter seat surface passed modifiers

-- The notifications of a call, beside what Janet gets back.
def notifyEnter (argv : List Janet) : List LibCall × Res Janet := match enterCall scan argv with
  | .ok call => ([call],.ok .nil)
  | .panic error => ([],.panic error)
  | .fault kind => ([],.fault kind)

end

section
variable {scan : List UInt8 → Option (BitVec 64)} {argv items : List Janet} {i : Nat}

-- Induction on the elements to come: the cells filled are those of the list decoder.
theorem fill_exact (cells : KeyArray) (room : i + items.length ≤ keycodesCap) :
    fillKeycodes scan items i cells = (unwrapKeycodes scan items >>= fun keycodes => .ok (cells.written i keycodes)) := by
  induction items generalizing i cells with
  | nil => rfl
  | cons item rest ih =>
      rw [List.length_cons] at room
      have inside : i < keycodesCap := by omega
      rw [fillKeycodes,unwrapKeycodes]
      cases janetUnwrapU64 scan item with
      | ok word =>
          simp only [Res.bind_ok,KeyArray.store,if_pos inside,ih _ (show i + 1 + rest.length ≤ keycodesCap by omega)]
          cases unwrapKeycodes scan rest <;> rfl
      | _ => rfl

theorem unwrapped_length (ran : unwrapKeycodes scan items = .ok keycodes) : keycodes.length = items.length := by
  induction items generalizing keycodes with
  | nil => cases ran; rfl
  | cons item rest ih =>
      obtain ⟨word,_,ran⟩ := Res.bind_exact.mp ran
      obtain ⟨others,unwrapped,same⟩ := Res.bind_exact.mp ran
      cases same
      rw [List.length_cons,ih unwrapped,List.length_cons]

-- The C array is no more than the list of codes that reaches the seat.
theorem enter_refines (scan : List UInt8 → Option (BitVec 64)) (argv : List Janet) :
    enterCall scan argv = (cfunWlrSeatKeyboardNotifyEnter scan argv >>= fun result => .ok result.1) := by
  unfold enterCall cfunWlrSeatKeyboardNotifyEnter
  cases janetFixarity argv 4 <;> try rfl
  cases jlGetAbsObjPointer argv 0 .jwlrAtWlrSeat <;> try rfl
  cases jlGetAbsObjPointer argv 1 .jwlrAtWlrSurface <;> try rfl
  cases janetGetindexed argv 2 <;> try rfl
  rename_i items
  cases jlGetAbsObjPointer argv 3 .jwlrAtWlrKeyboardModifiers <;> try rfl
  simp only [Res.bind_ok]
  by_cases long : keycodesCap < items.length
  · simp [long,panicf]
  · have room : 0 + items.length ≤ keycodesCap := by omega
    simp only [if_neg long,fill_exact .unwritten room]
    cases ran : unwrapKeycodes scan items with
    | ok keycodes =>
        have filled : 0 + keycodes.length ≤ keycodesCap := by rw [unwrapped_length ran]; exact room
        have passed := KeyArray.read_written .unwritten keycodes filled
        rw [unwrapped_length ran] at passed
        simp [passed]
    | _ => rfl

theorem keycodes_convertible (convertible : ∀ item ∈ items, ∃ word, unwrapU64? scan item = some word) :
    ∃ keycodes, unwrapKeycodes scan items = .ok keycodes ∧ List.Forall₂ (fun item keycode =>
      ∃ word, unwrapU64? scan item = some word ∧ keycode = word.setWidth 32) items keycodes := by
  induction items with
  | nil => exact ⟨[],rfl,.nil⟩
  | cons item rest ih =>
      obtain ⟨⟨word,first⟩,others⟩ := List.forall_mem_cons.mp convertible
      obtain ⟨keycodes,ran,converted⟩ := ih others
      refine ⟨word.setWidth 32 :: keycodes,?_,.cons ⟨word,first,rfl⟩ converted⟩
      simp [unwrapKeycodes,janetUnwrapU64,first,ran]

theorem keycodes_inconvertible (stuck : ∃ item ∈ items, unwrapU64? scan item = none) :
    ∃ error, unwrapKeycodes scan items = .panic error := by
  induction items with
  | nil =>
      obtain ⟨_,member,_⟩ := stuck
      cases member
  | cons item rest ih =>
      cases first : unwrapU64? scan item with
      | none => exact ⟨_,by simp [unwrapKeycodes,janetUnwrapU64,first,panicf]; rfl⟩
      | some word =>
          obtain ⟨other,member,none⟩ := stuck
          rcases List.mem_cons.mp member with rfl | later
          · rw [first] at none
            cases none
          · obtain ⟨error,panicked⟩ := ih ⟨other,later,none⟩
            exact ⟨error,by simp [unwrapKeycodes,janetUnwrapU64,first,panicked]⟩

end

-- The keyboard's own list of pressed keys.
def pressedKeys (env : Env) (keyboard : Addr) : List (BitVec 32) :=
  (List.range (env.mem.bits keyboard "wlr_keyboard" "num_keycodes")).map fun i =>
    BitVec.ofNat 32 (env.mem.word (env.memberAddr keyboard "wlr_keyboard" "keycodes") i)

structure EnterLaw (scan : List UInt8 → Option (BitVec 64)) : Prop where
  once : ∀ argv, (notifyEnter scan argv).1.length ≤ 1
  inside : ∀ argv kind, (notifyEnter scan argv).2 ≠ .fault kind
  refused : ∀ argv items, (slot argv 2 = .tuple items ∨ slot argv 2 = .array items) →
    (keycodesCap < items.length ∨ ∃ item ∈ items, unwrapU64? scan item = none) →
      (notifyEnter scan argv).1 = [] ∧ ∃ error, (notifyEnter scan argv).2 = .panic error
  delivered : ∀ s seat t surface m modifiers keys items, (keys = .tuple items ∨ keys = .array items) →
    items.length ≤ keycodesCap → (∀ item ∈ items, ∃ word, unwrapU64? scan item = some word) →
      ∃ keycodes, notifyEnter scan [wrapped s seat .jwlrAtWlrSeat,wrapped t surface .jwlrAtWlrSurface,keys,
          wrapped m modifiers .jwlrAtWlrKeyboardModifiers] =
          ([.seatKeyboardNotifyEnter seat surface keycodes modifiers],.ok .nil) ∧
        List.Forall₂ (fun item keycode => ∃ word, unwrapU64? scan item = some word ∧ keycode = word.setWidth 32)
          items keycodes
  own : ∀ env k keyboard, keyboard ≠ 0 → env.mem.bits keyboard "wlr_keyboard" "num_keycodes" ≤ keycodesCap →
    ∃ keys, field env (wrapped k keyboard .jwlrAtWlrKeyboard) "keycodes" = .ok keys ∧
      ∀ s seat t surface m modifiers, notifyEnter scan [wrapped s seat .jwlrAtWlrSeat,
          wrapped t surface .jwlrAtWlrSurface,keys,wrapped m modifiers .jwlrAtWlrKeyboardModifiers] =
        ([.seatKeyboardNotifyEnter seat surface (pressedKeys env keyboard) modifiers],.ok .nil)

section
variable {scan : List UInt8 → Option (BitVec 64)} {argv items : List Janet}

theorem enter_once : (notifyEnter scan argv).1.length ≤ 1 := by
  unfold notifyEnter
  cases enterCall scan argv <;> simp

theorem enter_inside : (notifyEnter scan argv).2 ≠ .fault kind := by
  have defined : enterCall scan argv ≠ .fault kind := by
    have called : Defined (NarrowCall.seatKeyboardNotifyEnter.run scan blankEnv 0 [] argv) := call_defined _
    rw [enter_refines]
    exact defined_bind called (fun _ => returned_defined _) kind
  unfold notifyEnter
  cases ran : enterCall scan argv with
  | fault other =>
      intro same
      cases same
      exact defined ran
  | _ => simp

theorem enter_refused (view : slot argv 2 = .tuple items ∨ slot argv 2 = .array items)
    (bad : keycodesCap < items.length ∨ ∃ item ∈ items, unwrapU64? scan item = none) :
    (notifyEnter scan argv).1 = [] ∧ ∃ error, (notifyEnter scan argv).2 = .panic error := by
  have unreturned : ∀ call, enterCall scan argv ≠ .ok call := by
    intro call ran
    rw [enter_refines] at ran
    obtain ⟨result,ran,_⟩ := Res.bind_exact.mp ran
    obtain ⟨_,_,ran⟩ := Res.bind_exact.mp ran
    obtain ⟨seat,_,ran⟩ := Res.bind_exact.mp ran
    obtain ⟨surface,_,ran⟩ := Res.bind_exact.mp ran
    obtain ⟨kcView,indexed,ran⟩ := Res.bind_exact.mp ran
    obtain ⟨modifiers,_,ran⟩ := Res.bind_exact.mp ran
    have same : kcView = items := by
      unfold janetGetindexed at indexed
      rcases view with view | view <;> rw [view] at indexed <;> cases indexed <;> rfl
    subst same
    rcases bad with long | stuck
    · rw [if_pos long] at ran
      cases ran
    · obtain ⟨error,panicked⟩ := keycodes_inconvertible stuck
      rw [panicked] at ran
      split at ran <;> cases ran
  have defined : ∀ kind, (notifyEnter scan argv).2 ≠ .fault kind := fun _ => enter_inside
  unfold notifyEnter at defined ⊢
  cases ran : enterCall scan argv with
  | ok call => exact absurd ran (unreturned call)
  | panic error => exact ⟨rfl,error,rfl⟩
  | fault kind =>
      rw [ran] at defined
      exact absurd rfl (defined kind)

theorem enter_delivered (view : keys = .tuple items ∨ keys = .array items) (short : items.length ≤ keycodesCap)
    (ran : unwrapKeycodes scan items = .ok keycodes) :
    notifyEnter scan [wrapped s seat .jwlrAtWlrSeat,wrapped t surface .jwlrAtWlrSurface,keys,
        wrapped m modifiers .jwlrAtWlrKeyboardModifiers] =
      ([.seatKeyboardNotifyEnter seat surface keycodes modifiers],.ok .nil) := by
  have indexed : janetGetindexed [wrapped s seat .jwlrAtWlrSeat,wrapped t surface .jwlrAtWlrSurface,keys,
      wrapped m modifiers .jwlrAtWlrKeyboardModifiers] 2 = .ok items := by
    rcases view with rfl | rfl <;> rfl
  have called : enterCall scan [wrapped s seat .jwlrAtWlrSeat,wrapped t surface .jwlrAtWlrSurface,keys,
      wrapped m modifiers .jwlrAtWlrKeyboardModifiers] =
        .ok (.seatKeyboardNotifyEnter seat surface keycodes modifiers) := by
    rw [enter_refines]
    simp only [cfunWlrSeatKeyboardNotifyEnter,indexed,Res.bind_ok,if_neg (Nat.not_lt.mpr short),ran]
    rfl
  unfold notifyEnter
  rw [called]

-- Every key code is a boxed u64 that is read back as the 32-bit word it was.
theorem pressed_read {env : Env} (keyboard : Addr) : unwrapKeycodes scan ((List.range n).map fun i =>
      env.janetWrapU64 i (uint32 (env.mem.word (env.memberAddr keyboard "wlr_keyboard" "keycodes") i))) =
    .ok ((List.range n).map fun i =>
      BitVec.ofNat 32 (env.mem.word (env.memberAddr keyboard "wlr_keyboard" "keycodes") i)) := by
  induction List.range n with
  | nil => rfl
  | cons i rest ih =>
      have boxed (value : Nat) : janetUnwrapU64 scan (env.janetWrapU64 i value) = .ok (BitVec.ofNat 64 value) := rfl
      rw [List.map_cons,unwrapKeycodes,boxed,Res.bind_ok,ih,Res.bind_ok,List.map_cons]
      congr 2
      apply BitVec.eq_of_toNat_eq
      simp only [BitVec.toNat_setWidth,BitVec.toNat_ofNat,uint32]
      omega

theorem keycodes_field {env : Env} (live : keyboard ≠ 0)
    (few : env.mem.bits keyboard "wlr_keyboard" "num_keycodes" ≤ keycodesCap) :
    field env (wrapped k keyboard .jwlrAtWlrKeyboard) "keycodes" =
      .ok (.array ((List.range (env.mem.bits keyboard "wlr_keyboard" "num_keycodes")).map fun i =>
        env.janetWrapU64 i (uint32 (env.mem.word (env.memberAddr keyboard "wlr_keyboard" "keycodes") i)))) := by
  have branch : methodWlrKeyboardGet.branch "keycodes" = some (.embeddedWords "keycodes" "num_keycodes") := rfl
  have counted : ¬int32Max < (env.mem.bits keyboard "wlr_keyboard" "num_keycodes" : Int) := by
    unfold keycodesCap at few
    unfold int32Max
    omega
  unfold field wrapped
  rw [janetGet_wrapped (rfl : AbsType.jwlrAtWlrKeyboard.getMethod = some methodWlrKeyboardGet),
    GetMethod.run_unscanned _ (by decide) rfl,branch]
  change (Access.read env "wlr_keyboard" keyboard _ >>= _) >>= _ = _
  simp only [Access.read,Env.readBits_live _ live,Res.bind_ok,if_neg (Nat.not_lt.mpr few),pushAll,if_neg counted]
  rfl

theorem enter_own {env : Env} (live : keyboard ≠ 0)
    (few : env.mem.bits keyboard "wlr_keyboard" "num_keycodes" ≤ keycodesCap) :
    ∃ keys, field env (wrapped k keyboard .jwlrAtWlrKeyboard) "keycodes" = .ok keys ∧
      ∀ s seat t surface m modifiers, notifyEnter scan [wrapped s seat .jwlrAtWlrSeat,
          wrapped t surface .jwlrAtWlrSurface,keys,wrapped m modifiers .jwlrAtWlrKeyboardModifiers] =
        ([.seatKeyboardNotifyEnter seat surface (pressedKeys env keyboard) modifiers],.ok .nil) := by
  refine ⟨_,keycodes_field live few,?_⟩
  intro s seat t surface m modifiers
  apply enter_delivered (.inr rfl)
  · simpa using few
  · exact pressed_read keyboard

theorem keyboard_enter (scan : List UInt8 → Option (BitVec 64)) : EnterLaw scan where
  once _ := enter_once
  inside _ _ := enter_inside
  refused _ _ view bad := enter_refused view bad
  delivered s seat t surface m modifiers keys items view short convertible := by
    obtain ⟨keycodes,ran,converted⟩ := keycodes_convertible convertible
    exact ⟨keycodes,enter_delivered view short ran,converted⟩
  own _ _ _ live few := enter_own live few

end

end Janetland
