import Janetland.LibraryCalls
import Janetland.EnumDecoders

namespace Janetland

-- `(event :member)` in a script, which raises an error where get finds nothing.
def field (env : Env) (value : Janet) (kw : String) : Res Janet := do
  match ← janetGet env value (.keyword kw) with
  | some found => return found
  | none => panicf "key %v not found in %v " [.keyword kw,value]

-- A script's handlers that read an event and pass its members on.
section
variable (scan : List UInt8 → Option (BitVec 64)) (env : Env) (seat event : Janet)

def forwardKey : Res (LibCall × Janet) := do
  let time ← field env event "time-msec"
  let keycode ← field env event "keycode"
  let state ← field env event "state"
  cfunWlrSeatKeyboardNotifyKey scan [seat,time,keycode,state]

def forwardButton (serial : BitVec 32) : Res (LibCall × Janet) := do
  let time ← field env event "time-msec"
  let button ← field env event "button"
  let state ← field env event "state"
  cfunWlrSeatPointerNotifyButton scan serial [seat,time,button,state]

def forwardAxis : Res (LibCall × Janet) := do
  let time ← field env event "time-msec"
  let orientation ← field env event "orientation"
  let delta ← field env event "delta"
  let deltaDiscrete ← field env event "delta-discrete"
  let source ← field env event "source"
  cfunWlrSeatPointerNotifyAxis scan [seat,time,orientation,delta,deltaDiscrete,source]

def forwardMotion : Res (LibCall × Janet) := do
  let time ← field env event "time-msec"
  let deltaX ← field env event "delta-x"
  let deltaY ← field env event "delta-y"
  cfunWlrSeatPointerNotifyMotion scan [seat,time,deltaX,deltaY]

end

-- A 32-bit member of a struct.
def Env.word (env : Env) (obj : Addr) (struct member : String) : BitVec 32 :=
  BitVec.ofNat 32 (env.mem.bits obj struct member)

def wrapped (self obj : Addr) (type : AbsType) : Janet := .abstract (jlPointerToAbsObj self obj type)

-- The events that carry a serial.
def serialEvents : List (AbsType × String) :=
  [(.jwlrAtWlrSeatRequestSetSelectionEvent,"wlr_seat_request_set_selection_event"),
    (.jwlrAtWlrXdgToplevelMoveEvent,"wlr_xdg_toplevel_move_event"),
    (.jwlrAtWlrXdgToplevelResizeEvent,"wlr_xdg_toplevel_resize_event")]

-- The values that stand for a serial in a script, and the serial each stands for.
inductive Serial (scan : List UInt8 → Option (BitVec 64)) : Janet → BitVec 32 → Prop
  | event (listed : (type,struct) ∈ serialEvents) (live : obj ≠ 0)
      (read : field env (wrapped self obj type) "serial" = .ok value) : Serial scan value (env.word obj struct "serial")
  | button (returned : cfunWlrSeatPointerNotifyButton scan serial argv = .ok (call,value)) : Serial scan value serial

structure LosslessForwarding (scan : List UInt8 → Option (BitVec 64)) : Prop where
  key : ∀ env seat self event cell, event ≠ 0 → (env.word event "wlr_keyboard_key_event" "state").toNat < 2 →
    forwardKey scan env (wrapped cell seat .jwlrAtWlrSeat) (wrapped self event .jwlrAtWlrKeyboardKeyEvent) =
      .ok (.seatKeyboardNotifyKey seat (env.word event "wlr_keyboard_key_event" "time_msec")
        (env.word event "wlr_keyboard_key_event" "keycode") (env.word event "wlr_keyboard_key_event" "state"),.nil)
  button : ∀ env seat self event cell serial, event ≠ 0 →
    (env.word event "wlr_pointer_button_event" "state").toNat < 2 →
    forwardButton scan env (wrapped cell seat .jwlrAtWlrSeat) (wrapped self event .jwlrAtWlrPointerButtonEvent)
        serial =
      .ok (.seatPointerNotifyButton seat (env.word event "wlr_pointer_button_event" "time_msec")
        (env.word event "wlr_pointer_button_event" "button") (env.word event "wlr_pointer_button_event" "state"),
        janetInteger serial.toInt)
  axis : ∀ env seat self event cell, event ≠ 0 →
    (env.word event "wlr_pointer_axis_event" "orientation").toNat < 2 →
    (env.word event "wlr_pointer_axis_event" "source").toNat < 4 →
    forwardAxis scan env (wrapped cell seat .jwlrAtWlrSeat) (wrapped self event .jwlrAtWlrPointerAxisEvent) =
      .ok (.seatPointerNotifyAxis seat (env.word event "wlr_pointer_axis_event" "time_msec")
        (env.word event "wlr_pointer_axis_event" "orientation") (env.mem.num event "wlr_pointer_axis_event" "delta")
        (env.word event "wlr_pointer_axis_event" "delta_discrete")
        (env.word event "wlr_pointer_axis_event" "source"),.nil)
  motion : ∀ env seat self event cell, event ≠ 0 →
    forwardMotion scan env (wrapped cell seat .jwlrAtWlrSeat) (wrapped self event .jwlrAtWlrPointerMotionEvent) =
      .ok (.seatPointerNotifyMotion seat (env.word event "wlr_pointer_motion_event" "time_msec")
        (env.mem.num event "wlr_pointer_motion_event" "delta_x")
        (env.mem.num event "wlr_pointer_motion_event" "delta_y"),.nil)
  readable : ∀ env self event type struct, (type,struct) ∈ serialEvents → event ≠ 0 →
    ∃ value, field env (wrapped self event type) "serial" = .ok value
  distinct : ∀ left right s t, Serial scan left s → Serial scan right t → (left = right ↔ s = t)
  selected : ∀ value s, Serial scan value s → ∀ cell seat self source,
    cfunWlrSeatSetSelection [wrapped cell seat .jwlrAtWlrSeat,wrapped self source .jwlrAtWlrDataSource,value] =
        .ok (.seatSetSelection seat source s,.nil) ∧
      cfunWlrSeatSetSelection [wrapped cell seat .jwlrAtWlrSeat,.nil,value] = .ok (.seatSetSelection seat 0 s,.nil)

variable {env : Env} {scan : List UInt8 → Option (BitVec 64)} {method : GetMethod} {argv : List Janet}

theorem field_read (found : type.getMethod = some method) (tables : method.signals = none ∧ method.lists = none)
    (apart : method.inPlace = false) (branch : method.branch kw = some access) :
    field env (wrapped self obj type) kw = access.read env method.struct obj := by
  have signals : scanOutcome kw method.signals = .stopped := by rw [tables.1]; rfl
  have lists : scanOutcome kw method.lists = .stopped := by rw [tables.2]; rfl
  have object : method.object (jlPointerToAbsObj self obj type) = obj := by
    rw [GetMethod.object,apart]
    rfl
  simp only [field,wrapped,janetGet,jlPointerToAbsObj,found]
  rw [method.run_unscanned signals lists,branch]
  change (Access.read env method.struct (method.object (jlPointerToAbsObj self obj type)) access >>= _) >>= _ = _
  rw [object]
  cases access.read env method.struct obj <;> rfl

theorem unsigned_read (live : obj ≠ 0) : (Access.unsigned member).read env struct obj =
    .ok (env.janetWrapU64 0 (env.word obj struct member).toNat) := by
  simp only [Access.read,Env.readBits_live _ live,Res.bind_ok,uint32,Env.word,BitVec.toNat_ofNat]
  rfl

theorem integer_read (live : obj ≠ 0) (wide : ctype = .int32 ∨ ctype = .uint32) :
    (Access.integer ctype member).read env struct obj = .ok (janetInteger (env.word obj struct member).toInt) := by
  simp only [Access.read,Env.readBits_live _ live,Res.bind_ok]
  rcases wide with rfl | rfl <;> rfl

theorem number_read (live : obj ≠ 0) :
    (Access.number member).read env struct obj = .ok (.number (env.mem.num obj struct member)) := by
  simp [Access.read,live]

-- A boxed u64 made from a 32-bit word is read back as that word.
theorem boxed_word (scan : List UInt8 → Option (BitVec 64)) (there : slot argv n = env.janetWrapU64 i word.toNat) :
    ∃ wide, janetGetuinteger64 scan argv n = .ok wide ∧ wide.setWidth 32 = (word : BitVec 32) := by
  refine ⟨BitVec.ofNat 64 word.toNat,?_,?_⟩
  · simp only [janetGetuinteger64,janetUnwrapU64,there]
    rfl
  · rw [BitVec.ofNat_toNat,BitVec.setWidth_setWidth_of_le _ (by decide),BitVec.setWidth_eq]

theorem number_slot (there : slot argv n = .number value) : janetGetnumber argv n = .ok value := by
  rw [janetGetnumber,there]

theorem integer_word (word : BitVec 32) (there : slot argv n = janetInteger word.toInt) :
    janetGetinteger argv n = .ok word.toInt := by
  have least := BitVec.le_toInt word
  have bound := BitVec.toInt_lt (x := word)
  have inside : int32Min ≤ word.toInt ∧ word.toInt ≤ int32Max := by
    unfold int32Min int32Max
    omega
  simp [janetGetinteger,there,janetInteger,Number.int32?,inside]

-- The name an enum member is decoded to is the name that finds its value again.
theorem enum_read (live : obj ≠ 0) (indexed : Indexed table)
    (inside : (env.word obj struct member).toNat < keyDefCount table) : ∃ name,
      (Access.enumKey member table guarded).read env struct obj = .ok (.keyword name) ∧
      ∀ argv n, slot argv n = .keyword name →
        ∃ key, jlGetKeyDef argv n table = .ok key ∧ BitVec.ofInt 32 key = env.word obj struct member := by
  obtain ⟨entry,found,name,named,key,searched⟩ := indexed _ inside
  have raw : uint32 (env.mem.bits obj struct member) = (env.word obj struct member).toNat := by
    rw [Env.word,BitVec.toNat_ofNat]
    rfl
  have selected : keyAt table (env.word obj struct member).toNat = .ok (.keyword name) := by
    rw [keyAt,Option.mem_def.mp found]
    exact congrArg janetCkeywordv (Option.mem_def.mp named)
  refine ⟨name,?_,?_⟩
  · simp only [Access.read,Env.readBits_live _ live,Res.bind_ok,raw,selected]
    cases guarded with
    | none => rfl
    | some message => exact if_neg (Nat.not_le.mpr inside)
  · intro argv n there
    refine ⟨entry.key,?_,?_⟩
    · simp only [jlGetKeyDef,janetGetkeyword,there,Res.bind_ok,searched]
    · rw [key,BitVec.ofInt_natCast,ofNat_toNat_word]

theorem wrapped_pointer (there : slot argv n = wrapped self obj type) : jlGetAbsObjPointer argv n type = .ok obj := by
  simp [jlGetAbsObjPointer,janetGetabstract,there,wrapped,jlPointerToAbsObj,Payload.firstWord]

theorem seat_target (given : wrapped cell seat .jwlrAtWlrSeat :: rest = argv) :
    jlGetAbsObjPointer argv 0 .jwlrAtWlrSeat = .ok seat := by
  subst given
  exact wrapped_pointer rfl

theorem enum_field (found : type.getMethod = some method) (tables : method.signals = none ∧ method.lists = none)
    (apart : method.inPlace = false) (branch : method.branch kw = some (.enumKey member table guarded))
    (live : obj ≠ 0) (indexed : Indexed table)
    (inside : (env.word obj method.struct member).toNat < keyDefCount table) : ∃ name,
      field env (wrapped self obj type) kw = .ok (.keyword name) ∧
      ∀ argv n, slot argv n = .keyword name →
        ∃ key, jlGetKeyDef argv n table = .ok key ∧ BitVec.ofInt 32 key = env.word obj method.struct member := by
  obtain ⟨name,read,back⟩ := enum_read live indexed inside
  exact ⟨name,(field_read found tables apart branch).trans read,back⟩

theorem key_forwarded (live : event ≠ 0)
    (known : (env.word event "wlr_keyboard_key_event" "state").toNat < 2) :
    forwardKey scan env (wrapped cell seat .jwlrAtWlrSeat) (wrapped self event .jwlrAtWlrKeyboardKeyEvent) =
      .ok (.seatKeyboardNotifyKey seat (env.word event "wlr_keyboard_key_event" "time_msec")
        (env.word event "wlr_keyboard_key_event" "keycode") (env.word event "wlr_keyboard_key_event" "state"),
        .nil) := by
  have time : field env (wrapped self event .jwlrAtWlrKeyboardKeyEvent) "time-msec" = _ :=
    (field_read rfl ⟨rfl,rfl⟩ rfl rfl).trans (unsigned_read live)
  have keycode : field env (wrapped self event .jwlrAtWlrKeyboardKeyEvent) "keycode" = _ :=
    (field_read rfl ⟨rfl,rfl⟩ rfl rfl).trans (unsigned_read live)
  have indexed : Indexed wlKeyboardKeyStateDefs := enum_tables_indexed .keyboardKeyState
  obtain ⟨name,state,back⟩ : ∃ name,
      field env (wrapped self event .jwlrAtWlrKeyboardKeyEvent) "state" = .ok (.keyword name) ∧ _ :=
    enum_field rfl ⟨rfl,rfl⟩ rfl rfl live indexed known
  simp only [forwardKey,time,keycode,state,Res.bind_ok]
  generalize given : [wrapped cell seat .jwlrAtWlrSeat,_,_,_] = argv
  have arity : janetFixarity argv 4 = .ok () := by rw [← given]; rfl
  have target := seat_target given
  obtain ⟨t,gotTime,sameTime⟩ := boxed_word scan (show slot argv 1 = _ by rw [← given]; rfl)
  obtain ⟨k,gotKeycode,sameKeycode⟩ := boxed_word scan (show slot argv 2 = _ by rw [← given]; rfl)
  obtain ⟨key,gotState,sameState⟩ := back argv 3 (by rw [← given]; rfl)
  simp only [cfunWlrSeatKeyboardNotifyKey,arity,target,gotTime,gotKeycode,gotState,Res.bind_ok,sameTime,
    sameKeycode,sameState,Res.pure_ok]
  rfl

theorem button_forwarded (live : event ≠ 0)
    (known : (env.word event "wlr_pointer_button_event" "state").toNat < 2) :
    forwardButton scan env (wrapped cell seat .jwlrAtWlrSeat) (wrapped self event .jwlrAtWlrPointerButtonEvent)
        serial =
      .ok (.seatPointerNotifyButton seat (env.word event "wlr_pointer_button_event" "time_msec")
        (env.word event "wlr_pointer_button_event" "button") (env.word event "wlr_pointer_button_event" "state"),
        janetInteger serial.toInt) := by
  have time : field env (wrapped self event .jwlrAtWlrPointerButtonEvent) "time-msec" = _ :=
    (field_read rfl ⟨rfl,rfl⟩ rfl rfl).trans (unsigned_read live)
  have button : field env (wrapped self event .jwlrAtWlrPointerButtonEvent) "button" = _ :=
    (field_read rfl ⟨rfl,rfl⟩ rfl rfl).trans (unsigned_read live)
  have indexed : Indexed wlrButtonStateDefs := enum_tables_indexed .buttonState
  obtain ⟨name,state,back⟩ : ∃ name,
      field env (wrapped self event .jwlrAtWlrPointerButtonEvent) "state" = .ok (.keyword name) ∧ _ :=
    enum_field rfl ⟨rfl,rfl⟩ rfl rfl live indexed known
  simp only [forwardButton,time,button,state,Res.bind_ok]
  generalize given : [wrapped cell seat .jwlrAtWlrSeat,_,_,_] = argv
  have arity : janetFixarity argv 4 = .ok () := by rw [← given]; rfl
  have target := seat_target given
  obtain ⟨t,gotTime,sameTime⟩ := boxed_word scan (show slot argv 1 = _ by rw [← given]; rfl)
  obtain ⟨b,gotButton,sameButton⟩ := boxed_word scan (show slot argv 2 = _ by rw [← given]; rfl)
  obtain ⟨key,gotState,sameState⟩ := back argv 3 (by rw [← given]; rfl)
  simp only [cfunWlrSeatPointerNotifyButton,arity,target,gotTime,gotButton,gotState,Res.bind_ok,
    sameTime,sameButton,sameState,Res.pure_ok,CType.toInt32,ofNat_toNat_word]
  rfl

theorem axis_forwarded (live : event ≠ 0)
    (known : (env.word event "wlr_pointer_axis_event" "orientation").toNat < 2)
    (sourced : (env.word event "wlr_pointer_axis_event" "source").toNat < 4) :
    forwardAxis scan env (wrapped cell seat .jwlrAtWlrSeat) (wrapped self event .jwlrAtWlrPointerAxisEvent) =
      .ok (.seatPointerNotifyAxis seat (env.word event "wlr_pointer_axis_event" "time_msec")
        (env.word event "wlr_pointer_axis_event" "orientation") (env.mem.num event "wlr_pointer_axis_event" "delta")
        (env.word event "wlr_pointer_axis_event" "delta_discrete")
        (env.word event "wlr_pointer_axis_event" "source"),.nil) := by
  have time : field env (wrapped self event .jwlrAtWlrPointerAxisEvent) "time-msec" = _ :=
    (field_read rfl ⟨rfl,rfl⟩ rfl rfl).trans (unsigned_read live)
  have sides : Indexed wlrAxisOrientationDefs := enum_tables_indexed .axisOrientation
  obtain ⟨axis,orientation,axisBack⟩ : ∃ name,
      field env (wrapped self event .jwlrAtWlrPointerAxisEvent) "orientation" = .ok (.keyword name) ∧ _ :=
    enum_field rfl ⟨rfl,rfl⟩ rfl rfl live sides known
  have delta : field env (wrapped self event .jwlrAtWlrPointerAxisEvent) "delta" = _ :=
    (field_read rfl ⟨rfl,rfl⟩ rfl rfl).trans (number_read live)
  have deltaDiscrete : field env (wrapped self event .jwlrAtWlrPointerAxisEvent) "delta-discrete" = _ :=
    (field_read rfl ⟨rfl,rfl⟩ rfl rfl).trans (integer_read live (.inl rfl))
  have origins : Indexed wlrAxisSourceDefs := enum_tables_indexed .axisSource
  obtain ⟨origin,source,sourceBack⟩ : ∃ name,
      field env (wrapped self event .jwlrAtWlrPointerAxisEvent) "source" = .ok (.keyword name) ∧ _ :=
    enum_field rfl ⟨rfl,rfl⟩ rfl rfl live origins sourced
  simp only [forwardAxis,time,orientation,delta,deltaDiscrete,source,Res.bind_ok]
  generalize given : [wrapped cell seat .jwlrAtWlrSeat,_,_,_,_,_] = argv
  have arity : janetFixarity argv 6 = .ok () := by rw [← given]; rfl
  have target := seat_target given
  obtain ⟨t,gotTime,sameTime⟩ := boxed_word scan (show slot argv 1 = _ by rw [← given]; rfl)
  obtain ⟨side,gotSide,sameSide⟩ := axisBack argv 2 (by rw [← given]; rfl)
  have gotDelta := number_slot (show slot argv 3 = _ by rw [← given]; rfl)
  have gotDiscrete := integer_word _ (show slot argv 4 = _ by rw [← given]; rfl)
  obtain ⟨key,gotSource,sameSource⟩ := sourceBack argv 5 (by rw [← given]; rfl)
  simp only [cfunWlrSeatPointerNotifyAxis,arity,target,gotTime,gotSide,gotDelta,gotDiscrete,
    gotSource,Res.bind_ok,sameTime,sameSide,sameSource,BitVec.ofInt_toInt,Res.pure_ok]
  rfl

theorem motion_forwarded (live : event ≠ 0) :
    forwardMotion scan env (wrapped cell seat .jwlrAtWlrSeat) (wrapped self event .jwlrAtWlrPointerMotionEvent) =
      .ok (.seatPointerNotifyMotion seat (env.word event "wlr_pointer_motion_event" "time_msec")
        (env.mem.num event "wlr_pointer_motion_event" "delta_x")
        (env.mem.num event "wlr_pointer_motion_event" "delta_y"),.nil) := by
  have time : field env (wrapped self event .jwlrAtWlrPointerMotionEvent) "time-msec" = _ :=
    (field_read rfl ⟨rfl,rfl⟩ rfl rfl).trans (unsigned_read live)
  have deltaX : field env (wrapped self event .jwlrAtWlrPointerMotionEvent) "delta-x" = _ :=
    (field_read rfl ⟨rfl,rfl⟩ rfl rfl).trans (number_read live)
  have deltaY : field env (wrapped self event .jwlrAtWlrPointerMotionEvent) "delta-y" = _ :=
    (field_read rfl ⟨rfl,rfl⟩ rfl rfl).trans (number_read live)
  simp only [forwardMotion,time,deltaX,deltaY,Res.bind_ok]
  generalize given : [wrapped cell seat .jwlrAtWlrSeat,_,_,_] = argv
  have arity : janetFixarity argv 4 = .ok () := by rw [← given]; rfl
  have target := seat_target given
  obtain ⟨t,gotTime,sameTime⟩ := boxed_word scan (show slot argv 1 = _ by rw [← given]; rfl)
  have gotX := number_slot (show slot argv 2 = _ by rw [← given]; rfl)
  have gotY := number_slot (show slot argv 3 = _ by rw [← given]; rfl)
  simp only [cfunWlrSeatPointerNotifyMotion,arity,target,gotTime,gotX,gotY,Res.bind_ok,sameTime,Res.pure_ok]
  rfl

theorem serial_field (found : type.getMethod = some method) (named : method.struct = struct)
    (tables : method.signals = none ∧ method.lists = none) (apart : method.inPlace = false)
    (branch : method.branch "serial" = some (.integer .uint32 "serial")) (live : obj ≠ 0) :
    field env (wrapped self obj type) "serial" = .ok (janetInteger (env.word obj struct "serial").toInt) := by
  rw [field_read found tables apart branch,named]
  exact integer_read live (.inr rfl)

theorem serial_read (listed : (type,struct) ∈ serialEvents) (live : obj ≠ 0) :
    field env (wrapped self obj type) "serial" = .ok (janetInteger (env.word obj struct "serial").toInt) := by
  simp only [serialEvents,List.mem_cons,List.not_mem_nil,or_false,Prod.mk.injEq] at listed
  rcases listed with ⟨rfl,rfl⟩ | ⟨rfl,rfl⟩ | ⟨rfl,rfl⟩
  · exact serial_field rfl rfl ⟨rfl,rfl⟩ rfl rfl live
  · exact serial_field rfl rfl ⟨rfl,rfl⟩ rfl rfl live
  · exact serial_field rfl rfl ⟨rfl,rfl⟩ rfl rfl live

theorem button_result (returned : cfunWlrSeatPointerNotifyButton scan serial argv = .ok (call,value)) :
    value = janetInteger serial.toInt := by
  simp only [cfunWlrSeatPointerNotifyButton,Res.bind_exact,Res.pure_ok,Res.ok.injEq,Prod.mk.injEq] at returned
  obtain ⟨_,_,_,_,_,_,_,_,_,_,_,rfl⟩ := returned
  change janetInteger (BitVec.ofNat 32 serial.toNat).toInt = _
  rw [ofNat_toNat_word]

-- Wherever it comes from, a serial is held as the same number.
theorem serial_number (held : Serial scan value s) : value = janetInteger s.toInt := by
  cases held with
  | event listed live read =>
      rw [serial_read listed live] at read
      cases read
      rfl
  | button returned => exact button_result returned

theorem serial_distinct (left right : BitVec 32) :
    janetInteger left.toInt = janetInteger right.toInt ↔ left = right := by
  simp only [janetInteger,Janet.number.injEq,Number.finite.injEq,Rat.intCast_inj]
  exact BitVec.toInt_inj

theorem lossless_forwarding (scan : List UInt8 → Option (BitVec 64)) : LosslessForwarding scan where
  key := fun _ _ _ _ _ live known => key_forwarded live known
  button := fun _ _ _ _ _ _ live known => button_forwarded live known
  axis := fun _ _ _ _ _ live known sourced => axis_forwarded live known sourced
  motion := fun _ _ _ _ _ live => motion_forwarded live
  readable := fun _ _ _ _ _ listed live => ⟨_,serial_read listed live⟩
  distinct := by
    intro left right s t leftHeld rightHeld
    rw [serial_number leftHeld,serial_number rightHeld]
    exact serial_distinct s t
  selected := by
    intro value s held cell seat self source
    rw [serial_number held]
    constructor
    · generalize given : [wrapped cell seat .jwlrAtWlrSeat,_,_] = argv
      have arity : janetFixarity argv 3 = .ok () := by rw [← given]; rfl
      have target := seat_target given
      have second : slot argv 1 = wrapped self source .jwlrAtWlrDataSource := by rw [← given]; rfl
      have serial := integer_word s (show slot argv 2 = _ by rw [← given]; rfl)
      simp only [cfunWlrSeatSetSelection,arity,target,second,wrapped,serial,Res.bind_ok]
      rw [wrapped_pointer second]
      simp [BitVec.ofInt_toInt]
    · generalize given : [wrapped cell seat .jwlrAtWlrSeat,_,_] = argv
      have arity : janetFixarity argv 3 = .ok () := by rw [← given]; rfl
      have target := seat_target given
      have second : slot argv 1 = .nil := by rw [← given]; rfl
      have serial := integer_word s (show slot argv 2 = _ by rw [← given]; rfl)
      simp [cfunWlrSeatSetSelection,arity,target,second,serial,BitVec.ofInt_toInt]

end Janetland
