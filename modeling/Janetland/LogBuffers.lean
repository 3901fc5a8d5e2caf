import Janetland.Logging

namespace Janetland

-- A JanetBuffer with its memory; `none` stands for a byte that was never written.
structure JanetBuffer where
  count : Int
  capacity : Nat
  data : Nat → Option UInt8

-- How far janet_buffer_ensure(b, c, 1) grows a buffer whose capacity is below c.
structure Growth where
  grow : Nat → Nat → Nat
  enough : ∀ capacity needed, needed ≤ grow capacity needed

namespace JanetBuffer

def janetBuffer (capacity : Nat) : JanetBuffer := ⟨0,capacity,fun _ => none⟩

def janetBufferEnsure (growth : Growth) (buffer : JanetBuffer) (capacity : Nat) : JanetBuffer :=
  if capacity ≤ buffer.capacity then buffer
  else { buffer with capacity := growth.grow buffer.capacity capacity }

-- vsnprintf(buf->data, buf->capacity, ..): at most capacity-1 characters and a NUL.
def print (buffer : JanetBuffer) (text : List UInt8) : JanetBuffer :=
  { buffer with data := fun i =>
      if i < min text.length (buffer.capacity - 1) then text[i]?
      else if i = min text.length (buffer.capacity - 1) ∧ 0 < buffer.capacity then some 0
      else buffer.data i }

-- The bytes that a reader of the buffer sees.
def contents (buffer : JanetBuffer) : List (Option UInt8) := (List.range buffer.count.toNat).map buffer.data

structure Complete (buffer : JanetBuffer) (text : List UInt8) : Prop where
  counted : buffer.count = text.length
  held : text.length ≤ buffer.capacity
  whole : ∀ i, ∀ inside : i < text.length, buffer.data i = some text[i]

theorem ensured_room (growth : Growth) (buffer : JanetBuffer) (capacity : Nat) :
    capacity ≤ (buffer.janetBufferEnsure growth capacity).capacity := by
  unfold janetBufferEnsure
  split
  · assumption
  · exact growth.enough _ _

theorem printed_whole (buffer : JanetBuffer) (fits : text.length < buffer.capacity) (inside : i < text.length) :
    (buffer.print text).data i = some text[i] := by
  have kept : i < min text.length (buffer.capacity - 1) := by omega
  simp only [print,if_pos kept]
  exact List.getElem?_eq_getElem inside

theorem Complete.reads {buffer : JanetBuffer} (complete : buffer.Complete text) :
    buffer.contents = text.map some := by
  apply List.ext_getElem
  · simp [contents,complete.counted]
  · intro i left right
    have inside : i < text.length := by simpa using right
    simpa [contents] using complete.whole i inside

end JanetBuffer

open JanetBuffer

-- A call of the script's log function with the buffer itself.
structure BufferCall where
  callback : Addr
  level : Janet
  buffer : JanetBuffer

section
variable {α : Type} (convert : List UInt8 → α → List UInt8) (growth : Growth)

-- The buffer that jwlr_log_callback fills, or none when vsnprintf fails.
def fillBuffer (fmt : List UInt8) (args : List α) : Res (Option JanetBuffer) :=
  match Directives.format convert fmt args with
  | none => .fault .missingArgument
  | some text =>
    let buf := janetBuffer 256
    let strLen : Int := if int32Max < text.length then -1 else text.length
    if strLen < 0 then .ok none
    else if buf.capacity ≤ strLen then
      if int32Max < strLen + 1 then .fault .overflow
      else .ok (some { (((buf.print text).janetBufferEnsure growth (strLen + 1).toNat).print text) with count := strLen })
    else .ok (some { buf.print text with count := strLen })

def logIntoBuffer (jwlrLogCallbackFn : Option Addr) (importance : Int) (fmt : List UInt8) (args : List α) :
    Res (List BufferCall) := match jwlrLogCallbackFn with
  | none => .ok []
  | some callback =>
    if 4 < importance then panicf "unknown log level: %d" [janetInteger importance]
    else do
      let filled ← fillBuffer convert growth fmt args
      match filled with
      | none => return []
      | some buf => do
        let level ← keyAt logDefs importance.toNat
        return [⟨callback,level,buf⟩]

end

section
variable {α : Type} {convert : List UInt8 → α → List UInt8} {growth : Growth} {fmt text : List UInt8}
  {args : List α} {importance : Int}

theorem fill_complete (rendered : Directives.format convert fmt args = some text) (short : text.length < int32Max) :
    ∃ buf, fillBuffer convert growth fmt args = .ok (some buf) ∧ buf.Complete text := by
  have counted : ¬int32Max < (text.length : Int) := by omega
  have natural : ¬(text.length : Int) < 0 := by omega
  simp only [fillBuffer,rendered,if_neg counted,if_neg natural]
  by_cases large : ((janetBuffer 256).capacity : Int) ≤ text.length
  · have within : ¬int32Max < (text.length : Int) + 1 := by omega
    rw [if_pos large,if_neg within]
    refine ⟨_,rfl,rfl,?_,?_⟩
    · have room := ensured_room growth ((janetBuffer 256).print text) ((text.length : Int) + 1).toNat
      change text.length ≤ (((janetBuffer 256).print text).janetBufferEnsure growth _).capacity
      omega
    · intro i inside
      have room := ensured_room growth ((janetBuffer 256).print text) ((text.length : Int) + 1).toNat
      exact printed_whole _ (by omega) inside
  · rw [if_neg large]
    have fits : text.length < (janetBuffer 256).capacity := by omega
    exact ⟨_,rfl,rfl,Nat.le_of_lt fits,fun i inside => printed_whole _ fits inside⟩

theorem fill_overflows (rendered : Directives.format convert fmt args = some text) (last : text.length = int32Max) :
    fillBuffer convert growth fmt args = .fault .overflow := by
  have counted : ¬int32Max < (text.length : Int) := by omega
  have natural : ¬(text.length : Int) < 0 := by omega
  have large : ((janetBuffer 256).capacity : Int) ≤ text.length := by
    rw [last]
    decide
  have beyond : int32Max < (text.length : Int) + 1 := by omega
  simp only [fillBuffer,rendered,if_neg counted,if_neg natural,if_pos large,if_pos beyond]

-- Every level that passes the guard has a keyword.
theorem level_keyed (low : importance ≤ 4) : ∃ level, keyAt logDefs importance.toNat = .ok level := by
  have small : importance.toNat < 5 := by omega
  have keyed : ∀ i < 5, ∃ level, keyAt logDefs i = .ok level := by
    intro i inside
    match i,inside with
    | 0,_ | 1,_ | 2,_ | 3,_ | 4,_ => exact ⟨_,rfl⟩
  exact keyed _ small

theorem fill_failed (rendered : Directives.format convert fmt args = some text) (long : int32Max < text.length) :
    fillBuffer convert growth fmt args = .ok none := by
  have negative : (-1 : Int) < 0 := by decide
  simp only [fillBuffer,rendered,if_pos long,if_pos negative]

-- The call with its buffer's text, as the script sees it.
def Shows (call : BufferCall) (logged : LogCall) : Prop :=
  logged.callback = call.callback ∧ ∃ text, logged.argv = [call.level,.buffer text] ∧
    call.buffer.contents = text.map some

theorem log_buffers_refine (ran : logIntoBuffer convert growth fn importance fmt args = .ok calls) :
    ∃ logged, jwlrLogCallback convert fn importance fmt args = .ok logged ∧ List.Forall₂ Shows calls logged := by
  cases fn with
  | none =>
      cases ran
      exact ⟨[],rfl,.nil⟩
  | some callback =>
      by_cases high : 4 < importance
      · simp [logIntoBuffer,high,panicf] at ran
      · cases rendered : Directives.format convert fmt args with
        | none => simp [logIntoBuffer,high,fillBuffer,rendered] at ran
        | some text =>
            obtain ⟨level,keyed⟩ := level_keyed (Int.not_lt.mp high)
            rcases Int.lt_trichotomy (text.length : Int) int32Max with short | last | long
            · have completed : ∃ buf, fillBuffer convert growth fmt args = .ok (some buf) ∧ buf.Complete text :=
                fill_complete rendered short
              obtain ⟨buf,filled,complete⟩ := completed
              simp only [logIntoBuffer,if_neg high,filled,keyed,Res.bind_ok,Res.pure_ok,Res.ok.injEq] at ran
              subst ran
              have printed : printAll convert fmt args = .ok ⟨text.length,text⟩ := by
                rw [printAll_rendered rendered,if_neg (by omega),if_neg (by omega)]
              refine ⟨[⟨callback,[level,.buffer text]⟩],?_,.cons ⟨rfl,text,rfl,complete.reads⟩ .nil⟩
              simp [jwlrLogCallback,high,printed,keyed]
            · simp [logIntoBuffer,high,fill_overflows rendered last] at ran
            · simp only [logIntoBuffer,if_neg high,fill_failed rendered long,Res.bind_ok,Res.pure_ok,Res.ok.injEq] at ran
              subst ran
              have printed : printAll convert fmt args = .ok ⟨-1,[]⟩ := by
                rw [printAll_rendered rendered,if_pos long]
              exact ⟨[],by simp [jwlrLogCallback,high,printed],.nil⟩

theorem log_line_exact (convert : List UInt8 → α → List UInt8) (growth : Growth) (callback : Addr)
    (low : importance ≤ 4) (rendered : Directives.format convert fmt args = some text)
    (reported : text.length ≤ int32Max) :
    (∃ call, logIntoBuffer convert growth (some callback) importance fmt args = .ok [call] ∧
      call.callback = callback ∧ call.buffer.Complete text) ↔ text.length < int32Max := by
  obtain ⟨level,keyed⟩ := level_keyed low
  constructor
  · rintro ⟨call,ran,_,complete⟩
    by_contra long
    have last : (text.length : Int) = int32Max := by omega
    simp [logIntoBuffer,Int.not_lt.mpr low,fill_overflows rendered last] at ran
  · intro short
    have completed : ∃ buf, fillBuffer convert growth fmt args = .ok (some buf) ∧ buf.Complete text :=
      fill_complete rendered short
    obtain ⟨buf,filled,complete⟩ := completed
    refine ⟨⟨callback,level,buf⟩,?_,rfl,complete⟩
    simp [logIntoBuffer,Int.not_lt.mpr low,filled,keyed]

end

-- Growth to exactly what was asked for.
def exactGrowth : Growth := ⟨fun _ needed => needed,fun _ _ => Nat.le_refl _⟩

theorem plain_line_complete : Directives.format (fun _ (_ : Unit) => []) [111,107] [] = some [111,107] ∧
    ((∃ call, logIntoBuffer (fun _ (_ : Unit) => []) exactGrowth (some 0) 2 [111,107] [] = .ok [call] ∧
        call.callback = 0 ∧ call.buffer.Complete [111,107]) ↔ ([111,107] : List UInt8).length < int32Max) :=
  ⟨rfl,log_line_exact _ exactGrowth 0 (by decide) rfl (by decide)⟩

theorem plain_format (n : Nat) :
    Directives.format (fun _ (_ : Unit) => []) (List.replicate n 97) [] = some (List.replicate n 97) := by
  apply Directives.format_text_exact.mpr
  intro member
  have same := List.eq_of_mem_replicate member
  revert same
  decide

-- A message of INT32_MAX letters: str_len + 1 does not fit in an int.
theorem longest_line_lost : ¬∀ (growth : Growth) (callback : Addr) (importance : Int) (fmt text : List UInt8),
    importance ≤ 4 → Directives.format (fun _ (_ : Unit) => []) fmt [] = some text → text.length ≤ int32Max →
    ∃ call, logIntoBuffer (fun _ (_ : Unit) => []) growth (some callback) importance fmt [] = .ok [call] ∧
      call.callback = callback ∧ call.buffer.Complete text := by
  intro complete
  obtain ⟨n,last⟩ : ∃ n : Nat, (n : Int) = int32Max := ⟨2147483647,rfl⟩
  have counted : ((List.replicate n (97 : UInt8)).length : Int) = int32Max := by rw [List.length_replicate,last]
  obtain ⟨call,ran,_⟩ := complete exactGrowth 0 2 _ _ (by decide) (plain_format n) (Int.le_of_eq counted)
  simp [logIntoBuffer,fill_overflows (plain_format n) counted] at ran

end Janetland
