import Mathlib.Tactic.Ring
import Janetland.LogBuffers
import Janetland.Identity
import Janetland.Keysyms.Numerals

namespace Janetland
open Keysyms (bytes denoted digitLookup digitValue Digits)

namespace JanetBuffer

-- *c++ = byte; a byte behind the capacity is not the buffer's.
def write (buffer : JanetBuffer) (c : Nat) (byte : UInt8) : Res JanetBuffer :=
  if c < buffer.capacity then .ok { buffer with data := fun i => if i = c then some byte else buffer.data i }
  else .fault .badRead

-- The bytes from `c` on replaced.
def filled (buffer : JanetBuffer) (c : Nat) (text : List UInt8) : JanetBuffer :=
  { buffer with data := fun i => if c ≤ i ∧ i < c + text.length then text[i-c]? else buffer.data i }

structure Sound (buffer : JanetBuffer) : Prop where
  counted : 0 ≤ buffer.count
  held : buffer.count ≤ buffer.capacity
  bounded : buffer.capacity ≤ int32Max

-- The text stands behind what was there, inside of the capacity, and nothing else changed.
structure Appended (before after : JanetBuffer) (text : List UInt8) : Prop where
  counted : after.count = before.count + text.length
  room : after.count ≤ after.capacity
  whole : ∀ i, ∀ inside : i < text.length, after.data (before.count.toNat + i) = some text[i]
  kept : ∀ i : Nat, i < before.count ∨ after.count ≤ i → after.data i = before.data i

theorem ensured_count (growth : Growth) (buffer : JanetBuffer) (capacity : Nat) :
    (buffer.janetBufferEnsure growth capacity).count = buffer.count := by
  unfold janetBufferEnsure
  split <;> rfl

theorem ensured_data (growth : Growth) (buffer : JanetBuffer) (capacity : Nat) :
    (buffer.janetBufferEnsure growth capacity).data = buffer.data := by
  unfold janetBufferEnsure
  split <;> rfl

@[simp] theorem filled_capacity (buffer : JanetBuffer) (c : Nat) (text : List UInt8) :
    (buffer.filled c text).capacity = buffer.capacity := rfl

@[simp] theorem filled_nil (buffer : JanetBuffer) (c : Nat) : buffer.filled c [] = buffer := by
  have same : (fun i => if c ≤ i ∧ i < c + 0 then ([] : List UInt8)[i-c]? else buffer.data i) = buffer.data := by
    funext i
    exact if_neg (by omega)
  exact congrArg (fun data => ({ buffer with data := data } : JanetBuffer)) same

theorem filled_filled (buffer : JanetBuffer) (c : Nat) (first second : List UInt8) :
    (buffer.filled c first).filled (c + first.length) second = buffer.filled c (first ++ second) := by
  unfold filled
  congr 1
  funext i
  simp only [List.length_append]
  by_cases low : i < c + first.length
  · by_cases start : c ≤ i
    · rw [if_neg (by omega),if_pos ⟨start,low⟩,if_pos ⟨start,by omega⟩,List.getElem?_append_left (by omega)]
    · rw [if_neg (by omega),if_neg (by omega),if_neg (by omega)]
  · by_cases high : i < c + first.length + second.length
    · rw [if_pos ⟨by omega,high⟩,if_pos ⟨by omega,by omega⟩,List.getElem?_append_right (by omega)]
      congr 1
      omega
    · rw [if_neg (by omega),if_neg (by omega),if_neg (by omega)]

theorem write_filled (buffer : JanetBuffer) (byte : UInt8) (inside : c < buffer.capacity) :
    buffer.write c byte = .ok (buffer.filled c [byte]) := by
  rw [write,if_pos inside,filled]
  congr 2
  funext i
  by_cases same : i = c
  · simp [same]
  · rw [if_neg same,if_neg (by simp; omega)]

theorem Appended.unique {before after : JanetBuffer} (one : Appended before after text)
    (two : Appended before after other) : text = other := by
  have long : text.length = other.length := by
    have first := one.counted
    have second := two.counted
    omega
  apply List.ext_getElem long
  intro i inside also
  exact Option.some.inj ((one.whole i inside).symm.trans (two.whole i also))

end JanetBuffer

open JanetBuffer

-- __hex_chars
def hexChar (i : Nat) : UInt8 := (bytes "0123456789ABCDEF").getD i 0

-- The union of a pointer with its bytes, the lowest byte first.
def pointerByte (pointer : Addr) (i : Nat) : UInt8 := UInt8.ofNat (pointer >>> (8 * i))

-- The loop from __POINTSIZE down, with the cursor.
def addrLoop (pointer : Addr) : Nat → Nat → JanetBuffer → Res (Nat × JanetBuffer)
  | 0,c,buffer => .ok (c,buffer)
  | i+1,c,buffer => do
    let byte := pointerByte pointer i
    let buffer ← buffer.write c (hexChar (byte >>> 4).toNat)
    let buffer ← buffer.write (c+1) (hexChar (byte &&& 15).toNat)
    addrLoop pointer i (c+2) buffer

-- buffer->count + __BUFSIZE is a sum of int32_t. A 64-bit build prints six bytes.
def addrDescription (growth : Growth) (buffer : JanetBuffer) (pointer : Addr) : Res JanetBuffer :=
  if int32Max < buffer.count + 20 then .fault .overflow
  else do
    let buffer := buffer.janetBufferEnsure growth (buffer.count + 20).toNat
    let c := buffer.count.toNat
    let buffer ← buffer.write c 48
    let buffer ← buffer.write (c+1) 120
    let (c,buffer) ← addrLoop pointer 6 (c+2) buffer
    return { buffer with count := c }

def methodWlrAbsObjTostring (growth : Growth) (p : Abstract) (buf : JanetBuffer) : Res JanetBuffer :=
  addrDescription growth buf p.payload.firstWord

def AbsType.tostringMethod : AbsType → Option (Growth → Abstract → JanetBuffer → Res JanetBuffer)
  | .jwlrAtWlrSurface | .jwlrAtWlrXdgSurface | .jwlrAtWlrSceneNode | .jwlrAtWlrInputDevice
  | .jwlrAtWlrXwaylandSurface => some methodWlrAbsObjTostring
  | _ => none

-- What the loop writes for the lowest `i` bytes.
def hexText (pointer : Addr) : Nat → List UInt8
  | 0 => []
  | i+1 => hexChar (pointerByte pointer i >>> 4).toNat :: hexChar (pointerByte pointer i &&& 15).toNat ::
    hexText pointer i

-- 0x and twelve upper-case digits that denote the address.
structure AddressText (pointer : Addr) (text : List UInt8) : Prop where
  prefixed : text.take 2 = bytes "0x"
  long : text.length = 14
  upper : ∀ digit ∈ text.drop 2, digit ∈ bytes "0123456789ABCDEF"
  value : denoted 16 (text.drop 2) = pointer

section
variable {growth : Growth} {buffer : JanetBuffer} {pointer : Addr}

theorem hexChar_digit : ∀ i < 16, digitValue (hexChar i) = i ∧ hexChar i ∈ bytes "0123456789ABCDEF" ∧
    digitLookup (hexChar i) = some i := by
  decide

theorem upper_digit : ∀ digit ∈ bytes "0123456789ABCDEF", ∃ i < 16, digitLookup digit = some i := by
  intro digit member
  obtain ⟨i,inside,rfl⟩ := List.mem_iff_getElem.mp member
  have small : i < 16 := inside
  have found := (hexChar_digit i small).2.2
  rw [hexChar,List.getD_eq_getElem?_getD,List.getElem?_eq_getElem inside] at found
  exact ⟨i,small,found⟩

theorem halves (byte : UInt8) : (byte >>> 4).toNat < 16 ∧ (byte &&& 15).toNat < 16 ∧
    16 * (byte >>> 4).toNat + (byte &&& 15).toNat = byte.toNat := by
  have high : (byte >>> 4).toNat = byte.toNat / 16 := by simp [Nat.shiftRight_eq_div_pow]
  have low : (byte &&& 15).toNat = byte.toNat % 16 := by
    simpa using Nat.and_two_pow_sub_one_eq_mod byte.toNat 4
  have small := byte.toNat_lt
  omega

theorem hexText_length (pointer : Addr) (i : Nat) : (hexText pointer i).length = 2 * i := by
  induction i with
  | zero => rfl
  | succ i ih => simp [hexText,ih]; omega

theorem hexText_upper (pointer : Addr) (i : Nat) :
    ∀ digit ∈ hexText pointer i, digit ∈ bytes "0123456789ABCDEF" := by
  induction i with
  | zero => simp [hexText]
  | succ i ih =>
      obtain ⟨high,low,_⟩ := halves (pointerByte pointer i)
      intro digit member
      rcases List.mem_cons.mp member with rfl | later
      · exact (hexChar_digit _ high).2.1
      · rcases List.mem_cons.mp later with rfl | rest
        · exact (hexChar_digit _ low).2.1
        · exact ih digit rest

-- The digits of the lowest `i` bytes denote the address modulo 256^i.
theorem denoted_hexText (pointer : Addr) (i : Nat) : denoted 16 (hexText pointer i) = pointer % 256 ^ i := by
  induction i with
  | zero => simp [hexText,denoted,Nat.mod_one]
  | succ i ih =>
      obtain ⟨high,low,whole⟩ := halves (pointerByte pointer i)
      have byte : (pointerByte pointer i).toNat = pointer / 256 ^ i % 256 := by
        simp [pointerByte,Nat.shiftRight_eq_div_pow,Nat.pow_mul]
      have power : 16 ^ (hexText pointer i).length = 256 ^ i := by
        rw [hexText_length,Nat.pow_mul]
      rw [hexText,Keysyms.denoted_cons,Keysyms.denoted_cons,ih,List.length_cons,Nat.pow_succ,power,
        (hexChar_digit _ high).1,(hexChar_digit _ low).1,Nat.mod_pow_succ,← byte,← whole]
      ring

theorem addrLoop_writes (pointer : Addr) (i : Nat) (room : c + 2 * i ≤ buffer.capacity) :
    addrLoop pointer i c buffer = .ok (c + 2 * i,buffer.filled c (hexText pointer i)) := by
  induction i generalizing c buffer with
  | zero => simp [addrLoop,hexText]
  | succ i ih =>
      let high := hexChar (pointerByte pointer i >>> 4).toNat
      let low := hexChar (pointerByte pointer i &&& 15).toNat
      have first : buffer.write c high = .ok (buffer.filled c [high]) := write_filled buffer high (by omega)
      have second : (buffer.filled c [high]).write (c+1) low = .ok (buffer.filled c [high,low]) := by
        rw [write_filled _ low (by rw [filled_capacity]; omega)]
        exact congrArg Res.ok (filled_filled buffer c [high] [low])
      have later : addrLoop pointer i (c+2) (buffer.filled c [high,low]) =
          .ok (c + 2 + 2 * i,(buffer.filled c [high,low]).filled (c+2) (hexText pointer i)) :=
        ih (by rw [filled_capacity]; omega)
      have joined : (buffer.filled c [high,low]).filled (c+2) (hexText pointer i) =
          buffer.filled c (hexText pointer (i+1)) := filled_filled buffer c [high,low] (hexText pointer i)
      have cursor : c + 2 + 2 * i = c + 2 * (i + 1) := by omega
      rw [addrLoop]
      simp only [first,second,Res.bind_ok,later,joined,cursor,high,low]

def addressText (pointer : Addr) : List UInt8 := 48 :: 120 :: hexText pointer 6

theorem addressText_length (pointer : Addr) : (addressText pointer).length = 14 := by
  simp [addressText,hexText_length]

-- What a description leaves of a buffer that has room for it.
theorem description_writes (sound : buffer.Sound) (room : buffer.count + 20 ≤ int32Max) :
    addrDescription growth buffer pointer = .ok
      { (buffer.janetBufferEnsure growth (buffer.count + 20).toNat).filled buffer.count.toNat (addressText pointer) with
        count := buffer.count + 14 } := by
  have ensured := ensured_room growth buffer (buffer.count + 20).toNat
  have same := ensured_count growth buffer (buffer.count + 20).toNat
  have counted := sound.counted
  rw [addrDescription,if_neg (Int.not_lt.mpr room)]
  generalize buffer.janetBufferEnsure growth (buffer.count + 20).toNat = ready at ensured same
  obtain ⟨c,start⟩ : ∃ c : Nat, buffer.count = c := ⟨buffer.count.toNat,by omega⟩
  rw [start] at same ensured ⊢
  have fits : c + 20 ≤ ready.capacity := by omega
  have first : ready.write c 48 = .ok (ready.filled c [48]) := write_filled ready 48 (by omega)
  have second : (ready.filled c [48]).write (c+1) 120 = .ok (ready.filled c [48,120]) := by
    rw [write_filled _ 120 (by rw [filled_capacity]; omega)]
    exact congrArg Res.ok (filled_filled ready c [48] [120])
  have looped : addrLoop pointer 6 (c+2) (ready.filled c [48,120]) =
      .ok (c + 2 + 2 * 6,(ready.filled c [48,120]).filled (c+2) (hexText pointer 6)) :=
    addrLoop_writes pointer 6 (by rw [filled_capacity]; omega)
  have joined : (ready.filled c [48,120]).filled (c+2) (hexText pointer 6) =
      ready.filled c (addressText pointer) := filled_filled ready c [48,120] (hexText pointer 6)
  simp only [same,Int.toNat_natCast,first,second,Res.bind_ok,looped,joined]
  rfl

theorem description_appended (sound : buffer.Sound) (room : buffer.count + 20 ≤ int32Max) :
    ∃ after, addrDescription growth buffer pointer = .ok after ∧ Appended buffer after (addressText pointer) := by
  have ensured := ensured_room growth buffer (buffer.count + 20).toNat
  have counted := sound.counted
  refine ⟨_,description_writes sound room,?_,?_,?_,?_⟩
  · rw [addressText_length]
    rfl
  · simp only [filled_capacity]
    omega
  · intro i inside
    have shifted : buffer.count.toNat ≤ buffer.count.toNat + i ∧
        buffer.count.toNat + i < buffer.count.toNat + (addressText pointer).length := by omega
    simp only [filled,if_pos shifted,Nat.add_sub_cancel_left]
    exact List.getElem?_eq_getElem inside
  · intro i outside
    have elsewhere : ¬(buffer.count.toNat ≤ i ∧ i < buffer.count.toNat + (addressText pointer).length) := by
      rw [addressText_length]
      dsimp only at outside
      omega
    simp only [filled,if_neg elsewhere,ensured_data]

theorem address_denoted (canonical : pointer < 2 ^ 48) : AddressText pointer (addressText pointer) where
  prefixed := rfl
  long := addressText_length pointer
  upper := hexText_upper pointer 6
  value := by
    have denotes : denoted 16 ((addressText pointer).drop 2) = pointer % 256 ^ 6 := denoted_hexText pointer 6
    rw [denotes]
    exact Nat.mod_eq_of_lt canonical

theorem addressText_told (one : pointer < 2 ^ 48) (two : other < 2 ^ 48) :
    addressText pointer = addressText other ↔ pointer = other := by
  constructor
  · intro same
    have left := (address_denoted one).value
    rwa [same,(address_denoted two).value,eq_comm] at left
  · exact congrArg addressText

-- Janet's own reader takes the text for the address.
theorem address_scanned (canonical : pointer < 2 ^ 48) :
    Keysyms.janetScanNumber (addressText pointer) = some pointer := by
  have digits : Digits 16 (hexText pointer 6) := by
    intro digit member
    obtain ⟨i,small,found⟩ := upper_digit digit (hexText_upper pointer 6 digit member)
    exact ⟨i,found,small⟩
  have some : hexText pointer 6 ≠ [] := by simp [hexText]
  have scanned := Keysyms.scan_hex digits some
  rwa [show denoted 16 (hexText pointer 6) = pointer from (address_denoted canonical).value] at scanned

theorem tostringMethod_only (found : AbsType.tostringMethod type = some method) :
    method = methodWlrAbsObjTostring := by
  cases type <;> simp_all [AbsType.tostringMethod]

-- A wrapper of a type that has a tostring method prints so.
def Prints (growth : Growth) (value : Abstract) (buffer : JanetBuffer) (text : List UInt8) : Prop :=
  ∃ type method after, value.type = .own type ∧ type.tostringMethod = some method ∧
    method growth value buffer = .ok after ∧ Appended buffer after text

theorem described_room (described : addrDescription growth buffer pointer = .ok after) :
    buffer.count + 20 ≤ int32Max := by
  unfold addrDescription at described
  split at described
  · cases described
  · rename_i room
    exact Int.not_lt.mp room

theorem prints_text (sound : buffer.Sound) (prints : Prints growth value buffer text) :
    text = addressText value.payload.firstWord := by
  obtain ⟨_,method,after,_,found,described,appended⟩ := prints
  obtain rfl := tostringMethod_only found
  obtain ⟨same,again,own⟩ : ∃ same, addrDescription growth buffer value.payload.firstWord = .ok same ∧
      Appended buffer same (addressText value.payload.firstWord) :=
    description_appended sound (described_room described)
  obtain rfl : after = same := by
    cases described.symm.trans again
    rfl
  exact appended.unique own

-- Where a type also compares pointers, values print alike exactly when they are equal.
theorem prints_equals {cells : Addr → Addr} {a b : Addr} (compared : type.compareMethod.isSome = true)
    (one : buffer.Sound) (two : elsewhere.Sound) (first : cells a < 2 ^ 48) (second : cells b < 2 ^ 48)
    (left : Prints growth (wrapperAt cells type a) buffer text)
    (right : Prints growth (wrapperAt cells type b) elsewhere printed) :
    text = printed ↔ janetEquals type (wrapperAt cells type a) (wrapperAt cells type b) := by
  have held (self : Addr) : (wrapperAt cells type self).payload.firstWord = cells self := rfl
  rw [equals_exact,identityKey,if_pos compared,identityKey,if_pos compared,prints_text one left,
    prints_text two right,held,held]
  exact addressText_told first second

structure AddressLaw (growth : Growth) (buffer : JanetBuffer) (pointer : Addr) : Prop where
  appends : ∃ after text, addrDescription growth buffer pointer = .ok after ∧ Appended buffer after text ∧
    AddressText pointer text
  -- a wrapper that holds the address, and another wrapper wherever it is printed
  told : ∀ value other elsewhere text printed, value.payload.firstWord = pointer →
    other.payload.firstWord < 2 ^ 48 → elsewhere.Sound → Prints growth value buffer text →
    Prints growth other elsewhere printed → (text = printed ↔ other.payload.firstWord = pointer)

theorem address_printing_exact (growth : Growth) (sound : buffer.Sound) (canonical : pointer < 2 ^ 48) :
    AddressLaw growth buffer pointer ↔ buffer.count + 20 ≤ int32Max := by
  constructor
  · rintro ⟨⟨_,_,described,_⟩,_⟩
    exact described_room described
  · intro room
    obtain ⟨after,described,appended⟩ : ∃ after, addrDescription growth buffer pointer = .ok after ∧
      Appended buffer after (addressText pointer) := description_appended sound room
    refine ⟨⟨after,addressText pointer,described,appended,address_denoted canonical⟩,?_⟩
    rintro value other elsewhere text printed rfl short also one two
    have left : text = addressText value.payload.firstWord := prints_text sound one
    have right : printed = addressText other.payload.firstWord := prints_text also two
    rw [left,right,addressText_told canonical short,eq_comm]

end

-- The address is printed behind a text of four bytes that fills its buffer.
theorem address_printing_exact_behind : AddressLaw exactGrowth ⟨4,4,fun _ => some 97⟩ 140737488355327 :=
  (address_printing_exact exactGrowth ⟨by decide,by decide,by decide⟩ (by decide)).mpr (by decide)

-- 2147483628 bytes and 20 more do not fit in an int32_t.
theorem full_buffer_overflows : ¬∀ (growth : Growth) (buffer : JanetBuffer) (pointer : Addr), buffer.Sound →
    pointer < 2 ^ 48 → AddressLaw growth buffer pointer := by
  intro law
  have sound : JanetBuffer.Sound ⟨2147483628,2147483628,fun _ => some 97⟩ := ⟨by decide,by decide,by decide⟩
  obtain ⟨_,_,described,_⟩ := (law exactGrowth _ 0 sound (by decide)).appends
  exact absurd (described_room described) (by decide)

end Janetland
