import Mathlib.Data.Nat.Digits.Defs

namespace Janetland.Keysyms

-- A literal of the source, all of which are ASCII.
def bytes (text : String) : List UInt8 := text.toList.map fun char => UInt8.ofNat char.toNat

def digitLookup (byte : UInt8) : Option Nat :=
  if 48 ≤ byte ∧ byte ≤ 57 then some (byte.toNat - 48)
  else if 65 ≤ byte ∧ byte ≤ 90 then some (byte.toNat - 55)
  else if 97 ≤ byte ∧ byte ≤ 122 then some (byte.toNat - 87)
  else none

-- Underscores may stand behind a digit.
def scanDigits (base : Nat) : Nat → Bool → List UInt8 → Option Nat
  | value,seenadigit,[] => if seenadigit then some value else none
  | value,seenadigit,byte :: rest =>
    if byte = 95 then
      if seenadigit then scanDigits base value seenadigit rest else none
    else match digitLookup byte with
      | none => none
      | some digit => if digit < base then scanDigits base (base * value + digit) true rest else none

-- `janet_scan_number` for integers without a sign, a radix or an exponent. Those below
-- 2^53 are exact as a double.
def janetScanNumber : List UInt8 → Option Nat
  | 48 :: 120 :: rest => scanDigits 16 0 false rest
  | text => scanDigits 10 0 false text

-- %d
def decimal (n : Nat) : List UInt8 :=
  if n = 0 then [48] else (Nat.digits 10 n).reverse.map fun digit => UInt8.ofNat (48 + digit)

def digitValue (byte : UInt8) : Nat := (digitLookup byte).getD 0

-- What a run of digits denotes.
def denoted (base : Nat) (digits : List UInt8) : Nat := Nat.ofDigits base (digits.reverse.map digitValue)

def Digits (base : Nat) (text : List UInt8) : Prop :=
  ∀ byte ∈ text, ∃ digit, digitLookup byte = some digit ∧ digit < base

theorem scanDigits_fold (digits : Digits base text) (some : seen = true ∨ text ≠ []) (value : Nat) :
    scanDigits base value seen text =
      .some (text.foldl (fun value byte => base * value + digitValue byte) value) := by
  induction text generalizing value seen with
  | nil =>
      have seen := some.resolve_right (by simp)
      simp [scanDigits,seen]
  | cons byte rest ih =>
      obtain ⟨digit,found,small⟩ := digits byte List.mem_cons_self
      have other : byte ≠ 95 := by
        intro same
        rw [same] at found
        simp [digitLookup] at found
      have later := ih (fun byte member => digits byte (.tail _ member)) (.inl rfl)
      rw [scanDigits,if_neg other]
      simp [found,small,later,digitValue]

theorem scanDigits_denoted (digits : Digits base text) (some : text ≠ []) :
    scanDigits base 0 false text = .some (denoted base text) := by
  rw [scanDigits_fold digits (.inr some) 0,denoted,Nat.ofDigits_eq_foldr,List.foldr_map,List.foldr_reverse]
  simp [Nat.add_comm]

theorem scan_hex (digits : Digits 16 text) (some : text ≠ []) :
    janetScanNumber (48 :: 120 :: text) = .some (denoted 16 text) := scanDigits_denoted digits some

theorem denoted_cons (base : Nat) (byte : UInt8) (rest : List UInt8) :
    denoted base (byte :: rest) = base ^ rest.length * digitValue byte + denoted base rest := by
  simp [denoted,Nat.ofDigits_append,Nat.add_comm]

theorem decimal_byte : ∀ digit < 10, digitLookup (UInt8.ofNat (48 + digit)) = some digit := by decide

theorem decimal_known (inside : byte ∈ decimal n) : ∃ digit < 10, byte = UInt8.ofNat (48 + digit) := by
  unfold decimal at inside
  split at inside
  · obtain rfl := List.mem_singleton.mp inside
    exact ⟨0,by decide,by decide⟩
  · obtain ⟨digit,listed,rfl⟩ := List.mem_map.mp inside
    exact ⟨digit,Nat.digits_lt_base (by decide) (List.mem_reverse.mp listed),rfl⟩

theorem decimal_digits (n : Nat) : Digits 10 (decimal n) := by
  intro byte inside
  obtain ⟨digit,small,rfl⟩ := decimal_known inside
  exact ⟨digit,decimal_byte digit small,small⟩

theorem decimal_some (n : Nat) : decimal n ≠ [] := by
  unfold decimal
  split
  · simp
  · rename_i positive
    simpa using Nat.digits_ne_nil_iff_ne_zero.mpr positive

theorem decimal_denoted (n : Nat) : denoted 10 (decimal n) = n := by
  unfold denoted decimal
  split
  · rename_i zero
    rw [zero]
    decide
  · rw [← List.map_reverse,List.reverse_reverse,List.map_map]
    have kept : ∀ digit ∈ Nat.digits 10 n, (digitValue ∘ fun digit => UInt8.ofNat (48 + digit)) digit = digit := by
      intro digit inside
      have found := decimal_byte digit (Nat.digits_lt_base (by decide) inside)
      simp only [Function.comp_apply,digitValue,found,Option.getD_some]
    rw [List.map_congr_left kept,List.map_id',Nat.ofDigits_digits]

theorem scan_decimal (n : Nat) : janetScanNumber (decimal n) = some n := by
  have digits := decimal_digits n
  have scanned := scanDigits_denoted digits (decimal_some n)
  rw [decimal_denoted] at scanned
  unfold janetScanNumber
  split
  · rename_i rest text
    -- an x is no decimal digit
    obtain ⟨digit,found,small⟩ := digits 120 (by rw [text]; simp)
    have large : digitLookup 120 = some 33 := by decide
    obtain rfl := Option.some.inj (found.symm.trans large)
    omega
  · exact scanned

end Janetland.Keysyms
