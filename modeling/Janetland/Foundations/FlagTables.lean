import Mathlib.Data.List.Basic
import Mathlib.Data.List.Nodup

namespace FlagTables

-- A flag table gives labels their keys, words of `w` bits that may be combined.
variable {κ : Type} {w : Nat}

def union : List (BitVec w) → BitVec w
  | [] => 0#w
  | key :: rest => key ||| union rest

-- The labels of the rows whose key shares a bit with the word, in table order.
def decode (word : BitVec w) (table : List (κ × BitVec w)) : List κ :=
  (table.filter fun row => word &&& row.2 ≠ 0#w).map Prod.fst

-- No label stands twice, a key has one bit or none, and no two rows share a bit.
structure Separated (table : List (κ × BitVec w)) : Prop where
  labels : (table.map Prod.fst).Nodup
  single : ∀ row ∈ table, row.2 = 0#w ∨ ∃ i < w, row.2 = BitVec.twoPow w i
  apart : ∀ left ∈ table, ∀ right ∈ table, left.2 = right.2 → left.2 ≠ 0#w → left.1 = right.1

instance [DecidableEq κ] (table : List (κ × BitVec w)) : Decidable (Separated table) :=
  decidable_of_iff ((table.map Prod.fst).Nodup ∧
      (∀ row ∈ table, row.2 = 0#w ∨ ∃ i < w, row.2 = BitVec.twoPow w i) ∧
      ∀ left ∈ table, ∀ right ∈ table, left.2 = right.2 → left.2 ≠ 0#w → left.1 = right.1)
    ⟨fun ⟨labels,single,apart⟩ => ⟨labels,single,apart⟩,fun ⟨labels,single,apart⟩ => ⟨labels,single,apart⟩⟩

theorem union_bit (keys : List (BitVec w)) (i : Nat) :
    (union keys).getLsbD i = keys.any fun key => key.getLsbD i := by
  induction keys with
  | nil => simp [union]
  | cons key rest ih => simp [union,ih]

theorem single_bit (inside : i < w) : (BitVec.twoPow w i).getLsbD j = true ↔ j = i := by
  simp only [BitVec.getLsbD_twoPow,Bool.and_eq_true,decide_eq_true_eq]
  omega

theorem single_set (inside : i < w) : BitVec.twoPow w i ≠ 0#w := by
  intro zero
  have bit := (single_bit inside).mpr (rfl : i = i)
  simp [zero] at bit

-- A one-bit key meets a word exactly if the word has that bit.
theorem single_meets (word : BitVec w) (inside : i < w) :
    word &&& BitVec.twoPow w i ≠ 0#w ↔ word.getLsbD i = true := by
  constructor
  · intro meets
    by_contra missing
    apply meets
    apply BitVec.eq_of_getLsbD_eq
    intro j _
    simp only [BitVec.getLsbD_and,BitVec.getLsbD_zero,Bool.and_eq_false_iff]
    by_cases same : j = i
    · subst same
      exact .inl (Bool.eq_false_iff.mpr missing)
    · exact .inr (Bool.eq_false_iff.mpr fun bit => same ((single_bit inside).mp bit))
  · intro bit zero
    have kept : (word &&& BitVec.twoPow w i).getLsbD i = true := by
      rw [BitVec.getLsbD_and,bit,(single_bit inside).mpr rfl]
      rfl
    simp [zero] at kept

variable {table : List (κ × BitVec w)}

-- A row that owns a bit of the word is met by the word exactly if the word has the bit.
theorem row_meets (separated : Separated table) (member : row ∈ table) (bit : row.2.getLsbD i = true)
    (word : BitVec w) : word &&& row.2 ≠ 0#w ↔ word.getLsbD i = true := by
  rcases separated.single row member with zero | ⟨j,inside,key⟩
  · simp [zero] at bit
  · rw [key] at bit ⊢
    rw [(single_bit inside).mp bit]
    exact single_meets word inside

section
variable [DecidableEq κ]

-- The key a search by label finds first.
def keyOf (table : List (κ × BitVec w)) (label : κ) : BitVec w :=
  ((table.find? fun row => row.1 = label).map Prod.snd).getD 0#w

def encode (table : List (κ × BitVec w)) (labels : List κ) : BitVec w := union (labels.map (keyOf table))

theorem keyOf_row (separated : Separated table) (member : row ∈ table) : keyOf table row.1 = row.2 := by
  unfold keyOf
  cases found : table.find? fun other => other.1 = row.1 with
  | none => simpa using List.find?_eq_none.mp found row member
  | some other =>
      have same : other.1 = row.1 := by simpa using List.find?_some found
      rw [List.inj_on_of_nodup_map separated.labels (List.mem_of_find?_eq_some found) member same]
      rfl

theorem keyOf_bit (bit : (keyOf table label).getLsbD i = true) :
    ∃ row ∈ table, row.1 = label ∧ row.2.getLsbD i = true := by
  unfold keyOf at bit
  cases found : table.find? fun row => row.1 = label with
  | none => simp [found] at bit
  | some row =>
      simp only [found,Option.map_some,Option.getD_some] at bit
      exact ⟨row,List.mem_of_find?_eq_some found,by simpa using List.find?_some found,bit⟩

theorem decode_keys (separated : Separated table) (word : BitVec w) : (decode word table).map (keyOf table) =
    (table.filter fun row => word &&& row.2 ≠ 0#w).map Prod.snd := by
  rw [decode,List.map_map]
  apply List.map_congr_left
  intro row member
  exact keyOf_row separated (List.mem_of_mem_filter member)

-- Encoding what was decoded keeps exactly the bits that the table knows.
theorem encode_decode (separated : Separated table) (word : BitVec w) :
    encode table (decode word table) = word &&& union (table.map Prod.snd) := by
  apply BitVec.eq_of_getLsbD_eq
  intro i inside
  rw [encode,decode_keys separated,union_bit,BitVec.getLsbD_and,union_bit,Bool.eq_iff_iff]
  simp only [List.any_map,List.any_eq_true,List.mem_filter,Function.comp_apply,Bool.and_eq_true,decide_eq_true_eq]
  constructor
  · rintro ⟨row,⟨member,meets⟩,bit⟩
    exact ⟨(row_meets separated member bit word).mp meets,row,member,bit⟩
  · rintro ⟨set,row,member,bit⟩
    exact ⟨row,⟨member,(row_meets separated member bit word).mpr set⟩,bit⟩

theorem encode_meets (separated : Separated table) (member : row ∈ table) (labels : List κ) :
    encode table labels &&& row.2 ≠ 0#w ↔ row.1 ∈ labels ∧ row.2 ≠ 0#w := by
  rcases separated.single row member with zero | ⟨i,inside,key⟩
  · simp [zero]
  · have owned : row.2.getLsbD i = true := by
      rw [key]
      exact (single_bit inside).mpr rfl
    have set : row.2 ≠ 0#w := key ▸ single_set inside
    rw [row_meets separated member owned,encode,union_bit,List.any_map,List.any_eq_true]
    constructor
    · rintro ⟨label,listed,bit⟩
      obtain ⟨other,there,rfl,shared⟩ := keyOf_bit bit
      refine ⟨?_,set⟩
      rcases separated.single other there with zero | ⟨j,within,single⟩
      · simp [zero] at shared
      · rw [single] at shared
        have same : row.2 = other.2 := by rw [key,single,(single_bit within).mp shared]
        rwa [separated.apart row member other there same set]
    · rintro ⟨listed,_⟩
      refine ⟨row.1,listed,?_⟩
      rw [Function.comp_apply,keyOf_row separated member]
      exact owned

-- Decoding what was encoded gives the encoded labels that have a bit, once each.
theorem decode_encode (separated : Separated table) (labels : List κ) : decode (encode table labels) table =
    (table.filter fun row => row.1 ∈ labels ∧ row.2 ≠ 0#w).map Prod.fst := by
  unfold decode
  congr 1
  apply List.filter_congr
  intro row member
  exact decide_eq_decide.mpr (encode_meets separated member labels)

end

end FlagTables
