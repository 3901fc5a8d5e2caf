import Mathlib.Data.List.Basic

namespace SentinelScan

-- How a walk over a declared array of named entries ends: at an entry whose name
-- passes the test, at the unnamed sentinel, or behind the last declared entry.
inductive Outcome (β : Type) where
  | hit (entry : β)
  | stopped
  | overrun
deriving DecidableEq

variable {β κ : Type} (name : β → Option κ) (test : κ → Bool)

def scan : List β → Outcome β
  | [] => .overrun
  | entry :: rest => match name entry with
    | none => .stopped
    | some key => if test key then .hit entry else scan rest

variable {name test}

theorem scan_sentinel (unnamed : name entry = none) : scan name test (entry :: rest) = .stopped := by
  simp [scan,unnamed]

theorem scan_match (named : name entry = some key) (passed : test key = true) :
    scan name test (entry :: rest) = .hit entry := by simp [scan,named,passed]

theorem scan_next (named : name entry = some key) (failed : test key = false) :
    scan name test (entry :: rest) = scan name test rest := by simp [scan,named,failed]

theorem scan_append : scan name test (front ++ rest) = match scan name test front with
    | .overrun => scan name test rest
    | outcome => outcome := by
  induction front with
  | nil => rfl
  | cons head tail ih =>
      cases label : name head with
      | none => rw [List.cons_append,scan_sentinel label,scan_sentinel label]
      | some key =>
          cases hit : test key with
          | true => rw [List.cons_append,scan_match label hit,scan_match label hit]
          | false => rw [List.cons_append,scan_next label hit,scan_next label hit,ih]

-- The walk leaves the array exactly if every declared entry is named and fails the test.
theorem overrun_exact : scan name test table = .overrun ↔
    ∀ entry ∈ table, ∃ key, name entry = some key ∧ test key = false := by
  induction table with
  | nil => simp [scan]
  | cons entry rest ih =>
      cases named : name entry with
      | none => simp [scan_sentinel named,named]
      | some key =>
          cases passed : test key with
          | true => simp [scan_match named passed,named,passed]
          | false => simp [scan_next named passed,ih,named,passed]

theorem terminated (sentinel : entry ∈ table) (unnamed : name entry = none) :
    scan name test table ≠ .overrun := by
  intro overran
  obtain ⟨key,named,_⟩ := overrun_exact.mp overran entry sentinel
  rw [unnamed] at named
  cases named

theorem hit_member (found : scan name test table = .hit entry) :
    entry ∈ table ∧ ∃ key, name entry = some key ∧ test key = true := by
  induction table with
  | nil => cases found
  | cons head rest ih =>
      cases named : name head with
      | none => rw [scan_sentinel named] at found; cases found
      | some key =>
          cases passed : test key with
          | true =>
              rw [scan_match named passed] at found
              cases found
              exact ⟨List.mem_cons_self,key,named,passed⟩
          | false =>
              rw [scan_next named passed] at found
              obtain ⟨member,facts⟩ := ih found
              exact ⟨List.mem_cons_of_mem _ member,facts⟩

-- An entry that passes is found as long as only named entries stand before it.
theorem hit_found (named : ∀ entry ∈ front, name entry ≠ none)
    (member : entry ∈ front) (key : name entry = some value) (passed : test value = true) :
    ∃ found, scan name test (front ++ rest) = .hit found := by
  induction front with
  | nil => cases member
  | cons head tail ih =>
      cases label : name head with
      | none => exact absurd label (named head List.mem_cons_self)
      | some other =>
          cases hit : test other with
          | true => exact ⟨head,scan_match label hit⟩
          | false =>
              rw [List.cons_append,scan_next label hit]
              rcases List.mem_cons.mp member with rfl | later
              · rw [key,Option.some.injEq] at label
                rw [label,hit] at passed
                cases passed
              · exact ih (fun entry inside => named entry (List.mem_cons_of_mem _ inside)) later

end SentinelScan
