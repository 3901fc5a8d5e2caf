import Janetland.Values
import Janetland.Foundations.Collector
import Janetland.Foundations.Registers

namespace Janetland.RuleNames
open EventRuns Registers

-- struct xkb_rule_names, whose members are C strings.
structure XkbRuleNames where
  rules : Addr
  model : Addr
  layout : Addr
  variant : Addr
  options : Addr
deriving DecidableEq

inductive Member where
  | rules | model | layout | variant | options
deriving DecidableEq

def Member.name : Member → String
  | .rules => "rules"
  | .model => "model"
  | .layout => "layout"
  | .variant => "variant"
  | .options => "options"

namespace XkbRuleNames

def zero : XkbRuleNames := ⟨0,0,0,0,0⟩

def get (names : XkbRuleNames) : Member → Addr
  | .rules => names.rules
  | .model => names.model
  | .layout => names.layout
  | .variant => names.variant
  | .options => names.options

def set (names : XkbRuleNames) (member : Member) (value : Addr) : XkbRuleNames := match member with
  | .rules => { names with rules := value }
  | .model => { names with model := value }
  | .layout => { names with layout := value }
  | .variant => { names with variant := value }
  | .options => { names with options := value }

@[simp] theorem get_set (names : XkbRuleNames) (member other : Member) (value : Addr) :
    (names.set member value).get other = if other = member then value else names.get other := by
  cases member <;> cases other <;> rfl

@[simp] theorem get_zero (member : Member) : zero.get member = 0 := by cases member <;> rfl

end XkbRuleNames

-- The objects of Janet's heap: the strings, these structs, and whatever else refers to others.
inductive Object where
  | string (bytes : List UInt8)
  | ruleNames (names : XkbRuleNames)
  | other (refs : List Addr)

def methodXkbRuleNamesGcmark (names : XkbRuleNames) : List Addr :=
  (if names.rules ≠ 0 then [names.rules] else []) ++
  ((if names.model ≠ 0 then [names.model] else []) ++
  ((if names.layout ≠ 0 then [names.layout] else []) ++
  ((if names.variant ≠ 0 then [names.variant] else []) ++
  (if names.options ≠ 0 then [names.options] else []))))

def Object.marks : Object → List Addr
  | .string _ => []
  | .ruleNames names => methodXkbRuleNamesGcmark names
  | .other refs => refs

-- A string never changes, and the type of the structs has no put method.
def Object.constant : Object → Bool
  | .other _ => false
  | _ => true

abbrev JanetHeap := Collector.Heap Addr Object
abbrev janetStep : JanetHeap → Collector.Event Addr Object → Option JanetHeap :=
  Collector.step Object.marks Object.constant

-- `strings` tells where the string of each argument is.
def janetGetcstring (strings : Nat → Addr) (argv : List Janet) (n : Nat) : Res Addr := match slot argv n with
  | .string bytes => if 0 ∈ bytes then panicf "string contains embedded 0s" [] else .ok (strings n)
  | _ => badSlot argv n "string"

def jxkbGetXkbRuleNamesMember (strings : Nat → Addr) (argv : List Janet) (n : Nat) : Res Addr :=
  match slot argv n with
  | .nil => .ok 0
  | .string _ => janetGetcstring strings argv n
  | value => panicf "bad slot #%d: expected string or nil, got %v" [janetInteger n,value]

-- The member that member_p points to.
def memberPointer (kw : String) : Option Member :=
  if janetCstrcmp kw "rules" then some .rules
  else if janetCstrcmp kw "model" then some .model
  else if janetCstrcmp kw "layout" then some .layout
  else if janetCstrcmp kw "variant" then some .variant
  else if janetCstrcmp kw "options" then some .options
  else none

-- The loop from `k` on.
def memberLoop (strings : Nat → Addr) (argv : List Janet) : Nat → Nat → XkbRuleNames → Res XkbRuleNames
  | 0,_,names => .ok names
  | rounds+1,k,names => do
    let kw ← janetGetkeyword argv k
    match memberPointer kw with
    | some member => do
      let value ← jxkbGetXkbRuleNamesMember strings argv (k+1)
      memberLoop strings argv rounds (k+2) (names.set member value)
    | none => panicf "unknown key: %v" [slot argv k]

-- `self` is the address of the new struct. Nothing looks at it before the loop is over.
def cfunXkbRuleNames (heap : JanetHeap) (self : Addr) (strings : Nat → Addr) (argv : List Janet) :
    Res (JanetHeap × Janet) :=
  if argv.length % 2 = 1 then panicf "expected even number of arguments, got %d" [janetInteger argv.length]
  else do
    let names ← memberLoop strings argv (argv.length / 2) 0 .zero
    return (heap.store self (.ruleNames names),.abstract ⟨self,.own .jxkbAtXkbRuleNames,.inlined names.rules⟩)

-- The new struct is not any other object, and the strings of the arguments are.
structure Passed (heap : JanetHeap) (place : Addr) (strings : Nat → Addr) (argv : List Janet) : Prop where
  fresh : heap.objects place = none
  held : slot argv n = .string bytes → strings n ≠ 0 ∧ heap.objects (strings n) = some (.string bytes)

-- The keys that are taken, and the values.
def Keyed (known : String → Prop) : Janet → Prop
  | .keyword kw => known kw
  | _ => False

def Valued : Janet → Prop
  | .nil => True
  | .string bytes => 0 ∉ bytes
  | _ => False

def Refused (known : String → Prop) (argv : List Janet) : Prop := argv.length % 2 = 1 ∨
  ∃ n < argv.length / 2, ¬Keyed known (slot argv (2 * n)) ∨ ¬Valued (slot argv (2 * n + 1))

-- Up to its first NUL the key is the name of a member.
def Names (kw : String) : Prop := ∃ member : Member, cString kw = member.name

-- What a value is as a C string.
def cValue (strings : Nat → Addr) (argv : List Janet) (n : Nat) : Addr := match slot argv n with
  | .string _ => strings n
  | _ => 0

-- The member that pair `n` writes, and what it writes there.
def pairWrite (strings : Nat → Addr) (argv : List Janet) (n : Nat) : Option (Member × Addr) :=
  match slot argv (2 * n) with
  | .keyword kw => (memberPointer kw).map fun member => (member,cValue strings argv (2 * n + 1))
  | _ => none

def pairApply (strings : Nat → Addr) (argv : List Janet) (names : XkbRuleNames) (n : Nat) : XkbRuleNames :=
  match pairWrite strings argv n with
  | some (member,value) => names.set member value
  | none => names

section
variable {heap : JanetHeap} {self : Addr} {strings : Nat → Addr} {argv : List Janet} {names : XkbRuleNames}

theorem memberPointer_exact : memberPointer kw = some member ↔ cString kw = member.name := by
  unfold memberPointer janetCstrcmp
  cases member <;> simp only [beq_iff_eq,Member.name] <;> grind

theorem gcmark_exact : place ∈ methodXkbRuleNamesGcmark names ↔
    place ≠ 0 ∧ ∃ member, names.get member = place := by
  constructor
  · intro marked
    simp only [methodXkbRuleNamesGcmark,List.mem_append,List.mem_ite_nil_right,List.mem_singleton] at marked
    rcases marked with ⟨set,rfl⟩ | ⟨set,rfl⟩ | ⟨set,rfl⟩ | ⟨set,rfl⟩ | ⟨set,rfl⟩
    · exact ⟨set,.rules,rfl⟩
    · exact ⟨set,.model,rfl⟩
    · exact ⟨set,.layout,rfl⟩
    · exact ⟨set,.variant,rfl⟩
    · exact ⟨set,.options,rfl⟩
  · rintro ⟨set,member,rfl⟩
    cases member <;> simp_all [methodXkbRuleNamesGcmark,XkbRuleNames.get]

theorem member_read (valued : Valued (slot argv n)) :
    jxkbGetXkbRuleNamesMember strings argv n = .ok (cValue strings argv n) := by
  unfold jxkbGetXkbRuleNamesMember cValue
  cases value : slot argv n with
  | nil => rfl
  | string bytes =>
      have clean : 0 ∉ bytes := by simpa [value,Valued] using valued
      simp [janetGetcstring,value,clean]
  | _ => simp [value,Valued] at valued

theorem member_panics (bad : ¬Valued (slot argv n)) :
    ∃ error, jxkbGetXkbRuleNamesMember strings argv n = .panic error := by
  unfold jxkbGetXkbRuleNamesMember
  cases value : slot argv n with
  | nil => simp [value,Valued] at bad
  | string bytes =>
      have dirty : 0 ∈ bytes := by simpa [value,Valued] using bad
      exact ⟨⟨"string contains embedded 0s",[]⟩,by simp [janetGetcstring,value,dirty,panicf]⟩
  | _ => exact ⟨_,rfl⟩

-- One round on a pair that is fine, and on one that is not.
theorem round_writes (keyed : Keyed Names (slot argv (2 * n))) (valued : Valued (slot argv (2 * n + 1))) :
    memberLoop strings argv (rounds+1) (2 * n) names =
      memberLoop strings argv rounds (2 * (n + 1)) (pairApply strings argv names n) := by
  cases key : slot argv (2 * n) with
  | keyword kw =>
      rw [key] at keyed
      obtain ⟨member,named⟩ := keyed
      have pointed : memberPointer kw = some member := memberPointer_exact.mpr named
      have keyword : janetGetkeyword argv (2 * n) = .ok kw := by simp [janetGetkeyword,key]
      rw [memberLoop]
      simp only [keyword,pointed,member_read valued,Res.bind_ok,pairApply,pairWrite,key,Option.map_some]
      rfl
  | _ =>
      rw [key] at keyed
      exact keyed.elim

theorem round_panics (bad : ¬Keyed Names (slot argv (2 * n)) ∨ ¬Valued (slot argv (2 * n + 1))) :
    ∃ error, memberLoop strings argv (rounds+1) (2 * n) names = .panic error := by
  rw [memberLoop]
  cases key : slot argv (2 * n) with
  | keyword kw =>
      have keyword : janetGetkeyword argv (2 * n) = .ok kw := by simp [janetGetkeyword,key]
      cases pointed : memberPointer kw with
      | none => exact ⟨⟨"unknown key: %v",[.keyword kw]⟩,by simp [keyword,pointed,panicf]⟩
      | some member =>
          have keyed : Keyed Names (slot argv (2 * n)) := by
            rw [key]
            exact ⟨member,memberPointer_exact.mp pointed⟩
          obtain ⟨error,panicked⟩ : ∃ error, jxkbGetXkbRuleNamesMember strings argv (2 * n + 1) = .panic error :=
            member_panics (bad.resolve_left (not_not_intro keyed))
          exact ⟨error,by simp [keyword,pointed,panicked]⟩
  | _ =>
      obtain ⟨error,missed⟩ : ∃ error, janetGetkeyword argv (2 * n) = .panic error := by
        simp only [janetGetkeyword,key]
        exact ⟨_,rfl⟩
      exact ⟨error,by simp [missed]⟩

theorem loop_writes (fine : ∀ i < rounds, Keyed Names (slot argv (2 * (n + i))) ∧
    Valued (slot argv (2 * (n + i) + 1))) : memberLoop strings argv rounds (2 * n) names =
      .ok ((List.range' n rounds).foldl (pairApply strings argv) names) := by
  induction rounds generalizing n names with
  | zero => rfl
  | succ rounds ih =>
      obtain ⟨keyed,valued⟩ : Keyed Names (slot argv (2 * n)) ∧ Valued (slot argv (2 * n + 1)) :=
        fine 0 (Nat.zero_lt_succ rounds)
      rw [round_writes keyed valued,List.range'_succ,List.foldl_cons]
      apply ih
      intro i inside
      have later := fine (i+1) (Nat.succ_lt_succ inside)
      rwa [show n + (i + 1) = n + 1 + i by omega] at later

theorem loop_panics (bad : ∃ i < rounds, ¬Keyed Names (slot argv (2 * (n + i))) ∨
    ¬Valued (slot argv (2 * (n + i) + 1))) :
    ∃ error, memberLoop strings argv rounds (2 * n) names = .panic error := by
  induction rounds generalizing n names with
  | zero =>
      obtain ⟨_,inside,_⟩ := bad
      exact absurd inside (Nat.not_lt_zero _)
  | succ rounds ih =>
      by_cases first : ¬Keyed Names (slot argv (2 * n)) ∨ ¬Valued (slot argv (2 * n + 1))
      · exact round_panics first
      · simp only [not_or,not_not] at first
        rw [round_writes first.1 first.2]
        apply ih
        obtain ⟨i,inside,broken⟩ := bad
        cases i with
        | zero => exact absurd broken (by simpa using first)
        | succ i =>
            refine ⟨i,Nat.lt_of_succ_lt_succ inside,?_⟩
            rwa [show n + (i + 1) = n + 1 + i by omega] at broken

theorem pair_framed : Framed (pairApply strings argv) (fun _ => pairWrite strings argv) XkbRuleNames.get where
  refused quiet cell := by simp [pairApply,quiet]
  written write := by simp [pairApply,write]
  kept write other apart := by simp [pairApply,write,apart]

-- What a member ends up with: NULL, or the string of an argument.
theorem written_string (held : names.get member ≠ 0)
    (last : LastWritten (pairWrite strings argv) count member 0 (names.get member)) :
    ∃ n bytes, names.get member = strings n ∧ slot argv n = .string bytes := by
  rcases last with ⟨n,_,write,_⟩ | ⟨_,null⟩
  · unfold pairWrite at write
    split at write
    · obtain ⟨_,_,same⟩ := Option.map_eq_some_iff.mp write
      have value : cValue strings argv (2 * n + 1) = names.get member := congrArg Prod.snd same
      unfold cValue at value
      split at value
      · rename_i bytes string
        exact ⟨2 * n + 1,bytes,value.symm,string⟩
      · exact absurd value.symm held
    · cases write
  · exact absurd null held

-- Every collection of the run finds the struct reachable.
def Kept (heap : JanetHeap) (self : Addr) (events : List (Collector.Event Addr Object)) : Prop :=
  ∀ row ∈ taken janetStep heap events, row.2 = .collect → row.1.Reached Object.marks self

-- The struct is in the heap, and so is the string of each member that is set.
structure Alive (strings : Nat → Addr) (argv : List Janet) (names : XkbRuleNames) (place : Addr)
    (later : JanetHeap) : Prop where
  own : later.objects place = some (.ruleNames names)
  member_string : ∀ member, names.get member ≠ 0 → ∃ n bytes, names.get member = strings n ∧
    slot argv n = .string bytes ∧ later.objects (names.get member) = some (.string bytes)

structure Built (heap : JanetHeap) (place : Addr) (strings : Nat → Addr) (argv : List Janet)
    (names : XkbRuleNames) : Prop where
  returned : cfunXkbRuleNames heap place strings argv =
    .ok (heap.store place (.ruleNames names),.abstract ⟨place,.own .jxkbAtXkbRuleNames,.inlined names.rules⟩)
  last : ∀ member, LastWritten (pairWrite strings argv) (argv.length / 2) member 0 (names.get member)
  alive : ∀ events, Kept (heap.store place (.ruleNames names)) place events →
    ∀ later ∈ visited janetStep (heap.store place (.ruleNames names)) events, Alive strings argv names place later

theorem stored_alive (passed : Passed heap self strings argv)
    (last : ∀ member, LastWritten (pairWrite strings argv) count member 0 (names.get member)) :
    Alive strings argv names self (heap.store self (.ruleNames names)) := by
  refine ⟨Collector.store_same,?_⟩
  intro member set
  obtain ⟨n,bytes,same,string⟩ := written_string set (last member)
  have old : heap.objects (names.get member) = some (.string bytes) := same ▸ (passed.held string).2
  have apart : names.get member ≠ self := by
    intro reused
    rw [reused,passed.fresh] at old
    cases old
  exact ⟨n,bytes,same,string,(Collector.store_other apart).trans old⟩

-- What the gcmark method marks is what the members point to, so the collector keeps it.
theorem run_alive (alive : Alive strings argv names self heap) (kept : Kept heap self events) :
    ∀ later ∈ visited janetStep heap events, Alive strings argv names self later := by
  have children : ∀ child ∈ Object.marks (.ruleNames names), ∃ value,
      heap.objects child = some value ∧ value.constant = true := by
    intro child marked
    obtain ⟨set,member,rfl⟩ := gcmark_exact.mp marked
    obtain ⟨_,bytes,_,_,there⟩ := alive.member_string member set
    exact ⟨.string bytes,there,rfl⟩
  intro later reachable
  obtain ⟨own,same⟩ := Collector.run_keeps alive.own rfl children kept later reachable
  refine ⟨own,?_⟩
  intro member set
  obtain ⟨n,bytes,address,string,there⟩ := alive.member_string member set
  exact ⟨n,bytes,address,string,(same _ (gcmark_exact.mpr ⟨set,member,rfl⟩)).trans there⟩

theorem refused_panics (refused : Refused Names argv) :
    ∃ error, cfunXkbRuleNames heap self strings argv = .panic error := by
  by_cases odd : argv.length % 2 = 1
  · exact ⟨_,if_pos odd⟩
  · obtain ⟨error,panicked⟩ : ∃ error,
        memberLoop strings argv (argv.length / 2) (2 * 0) .zero = .panic error :=
      loop_panics (by simpa using refused.resolve_left odd)
    refine ⟨error,?_⟩
    rw [cfunXkbRuleNames,if_neg odd,panicked]
    rfl

theorem accepted_builds (passed : Passed heap self strings argv) (accepted : ¬Refused Names argv) :
    ∃ names, Built heap self strings argv names := by
  simp only [Refused,not_or,not_exists,not_and,not_not] at accepted
  obtain ⟨even,fine⟩ := accepted
  have looped : memberLoop strings argv (argv.length / 2) (2 * 0) .zero =
      .ok ((List.range' 0 (argv.length / 2)).foldl (pairApply strings argv) .zero) :=
    loop_writes fun i inside => by simpa using fine i inside
  rw [← List.range_eq_range'] at looped
  have framed : Framed (pairApply strings argv) (fun _ => pairWrite strings argv) XkbRuleNames.get := pair_framed
  have last (member : Member) := read_range framed .zero member (argv.length / 2)
  simp only [XkbRuleNames.get_zero] at last
  refine ⟨_,?_,last,fun events kept => run_alive (stored_alive passed last) kept⟩
  rw [cfunXkbRuleNames,if_neg even,looped]
  rfl

theorem rule_names_exact (passed : Passed heap self strings argv) :
    ((∃ error, cfunXkbRuleNames heap self strings argv = .panic error) ↔ Refused Names argv) ∧
    (¬Refused Names argv → ∃ names, Built heap self strings argv names) := by
  refine ⟨⟨?_,refused_panics⟩,accepted_builds passed⟩
  rintro ⟨error,panicked⟩
  by_contra accepted
  obtain ⟨names,built⟩ := accepted_builds passed accepted
  rw [built.returned] at panicked
  cases panicked

end

def emptyHeap : JanetHeap := ⟨fun _ => none,[],[],nofun⟩

-- "a" is at 8 and "b" at 16.
def twoStrings : JanetHeap := (emptyHeap.store 8 (.string [97])).store 16 (.string [98])

def overwriting : List Janet :=
  [.keyword "rules",.string [97],.keyword "layout",.nil,.keyword "rules",.string [98]]

theorem overwriting_passed : Passed twoStrings 24 (fun n => if n = 1 then 8 else 16) overwriting where
  fresh := rfl
  held {n bytes} string := by
    match n with
    | 1 =>
        cases string
        exact ⟨by decide,rfl⟩
    | 5 =>
        cases string
        exact ⟨by decide,rfl⟩
    | 0 | 2 | 3 | 4 | _+6 => cases string

theorem rule_names_exact_overwritten :
    ∃ names, Built twoStrings 24 (fun n => if n = 1 then 8 else 16) overwriting names := by
  refine (rule_names_exact overwriting_passed).2 ?_
  rintro (odd | ⟨n,inside,bad⟩)
  · cases odd
  · have named : Names "rules" ∧ Names "layout" := ⟨⟨.rules,by decide⟩,⟨.layout,by decide⟩⟩
    have pairs : n = 0 ∨ n = 1 ∨ n = 2 := by
      have short : n < 3 := inside
      omega
    rcases pairs with rfl | rfl | rfl <;> simp [overwriting,slot,Keyed,Valued,named] at bad

-- janet_cstrcmp stops at the NUL.
theorem longer_name_accepted : ¬∀ heap place strings argv, Passed heap place strings argv →
    ((∃ error, cfunXkbRuleNames heap place strings argv = .panic error) ↔
      Refused (fun kw => ∃ member : Member, kw = member.name) argv) := by
  intro law
  have passed : Passed emptyHeap 8 (fun _ => 16) [.keyword "rules\x00x",.nil] := by
    refine ⟨rfl,?_⟩
    intro n bytes string
    match n with
    | 0 | 1 | _+2 => cases string
  obtain ⟨error,panicked⟩ := (law _ _ _ _ passed).mpr (.inr ⟨0,by decide,.inl (by
    rintro ⟨member,same⟩
    cases member <;> revert same <;> decide)⟩)
  have pointed : memberPointer "rules\x00x" = some .rules := memberPointer_exact.mpr (by decide)
  simp [cfunXkbRuleNames,memberLoop,janetGetkeyword,slot,pointed,jxkbGetXkbRuleNamesMember] at panicked

end Janetland.RuleNames
