import Janetland.RootBalance

namespace Janetland
open Marking

namespace State

-- The script itself keeps a handle: it holds the handle, or something it made and that
-- is still reachable does. What this library roots and marks never counts.
def scriptKeeps (s : State) (handle : Addr) : Bool :=
  s.script.contains handle || (marked s.edges s.domain (s.roots ++ s.script)).any fun parent =>
    !(s.heap parent).any Obj.isHandle && (s.edges parent).contains handle

def orphans (s : State) : Event → Bool
  | .collect => !s.registered.all s.scriptKeeps
  | _ => false

end State

-- No C callback will read an object that Janet has freed.
def Alive (s : State) : Prop := ∀ handle ∈ s.registered, handle ∉ s.freed

structure Grounded (base : List Addr) (s : State) : Prop extends Balanced base s where
  rooted : ∀ root ∈ s.roots, Plain s root
  freed : ∀ object ∈ s.freed, object < s.next

variable {s t : State} {base : List Addr}

theorem live_found (live : s.live object = true) : ∃ obj, s.heap object = some obj := by
  simp only [State.live,Bool.and_eq_true] at live
  exact Option.isSome_iff_exists.mp live.1

theorem mem_domain (valid : HeapValid s) : object ∈ s.domain ↔ s.live object = true := by
  simp only [State.domain,List.mem_filter,List.mem_range,and_iff_right_iff_imp]
  intro live
  obtain ⟨obj,found⟩ := live_found live
  exact valid.bounded object obj found

theorem edges_found (child : value ∈ s.edges parent) : s.live parent = true ∧
    ∃ obj, s.heap parent = some obj ∧ value ∈ obj.edges := by
  unfold State.edges at child
  split at child
  · rename_i live
    obtain ⟨obj,found⟩ := live_found live
    rw [found] at child
    exact ⟨live,obj,found,child⟩
  · cases child

theorem reached_exact (valid : HeapValid s) (live : s.live object = true) :
    object ∈ marked s.edges s.domain (s.roots ++ s.script) ↔ Reachable s.edges (s.roots ++ s.script) object := by
  apply marked_exact _ _ _ ?_ ((mem_domain valid).mpr live)
  intro other outside
  rw [mem_domain valid] at outside
  simp [State.edges,outside]

theorem garbage_exact (valid : HeapValid s) : object ∈ s.garbage ↔
    s.live object = true ∧ ¬Reachable s.edges (s.roots ++ s.script) object := by
  simp only [State.garbage,List.mem_filter,decide_eq_true_eq,mem_domain valid]
  exact and_congr_right fun live => not_congr (reached_exact valid live)

-- Roots and handles lead to plain objects only, so a handle is reached through the script.
theorem handle_reached_exact (valid : HeapValid s) (rooted : ∀ root ∈ s.roots, Plain s root)
    (found : s.heap handle = some obj) (isHandle : obj.isHandle = true) :
    Reachable s.edges (s.roots ++ s.script) handle ↔ s.scriptKeeps handle = true := by
  have notPlain : ¬Plain s handle := by
    rintro ⟨other,there,plain⟩
    cases found.symm.trans there
    rw [isHandle] at plain
    cases plain
  simp only [State.scriptKeeps,Bool.or_eq_true,List.contains_iff_mem,List.any_eq_true,Bool.and_eq_true]
  constructor
  · rintro ⟨root,member,path⟩
    cases path with
    | refl =>
        rcases List.mem_append.mp member with old | held
        · exact absurd (rooted handle old) notPlain
        · exact .inl held
    | @tail parent _ earlier child =>
        obtain ⟨live,parentObj,there,inside⟩ := edges_found child
        refine .inr ⟨parent,(reached_exact valid live).mpr ⟨root,member,earlier⟩,?_,child⟩
        cases kind : parentObj.isHandle with
        | false => simp [there,kind]
        | true => exact absurd (valid.wired parent parentObj there kind handle inside) notPlain
  · rintro (held | ⟨parent,seen,_,child⟩)
    · exact .root (List.mem_append_right _ held)
    · exact ((reached_exact valid (edges_found child).1).mp seen).edge child

theorem plain_kept (grows : Grows s t) (plain : Plain s object) : Plain t object := by
  obtain ⟨obj,found,kind⟩ := plain
  obtain ⟨later,after,same,_⟩ := grows.kept object obj found
  exact ⟨later,after,same.trans kind⟩

theorem settled_rooted (grows : Grows s t) (settled : Settled s t) (rooted : ∀ root ∈ s.roots, Plain s root) :
    ∀ root ∈ t.roots, Plain t root := by
  intro root member
  cases settled with
  | quiet _ roots _ => exact plain_kept grows (rooted root (roots ▸ member))
  | opened handle obj taken _ _ made registrable perm roots _ =>
      rw [roots] at member
      rcases List.mem_append.mp member with old | added
      · exact plain_kept grows (rooted root old)
      · exact grows.valid.wired handle obj made (registrable_handle registrable) root (perm.mem_iff.mp added)
  | closed handle obj _ _ roots _ =>
      rw [roots] at member
      exact plain_kept grows (rooted root (List.diff_subset _ _ member))
  | logged cb _ plain roots _ =>
      rw [roots] at member
      rcases List.mem_append.mp member with old | added
      · exact plain_kept grows (rooted root (List.diff_subset _ _ old))
      · cases List.mem_singleton.mp added
        exact plain

theorem effect_rooted (effect : Effect s event t) (rooted : ∀ root ∈ s.roots, Plain s root) :
    ∀ root ∈ t.roots, Plain t root := by
  cases lapses : s.lapses event with
  | true =>
      obtain ⟨handle,lapsed⟩ := effect.lapsed lapses
      intro root member
      exact plain_kept effect.grows (rooted root (lapsed.roots ▸ member))
  | false => exact settled_rooted effect.grows (effect.settled lapses) rooted

theorem grounded_preserved (grounded : Grounded base s) (accepted : step s event = some t) : Grounded base t := by
  have effect := step_effect grounded.heap accepted
  refine ⟨balanced_preserved grounded.toBalanced accepted,effect_rooted effect grounded.rooted,?_⟩
  intro object member
  apply Nat.lt_of_lt_of_le ?_ effect.grows.next
  rcases effect.freed with same | ⟨_,_,freed⟩
  · exact grounded.freed object (same ▸ member)
  · rw [freed] at member
    rcases List.mem_append.mp member with old | collected
    · exact grounded.freed object old
    · obtain ⟨obj,found⟩ := live_found ((garbage_exact grounded.heap).mp collected).1
      exact grounded.heap.bounded object obj found

-- A step registers only what was registered before and what is newly allocated.
theorem effect_registered (effect : Effect s event t) (member : handle ∈ t.registered) :
    handle ∈ s.registered ∨ s.next ≤ handle := by
  cases lapses : s.lapses event with
  | true =>
      obtain ⟨other,lapsed⟩ := effect.lapsed lapses
      exact .inl (lapsed.registered.mem_iff.mpr (List.mem_cons_of_mem _ member))
  | false =>
      cases effect.settled lapses with
      | quiet registered _ _ => exact .inl (registered ▸ member)
      | logged _ registered _ _ _ => exact .inl (registered ▸ member)
      | closed _ _ registered _ _ _ => exact .inl (registered.mem_iff.mpr (List.mem_cons_of_mem _ member))
      | opened added _ _ fresh registered _ _ _ _ _ =>
          rcases List.mem_cons.mp (registered.mem_iff.mp member) with rfl | old
          · exact .inr fresh
          · exact .inl old

theorem collect_alive (grounded : Grounded base s) (alive : Alive s) :
    Alive { s with freed := s.freed ++ s.garbage } ↔ s.orphans .collect = false := by
  have one : ∀ handle ∈ s.registered, handle ∉ s.freed ++ s.garbage ↔ s.scriptKeeps handle = true := by
    intro handle member
    obtain ⟨obj,found,registrable⟩ := grounded.handles handle member
    have live : s.live handle = true := by simp [State.live,found,alive handle member]
    rw [← handle_reached_exact grounded.heap grounded.rooted found (registrable_handle registrable),
      List.mem_append,garbage_exact grounded.heap]
    simp [alive handle member,live]
  simp only [State.orphans,Bool.not_eq_false',List.all_eq_true]
  exact forall₂_congr one

theorem alive_step (grounded : Grounded base s) (alive : Alive s) (accepted : step s event = some t) :
    Alive t ↔ s.orphans event = false := by
  have effect := step_effect grounded.heap accepted
  by_cases collecting : event = .collect
  · subst collecting
    simp only [step] at accepted
    split at accepted <;> cases accepted
    exact collect_alive grounded alive
  · have freed : t.freed = s.freed := effect.freed.resolve_right fun collected => collecting collected.1
    have kept : Alive t := by
      intro handle member
      rw [freed]
      rcases effect_registered effect member with old | fresh
      · exact alive handle old
      · exact fun inside => Nat.not_lt.mpr fresh (grounded.freed handle inside)
    have quiet : s.orphans event = false := by cases event <;> first | rfl | exact absurd rfl collecting
    exact ⟨fun _ => quiet,fun _ => kept⟩

-- Registered handles outlive every collection exactly when each collection finds each
-- of them kept by the script; the library itself keeps none.
theorem registrations_alive_exact (start : Start s) : (∀ t ∈ EventRuns.visited step s events, Alive t) ↔
    ∀ row ∈ EventRuns.taken step s events, row.1.orphans row.2 = false := by
  apply EventRuns.gate_exact (Grounded s.roots) Alive (fun t event => t.orphans event = false)
    (fun _ _ _ grounded accepted => grounded_preserved grounded accepted)
    (fun _ _ _ grounded alive accepted => alive_step grounded alive accepted)
  · exact ⟨start_balanced start,start.rooted,by simp [start.freed]⟩
  · intro handle _
    simp [start.freed]

def keptHandleRun : List Event := [
  .call .signalAdd true [signalCell,.function 0],
  .collect,
  .call .signalRemove true [wrapHandle 1 .jwlAtListener],
  .drop 1,
  .collect]

theorem kept_handle_alive : (EventRuns.visited step (opening [.function []]) keptHandleRun).length = 6 ∧
    ∀ t ∈ EventRuns.visited step (opening [.function []]) keptHandleRun, Alive t :=
  ⟨by decide,(registrations_alive_exact (opening_start (by decide))).mpr (by decide)⟩

def droppedHandleRun : List Event := [
  .call .signalAdd true [signalCell,.function 0],
  .drop 1,
  .collect]

theorem dropped_handle_dangles :
    ¬∀ t ∈ EventRuns.visited step (opening [.function []]) droppedHandleRun, Alive t := by
  unfold Alive
  decide

end Janetland
