import Janetland.GetMethods

namespace Janetland

def GetMethod.tables (method : GetMethod) : List (List OffsetDef) :=
  method.signals.toList ++ method.lists.toList

def NamesEntry (kw : String) (table : List OffsetDef) : Prop :=
  ∃ entry ∈ table, entry.name = some (cString kw)

-- The two tables that were declared without `{NULL, 0}`.
def unterminatedTables : List (List OffsetDef) := [wlrSceneListOffsets,wlrXdgSurfaceListOffsets]

-- Only two get methods scan such a table, one of them after a terminated one.
def ScanStays (kw : String) : AbsType → Prop
  | .jwlrAtWlrScene => NamesEntry kw wlrSceneListOffsets
  | .jwlrAtWlrXdgSurface => NamesEntry kw wlrXdgSurfaceSignalOffsets ∨ NamesEntry kw wlrXdgSurfaceListOffsets
  | _ => True

def ScansBounded : Prop := ∀ type method, AbsType.getMethod type = some method → ∀ kw,
  (∀ table ∈ method.tables, scanOffsets kw table ≠ .overrun) ∧
  ∀ env p, method.run env p (.keyword kw) ≠ .fault .offsetTable

theorem table_sentinels : ∀ type ∈ AbsType.all, ∀ method ∈ type.getMethod, ∀ table ∈ method.tables,
    OffsetDef.null ∈ table ↔ table ∉ unterminatedTables := by decide

theorem unterminated_owners : ∀ type ∈ AbsType.all, ∀ method ∈ type.getMethod,
    type = .jwlrAtWlrScene ∨ type = .jwlrAtWlrXdgSurface ∨
      ∀ table ∈ method.tables, OffsetDef.null ∈ table := by decide

theorem unterminated_scan (missing : OffsetDef.null ∉ table) :
    scanOffsets kw table = .overrun ↔ ¬NamesEntry kw table := by
  rw [offset_overrun_exact]
  simp [NamesEntry,missing]

theorem terminated_scan (ended : OffsetDef.null ∈ table) : scanOffsets kw table ≠ .overrun := by
  intro overran
  exact (offset_overrun_exact.mp overran).1 ended

theorem terminated_outcome {table : Option (List OffsetDef)}
    (ended : ∀ entries ∈ table, OffsetDef.null ∈ entries) : scanOutcome kw table ≠ .overrun := by
  cases table with
  | none => simp [scanOutcome]
  | some entries => exact terminated_scan (ended entries rfl)

theorem branch_keeps_tables (access : Access) (env : Env) (struct : String) (obj : Addr) :
    access.read env struct obj ≠ .fault .offsetTable := by
  intro faulted
  by_cases live : obj = 0
  · subst live
    cases access.read_null env struct faulted
  · rcases access.read_faults live faulted with other | ⟨unset,_⟩
    · simp at other
    · cases unset

-- A get method reads past a table exactly if its own scans do.
theorem run_overrun_exact (method : GetMethod) (env : Env) (p : Abstract) (kw : String) :
    method.run env p (.keyword kw) = .fault .offsetTable ↔ scanOutcome kw method.signals = .overrun ∨
      scanOutcome kw method.signals = .stopped ∧ scanOutcome kw method.lists = .overrun := by
  cases signals : scanOutcome kw method.signals with
  | overrun =>
      simp [GetMethod.run,getAbstractStructSignalMember,scanTable_overrun signals]
  | hit entry =>
      simp [GetMethod.run_signal method signals,GetMethod.wrapEntry_defined]
  | stopped =>
      cases lists : scanOutcome kw method.lists with
      | overrun =>
          simp [GetMethod.run,getAbstractStructSignalMember,getAbstractStructListMember,
            scanTable_stopped signals,scanTable_overrun lists]
      | hit entry =>
          simp [GetMethod.run_list method signals lists,GetMethod.wrapEntry_defined]
      | stopped =>
          rw [GetMethod.run_unscanned method signals lists]
          cases method.branch kw with
          | none => simp
          | some access => simp [Res.bind_fault_exact,branch_keeps_tables]

theorem scene_scan_exact (env : Env) (p : Abstract) (kw : String) :
    methodWlrSceneGet.run env p (.keyword kw) ≠ .fault .offsetTable ↔ NamesEntry kw wlrSceneListOffsets := by
  rw [ne_eq,run_overrun_exact]
  have lists : scanOutcome kw methodWlrSceneGet.lists = .overrun ↔ ¬NamesEntry kw wlrSceneListOffsets :=
    unterminated_scan (by decide)
  have signals : scanOutcome kw methodWlrSceneGet.signals = .stopped := rfl
  simp [signals,lists]

theorem terminated_stopped {table front : List OffsetDef} (shape : table = front ++ [.null])
    (named : ∀ entry ∈ front, entry.name ≠ none) :
    scanOffsets kw table = .stopped ↔ ¬NamesEntry kw table := by
  rw [shape]
  constructor
  · rintro stopped ⟨entry,member,same⟩
    have inside : entry ∈ front := by
      rcases List.mem_append.mp member with inside | last
      · exact inside
      · rw [List.mem_singleton.mp last] at same
        cases same
    obtain ⟨found,hit⟩ : ∃ found, SentinelScan.scan OffsetDef.name (janetCstrcmp kw) (front ++ [.null]) =
        .hit found := SentinelScan.hit_found named inside same (by simp [janetCstrcmp])
    rw [scanOffsets,hit] at stopped
    cases stopped
  · intro unnamed
    cases outcome : scanOffsets kw (front ++ [.null]) with
    | stopped => rfl
    | overrun => exact absurd outcome (terminated_scan (by simp))
    | hit entry =>
        obtain ⟨member,key,same,passed⟩ := SentinelScan.hit_member outcome
        have equal : cString kw = key := by simpa [janetCstrcmp] using passed
        exact absurd ⟨entry,member,equal ▸ same⟩ unnamed

theorem xdg_surface_scan_exact (env : Env) (p : Abstract) (kw : String) :
    methodWlrXdgSurfaceGet.run env p (.keyword kw) ≠ .fault .offsetTable ↔
      NamesEntry kw wlrXdgSurfaceSignalOffsets ∨ NamesEntry kw wlrXdgSurfaceListOffsets := by
  rw [ne_eq,run_overrun_exact]
  have lists : scanOutcome kw methodWlrXdgSurfaceGet.lists = .overrun ↔
      ¬NamesEntry kw wlrXdgSurfaceListOffsets := unterminated_scan (by decide)
  have within : scanOutcome kw methodWlrXdgSurfaceGet.signals ≠ .overrun := terminated_scan (by decide)
  have shape : wlrXdgSurfaceSignalOffsets = wlrXdgSurfaceSignalOffsets.dropLast ++ [.null] := by decide
  have signals : scanOutcome kw methodWlrXdgSurfaceGet.signals = .stopped ↔
      ¬NamesEntry kw wlrXdgSurfaceSignalOffsets := terminated_stopped shape (by decide)
  simp only [within,false_or,signals,lists,not_and_or,not_not]

theorem offset_scans_exact (found : AbsType.getMethod type = some method) (kw : String) :
    (∀ table ∈ method.tables, scanOffsets kw table ≠ .overrun ↔
      (table ∈ unterminatedTables → NamesEntry kw table)) ∧
    ∀ env p, method.run env p (.keyword kw) ≠ .fault .offsetTable ↔ ScanStays kw type := by
  refine ⟨?_,?_⟩
  · intro table member
    have sentinel := table_sentinels type type.mem_all method found table member
    by_cases ended : OffsetDef.null ∈ table
    · simp [terminated_scan ended,sentinel.mp ended]
    · rw [ne_eq,unterminated_scan ended]
      simp [not_not.mp (fun inside => ended (sentinel.mpr inside))]
  · intro env p
    rcases unterminated_owners type type.mem_all method found with rfl | rfl | ended
    · cases found
      exact scene_scan_exact env p kw
    · cases found
      exact xdg_surface_scan_exact env p kw
    · have stays : ScanStays kw type := by
        unfold ScanStays
        split
        · cases found
          simp [GetMethod.tables,methodWlrSceneGet,wlrSceneListOffsets,OffsetDef.null,jwlrOffsetDef] at ended
        · cases found
          simp [GetMethod.tables,methodWlrXdgSurfaceGet,wlrXdgSurfaceListOffsets,OffsetDef.null,jwlrOffsetDef] at ended
        · trivial
      have signals : scanOutcome kw method.signals ≠ .overrun :=
        terminated_outcome fun entries member => ended entries (by simp_all [GetMethod.tables])
      have lists : scanOutcome kw method.lists ≠ .overrun :=
        terminated_outcome fun entries member => ended entries (by simp_all [GetMethod.tables])
      simp [run_overrun_exact,signals,lists,stays]

theorem outputs_scan_stays : scanOffsets "outputs" wlrSceneListOffsets ≠ .overrun := by
  have scene : AbsType.getMethod .jwlrAtWlrScene = some methodWlrSceneGet := rfl
  apply ((offset_scans_exact scene "outputs").1 wlrSceneListOffsets (by decide)).mpr
  exact fun _ => ⟨jwlrOffsetDef "wlr_scene" "outputs",by decide,by decide⟩

-- `(get scene :tree)` walks past the only entry of its list table.
theorem scene_tree_overruns : ¬ScansBounded := by
  intro bounded
  exact (bounded .jwlrAtWlrScene methodWlrSceneGet rfl "tree").1 wlrSceneListOffsets (by decide) (by decide)

end Janetland
