import Janetland.WlLists
import Janetland.EventForwarding

namespace Janetland

-- The types that wlr_abs_types.h has a table of list offsets for.
def declaredLists : List (AbsType × List OffsetDef) :=
  [(.jwlrAtWlrOutputLayout,wlrOutputLayoutListOffsets),(.jwlrAtWlrScene,wlrSceneListOffsets),
    (.jwlrAtWlrXdgSurface,wlrXdgSurfaceListOffsets),(.jwlrAtWlrOutput,wlrOutputListOffsets),
    (.jwlrAtWlrSceneTree,wlrSceneTreeListOffsets),(.jwlrAtWlrXwaylandSurface,wlrXwaylandSurfaceListOffsets)]

-- `(wl-list-to-array (value :member) 'type :link)` in a script.
def listMember (env : Env) (steps : Nat) (value : Janet) (member type link : String) : Res (Option Janet) := do
  let list ← field env value member
  cfunWlListToArray env steps [list,.symbol type,.keyword link]

-- The get method consults the table that its type has, and no signal hides a list.
theorem consulted_rows : ∀ declared ∈ declaredLists, declared.1 ≠ .jwlrAtWlrXwaylandSurface →
    ∃ method, declared.1.getMethod = some method ∧ method.inPlace = false ∧ ∀ entry ∈ declared.2, ∀ name ∈ entry.name,
      scanOutcome name method.signals = .stopped ∧ scanOutcome name method.lists = .hit entry := by
  intro declared listed other
  simp only [declaredLists,List.mem_cons,List.not_mem_nil,or_false] at listed
  rcases listed with rfl | rfl | rfl | rfl | rfl | rfl
  · exact ⟨methodWlrOutputLayoutGet,rfl,rfl,by decide⟩
  · exact ⟨methodWlrSceneGet,rfl,rfl,by decide⟩
  · exact ⟨methodWlrXdgSurfaceGet,rfl,rfl,by decide⟩
  · exact ⟨methodWlrOutputGet,rfl,rfl,by decide⟩
  · exact ⟨methodWlrSceneTreeGet,rfl,rfl,by decide⟩
  · exact absurd rfl other

section
variable {env : Env} {self p : Addr} {struct member : String} {type : AbsType} {table : List OffsetDef}

theorem wrapEntry_list (loaded : Loaded env.registry) (method : GetMethod) (pointed : method.inPlace = false) :
    method.wrapEntry env (jlPointerToAbsObj self p type) .jwlAtWlList (jwlrOffsetDef struct member) =
      .ok (some (.abstract (jlPointerToAbsObj (env.alloc 0) (p + env.offsetof struct member) .jwlAtWlList))) := by
  have found : jlGetAbstractTypeByKey env.registry (.symbol AbsType.jwlAtWlList.name) = .ok (.own .jwlAtWlList) :=
    (loaded.resolves .jwlAtWlList).trans (if_neg (by decide))
  simp [GetMethod.wrapEntry,jlPointerToAbsObjByName,jlPointerToAbsObjByKey,found,GetMethod.object,pointed,
    jlPointerToAbsObj,Payload.firstWord,OffsetDef.offset,jwlrOffsetDef]

theorem declared_list (loaded : Loaded env.registry) (declared : (type,table) ∈ declaredLists)
    (listed : jwlrOffsetDef struct member ∈ table) (other : type ≠ .jwlrAtWlrXwaylandSurface) :
    janetGet env (.abstract (jlPointerToAbsObj self p type)) (.keyword member) =
      .ok (some (.abstract (jlPointerToAbsObj (env.alloc 0) (p + env.offsetof struct member) .jwlAtWlList))) := by
  obtain ⟨method,gets,pointed,rows⟩ := consulted_rows _ declared other
  obtain ⟨noSignal,hit⟩ := rows _ listed member rfl
  rw [janetGet_wrapped gets,method.run_list noSignal hit,wrapEntry_list loaded method pointed]

-- method_wlr_xwayland_surface_get has no call of get_abstract_struct_list_member.
theorem xwayland_children_unknown :
    janetGet env (.abstract (jlPointerToAbsObj self p .jwlrAtWlrXwaylandSurface)) (.keyword "children") = .ok none := by
  have unknown : methodWlrXwaylandSurfaceGet.branch "children" = none := by decide
  rw [janetGet_wrapped (rfl : AbsType.jwlrAtWlrXwaylandSurface.getMethod = some methodWlrXwaylandSurfaceGet),
    GetMethod.run_unscanned _ (by decide) (by decide),unknown]

-- Reading a declared list and enumerating it, for every link that link_offsets has.
theorem declared_list_enumerated (library : WlListLibrary) (loaded : Loaded env.registry)
    (declared : (type,table) ∈ declaredLists) (listed : jwlrOffsetDef struct member ∈ table)
    (other : type ≠ .jwlrAtWlrXwaylandSurface) (linked : jutilLinkOffsetDef atName container link ∈ linkOffsets)
    (fits : env.offsetof container link < noLinkOffset) (wellFormed : WlList env (p + env.offsetof struct member) nodes)
    (held : nodes.length ≤ int32Max) (enough : nodes.length < steps) :
    ∃ items, listMember env steps (.abstract (jlPointerToAbsObj self p type)) member atName link =
        .ok (some (.array items)) ∧
      Enumerated library env (env.alloc 0) (p + env.offsetof struct member) nodes atName container link items := by
  obtain ⟨items,found⟩ := enumerated library loaded linked fits wellFormed held
  refine ⟨items,?_,found⟩
  have returned := found.returned steps enough
  simp only [listMember,field,declared_list loaded declared listed other,Res.bind_ok]
  exact returned

theorem declared_lists_exact (loaded : Loaded env.registry) :
    (∀ type table struct member self p, (type,table) ∈ declaredLists → jwlrOffsetDef struct member ∈ table →
      (janetGet env (.abstract (jlPointerToAbsObj self p type)) (.keyword member) =
          .ok (some (.abstract (jlPointerToAbsObj (env.alloc 0) (p + env.offsetof struct member) .jwlAtWlList))) ↔
        type ≠ .jwlrAtWlrXwaylandSurface)) ∧
    ∀ self p steps items, listMember env steps (.abstract (jlPointerToAbsObj self p .jwlrAtWlrXwaylandSurface))
      "children" "wlr/wlr-xwayland-surface" "parent_link" ≠ .ok (some (.array items)) := by
  refine ⟨?_,?_⟩
  · intro type table struct member self p declared listed
    refine ⟨?_,declared_list loaded declared listed⟩
    rintro got rfl
    have children : member = "children" := by
      simp [declaredLists] at declared
      subst declared
      simp [wlrXwaylandSurfaceListOffsets,jwlrOffsetDef,OffsetDef.null] at listed
      exact listed.2
    rw [children,xwayland_children_unknown] at got
    cases got
  · intro self p steps items
    simp [listMember,field,xwayland_children_unknown,panicf]

theorem declared_lists_exact_blank : jwlrOffsetDef "wlr_scene" "outputs" ∈ wlrSceneListOffsets ∧
    (janetGet blankEnv (.abstract (jlPointerToAbsObj 8 64 .jwlrAtWlrScene)) (.keyword "outputs") =
        .ok (some (.abstract (jlPointerToAbsObj 1 64 .jwlAtWlList))) ↔
      AbsType.jwlrAtWlrScene ≠ .jwlrAtWlrXwaylandSurface) :=
  ⟨by decide,(declared_lists_exact (modules_load : Loaded blankEnv.registry)).1 .jwlrAtWlrScene wlrSceneListOffsets
    "wlr_scene" "outputs" 8 64 (by decide) (by decide)⟩

theorem xwayland_children_missed : ¬∀ env type table struct member self p, Loaded env.registry →
    (type,table) ∈ declaredLists → jwlrOffsetDef struct member ∈ table →
      janetGet env (.abstract (jlPointerToAbsObj self p type)) (.keyword member) =
        .ok (some (.abstract (jlPointerToAbsObj (env.alloc 0) (p + env.offsetof struct member) .jwlAtWlList))) := by
  intro complete
  have got := complete blankEnv .jwlrAtWlrXwaylandSurface wlrXwaylandSurfaceListOffsets "wlr_xwayland_surface"
    "children" 8 64 modules_load (by decide) (by decide)
  rw [xwayland_children_unknown] at got
  cases got

end

end Janetland
