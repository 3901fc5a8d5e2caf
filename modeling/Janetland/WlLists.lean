import Janetland.OffsetTables
import Janetland.Foundations.Rings
import Mathlib.Data.List.TakeDrop

namespace Janetland
open Rings

-- void * arithmetic with a uint64_t offset wraps around.
def addressSpace : Nat := 18446744073709551616
def ptrAdd (p offset : Nat) : Addr := (p + offset) % addressSpace
def ptrSub (p offset : Nat) : Addr := (p + addressSpace - offset) % addressSpace

-- The initial (uint64_t)-1 of link_offset.
def noLinkOffset : Nat := addressSpace - 1

theorem ptrAdd_ptrSub {node offset : Nat} (inside : node < addressSpace) (fits : offset < noLinkOffset) :
    ptrAdd (ptrSub node offset) offset = node := by
  unfold noLinkOffset at fits
  change ((node + addressSpace - offset) % addressSpace + offset) % addressSpace = (node : Nat)
  unfold addressSpace at *
  omega

-- A row of link_offsets: type, struct and member.
structure LinkOffsetDef where
  entry : Option (String × String × String)
deriving DecidableEq

def jutilLinkOffsetDef (atName struct member : String) : LinkOffsetDef := ⟨some (atName,struct,member)⟩

def linkOffsets : List LinkOffsetDef :=
  [jutilLinkOffsetDef "wlr/wlr-output-mode" "wlr_output_mode" "link",
    jutilLinkOffsetDef "wlr/wlr-output-cursor" "wlr_output_cursor" "link",
    jutilLinkOffsetDef "wlr/wlr-output-layout-output" "wlr_output_layout_output" "link",
    jutilLinkOffsetDef "wlr/wlr-xdg-surface" "wlr_xdg_surface" "link",
    jutilLinkOffsetDef "wlr/wlr-xdg-popup" "wlr_xdg_popup" "link",
    jutilLinkOffsetDef "wlr/wlr-scene-node" "wlr_scene_node" "link",
    jutilLinkOffsetDef "wlr/wlr-scene-output" "wlr_scene_output" "link",
    jutilLinkOffsetDef "wlr/wlr-xwayland-surface" "wlr_xwayland_surface" "parent_link",⟨none⟩]

def janetGetsymbol (argv : List Janet) (n : Nat) : Res String :=
  match slot argv n with
  | .symbol name => .ok name
  | _ => badSlot argv n "symbol"

-- The scan goes on behind a match, so the last one counts.
def scanLinks (env : Env) (type member : String) : Nat → List LinkOffsetDef → Res Nat
  | _,[] => .fault .offsetTable
  | linkOffset,row :: rest => match row.entry with
    | none => .ok linkOffset
    | some (atName,struct,link) =>
      scanLinks env type member
        (if janetCstrcmp type atName && janetCstrcmp member link then env.offsetof struct link else linkOffset) rest

def Env.wlNext (env : Env) (node : Addr) : Addr := env.mem.ptr node "wl_list" "next"

-- The loop over container addresses, `none` while it still runs after `steps` rounds.
def listLoop (env : Env) (elementAt : TypeRef) (list : Addr) (linkOffset : Nat) :
    Nat → Addr → List Janet → Res (Option Janet)
  | 0,_,_ => .ok none
  | steps+1,p,arr =>
    if ptrAdd p linkOffset = list then .ok (some (.array arr))
    else if int32Max ≤ arr.length then panicf "array overflow" []
    else do
      let next ← env.readPtr (ptrAdd p linkOffset) "wl_list" "next"
      listLoop env elementAt list linkOffset steps (ptrSub next linkOffset)
        (arr ++ [.abstract ⟨env.alloc arr.length,elementAt,.wrapper p⟩])

def cfunWlListToArray (env : Env) (steps : Nat) (argv : List Janet) : Res (Option Janet) := do
  janetFixarity argv 3
  let list ← jlGetAbsObjPointerByName env.registry argv 0 "wl/wl-list"
  let elementAtName ← janetGetsymbol argv 1
  let elementLinkMember ← janetGetkeyword argv 2
  let elementAt ← jlGetAbstractTypeByKey env.registry (slot argv 1)
  let linkOffset ← scanLinks env elementAtName elementLinkMember noLinkOffset linkOffsets
  if noLinkOffset = linkOffset then
    panicf "unknown abstract type for calculating linked list offset: %v" [slot argv 1]
  else do
    let next ← env.readPtr list "wl_list" "next"
    listLoop env elementAt list linkOffset steps (ptrSub next linkOffset) []

-- wl_list_empty and wl_list_length of libwayland, with what its documentation says of them.
structure WlListLibrary where
  wlListEmpty : (Addr → Addr) → Addr → Bool
  wlListLength : (Addr → Addr) → Addr → Int
  empty_documented : Ring next list nodes → (wlListEmpty next list = true ↔ nodes = [])
  length_documented : Ring next list nodes → nodes.length ≤ int32Max → wlListLength next list = nodes.length

section
variable (library : WlListLibrary)

def cfunWlListEmpty (env : Env) (argv : List Janet) : Res Janet := do
  janetFixarity argv 1
  let list ← jlGetAbsObjPointer argv 0 .jwlAtWlList
  return .boolean (library.wlListEmpty env.wlNext list)

def cfunWlListLength (env : Env) (argv : List Janet) : Res Janet := do
  janetFixarity argv 1
  let list ← jlGetAbsObjPointer argv 0 .jwlAtWlList
  return janetInteger (library.wlListLength env.wlNext list)

end

-- A well-formed list: the links of its nodes lead around to the head, and all are objects.
structure WlList (env : Env) (list : Addr) (nodes : List Addr) : Prop where
  ring : Ring env.wlNext list nodes
  live : ∀ node ∈ list :: nodes, node ≠ 0 ∧ node < addressSpace

-- The wrappers of the containers of `nodes`, behind `count` earlier ones.
def wrapNodes (env : Env) (type : TypeRef) (offset : Nat) : Nat → List Addr → List Janet
  | _,[] => []
  | count,node :: rest =>
    .abstract ⟨env.alloc count,type,.wrapper (ptrSub node offset)⟩ :: wrapNodes env type offset (count+1) rest

@[simp] theorem wrapNodes_length : (wrapNodes env type offset count nodes).length = nodes.length := by
  induction nodes generalizing count with
  | nil => rfl
  | cons node rest ih => simp [wrapNodes,ih]

theorem wrapNodes_get {nodes : List Addr} (inside : i < nodes.length) : (wrapNodes env type offset count nodes)[i]? =
    some (.abstract ⟨env.alloc (count+i),type,.wrapper (ptrSub nodes[i] offset)⟩) := by
  induction nodes generalizing count i with
  | nil => simp at inside
  | cons node rest ih =>
      cases i with
      | zero => rfl
      | succ i =>
          have shifted : count + 1 + i = count + (i + 1) := by omega
          rw [← shifted]
          exact ih (Nat.lt_of_succ_lt_succ inside)

section
variable {env : Env} {type : TypeRef} {list start offset steps : Nat} {nodes : List Addr} {arr : List Janet}

theorem loop_done (inside : list < addressSpace) (fits : offset < noLinkOffset) :
    listLoop env type list offset (steps+1) (ptrSub list offset) arr = .ok (some (.array arr)) := by
  rw [listLoop,if_pos (ptrAdd_ptrSub inside fits)]

theorem loop_overflow (inside : node < addressSpace) (fits : offset < noLinkOffset) (other : node ≠ list)
    (full : int32Max ≤ arr.length) :
    listLoop env type list offset (steps+1) (ptrSub node offset) arr = panicf "array overflow" [] := by
  rw [listLoop,ptrAdd_ptrSub inside fits,if_neg other,if_pos full]

theorem loop_step (inside : node < addressSpace) (fits : offset < noLinkOffset) (other : node ≠ list)
    (room : arr.length < int32Max) (live : node ≠ 0) :
    listLoop env type list offset (steps+1) (ptrSub node offset) arr =
      listLoop env type list offset steps (ptrSub (env.wlNext node) offset)
        (arr ++ [.abstract ⟨env.alloc arr.length,type,.wrapper (ptrSub node offset)⟩]) := by
  rw [listLoop,ptrAdd_ptrSub inside fits,if_neg other,if_neg (Int.not_le.mpr room),Env.readPtr_live env live]
  rfl

theorem live_later {P : Addr → Prop} (live : ∀ node ∈ list :: first :: nodes, P node) :
    ∀ node ∈ list :: nodes, P node := by
  intro node member
  rcases List.mem_cons.mp member with rfl | later
  · exact live _ List.mem_cons_self
  · exact live _ (List.mem_cons_of_mem _ (List.mem_cons_of_mem _ later))

-- Induction on the nodes still ahead; `arr` holds the wrappers of those behind.
theorem loop_fits (path : Path env.wlNext start nodes list) (fresh : list ∉ nodes)
    (live : ∀ node ∈ list :: nodes, node ≠ 0 ∧ node < addressSpace) (fits : offset < noLinkOffset)
    (enough : nodes.length < steps) (room : arr.length + nodes.length ≤ int32Max) :
    listLoop env type list offset steps (ptrSub (env.wlNext start) offset) arr =
      .ok (some (.array (arr ++ wrapNodes env type offset arr.length nodes))) := by
  induction nodes generalizing start arr steps with
  | nil =>
      obtain ⟨steps,rfl⟩ := Nat.exists_eq_add_one_of_ne_zero (Nat.ne_of_gt enough)
      rw [path_nil.mp path,loop_done (live list List.mem_cons_self).2 fits]
      simp [wrapNodes]
  | cons node rest ih =>
      obtain ⟨steps,rfl⟩ := Nat.exists_eq_add_one_of_ne_zero (Nat.ne_of_gt (Nat.zero_lt_of_lt enough))
      obtain ⟨first,later⟩ := path_cons.mp path
      obtain ⟨set,inside⟩ := live node (by simp)
      have other : node ≠ list := fun same => fresh (same ▸ List.mem_cons_self)
      have grown : (arr.length : Int) < int32Max := by simp at room; omega
      rw [first,loop_step inside fits other grown set,
        ih later (fun member => fresh (List.mem_cons_of_mem _ member))
          (live_later live) (Nat.lt_of_succ_lt_succ enough)
          (by simp at room ⊢; omega)]
      simp [wrapNodes]

theorem loop_exceeds (path : Path env.wlNext start nodes list) (fresh : list ∉ nodes)
    (live : ∀ node ∈ list :: nodes, node ≠ 0 ∧ node < addressSpace) (fits : offset < noLinkOffset)
    (enough : nodes.length < steps) (held : arr.length ≤ int32Max) (beyond : int32Max < arr.length + nodes.length) :
    listLoop env type list offset steps (ptrSub (env.wlNext start) offset) arr = panicf "array overflow" [] := by
  induction nodes generalizing start arr steps with
  | nil => simp at beyond; omega
  | cons node rest ih =>
      obtain ⟨steps,rfl⟩ := Nat.exists_eq_add_one_of_ne_zero (Nat.ne_of_gt (Nat.zero_lt_of_lt enough))
      obtain ⟨first,later⟩ := path_cons.mp path
      obtain ⟨set,inside⟩ := live node (by simp)
      have other : node ≠ list := fun same => fresh (same ▸ List.mem_cons_self)
      rw [first]
      by_cases full : int32Max ≤ arr.length
      · exact loop_overflow inside fits other full
      · rw [loop_step inside fits other (Int.not_le.mp full) set]
        apply ih later (fun member => fresh (List.mem_cons_of_mem _ member))
          (live_later live) (Nat.lt_of_succ_lt_succ enough)
        · simp; omega
        · simp at beyond ⊢; omega

end

-- A pair is one of the table's when the scan takes it for that, by janet_cstrcmp.
def LinkOffsetDef.links (row : LinkOffsetDef) (type member : String) : Bool := match row.entry with
  | some (atName,_,link) => janetCstrcmp type atName && janetCstrcmp member link
  | none => false

theorem scan_missed (sentinel : ⟨none⟩ ∈ table) (missed : ∀ row ∈ table, row.links type member = false) :
    scanLinks env type member linkOffset table = .ok linkOffset := by
  induction table with
  | nil => cases sentinel
  | cons row rest ih =>
      cases named : row.entry with
      | none => simp [scanLinks,named]
      | some entry =>
          have apart := missed row List.mem_cons_self
          have later : ⟨none⟩ ∈ rest := by
            rcases List.mem_cons.mp sentinel with rfl | later
            · cases named
            · exact later
          simp only [LinkOffsetDef.links,named] at apart
          simp only [scanLinks,named,apart]
          exact ih later fun row member => missed row (List.mem_cons_of_mem _ member)

theorem scan_linked (listed : jutilLinkOffsetDef atName struct link ∈ linkOffsets) :
    scanLinks env atName link linkOffset linkOffsets = .ok (env.offsetof struct link) := by
  simp only [linkOffsets,jutilLinkOffsetDef,List.mem_cons,LinkOffsetDef.mk.injEq,Option.some.injEq,
    Prod.mk.injEq,List.not_mem_nil,or_false,reduceCtorEq] at listed
  rcases listed with h | h | h | h | h | h | h | h <;> obtain ⟨rfl,rfl,rfl⟩ := h <;> rfl

theorem linked_type (listed : jutilLinkOffsetDef atName struct link ∈ linkOffsets) :
    ∃ type : AbsType, type.name = atName ∧ type ∉ unregistered := by
  simp only [linkOffsets,jutilLinkOffsetDef,List.mem_cons,LinkOffsetDef.mk.injEq,Option.some.injEq,
    Prod.mk.injEq,List.not_mem_nil,or_false,reduceCtorEq] at listed
  rcases listed with h | h | h | h | h | h | h | h <;> obtain ⟨rfl,rfl,rfl⟩ := h
  · exact ⟨.jwlrAtWlrOutputMode,by decide⟩
  · exact ⟨.jwlrAtWlrOutputCursor,by decide⟩
  · exact ⟨.jwlrAtWlrOutputLayoutOutput,by decide⟩
  · exact ⟨.jwlrAtWlrXdgSurface,by decide⟩
  · exact ⟨.jwlrAtWlrXdgPopup,by decide⟩
  · exact ⟨.jwlrAtWlrSceneNode,by decide⟩
  · exact ⟨.jwlrAtWlrSceneOutput,by decide⟩
  · exact ⟨.jwlrAtWlrXwaylandSurface,by decide⟩

section
variable {env : Env} {self list : Addr} {nodes : List Addr} {type member struct link atName : String}

def wlListArgs (self list : Addr) (type member : String) : List Janet :=
  [.abstract (jlPointerToAbsObj self list .jwlAtWlList),.symbol type,.keyword member]

theorem list_resolved (loaded : Loaded registry) :
    jlGetAbsObjPointerByName registry (wlListArgs self list type member) 0 "wl/wl-list" = .ok list := by
  have found : jlGetAbstractTypeByKey registry (.symbol "wl/wl-list") = .ok (.own .jwlAtWlList) :=
    (loaded.resolves .jwlAtWlList).trans (if_neg (by decide))
  simp [jlGetAbsObjPointerByName,jlGetAbsObjPointerByKey,found,janetGetabstract,slot,wlListArgs,
    jlPointerToAbsObj,Payload.firstWord]

theorem enumeration_starts {type : AbsType} (loaded : Loaded env.registry) (registered : type ∉ unregistered)
    (scanned : scanLinks env type.name link noLinkOffset linkOffsets = .ok offset)
    (fits : offset < noLinkOffset) (live : list ≠ 0) :
    cfunWlListToArray env steps (wlListArgs self list type.name link) =
      listLoop env (.own type) list offset steps (ptrSub (env.wlNext list) offset) [] := by
  have found : jlGetAbstractTypeByKey env.registry (.symbol type.name) = .ok (.own type) :=
    (loaded.resolves type).trans (if_neg registered)
  have arity : janetFixarity (wlListArgs self list type.name link) 3 = .ok () := rfl
  have symbol : janetGetsymbol (wlListArgs self list type.name link) 1 = .ok type.name := rfl
  have keyword : janetGetkeyword (wlListArgs self list type.name link) 2 = .ok link := rfl
  have key : slot (wlListArgs self list type.name link) 1 = .symbol type.name := rfl
  have resolved : jlGetAbsObjPointerByName env.registry (wlListArgs self list type.name link) 0 "wl/wl-list" =
    .ok list := list_resolved loaded
  simp only [cfunWlListToArray,arity,resolved,symbol,keyword,key,found,scanned,
    Res.bind_ok,if_neg (Nat.ne_of_gt fits),Env.readPtr_live env live]
  rfl

-- What the array must be: one wrapper of the requested type for each node, in order.
structure Enumerated (library : WlListLibrary) (env : Env) (cell list : Addr) (nodes : List Addr)
    (atName struct link : String) (items : List Janet) : Prop where
  returned : ∀ steps, nodes.length < steps →
    cfunWlListToArray env steps (wlListArgs cell list atName link) = .ok (some (.array items))
  counted : items.length = nodes.length
  wrapped : ∃ type : AbsType, type.name = atName ∧ ∀ i, ∀ inside : i < nodes.length, items[i]? =
    some (.abstract ⟨env.alloc i,.own type,.wrapper (ptrSub nodes[i] (env.offsetof struct link))⟩)
  distinct : (nodes.map (ptrSub · (env.offsetof struct link))).Nodup
  emptied : cfunWlListEmpty library env [.abstract (jlPointerToAbsObj cell list .jwlAtWlList)] =
    .ok (.boolean (items.length = 0))
  measured : cfunWlListLength library env [.abstract (jlPointerToAbsObj cell list .jwlAtWlList)] =
    .ok (janetInteger items.length)

theorem ptrSub_injective (fits : offset < noLinkOffset) (one : left < addressSpace) (two : right < addressSpace)
    (same : ptrSub left offset = ptrSub right offset) : left = right := by
  rw [← ptrAdd_ptrSub one fits,same,ptrAdd_ptrSub two fits]

theorem enumerated (library : WlListLibrary) (loaded : Loaded env.registry)
    (listed : jutilLinkOffsetDef atName struct link ∈ linkOffsets)
    (fits : env.offsetof struct link < noLinkOffset) (wellFormed : WlList env list nodes)
    (held : nodes.length ≤ int32Max) : ∃ items, Enumerated library env self list nodes atName struct link items := by
  obtain ⟨ring,live⟩ := wellFormed
  obtain ⟨type,rfl,registered⟩ := linked_type listed
  refine ⟨wrapNodes env (.own type) (env.offsetof struct link) 0 nodes,?_,wrapNodes_length,⟨type,rfl,?_⟩,?_,?_,?_⟩
  · intro steps enough
    rw [enumeration_starts loaded registered (scan_linked listed) fits (live list List.mem_cons_self).1,
      loop_fits ring.path ring.apart live fits enough (by simpa using held)]
    rfl
  · intro i inside
    have got : (wrapNodes env (.own type) (env.offsetof struct link) 0 nodes)[i]? = _ := wrapNodes_get inside
    rw [got,Nat.zero_add]
  · apply List.Nodup.map_on
    · intro left leftMember right rightMember
      exact ptrSub_injective fits (live left (List.mem_cons_of_mem _ leftMember)).2
        (live right (List.mem_cons_of_mem _ rightMember)).2
    · exact ring.nodup
  · have empty := library.empty_documented ring
    change Res.ok (Janet.boolean (library.wlListEmpty env.wlNext list)) = _
    rw [wrapNodes_length]
    cases answer : library.wlListEmpty env.wlNext list <;> simp_all
  · change Res.ok (janetInteger (library.wlListLength env.wlNext list)) = _
    rw [wrapNodes_length,library.length_documented ring held]

theorem enumeration_overflows (loaded : Loaded env.registry)
    (listed : jutilLinkOffsetDef atName struct link ∈ linkOffsets)
    (fits : env.offsetof struct link < noLinkOffset) (wellFormed : WlList env list nodes)
    (exceeded : int32Max < nodes.length) (enough : nodes.length < steps) :
    cfunWlListToArray env steps (wlListArgs self list atName link) = panicf "array overflow" [] := by
  obtain ⟨ring,live⟩ := wellFormed
  obtain ⟨type,rfl,registered⟩ := linked_type listed
  rw [enumeration_starts loaded registered (scan_linked listed) fits (live list List.mem_cons_self).1]
  exact loop_exceeds ring.path ring.apart live fits enough (by decide) (by simpa using exceeded)

-- Whatever the memory holds, even at a NULL list: nothing of it is read.
theorem unlinked_refused (loaded : Loaded env.registry)
    (missed : ∀ row ∈ linkOffsets, row.links type member = false) : ∃ error, ∀ mem steps,
      cfunWlListToArray { env with mem := mem } steps (wlListArgs self list type member) = .panic error := by
  have arity : janetFixarity (wlListArgs self list type member) 3 = .ok () := rfl
  have symbol : janetGetsymbol (wlListArgs self list type member) 1 = .ok type := rfl
  have keyword : janetGetkeyword (wlListArgs self list type member) 2 = .ok member := rfl
  have sentinel : (⟨none⟩ : LinkOffsetDef) ∈ linkOffsets := by decide
  have resolved : jlGetAbsObjPointerByName env.registry (wlListArgs self list type member) 0 "wl/wl-list" =
    .ok list := list_resolved loaded
  cases found : jlGetAbstractTypeByKey env.registry (slot (wlListArgs self list type member) 1) with
  | fault kind =>
      unfold jlGetAbstractTypeByKey panicf at found
      split at found <;> cases found
  | panic error =>
      refine ⟨error,?_⟩
      intro mem steps
      simp only [cfunWlListToArray,arity,resolved,symbol,keyword,found,Res.bind_ok,Res.bind_panic]
  | ok elementAt =>
      refine ⟨⟨"unknown abstract type for calculating linked list offset: %v",[.symbol type]⟩,?_⟩
      intro mem steps
      have scanned : scanLinks { env with mem := mem } type member noLinkOffset linkOffsets = .ok noLinkOffset :=
        scan_missed sentinel missed
      simp only [cfunWlListToArray,arity,resolved,symbol,keyword,found,scanned,Res.bind_ok,if_pos]
      rfl

theorem list_enumerated (library : WlListLibrary) (loaded : Loaded env.registry) :
    (∀ atName struct link, jutilLinkOffsetDef atName struct link ∈ linkOffsets →
      env.offsetof struct link < noLinkOffset → ∀ self list nodes, WlList env list nodes →
        (nodes.length ≤ int32Max → ∃ items, Enumerated library env self list nodes atName struct link items) ∧
        (int32Max < nodes.length → ∀ steps, nodes.length < steps →
          cfunWlListToArray env steps (wlListArgs self list atName link) = panicf "array overflow" [])) ∧
    ∀ self list type member, (∀ row ∈ linkOffsets, row.links type member = false) → ∃ error, ∀ mem steps,
      cfunWlListToArray { env with mem := mem } steps (wlListArgs self list type member) = .panic error := by
  refine ⟨?_,?_⟩
  · intro atName struct link listed fits self list nodes wellFormed
    refine ⟨enumerated library loaded listed fits wellFormed,?_⟩
    intro exceeded steps enough
    exact enumeration_overflows loaded listed fits wellFormed exceeded enough
  · intro self list type member missed
    exact unlinked_refused loaded missed

end

-- libwayland's two loops.
def libwayland : WlListLibrary where
  wlListEmpty next list := next list == list
  wlListLength next list := ((walk next list 2147483648 (next list)).getD []).length
  empty_documented ring := by simpa using ring.empty_exact
  length_documented ring held := by
    have enough := held
    unfold int32Max at enough
    rw [ring.walked (by omega)]
    rfl

-- A list of n nodes at 32, 48, 64 and so on, with its head at 16.
def chainNext (n : Nat) (node : Addr) : Addr := if node = 16 * (n + 1) then 16 else 16 + node
def chainEnv (n : Nat) : Env :=
  { blankEnv with mem := { blankMem with ptr := fun node _ _ => chainNext n node }, offsetof := fun _ _ => 8 }
def chainNodes (first count : Nat) : List Addr := (List.range' first count).map (fun i => 16 * (i + 2))

@[simp] theorem chainNodes_length : (chainNodes first count).length = count := by simp [chainNodes]

theorem chain_path {first count n : Nat} (ends : first + count = n) : Path (chainNext n) (16 * (first + 1)) (chainNodes first count) 16 := by
  induction count generalizing first with
  | zero =>
      subst ends
      exact if_pos rfl
  | succ count ih =>
      have later : Path (chainNext n) (16 * (first + 1 + 1)) (chainNodes (first + 1) count) 16 := ih (by omega)
      have inside : 16 * (first + 1) ≠ 16 * (n + 1) := by omega
      have moved : 16 + 16 * (first + 1) = 16 * (first + 1 + 1) := by omega
      refine path_cons.mpr ⟨?_,later⟩
      exact (if_neg inside).trans moved

theorem chain_bounds (member : node ∈ chainNodes first count) : ∃ i < first + count, node = 16 * (i + 2) := by
  obtain ⟨i,inside,rfl⟩ := List.mem_map.mp member
  exact ⟨i,(List.mem_range'_1.mp inside).2,rfl⟩

theorem chain_wellFormed (small : n < 4294967296) : WlList (chainEnv n) 16 (chainNodes 0 n) := by
  refine ⟨⟨chain_path (Nat.zero_add n),?_⟩,?_⟩
  · intro member
    obtain ⟨i,_,same⟩ := chain_bounds member
    change (16 : Nat) = 16 * (i + 2) at same
    omega
  · intro node member
    rcases List.mem_cons.mp member with rfl | later
    · decide
    · obtain ⟨i,inside,rfl⟩ := chain_bounds later
      change 16 * (i + 2) ≠ 0 ∧ 16 * (i + 2) < addressSpace
      unfold addressSpace
      omega

theorem list_enumerated_chain : ∃ items, Enumerated libwayland (chainEnv 2) 8 16 [32,48] "wlr/wlr-output-mode"
    "wlr_output_mode" "link" items :=
  ((list_enumerated libwayland (modules_load : Loaded (chainEnv 2).registry)).1 _ _ _ (by decide) (by decide)
    8 16 (chainNodes 0 2) (chain_wellFormed (by decide))).1 (by decide)

-- 2^31 nodes are more than a Janet array holds; and a keyword that goes on behind a
-- NUL is no member of the table, yet janet_cstrcmp takes it for one.
theorem list_enumeration_limited :
    (¬∀ env list nodes, Loaded env.registry → WlList env list nodes → env.offsetof "wlr_output_mode" "link" < noLinkOffset →
      ∃ items, Enumerated libwayland env 8 list nodes "wlr/wlr-output-mode" "wlr_output_mode" "link" items) ∧
    ¬∀ env list member, Loaded env.registry → (∀ atName struct, jutilLinkOffsetDef atName struct member ∉ linkOffsets) →
      ∃ error, ∀ steps, cfunWlListToArray env steps (wlListArgs 8 list "wlr/wlr-output-mode" member) = .panic error := by
  have listed : jutilLinkOffsetDef "wlr/wlr-output-mode" "wlr_output_mode" "link" ∈ linkOffsets := by decide
  refine ⟨?_,?_⟩
  · intro complete
    have wellFormed : WlList (chainEnv 2147483648) 16 (chainNodes 0 2147483648) := chain_wellFormed (by decide)
    obtain ⟨items,enumerated⟩ := complete _ _ _ modules_load wellFormed (by decide)
    have returned := enumerated.returned 2147483649 (by simp)
    have exceeded : int32Max < (chainNodes 0 2147483648).length := by simp [int32Max]
    rw [enumeration_overflows modules_load listed (by decide) wellFormed exceeded (by simp)] at returned
    cases returned
  · intro refused
    have missing : ∀ atName struct, jutilLinkOffsetDef atName struct "link\x00" ∉ linkOffsets := by
      intro atName struct
      simp [linkOffsets,jutilLinkOffsetDef]
    obtain ⟨error,panics⟩ := refused (chainEnv 0) 16 "link\x00" modules_load missing
    have scanned : scanLinks (chainEnv 0) AbsType.jwlrAtWlrOutputMode.name "link\x00" noLinkOffset linkOffsets =
      .ok 8 := by rfl
    have returned : cfunWlListToArray (chainEnv 0) 1 (wlListArgs 8 16 AbsType.jwlrAtWlrOutputMode.name "link\x00") =
        .ok (some (.array [])) :=
      (enumeration_starts modules_load (by decide) scanned (by decide) (by decide)).trans
        (loop_done (by decide) (by decide))
    rw [show AbsType.jwlrAtWlrOutputMode.name = "wlr/wlr-output-mode" from rfl,panics 1] at returned
    cases returned

end Janetland
