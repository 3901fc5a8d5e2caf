import Janetland.GetResults
import Janetland.PutMethods

namespace Janetland

-- A C function of the five modules that looks a type up by name or returns abstracts,
-- with those names and the types of what it returns, alone or in an array or tuple.
structure Cfun where
  name : String
  looksUp : List String
  gives : List TypeRef
deriving DecidableEq

def wlCfuns : List Cfun := [
  ⟨"wl-event-loop-create",[],[.own .jwlAtWlEventLoop]⟩,
  ⟨"wl-event-loop-add-fd",[],[.own .jwlAtEventSource]⟩,
  ⟨"wl-event-loop-add-timer",[],[.own .jwlAtEventSource]⟩,
  ⟨"wl-event-loop-add-signal",[],[.own .jwlAtEventSource]⟩,
  ⟨"wl-event-loop-add-idle",[],[.own .jwlAtEventSource]⟩,
  ⟨"wl-event-loop-fd-to-stream",[],[.foreign "core/stream"]⟩,
  ⟨"wl-event-loop-add-destroy-listener",[],[.own .jwlAtListener]⟩,
  ⟨"wl-display-create",[],[.own .jwlAtWlDisplay]⟩,
  ⟨"wl-display-get-event-loop",[],[.own .jwlAtWlEventLoop]⟩,
  ⟨"wl-signal-add",[],[.own .jwlAtListener]⟩]
def wlrCfuns : List Cfun := [
  ⟨"box",[],[.own .jwlrAtBox]⟩,
  ⟨"wlr-backend-autocreate",["wl/wl-display"],[.own .jwlrAtWlrBackend]⟩,
  ⟨"wlr-renderer-autocreate",[],[.own .jwlrAtWlrRenderer]⟩,
  ⟨"wlr-renderer-init-wl-display",["wl/wl-display"],[]⟩,
  ⟨"wlr-allocator-autocreate",[],[.own .jwlrAtWlrAllocator]⟩,
  ⟨"wlr-compositor-create",["wl/wl-display"],[.own .jwlrAtWlrCompositor]⟩,
  ⟨"wlr-subcompositor-create",["wl/wl-display"],[.own .jwlrAtWlrSubcompositor]⟩,
  ⟨"wlr-data-device-manager-create",["wl/wl-display"],[.own .jwlrAtWlrDataDeviceManager]⟩,
  ⟨"wlr-output-layout-create",[],[.own .jwlrAtWlrOutputLayout]⟩,
  ⟨"wlr-output-layout-get",[],[.own .jwlrAtWlrOutputLayoutOutput]⟩,
  ⟨"wlr-output-layout-get-box",[],[.own .jwlrAtBox]⟩,
  ⟨"wlr-output-layout-output-at",[],[.own .jwlrAtWlrOutput]⟩,
  ⟨"wlr-output-layout-get-center-output",[],[.own .jwlrAtWlrOutput]⟩,
  ⟨"wlr-output-layout-adjacent-output",[],[.own .jwlrAtWlrOutput]⟩,
  ⟨"wlr-output-layout-farthest-output",[],[.own .jwlrAtWlrOutput]⟩,
  ⟨"wlr-scene-create",[],[.own .jwlrAtWlrScene]⟩,
  ⟨"wlr-xdg-shell-create",["wl/wl-display"],[.own .jwlrAtWlrXdgShell]⟩,
  ⟨"wlr-cursor-create",[],[.own .jwlrAtWlrCursor]⟩,
  ⟨"wlr-xcursor-manager-create",[],[.own .jwlrAtWlrXcursorManager]⟩,
  ⟨"wlr-xcursor-manager-get-xcursor",[],[.own .jwlrAtWlrXcursor]⟩,
  ⟨"wlr-keyboard-from-input-device",[],[.own .jwlrAtWlrKeyboard]⟩,
  ⟨"wlr-keyboard-set-keymap",["xkb/xkb-keymap"],[]⟩,
  ⟨"wlr-seat-create",["wl/wl-display"],[.own .jwlrAtWlrSeat]⟩,
  ⟨"wlr-seat-get-keyboard",[],[.own .jwlrAtWlrKeyboard]⟩,
  ⟨"wlr-output-preferred-mode",[],[.own .jwlrAtWlrOutputMode]⟩,
  ⟨"wlr-surface-get-root-surface",[],[.own .jwlrAtWlrSurface]⟩,
  ⟨"wlr-surface-surface-at",[],[.own .jwlrAtWlrSurface]⟩,
  ⟨"wlr-surface-send-frame-done",["util/timespec"],[]⟩,
  ⟨"wlr-xdg-surface-from-wlr-surface",[],[.own .jwlrAtWlrXdgSurface]⟩,
  ⟨"wlr-xwayland-surface-from-wlr-surface",[],[.own .jwlrAtWlrXwaylandSurface]⟩,
  ⟨"wlr-xdg-surface-get-geometry",[],[.own .jwlrAtBox]⟩,
  ⟨"wlr-scene-xdg-surface-create",[],[.own .jwlrAtWlrSceneTree]⟩,
  ⟨"wlr-scene-tree-create",[],[.own .jwlrAtWlrSceneTree]⟩,
  ⟨"wlr-scene-tree-from-node",[],[.own .jwlrAtWlrSceneTree]⟩,
  ⟨"wlr-scene-surface-create",[],[.own .jwlrAtWlrSceneSurface]⟩,
  ⟨"wlr-scene-subsurface-tree-create",[],[.own .jwlrAtWlrSceneTree]⟩,
  ⟨"wlr-scene-node-at",[],[.own .jwlrAtWlrSceneNode]⟩,
  ⟨"wlr-scene-get-scene-output",[],[.own .jwlrAtWlrSceneOutput]⟩,
  ⟨"wlr-scene-output-send-frame-done",["util/timespec"],[]⟩,
  ⟨"wlr-scene-buffer-from-node",[],[.own .jwlrAtWlrSceneBuffer]⟩,
  ⟨"wlr-scene-surface-from-buffer",[],[.own .jwlrAtWlrSceneSurface]⟩,
  ⟨"wlr-xwayland-create",["wl/wl-display"],[.own .jwlrAtWlrXwayland]⟩,
  ⟨"wlr-layer-shell-v1-create",["wl/wl-display"],[.own .jwlrAtWlrLayerShellV1]⟩]
def xkbCfuns : List Cfun := [
  ⟨"xkb-context-new",[],[.own .jxkbAtXkbContext]⟩,
  ⟨"xkb-rule-names",[],[.own .jxkbAtXkbRuleNames]⟩,
  ⟨"xkb-keymap-new-from-names",[],[.own .jxkbAtXkbKeymap]⟩,
  ⟨"xkb-state-key-get-syms",[],[.foreign "core/u64"]⟩]
def xcbCfuns : List Cfun := [
  ⟨"xcb-connect",[],[.own .jxcbAtXcbConnectionT]⟩,
  ⟨"xcb-intern-atom",[],[.own .jxcbAtInternAtomCookieT]⟩,
  ⟨"xcb-intern-atom-reply",[],[.own .jxcbAtXcbInternAtomReplyT,.own .jxcbAtXcbGenericErrorT]⟩]
def utilCfuns : List Cfun := [
  ⟨"wl-list-to-array",["wl/wl-list"],[]⟩,
  ⟨"clock-gettime",[],[.own .jutilAtTimespec]⟩]

def cfuns : List Cfun := wlCfuns ++ wlrCfuns ++ xkbCfuns ++ xcbCfuns ++ utilCfuns

-- Janet's own core registers its types before any module is loaded.
def CoreTypes (registry : Registry) : Prop := ∀ name ∈ coreNames, .foreign name ∈ registry.types

-- The values a script can get hold of; pointer-to-abstract-object and wl-list-to-array
-- take the name of a type from the script.
inductive Obtained (registry : Registry) : Janet → Prop where
  | given {cfun : Cfun} {value : Abstract} (member : cfun ∈ cfuns) (typed : value.type ∈ cfun.gives) :
      Obtained registry (.abstract value)
  | converted (ran : cfunPointerToAbstractObject registry self argv = .ok value) : Obtained registry value
  | listed (ran : jlPointerToAbsObjByKey registry self ptr key = .ok value) : Obtained registry (.abstract value)
  | got {env : Env} (same : env.registry = registry) (from_ : Obtained registry value)
      (ran : janetGet env value key = .ok (some next)) : Obtained registry next

-- The panic of a lookup by a name that no module registered.
def Misses (result : Res α) : Prop := ∃ name, result = .panic ⟨"cant't find abstract type %v",[.symbol name]⟩

def ResolvesBack (registry : Registry) (value : Abstract) : Prop := ∀ fresh ptr, ptr ≠ 0 →
  cfunPointerToAbstractObject registry fresh [.pointer ptr,.symbol value.type.name] =
    .ok (.abstract ⟨fresh,value.type,.wrapper ptr⟩)

structure NamesClosed (registry : Registry) : Prop where
  gets : ∀ type method, ∀ env : Env, ∀ p key, env.registry = registry → AbsType.getMethod type = some method →
    ¬Misses (method.run env p key)
  lookups : ∀ cfun ∈ cfuns, ∀ name ∈ cfun.looksUp, ¬Misses (jlGetAbstractTypeByName registry name)
  values : ∀ value, Obtained registry (.abstract value) → ResolvesBack registry value

-- The one branch that names a type which exists nowhere, on a member that is set.
def HintsSet (env : Env) (p : Abstract) (type : AbsType) : Janet → Prop
  | .keyword kw => type = .jwlrAtWlrXwaylandSurface ∧ cString kw = "size-hints" ∧ p.payload.firstWord ≠ 0 ∧
    env.mem.ptr p.payload.firstWord "wlr_xwayland_surface" "size_hints" ≠ 0
  | _ => False

def Access.lookup : Access → Option String
  | .wrapNamed _ name => some name
  | .nilOr access => access.lookup
  | _ => none

def sizeHintsRow : String × Access := ("size-hints",.nilOr (.wrapNamed "size_hints" "xkb/xkb-size-hints-t"))

def Registered (name : String) : Prop := ∃ type ∈ AbsType.all, type.name = name ∧ type ∉ unregistered

instance (name : String) : Decidable (Registered name) := by unfold Registered; infer_instance

set_option maxRecDepth 2000 in
theorem lookup_rows : ∀ type ∈ AbsType.all, ∀ method ∈ type.getMethod, ∀ row ∈ method.members,
    ∀ name ∈ row.2.lookup, Registered name ∨ type = .jwlrAtWlrXwaylandSurface ∧ row = sizeHintsRow := by decide

set_option maxRecDepth 2000 in
theorem cfun_rows : ∀ cfun ∈ cfuns, ∀ name ∈ cfun.looksUp, Registered name := by decide

def TypeRef.known : TypeRef → Bool
  | .own _ => true
  | .foreign name => name ∈ coreNames

set_option maxRecDepth 2000 in
theorem gives_rows : ∀ cfun ∈ cfuns, ∀ type ∈ cfun.gives, type.known = true := by decide

variable {registry : Registry} {env : Env}

theorem registered_found (loaded : Loaded registry) (registered : Registered name) :
    ∃ type, jlGetAbstractTypeByName registry name = .ok type := by
  obtain ⟨type,_,rfl,known⟩ := registered
  exact ⟨.own type,by rw [loaded.resolves,if_neg known]⟩

theorem flagKeys_raises : jlGetFlagKeys flags table ≠ .panic error := by
  induction table generalizing error with
  | nil => simp [jlGetFlagKeys]
  | cons entry rest ih =>
      unfold jlGetFlagKeys
      split
      · simp
      · intro raised
        rcases Res.bind_panic_exact.mp raised with later | ⟨keys,_,built⟩
        · exact ih later
        · cases built

theorem keyAt_raises : keyAt table index ≠ .panic error := by
  unfold keyAt janetCkeywordv
  repeat' split
  all_goals simp

theorem pushBytes_raises : env.pushBytes source length ≠ .panic error := by
  unfold Env.pushBytes
  repeat' split
  all_goals simp

theorem pushAll_raises (raised : pushAll count item = .panic error) : error.values = [] := by
  unfold pushAll panicf at raised
  split at raised <;> cases raised
  rfl

-- Only a branch that names a type can miss one.
theorem read_misses {access : Access} (missed : Misses (access.read env struct obj)) :
    ∃ name, access.lookup = some name ∧ Misses (jlGetAbstractTypeByName env.registry name) := by
  obtain ⟨name,raised⟩ := missed
  by_cases live : obj = 0
  · cases access <;> simp [Access.read,Env.readPtr,Env.readBits,Env.readNum,live] at raised
  · induction access with
    | nilOr inner ih =>
        simp only [Access.read,Env.readPtr_live _ live,Res.bind_ok] at raised
        split at raised
        · cases raised
        · exact ih raised
    | wrapNamed member other =>
        simp only [Access.read,Env.readPtr_live _ live,Res.bind_ok] at raised
        rcases Res.bind_panic_exact.mp raised with looked | ⟨_,_,built⟩
        · rcases Res.bind_panic_exact.mp looked with missing | ⟨_,_,built⟩
          · exact ⟨other,rfl,name,missing⟩
          · cases built
        · cases built
    | flags member table =>
        simp only [Access.read,Env.readBits_live _ live,Res.bind_ok] at raised
        rcases Res.bind_panic_exact.mp raised with scanned | ⟨_,_,built⟩
        · exact absurd scanned flagKeys_raises
        · cases built
    | words member count | wrapElements member count type =>
        simp only [Access.read,Env.readPtr_live _ live,Env.readBits_live _ live,Res.bind_ok] at raised
        split at raised
        · cases raised
        · cases pushAll_raises raised
    | embeddedWords member count =>
        simp only [Access.read,Env.readBits_live _ live,Res.bind_ok] at raised
        split at raised
        · cases raised
        · cases pushAll_raises raised
    | enumKey member table guarded =>
        simp only [Access.read,Env.readBits_live _ live,Res.bind_ok,panicf,janetInteger] at raised
        split at raised
        · split at raised
          · cases raised
          · exact absurd raised keyAt_raises
        · exact absurd raised keyAt_raises
    | cstring member =>
        simp only [Access.read,Env.readPtr_live _ live,Res.bind_ok,Env.janetCstringv] at raised
        split at raised <;> cases raised
    | bytes member size =>
        simp only [Access.read,Env.readPtr_live _ live,Env.readBits_live _ live,Res.bind_ok] at raised
        exact absurd raised pushBytes_raises
    | pixels member width height =>
        simp only [Access.read,Env.readPtr_live _ live,Env.readBits_live _ live,Res.bind_ok] at raised
        split at raised
        · cases raised
        · exact absurd raised pushBytes_raises
    | _ => simp [Access.read,live] at raised

theorem resolved_member (resolved : jlGetAbstractTypeByKey registry key = .ok type) : type ∈ registry.types := by
  unfold jlGetAbstractTypeByKey janetGetAbstractType at resolved
  split at resolved
  · rename_i other found
    cases resolved
    split at found
    · exact List.mem_of_find?_eq_some found
    · cases found
  · cases resolved

-- The wrappers of signals and lists are found, so a get that misses a type is a branch.
theorem entry_found (loaded : Loaded env.registry) {method : GetMethod}
    (listed : type ∈ [AbsType.jwlAtWlSignal,.jwlAtWlList]) : method.wrapEntry env p type entry ≠ .panic error := by
  have known : ∀ type ∈ [AbsType.jwlAtWlSignal,.jwlAtWlList], type ∉ unregistered := by decide
  have resolved := loaded.resolves type
  rw [if_neg (known type listed),jlGetAbstractTypeByName] at resolved
  simp [GetMethod.wrapEntry,jlPointerToAbsObjByName,jlPointerToAbsObjByKey,resolved]

theorem run_misses (loaded : Loaded env.registry) {method : GetMethod} (missed : Misses (method.run env p key)) :
    ∃ kw access, key = .keyword kw ∧ method.branch kw = some access ∧
      Misses (access.read env method.struct (method.object p)) := by
  obtain ⟨name,raised⟩ := missed
  have answer := method.run_answer env p key
  rw [raised] at answer
  generalize result : Res.panic ⟨"cant't find abstract type %v",[.symbol name]⟩ = answered at answer
  cases answer with
  | entry listed => exact absurd result.symm (entry_found loaded listed)
  | branch found =>
      rcases Res.bind_panic_exact.mp result.symm with missing | ⟨_,_,built⟩
      · exact ⟨_,_,rfl,found,name,missing⟩
      · cases built
  | refused => simp at result
  | _ => cases result

theorem hints_unregistered (registry : Registry) : registry.find "xkb/xkb-size-hints-t" = none := by
  apply find_stray registry _ (by decide)
  intro type
  cases type <;> decide

theorem hints_read (live : obj ≠ 0) :
    Misses (sizeHintsRow.2.read env "wlr_xwayland_surface" obj) ↔
      env.mem.ptr obj "wlr_xwayland_surface" "size_hints" ≠ 0 := by
  simp only [sizeHintsRow,Access.read,Access.member,Env.readPtr_live _ live,Res.bind_ok]
  by_cases unset : env.mem.ptr obj "wlr_xwayland_surface" "size_hints" = 0
  · simp [unset,Misses]
  · simp [unset,Misses,jlPointerToAbsObjByName,jlPointerToAbsObjByKey,jlGetAbstractTypeByKey,janetGetAbstractType,
      hints_unregistered,panicf]

theorem get_misses_exact (loaded : Loaded env.registry) (found : AbsType.getMethod type = some method) :
    Misses (method.run env p key) ↔ HintsSet env p type key := by
  constructor
  · intro missed
    obtain ⟨kw,access,rfl,branch,missing⟩ := run_misses loaded missed
    obtain ⟨name,looked,unknown⟩ := read_misses missing
    have listed := GetMethod.branch_row branch
    rcases lookup_rows type type.mem_all method found _ listed name looked with registered | ⟨rfl,row⟩
    · obtain ⟨type,resolved⟩ := registered_found loaded registered
      obtain ⟨_,raised⟩ := unknown
      rw [resolved] at raised
      cases raised
    · cases found
      obtain ⟨same,rfl⟩ := Prod.mk.inj row
      have live : p.payload.firstWord ≠ 0 := by
        intro unset
        obtain ⟨_,raised⟩ := missing
        simp [GetMethod.object,methodWlrXwaylandSurfaceGet,unset,Access.read,Env.readPtr] at raised
      exact ⟨rfl,same,live,(hints_read live).mp missing⟩
  · intro hints
    cases key with
    | keyword kw =>
        obtain ⟨rfl,same,live,set⟩ := hints
        cases found
        have named : janetCstrcmp kw = janetCstrcmp "size-hints" := by rw [← janetCstrcmp_cString,same]
        have signals : scanOutcome kw methodWlrXwaylandSurfaceGet.signals = .stopped := by
          rw [← scanOutcome_cString,same]
          decide
        have branch : methodWlrXwaylandSurfaceGet.branch kw = some sizeHintsRow.2 := by
          rw [GetMethod.branch,named]
          rfl
        obtain ⟨name,raised⟩ := (hints_read live).mpr set
        refine ⟨name,?_⟩
        rw [GetMethod.run_unscanned _ signals rfl,branch]
        exact Res.bind_panic_exact.mpr (.inl raised)
    | _ => cases hints

def Typed (registry : Registry) (value : Abstract) : Prop := value.type.known = true ∨ value.type ∈ registry.types

theorem wrapped_typed (wrapped : jlPointerToAbsObjByKey registry self ptr key = .ok value) : Typed registry value := by
  obtain ⟨type,resolved,built⟩ := Res.bind_exact.mp wrapped
  cases built
  exact .inr (resolved_member resolved)

theorem branch_typed {access : Access} (made : access.Makes env struct obj value) : Typed env.registry value := by
  induction access with
  | nilOr inner ih => exact ih made.2
  | wrap member type | inner member type =>
      cases made
      exact .inl rfl
  | wrapNamed member name => exact wrapped_typed made
  | wrapElements member count type =>
      obtain ⟨_,i,_,rfl⟩ := made
      exact .inl rfl
  | unsigned | words | embeddedWords =>
      have named : value.type = .foreign "core/u64" := made
      exact .inl (by rw [named]; decide)
  | _ => cases made

theorem obtained_typed (obtained : Obtained registry value) : Flat (Typed registry) value := by
  induction obtained with
  | given member typed => exact .inl (gives_rows _ member _ typed)
  | listed ran => exact wrapped_typed ran
  | converted ran =>
      obtain ⟨_,_,ran⟩ := Res.bind_exact.mp ran
      obtain ⟨ptr,_,ran⟩ := Res.bind_exact.mp ran
      split at ran
      · cases ran
        trivial
      · obtain ⟨wrapper,wrapped,built⟩ := Res.bind_exact.mp ran
        cases built
        exact wrapped_typed wrapped
  | got same _ ran ih =>
      refine get_flat ih ?_ ran
      rintro wrapper type method _ _ _ next (⟨target,_,ptr,wrapped⟩ | ⟨row,_,made⟩)
      · exact same ▸ wrapped_typed wrapped
      · exact same ▸ branch_typed made

theorem find_foreign (member : .foreign name ∈ registry.types) : registry.find name = some (.foreign name) := by
  unfold Registry.find
  cases found : registry.types.find? (fun other => other.name == name) with
  | none => simpa [TypeRef.name] using List.find?_eq_none.mp found _ member
  | some other =>
      have same : other.name = name := by simpa using List.find?_some found
      cases other with
      | own type =>
          have prefixed := registry.core name member
          rw [← same,TypeRef.name,type.name_apart] at prefixed
          cases prefixed
      | foreign other =>
          cases same
          rfl

theorem resolves_back (value : Abstract) : ResolvesBack registry value ↔
    jlGetAbstractTypeByName registry value.type.name = .ok value.type := by
  constructor
  · intro back
    have one := back 0 1 (by decide)
    rw [converted registry 0 (by decide)] at one
    obtain ⟨type,resolved,built⟩ := Res.bind_exact.mp one
    cases built
    exact resolved
  · intro resolved fresh ptr set
    rw [converted registry fresh set,resolved]
    rfl

-- An abstract a script got hold of has a type that is registered under its name, unless
-- it is of one of the four that no module registers.
theorem obtained_resolves (loaded : Loaded registry) (core : CoreTypes registry)
    (obtained : Obtained registry (.abstract value)) :
    ResolvesBack registry value ↔ ∀ type ∈ unregistered, value.type ≠ .own type := by
  rw [resolves_back]
  cases ref : value.type with
  | own type =>
      rw [TypeRef.name,loaded.resolves type]
      by_cases absent : type ∈ unregistered
      · simp [absent,panicf]
      · rw [if_neg absent]
        refine iff_of_true rfl ?_
        rintro other listed same
        cases same
        exact absent listed
  | foreign name =>
      have member : .foreign name ∈ registry.types := by
        have typed : Typed registry value := obtained_typed obtained
        rw [Typed,ref] at typed
        rcases typed with known | member
        · exact core name (of_decide_eq_true known)
        · exact member
      simp [TypeRef.name,jlGetAbstractTypeByName,jlGetAbstractTypeByKey,janetGetAbstractType,find_foreign member]

theorem names_closed_exact (loaded : Loaded registry) (core : CoreTypes registry) :
    (∀ type method, ∀ env : Env, ∀ p key, env.registry = registry → AbsType.getMethod type = some method →
      (¬Misses (method.run env p key) ↔ ¬HintsSet env p type key)) ∧
    (∀ cfun ∈ cfuns, ∀ name ∈ cfun.looksUp, ¬Misses (jlGetAbstractTypeByName registry name)) ∧
    ∀ value, Obtained registry (.abstract value) →
      (ResolvesBack registry value ↔ ∀ type ∈ unregistered, value.type ≠ .own type) := by
  refine ⟨?_,?_,fun value obtained => obtained_resolves loaded core obtained⟩
  · rintro type method env p key rfl found
    exact not_congr (get_misses_exact loaded found)
  · rintro cfun member name looked ⟨_,raised⟩
    obtain ⟨type,resolved⟩ := registered_found loaded (cfun_rows cfun member name looked)
    rw [resolved] at raised
    cases raised

theorem core_loaded : CoreTypes loadedRegistry := by
  unfold CoreTypes
  decide

theorem display_resolves : ResolvesBack loadedRegistry ⟨8,.own .jwlAtWlDisplay,.wrapper 16⟩ := by
  have listed : (⟨"wl-display-create",[],[.own .jwlAtWlDisplay]⟩ : Cfun) ∈ cfuns := by decide
  have created : Obtained loadedRegistry (.abstract ⟨8,.own .jwlAtWlDisplay,.wrapper 16⟩) :=
    .given listed (by decide)
  exact ((names_closed_exact modules_load core_loaded).2.2 _ created).mpr (by decide)

-- The size hints are an xcb struct, and the get method asks for them under xkb.
theorem size_hints_missed : ¬∀ registry, Loaded registry → CoreTypes registry → NamesClosed registry := by
  intro claim
  have closed := claim loadedRegistry modules_load core_loaded
  let env : Env := { blankEnv with mem := blankMem.setPtr 16 "wlr_xwayland_surface" "size_hints" 32 }
  have surface : AbsType.getMethod .jwlrAtWlrXwaylandSurface = some methodWlrXwaylandSurfaceGet := rfl
  refine closed.gets _ _ env ⟨8,.own .jwlrAtWlrXwaylandSurface,.wrapper 16⟩ (.keyword "size-hints") rfl surface ?_
  exact (get_misses_exact modules_load surface).mpr ⟨rfl,by decide,by decide,by decide⟩

end Janetland
