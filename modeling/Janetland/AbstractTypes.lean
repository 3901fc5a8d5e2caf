import Janetland.Values
import Mathlib.Data.List.Nodup
import Mathlib.Tactic.Tauto

namespace Janetland

-- MOD_NAME "/..." as each descriptor spells it.
def AbsType.name : AbsType → String
  | .jwlAtWlEventLoop => "wl/wl-event-loop"
  | .jwlAtEventSource => "wl/event-source"
  | .jwlAtWlList => "wl/wl-list"
  | .jwlAtWlSignal => "wl/wl-signal"
  | .jwlAtListener => "wl/listener"
  | .jwlAtWlDisplay => "wl/wl-display"
  | .jwlrAtBox => "wlr/box"
  | .jwlrAtWlrBackend => "wlr/wlr-backend"
  | .jwlrAtWlrRenderer => "wlr/wlr-renderer"
  | .jwlrAtWlrAllocator => "wlr/wlr-allocator"
  | .jwlrAtWlrCompositor => "wlr/wlr-compositor"
  | .jwlrAtWlrSubcompositor => "wlr/wlr-subcompositor"
  | .jwlrAtWlrDataDeviceManager => "wlr/wlr-data-device-manager"
  | .jwlrAtWlrOutputLayout => "wlr/wlr-output-layout"
  | .jwlrAtWlrOutputLayoutOutput => "wlr/wlr-output-layout-output"
  | .jwlrAtWlrScene => "wlr/wlr-scene"
  | .jwlrAtWlrSceneOutput => "wlr/wlr-scene-output"
  | .jwlrAtWlrXdgShell => "wlr/wlr-xdg-shell"
  | .jwlrAtWlrSurface => "wlr/wlr-surface"
  | .jwlrAtWlrSurfaceState => "wlr/wlr-surface-state"
  | .jwlrAtWlrXdgPopup => "wlr/wlr-xdg-popup"
  | .jwlrAtWlrXdgToplevel => "wlr/wlr-xdg-toplevel"
  | .jwlrAtWlrXdgToplevelResizeEvent => "wlr/wlr-xdg-toplevel-resize-event"
  | .jwlrAtWlrXdgToplevelMoveEvent => "wlr/wlr-xdg-toplevel-move-event"
  | .jwlrAtWlrXdgSurface => "wlr/wlr-xdg-surface"
  | .jwlrAtWlrCursor => "wlr/wlr-cursor"
  | .jwlrAtWlrXcursorManager => "wlr/wlr-xcursor-manager"
  | .jwlrAtWlrXcursorImage => "wlr/wlr-xcursor-image"
  | .jwlrAtWlrXcursor => "wlr/wlr-xcursor"
  | .jwlrAtWlrSeat => "wlr/wlr-seat"
  | .jwlrAtWlrSeatClient => "wlr/wlr-seat-client"
  | .jwlrAtWlrOutput => "wlr/wlr-output"
  | .jwlrAtWlrOutputMode => "wlr/wlr-output-mode"
  | .jwlrAtWlrOutputCursor => "wlr/wlr-output-cursor"
  | .jwlrAtWlrSceneTree => "wlr/wlr-scene-tree"
  | .jwlrAtWlrSceneNode => "wlr/wlr-scene-node"
  | .jwlrAtWlrSceneBuffer => "wlr/wlr-scene-buffer"
  | .jwlrAtWlrSceneSurface => "wlr/wlr-scene-surface"
  | .jwlrAtWlrInputDevice => "wlr/wlr-input-device"
  | .jwlrAtWlrPointer => "wlr/wlr-pointer"
  | .jwlrAtWlrPointerMotionEvent => "wlr/wlr-pointer-motion-event"
  | .jwlrAtWlrPointerMotionAbsoluteEvent => "wlr/wlr-pointer-motion-absolute-event"
  | .jwlrAtWlrPointerButtonEvent => "wlr/wlr-pointer-button-event"
  | .jwlrAtWlrPointerAxisEvent => "wlr/wlr-pointer-axis-event"
  | .jwlrAtWlrSeatPointerState => "wlr/wlr-seat-pointer-state"
  | .jwlrAtWlrSeatKeyboardState => "wlr/wlr-seat-keyboard-state"
  | .jwlrAtWlrSeatPointerRequestSetCursorEvent => "wlr/wlr-seat-pointer-request-set-cursor-event"
  | .jwlrAtWlrSeatRequestSetSelectionEvent => "wlr/wlr-seat-request-set-selection-event"
  | .jwlrAtWlrDataSource => "wlr/wlr-data-source"
  | .jwlrAtWlrKeyboardModifiers => "wlr/wlr-keyboard-modifiers"
  | .jwlrAtWlrKeyboardKeyEvent => "wlr/wlr-keyboard-key-event"
  | .jwlrAtWlrKeyboard => "wlr/wlr-keyboard"
  | .jwlrAtWlrXwayland => "wlr/wlr-xwayland"
  | .jwlrAtWlrXwaylandSurface => "wlr/wlr-xwayland-surface"
  | .jwlrAtWlrXwaylandResizeEvent => "wlr/wlr-xwayland-resize-event"
  | .jwlrAtWlrXwaylandMinimizeEvent => "wlr/wlr-xwayland-minimize-event"
  | .jwlrAtWlrXwaylandSurfaceConfigureEvent => "wlr/wlr-xwayland-surface-configure-event"
  | .jwlrAtWlrLayerShellV1 => "wlr/wlr-layer-shell-v1"
  | .jxkbAtXkbContext => "xkb/xkb-context"
  | .jxkbAtXkbRuleNames => "xkb/xkb-rule-names"
  | .jxkbAtXkbKeymap => "xkb/xkb-keymap"
  | .jxkbAtXkbState => "xkb/xkb-state"
  | .jxcbAtInternAtomCookieT => "xcb/intern-atom-cookie-t"
  | .jxcbAtXcbInternAtomReplyT => "xcb/xcb-intern-atom-reply-t"
  | .jxcbAtXcbGenericErrorT => "xcb/xcb-generic-error-t"
  | .jxcbAtXcbConnectionT => "xcb/xcb-connection-t"
  | .jxcbAtXcbSizeHintsT => "xcb/xcb-size-hints-t"
  | .jutilAtTimespec => "util/timespec"

def AbsType.all : List AbsType :=
  [.jwlAtWlEventLoop,.jwlAtEventSource,.jwlAtWlList,.jwlAtWlSignal,.jwlAtListener,.jwlAtWlDisplay,
    .jwlrAtBox,.jwlrAtWlrBackend,.jwlrAtWlrRenderer,.jwlrAtWlrAllocator,.jwlrAtWlrCompositor,
    .jwlrAtWlrSubcompositor,.jwlrAtWlrDataDeviceManager,.jwlrAtWlrOutputLayout,
    .jwlrAtWlrOutputLayoutOutput,.jwlrAtWlrScene,.jwlrAtWlrSceneOutput,.jwlrAtWlrXdgShell,
    .jwlrAtWlrSurface,.jwlrAtWlrSurfaceState,.jwlrAtWlrXdgPopup,.jwlrAtWlrXdgToplevel,
    .jwlrAtWlrXdgToplevelResizeEvent,.jwlrAtWlrXdgToplevelMoveEvent,.jwlrAtWlrXdgSurface,
    .jwlrAtWlrCursor,.jwlrAtWlrXcursorManager,.jwlrAtWlrXcursorImage,.jwlrAtWlrXcursor,
    .jwlrAtWlrSeat,.jwlrAtWlrSeatClient,.jwlrAtWlrOutput,.jwlrAtWlrOutputMode,
    .jwlrAtWlrOutputCursor,.jwlrAtWlrSceneTree,.jwlrAtWlrSceneNode,.jwlrAtWlrSceneBuffer,
    .jwlrAtWlrSceneSurface,.jwlrAtWlrInputDevice,.jwlrAtWlrPointer,.jwlrAtWlrPointerMotionEvent,
    .jwlrAtWlrPointerMotionAbsoluteEvent,.jwlrAtWlrPointerButtonEvent,.jwlrAtWlrPointerAxisEvent,
    .jwlrAtWlrSeatPointerState,.jwlrAtWlrSeatKeyboardState,
    .jwlrAtWlrSeatPointerRequestSetCursorEvent,.jwlrAtWlrSeatRequestSetSelectionEvent,
    .jwlrAtWlrDataSource,.jwlrAtWlrKeyboardModifiers,.jwlrAtWlrKeyboardKeyEvent,
    .jwlrAtWlrKeyboard,.jwlrAtWlrXwayland,.jwlrAtWlrXwaylandSurface,.jwlrAtWlrXwaylandResizeEvent,
    .jwlrAtWlrXwaylandMinimizeEvent,.jwlrAtWlrXwaylandSurfaceConfigureEvent,
    .jwlrAtWlrLayerShellV1,.jxkbAtXkbContext,.jxkbAtXkbRuleNames,.jxkbAtXkbKeymap,.jxkbAtXkbState,
    .jxcbAtInternAtomCookieT,.jxcbAtXcbInternAtomReplyT,.jxcbAtXcbGenericErrorT,
    .jxcbAtXcbConnectionT,.jxcbAtXcbSizeHintsT,.jutilAtTimespec]

theorem AbsType.mem_all (type : AbsType) : type ∈ AbsType.all := by cases type <;> decide

theorem AbsType.names_nodup : (AbsType.all.map AbsType.name).Nodup := by simp [AbsType.all,AbsType.name]

theorem AbsType.name_injective {left right : AbsType} (same : left.name = right.name) : left = right :=
  List.inj_on_of_nodup_map names_nodup left.mem_all right.mem_all same

-- The descriptors whose payload is a struct held inline; all others wrap a pointer.
def AbsType.inline : AbsType → Bool
  | .jwlAtEventSource | .jwlAtListener | .jwlrAtBox | .jxkbAtXkbRuleNames
  | .jxcbAtInternAtomCookieT | .jutilAtTimespec => true
  | _ => false

def wlEntry : List AbsType :=
  [.jwlAtWlEventLoop,.jwlAtEventSource,.jwlAtWlList,.jwlAtWlSignal,.jwlAtListener,.jwlAtWlDisplay]
def wlrEntry : List AbsType :=
  [.jwlrAtBox,.jwlrAtWlrBackend,.jwlrAtWlrRenderer,.jwlrAtWlrAllocator,.jwlrAtWlrCompositor,
    .jwlrAtWlrSubcompositor,.jwlrAtWlrDataDeviceManager,.jwlrAtWlrOutputLayout,
    .jwlrAtWlrOutputLayoutOutput,.jwlrAtWlrScene,.jwlrAtWlrSceneOutput,.jwlrAtWlrSceneTree,
    .jwlrAtWlrSceneNode,.jwlrAtWlrSceneBuffer,.jwlrAtWlrSceneSurface,.jwlrAtWlrXdgShell,
    .jwlrAtWlrSurface,.jwlrAtWlrSurfaceState,.jwlrAtWlrXdgSurface,.jwlrAtWlrXdgToplevel,
    .jwlrAtWlrXdgToplevelMoveEvent,.jwlrAtWlrXdgToplevelResizeEvent,.jwlrAtWlrXdgPopup,
    .jwlrAtWlrCursor,.jwlrAtWlrXcursorManager,.jwlrAtWlrOutput,.jwlrAtWlrOutputMode,
    .jwlrAtWlrOutputCursor,.jwlrAtWlrInputDevice,.jwlrAtWlrPointer,.jwlrAtWlrPointerMotionEvent,
    .jwlrAtWlrPointerMotionAbsoluteEvent,.jwlrAtWlrPointerButtonEvent,.jwlrAtWlrPointerAxisEvent,
    .jwlrAtWlrSeat,.jwlrAtWlrSeatPointerState,.jwlrAtWlrSeatPointerRequestSetCursorEvent,
    .jwlrAtWlrSeatKeyboardState,.jwlrAtWlrSeatRequestSetSelectionEvent,.jwlrAtWlrDataSource,
    .jwlrAtWlrKeyboard,.jwlrAtWlrKeyboardModifiers,.jwlrAtWlrKeyboardKeyEvent,.jwlrAtWlrXwayland,
    .jwlrAtWlrXwaylandSurface,.jwlrAtWlrXwaylandResizeEvent,.jwlrAtWlrXwaylandMinimizeEvent,
    .jwlrAtWlrXwaylandSurfaceConfigureEvent]
def xkbEntry : List AbsType :=
  [.jxkbAtXkbContext,.jxkbAtXkbKeymap,.jxkbAtXkbRuleNames,.jxkbAtXkbState]
def xcbEntry : List AbsType :=
  [.jxcbAtXcbConnectionT,.jxcbAtXcbGenericErrorT,.jxcbAtInternAtomCookieT,
    .jxcbAtXcbInternAtomReplyT,.jxcbAtXcbSizeHintsT]
def utilEntry : List AbsType :=
  [.jutilAtTimespec]

def TypeRef.name : TypeRef → String
  | .own type => type.name
  | .foreign name => name

def hasPrefix (start text : String) : Bool := start.toList.isPrefixOf text.toList

-- A literal is its characters, so that no proof has to decode one.
theorem hasPrefix_ofList (start text : List Char) :
    hasPrefix (String.ofList start) (String.ofList text) = start.isPrefixOf text := by
  simp [hasPrefix]

theorem AbsType.name_apart (type : AbsType) : hasPrefix "core/" type.name = false := by
  cases type <;> exact hasPrefix_ofList _ _

-- The VM's registry of abstract types. Before any of the five modules is loaded it
-- holds what Janet's own core registers, under names that start with "core/".
structure Registry where
  types : List TypeRef
  core : ∀ name, .foreign name ∈ types → hasPrefix "core/" name = true

def Registry.janetCore (names : List String) (core : ∀ name ∈ names, hasPrefix "core/" name = true) :
    Registry where
  types := names.map .foreign
  core := by
    intro name member
    obtain ⟨other,present,equal⟩ := List.mem_map.mp member
    cases equal
    exact core name present

def Registry.find (registry : Registry) (name : String) : Option TypeRef :=
  registry.types.find? (fun type => type.name == name)

def Registry.add (registry : Registry) (type : AbsType) : Registry where
  types := .own type :: registry.types
  core := by
    intro name member
    rcases List.mem_cons.mp member with equal | present
    · cases equal
    · exact registry.core name present

def janetRegisterAbstractType (registry : Registry) (type : AbsType) : Res Registry :=
  match registry.find type.name with
  | none => .ok (registry.add type)
  | some other =>
    if other = .own type then .ok (registry.add type)
    else panicf "cannot register abstract type %s, a type with the same name exists" [.symbol type.name]

def registerAll (registry : Registry) : List AbsType → Res Registry
  | [] => .ok registry
  | type :: rest => do
    let next ← janetRegisterAbstractType registry type
    registerAll next rest

-- JANET_MODULE_ENTRY of wl, wlr, xkb, xcb and util.
def moduleEntries : List (List AbsType) := [wlEntry,wlrEntry,xkbEntry,xcbEntry,utilEntry]

-- `registry` is the VM's after the five entry functions ran, in some order, on Janet's own.
def Loaded (registry : Registry) : Prop :=
  ∃ names, ∃ core : ∀ name ∈ names, hasPrefix "core/" name = true, ∃ order : List (List AbsType),
    order.Perm moduleEntries ∧ registerAll (.janetCore names core) order.flatten = .ok registry

theorem find_own (registry : Registry) (type : AbsType) :
    registry.find type.name = if .own type ∈ registry.types then some (.own type) else none := by
  have unique : ∀ other ∈ registry.types, (other.name == type.name) = true → other = .own type := by
    intro other member same
    cases other with
    | own other => rw [AbsType.name_injective (beq_iff_eq.mp same)]
    | foreign name =>
        have prefixed := registry.core name member
        rw [show name = type.name from beq_iff_eq.mp same,type.name_apart] at prefixed
        cases prefixed
  unfold Registry.find
  cases found : registry.types.find? (fun other => other.name == type.name) with
  | none =>
      have absent := List.find?_eq_none.mp found
      rw [if_neg]
      intro member
      exact absent _ member (by simp [TypeRef.name])
  | some other =>
      have member := List.mem_of_find?_eq_some found
      have same : (other.name == type.name) = true := by simpa using List.find?_some found
      have equal := unique other member same
      subst equal
      rw [if_pos member]

theorem find_stray (registry : Registry) (name : String) (foreign : hasPrefix "core/" name = false)
    (stray : ∀ type : AbsType, type.name ≠ name) : registry.find name = none := by
  apply List.find?_eq_none.mpr
  intro other member same
  cases other with
  | own type => exact stray type (beq_iff_eq.mp same)
  | foreign other =>
      have prefixed := registry.core other member
      rw [show other = name from beq_iff_eq.mp same,foreign] at prefixed
      cases prefixed

theorem register_succeeds (registry : Registry) (type : AbsType) :
    janetRegisterAbstractType registry type = .ok (registry.add type) := by
  unfold janetRegisterAbstractType
  rw [find_own]
  split <;> simp_all

theorem registerAll_succeeds (registry : Registry) (types : List AbsType) :
    ∃ next, registerAll registry types = .ok next ∧
      ∀ type, TypeRef.own type ∈ next.types ↔ TypeRef.own type ∈ registry.types ∨ type ∈ types := by
  induction types generalizing registry with
  | nil => exact ⟨registry,rfl,by simp⟩
  | cons head rest ih =>
      obtain ⟨next,loaded,members⟩ := ih (registry.add head)
      refine ⟨next,by simpa [registerAll,register_succeeds] using loaded,?_⟩
      intro type
      simp only [members,Registry.add,List.mem_cons,TypeRef.own.injEq]
      tauto

-- The four descriptors that no module entry registers.
def unregistered : List AbsType :=
  [.jwlrAtWlrXcursorImage,.jwlrAtWlrXcursor,.jwlrAtWlrSeatClient,.jwlrAtWlrLayerShellV1]

theorem registered_exact (type : AbsType) : type ∈ moduleEntries.flatten ↔ type ∉ unregistered := by
  cases type <;> decide

theorem registerAll_adds (registry : Registry) (types : List AbsType) :
    registerAll registry types = .ok (types.foldl .add registry) := by
  induction types generalizing registry with
  | nil => rfl
  | cons head rest ih => simp [registerAll,register_succeeds,ih]

-- The types of Janet's core that the modules make values of.
def coreNames : List String := ["core/u64","core/stream"]

theorem core_prefixed : ∀ name ∈ coreNames, hasPrefix "core/" name = true := by decide

def loadedRegistry : Registry := moduleEntries.flatten.foldl .add (.janetCore coreNames core_prefixed)

theorem modules_load : Loaded loadedRegistry :=
  ⟨coreNames,core_prefixed,moduleEntries,.refl _,registerAll_adds _ _⟩

theorem Loaded.member (loaded : Loaded registry) (type : AbsType) :
    .own type ∈ registry.types ↔ type ∉ unregistered := by
  obtain ⟨names,core,order,perm,ran⟩ := loaded
  obtain ⟨next,succeeds,members⟩ := registerAll_succeeds (.janetCore names core) order.flatten
  have same : next = registry := by simpa [succeeds] using ran
  subst next
  rw [members,← registered_exact,perm.flatten.mem_iff]
  simp [Registry.janetCore]

theorem Loaded.find (loaded : Loaded registry) (type : AbsType) :
    registry.find type.name = if type ∈ unregistered then none else some (.own type) := by
  rw [find_own]
  by_cases absent : type ∈ unregistered <;> simp [loaded.member,absent]

-- jl_get_abstract_type_by_key and its callers; a key that is no symbol names no type.
def janetGetAbstractType (registry : Registry) : Janet → Option TypeRef
  | .symbol name => registry.find name
  | _ => none

def jlGetAbstractTypeByKey (registry : Registry) (key : Janet) : Res TypeRef :=
  match janetGetAbstractType registry key with
  | some type => .ok type
  | none => panicf "cant't find abstract type %v" [key]

def jlGetAbstractTypeByName (registry : Registry) (name : String) : Res TypeRef :=
  jlGetAbstractTypeByKey registry (.symbol name)

def jlPointerToAbsObjByKey (registry : Registry) (self ptr : Addr) (key : Janet) : Res Abstract := do
  let type ← jlGetAbstractTypeByKey registry key
  return ⟨self,type,.wrapper ptr⟩

def jlPointerToAbsObjByName (registry : Registry) (self ptr : Addr) (name : String) : Res Abstract :=
  jlPointerToAbsObjByKey registry self ptr (.symbol name)

def jlGetAbsObjPointerByKey (registry : Registry) (argv : List Janet) (n : Nat) (key : Janet) :
    Res Addr := do
  let type ← jlGetAbstractTypeByKey registry key
  let value ← janetGetabstract argv n type
  return value.payload.firstWord

def jlGetAbsObjPointerByName (registry : Registry) (argv : List Janet) (n : Nat) (name : String) :
    Res Addr := jlGetAbsObjPointerByKey registry argv n (.symbol name)

theorem Loaded.resolves (loaded : Loaded registry) (type : AbsType) :
    jlGetAbstractTypeByName registry type.name =
      if type ∈ unregistered then panicf "cant't find abstract type %v" [.symbol type.name]
      else .ok (.own type) := by
  simp only [jlGetAbstractTypeByName,jlGetAbstractTypeByKey,janetGetAbstractType,loaded.find type]
  by_cases absent : type ∈ unregistered <;> simp [absent]

end Janetland
