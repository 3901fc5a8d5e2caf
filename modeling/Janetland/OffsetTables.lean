import Janetland.CObjects
import Janetland.Foundations.SentinelScan

namespace Janetland

-- jl_offset_def_t; a NULL name is the sentinel that ends a table.
structure OffsetDef where
  entry : Option (String × String)
deriving DecidableEq

def jwlrOffsetDef (struct member : String) : OffsetDef := ⟨some (struct,member)⟩
def OffsetDef.null : OffsetDef := ⟨none⟩
def OffsetDef.name (entry : OffsetDef) : Option String := entry.entry.map Prod.snd
def OffsetDef.offset (env : Env) (entry : OffsetDef) : Nat := match entry.entry with
  | some (struct,member) => env.offsetof struct member
  | none => 0

def wlrBackendSignalOffsets : List OffsetDef :=
  [jwlrOffsetDef "wlr_backend" "events.destroy",jwlrOffsetDef "wlr_backend" "events.new_input",
    jwlrOffsetDef "wlr_backend" "events.new_output",.null]
def wlrOutputLayoutSignalOffsets : List OffsetDef :=
  [jwlrOffsetDef "wlr_output_layout" "events.add",
    jwlrOffsetDef "wlr_output_layout" "events.change",
    jwlrOffsetDef "wlr_output_layout" "events.destroy",.null]
def wlrOutputLayoutListOffsets : List OffsetDef := [jwlrOffsetDef "wlr_output_layout" "outputs",.null]
def wlrSceneListOffsets : List OffsetDef := [jwlrOffsetDef "wlr_scene" "outputs"]
def wlrSceneOutputSignalOffsets : List OffsetDef := [jwlrOffsetDef "wlr_scene_output" "events.destroy",.null]
def wlrXdgShellSignalOffsets : List OffsetDef :=
  [jwlrOffsetDef "wlr_xdg_shell" "events.new_surface",
    jwlrOffsetDef "wlr_xdg_shell" "events.destroy",.null]
def wlrSurfaceSignalOffsets : List OffsetDef :=
  [jwlrOffsetDef "wlr_surface" "events.client_commit",jwlrOffsetDef "wlr_surface" "events.commit",
    jwlrOffsetDef "wlr_surface" "events.new_subsurface",
    jwlrOffsetDef "wlr_surface" "events.destroy",.null]
def wlrXdgPopupSignalOffsets : List OffsetDef := [jwlrOffsetDef "wlr_xdg_popup" "events.reposition",.null]
def wlrXdgToplevelSignalOffsets : List OffsetDef :=
  [jwlrOffsetDef "wlr_xdg_toplevel" "events.request_maximize",
    jwlrOffsetDef "wlr_xdg_toplevel" "events.request_fullscreen",
    jwlrOffsetDef "wlr_xdg_toplevel" "events.request_minimize",
    jwlrOffsetDef "wlr_xdg_toplevel" "events.request_move",
    jwlrOffsetDef "wlr_xdg_toplevel" "events.request_resize",
    jwlrOffsetDef "wlr_xdg_toplevel" "events.request_show_window_menu",
    jwlrOffsetDef "wlr_xdg_toplevel" "events.set_parent",
    jwlrOffsetDef "wlr_xdg_toplevel" "events.set_title",
    jwlrOffsetDef "wlr_xdg_toplevel" "events.set_app_id",.null]
def wlrXdgSurfaceSignalOffsets : List OffsetDef :=
  [jwlrOffsetDef "wlr_xdg_surface" "events.destroy",
    jwlrOffsetDef "wlr_xdg_surface" "events.ping_timeout",
    jwlrOffsetDef "wlr_xdg_surface" "events.new_popup",
    jwlrOffsetDef "wlr_xdg_surface" "events.map",jwlrOffsetDef "wlr_xdg_surface" "events.unmap",
    jwlrOffsetDef "wlr_xdg_surface" "events.configure",
    jwlrOffsetDef "wlr_xdg_surface" "events.ack_configure",.null]
def wlrXdgSurfaceListOffsets : List OffsetDef :=
  [jwlrOffsetDef "wlr_xdg_surface" "popups",jwlrOffsetDef "wlr_xdg_surface" "configure_list"]
def wlrCursorSignalOffsets : List OffsetDef :=
  [jwlrOffsetDef "wlr_cursor" "events.motion",jwlrOffsetDef "wlr_cursor" "events.motion_absolute",
    jwlrOffsetDef "wlr_cursor" "events.button",jwlrOffsetDef "wlr_cursor" "events.axis",
    jwlrOffsetDef "wlr_cursor" "events.frame",jwlrOffsetDef "wlr_cursor" "events.swipe_begin",
    jwlrOffsetDef "wlr_cursor" "events.swipe_update",
    jwlrOffsetDef "wlr_cursor" "events.swipe_end",jwlrOffsetDef "wlr_cursor" "events.pinch_begin",
    jwlrOffsetDef "wlr_cursor" "events.pinch_update",
    jwlrOffsetDef "wlr_cursor" "events.pinch_end",jwlrOffsetDef "wlr_cursor" "events.hold_begin",
    jwlrOffsetDef "wlr_cursor" "events.hold_end",jwlrOffsetDef "wlr_cursor" "events.touch_up",
    jwlrOffsetDef "wlr_cursor" "events.touch_down",
    jwlrOffsetDef "wlr_cursor" "events.touch_motion",
    jwlrOffsetDef "wlr_cursor" "events.touch_cancel",
    jwlrOffsetDef "wlr_cursor" "events.touch_frame",
    jwlrOffsetDef "wlr_cursor" "events.tablet_tool_axis",
    jwlrOffsetDef "wlr_cursor" "events.tablet_tool_proximity",
    jwlrOffsetDef "wlr_cursor" "events.tablet_tool_tip",
    jwlrOffsetDef "wlr_cursor" "events.tablet_tool_button",.null]
def wlrSeatSignalOffsets : List OffsetDef :=
  [jwlrOffsetDef "wlr_seat" "events.pointer_grab_begin",
    jwlrOffsetDef "wlr_seat" "events.pointer_grab_end",
    jwlrOffsetDef "wlr_seat" "events.keyboard_grab_begin",
    jwlrOffsetDef "wlr_seat" "events.keyboard_grab_end",
    jwlrOffsetDef "wlr_seat" "events.touch_grab_begin",
    jwlrOffsetDef "wlr_seat" "events.touch_grab_end",
    jwlrOffsetDef "wlr_seat" "events.request_set_cursor",
    jwlrOffsetDef "wlr_seat" "events.request_set_selection",
    jwlrOffsetDef "wlr_seat" "events.set_selection",
    jwlrOffsetDef "wlr_seat" "events.request_set_primary_selection",
    jwlrOffsetDef "wlr_seat" "events.set_primary_selection",
    jwlrOffsetDef "wlr_seat" "events.request_start_drag",
    jwlrOffsetDef "wlr_seat" "events.start_drag",jwlrOffsetDef "wlr_seat" "events.destroy",.null]
def wlrOutputSignalOffsets : List OffsetDef :=
  [jwlrOffsetDef "wlr_output" "events.frame",jwlrOffsetDef "wlr_output" "events.damage",
    jwlrOffsetDef "wlr_output" "events.needs_frame",jwlrOffsetDef "wlr_output" "events.precommit",
    jwlrOffsetDef "wlr_output" "events.commit",jwlrOffsetDef "wlr_output" "events.present",
    jwlrOffsetDef "wlr_output" "events.bind",jwlrOffsetDef "wlr_output" "events.enable",
    jwlrOffsetDef "wlr_output" "events.mode",jwlrOffsetDef "wlr_output" "events.description",
    jwlrOffsetDef "wlr_output" "events.destroy",.null]
def wlrOutputListOffsets : List OffsetDef :=
  [jwlrOffsetDef "wlr_output" "resources",jwlrOffsetDef "wlr_output" "modes",
    jwlrOffsetDef "wlr_output" "cursors",.null]
def wlrSceneTreeListOffsets : List OffsetDef := [jwlrOffsetDef "wlr_scene_tree" "children",.null]
def wlrSceneNodeSignalOffsets : List OffsetDef := [jwlrOffsetDef "wlr_scene_node" "events.destroy",.null]
def wlrInputDeviceSignalOffsets : List OffsetDef := [jwlrOffsetDef "wlr_input_device" "events.destroy",.null]
def wlrPointerSignalOffsets : List OffsetDef :=
  [jwlrOffsetDef "wlr_pointer" "events.motion",
    jwlrOffsetDef "wlr_pointer" "events.motion_absolute",
    jwlrOffsetDef "wlr_pointer" "events.button",jwlrOffsetDef "wlr_pointer" "events.axis",
    jwlrOffsetDef "wlr_pointer" "events.frame",jwlrOffsetDef "wlr_pointer" "events.swipe_begin",
    jwlrOffsetDef "wlr_pointer" "events.swipe_update",
    jwlrOffsetDef "wlr_pointer" "events.swipe_end",
    jwlrOffsetDef "wlr_pointer" "events.pinch_begin",
    jwlrOffsetDef "wlr_pointer" "events.pinch_update",
    jwlrOffsetDef "wlr_pointer" "events.pinch_end",
    jwlrOffsetDef "wlr_pointer" "events.hold_begin",jwlrOffsetDef "wlr_pointer" "events.hold_end",
    .null]
def wlrSeatPointerStateSignalOffsets : List OffsetDef :=
  [jwlrOffsetDef "wlr_seat_pointer_state" "events.focus_change",.null]
def wlrSeatKeyboardStateSignalOffsets : List OffsetDef :=
  [jwlrOffsetDef "wlr_seat_keyboard_state" "events.focus_change",.null]
def wlrKeyboardSignalOffsets : List OffsetDef :=
  [jwlrOffsetDef "wlr_keyboard" "events.key",jwlrOffsetDef "wlr_keyboard" "events.modifiers",
    jwlrOffsetDef "wlr_keyboard" "events.keymap",
    jwlrOffsetDef "wlr_keyboard" "events.repeat_info",.null]
def wlrXwaylandSignalOffsets : List OffsetDef :=
  [jwlrOffsetDef "wlr_xwayland" "events.ready",jwlrOffsetDef "wlr_xwayland" "events.new_surface",
    jwlrOffsetDef "wlr_xwayland" "events.remove_startup_info",.null]
def wlrXwaylandSurfaceSignalOffsets : List OffsetDef :=
  [jwlrOffsetDef "wlr_xwayland_surface" "events.destroy",
    jwlrOffsetDef "wlr_xwayland_surface" "events.request_configure",
    jwlrOffsetDef "wlr_xwayland_surface" "events.request_move",
    jwlrOffsetDef "wlr_xwayland_surface" "events.request_resize",
    jwlrOffsetDef "wlr_xwayland_surface" "events.request_minimize",
    jwlrOffsetDef "wlr_xwayland_surface" "events.request_maximize",
    jwlrOffsetDef "wlr_xwayland_surface" "events.request_fullscreen",
    jwlrOffsetDef "wlr_xwayland_surface" "events.request_activate",
    jwlrOffsetDef "wlr_xwayland_surface" "events.map",
    jwlrOffsetDef "wlr_xwayland_surface" "events.unmap",
    jwlrOffsetDef "wlr_xwayland_surface" "events.set_title",
    jwlrOffsetDef "wlr_xwayland_surface" "events.set_class",
    jwlrOffsetDef "wlr_xwayland_surface" "events.set_role",
    jwlrOffsetDef "wlr_xwayland_surface" "events.set_parent",
    jwlrOffsetDef "wlr_xwayland_surface" "events.set_pid",
    jwlrOffsetDef "wlr_xwayland_surface" "events.set_startup_id",
    jwlrOffsetDef "wlr_xwayland_surface" "events.set_window_type",
    jwlrOffsetDef "wlr_xwayland_surface" "events.set_hints",
    jwlrOffsetDef "wlr_xwayland_surface" "events.set_decorations",
    jwlrOffsetDef "wlr_xwayland_surface" "events.set_override_redirect",
    jwlrOffsetDef "wlr_xwayland_surface" "events.set_geometry",
    jwlrOffsetDef "wlr_xwayland_surface" "events.ping_timeout",.null]
def wlrXwaylandSurfaceListOffsets : List OffsetDef := [jwlrOffsetDef "wlr_xwayland_surface" "children",.null]
def wlrLayerShellV1SignalOffsets : List OffsetDef :=
  [jwlrOffsetDef "wlr_layer_shell_v1" "events.new_surface",
    jwlrOffsetDef "wlr_layer_shell_v1" "events.destroy",.null]

def scanOffsets (kw : String) (table : List OffsetDef) : SentinelScan.Outcome OffsetDef :=
  SentinelScan.scan OffsetDef.name (janetCstrcmp kw) table

-- get_abstract_struct_signal_member and get_abstract_struct_list_member differ only
-- in the type of the wrapper around the member's address.
def getAbstractStructMember (type : AbsType) (env : Env) (obj : Addr) (kw : String)
    (table : List OffsetDef) : Res (Option Abstract) :=
  match scanOffsets kw table with
  | .hit entry => do
    let value ← jlPointerToAbsObjByName env.registry (env.alloc 0) (obj + entry.offset env) type.name
    return some value
  | .stopped => .ok none
  | .overrun => .fault .offsetTable

def getAbstractStructSignalMember := getAbstractStructMember .jwlAtWlSignal
def getAbstractStructListMember := getAbstractStructMember .jwlAtWlList

theorem offset_overrun_exact : scanOffsets kw table = .overrun ↔
    OffsetDef.null ∉ table ∧ ∀ entry ∈ table, entry.name ≠ some (cString kw) := by
  unfold scanOffsets
  rw [SentinelScan.overrun_exact]
  constructor
  · intro misses
    refine ⟨fun sentinel => ?_,fun entry member same => ?_⟩
    · obtain ⟨key,named,_⟩ := misses _ sentinel
      cases named
    · obtain ⟨key,named,differs⟩ := misses entry member
      rw [named,Option.some.injEq] at same
      simp [janetCstrcmp,same] at differs
  · rintro ⟨open_,strange⟩ entry member
    cases named : entry.name with
    | none =>
        have sentinel : entry = .null := by
          cases entry
          simpa [OffsetDef.name,OffsetDef.null] using named
        exact absurd (sentinel ▸ member) open_
    | some key =>
        refine ⟨key,rfl,?_⟩
        have differs := strange entry member
        rw [named] at differs
        simpa [janetCstrcmp] using fun same : cString kw = key => differs (by rw [same])

end Janetland
