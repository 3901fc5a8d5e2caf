import Janetland.DataPointers

namespace Janetland

namespace CMem

def setPtr (mem : CMem) (obj : Addr) (struct member : String) (value : Addr) : CMem :=
  { mem with ptr := fun o s m => if o = obj ∧ s = struct ∧ m = member then value else mem.ptr o s m }

def setBits (mem : CMem) (obj : Addr) (struct member : String) (value : Nat) : CMem :=
  { mem with bits := fun o s m => if o = obj ∧ s = struct ∧ m = member then value else mem.bits o s m }

end CMem

-- The two kinds of assignment that put methods make.
inductive Store where
  | int32 (member : String)
  | data (member : String)

def expectInt32 (value : Janet) : Res (BitVec 32) :=
  match value with
  | .number number => match number.int32? with
    | some integer => .ok (BitVec.ofInt 32 integer)
    | none => panicf "expected a 32-bit signed integer, got %v" [value]
  | _ => panicf "expected a 32-bit signed integer, got %v" [value]

def Store.write (mem : CMem) (struct : String) (obj : Addr) (value : Janet) : Store → Res CMem
  | .int32 member => do
    let bits ← expectInt32 value
    if obj = 0 then .fault .nullDeref else return mem.setBits obj struct member bits.toNat
  | .data member => do
    let ptr ← jlValueToDataPointer value
    if obj = 0 then .fault .nullDeref else return mem.setPtr obj struct member ptr

structure PutMethod where
  struct : String
  members : List (String × Store)

def PutMethod.run (method : PutMethod) (mem : CMem) (p : Abstract) (value : Janet) : Janet → Res CMem
  | .keyword kw => match method.members.find? (fun row => janetCstrcmp kw row.1) with
    | some row => row.2.write mem method.struct p.payload.firstWord value
    | none => panicf "unknown key: %v" [.keyword kw]
  | key => panicf "expected keyword, got %v" [key]

def methodWlrXdgSurfacePut : PutMethod := ⟨"wlr_xdg_surface",[("data",.data "data")]⟩
def methodWlrSurfacePut : PutMethod :=
  ⟨"wlr_surface",[("sx",.int32 "sx"),("sy",.int32 "sy"),("data",.data "data")]⟩
def methodWlrOutputPut : PutMethod := ⟨"wlr_output",[("data",.data "data")]⟩
def methodWlrSceneNodePut : PutMethod := ⟨"wlr_scene_node",[("data",.data "data")]⟩
def methodWlrXwaylandSurfacePut : PutMethod := ⟨"wlr_xwayland_surface",[("data",.data "data")]⟩

-- A box lies in the abstract itself, and its value is checked before the keyword.
def methodBoxPut (mem : CMem) (p : Abstract) (value : Janet) : Janet → Res CMem
  | .keyword kw => do
    let bits ← expectInt32 value
    match ["x","y","width","height"].find? (janetCstrcmp kw) with
    | some member => return mem.setBits p.self "wlr_box" member bits.toNat
    | none => panicf "unknown key: %v" [.keyword kw]
  | key => panicf "expected keyword, got %v" [key]

def AbsType.putMethod : AbsType → Option PutMethod
  | .jwlrAtWlrXdgSurface => some methodWlrXdgSurfacePut
  | .jwlrAtWlrSurface => some methodWlrSurfacePut
  | .jwlrAtWlrOutput => some methodWlrOutputPut
  | .jwlrAtWlrSceneNode => some methodWlrSceneNodePut
  | .jwlrAtWlrXwaylandSurface => some methodWlrXwaylandSurfacePut
  | _ => none

theorem put_data (found : AbsType.putMethod type = some method) (live : p.payload.firstWord ≠ 0) :
    method.run mem p value (.keyword "data") = (jlValueToDataPointer value >>= fun ptr =>
      .ok (mem.setPtr p.payload.firstWord method.struct "data" ptr)) := by
  have branch : method.members.find? (fun row => janetCstrcmp "data" row.1) = some ("data",.data "data") := by
    revert found
    cases type <;> simp only [AbsType.putMethod,Option.some.injEq,reduceCtorEq,false_implies]
    all_goals
      intro same
      subst same
      rfl
  simp only [PutMethod.run,branch,Store.write]
  cases jlValueToDataPointer value <;> simp [live]

end Janetland
