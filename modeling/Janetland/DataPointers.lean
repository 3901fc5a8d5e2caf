import Janetland.CObjects

namespace Janetland

def ownPrefix (name : String) : Bool :=
  hasPrefix "wl/" name || hasPrefix "wlr/" name || hasPrefix "xkb/" name || hasPrefix "util/" name

def jlValueToDataPointer : Janet → Res Addr
  | .nil => .ok 0
  | .pointer address => .ok address
  | .abstract value =>
    if ownPrefix value.type.name then .ok value.payload.firstWord
    else panicf "unknown abstract type: %s" [.symbol value.type.name]
  | .table address => .ok address
  | value => panicf "expected abstract type or a pointer, got %v" [value]

-- `self` is the cell that janet_abstract allocates for the new wrapper.
def cfunGetAbstractListenerData (registry : Registry) (self : Addr) (argv : List Janet) : Res Janet := do
  janetFixarity argv 2
  let dataP ← janetGetpointer argv 0
  if dataP = 0 then return .nil
  else do
    let value ← jlPointerToAbsObjByKey registry self dataP (slot argv 1)
    return .abstract value

def cfunPointerToAbstractObject (registry : Registry) (self : Addr) (argv : List Janet) : Res Janet :=
  cfunGetAbstractListenerData registry self argv

def cfunPointerToTable (argv : List Janet) : Res Janet := do
  janetFixarity argv 1
  let data ← janetGetpointer argv 0
  if data = 0 then return .nil else return .table data

theorem converted (registry : Registry) (self : Addr) (set : address ≠ 0) (name : String) :
    cfunPointerToAbstractObject registry self [.pointer address,.symbol name] =
      (jlGetAbstractTypeByName registry name >>= fun type => .ok (.abstract ⟨self,type,.wrapper address⟩)) := by
  simp only [cfunPointerToAbstractObject,cfunGetAbstractListenerData,janetFixarity,janetGetpointer,slot,
    jlPointerToAbsObjByKey,jlGetAbstractTypeByName]
  cases resolved : jlGetAbstractTypeByKey registry (.symbol name) <;> simp [set,resolved]

theorem table_converted (set : address ≠ 0) : cfunPointerToTable [.pointer address] = .ok (.table address) := by
  simp [cfunPointerToTable,janetFixarity,janetGetpointer,slot,set]

theorem ownPrefix_ofList (text : List Char) : ownPrefix (String.ofList text) =
    (['w','l','/'].isPrefixOf text || ['w','l','r','/'].isPrefixOf text ||
      ['x','k','b','/'].isPrefixOf text || ['u','t','i','l','/'].isPrefixOf text) := by
  simp only [← hasPrefix_ofList]
  rfl

theorem AbsType.own_prefix (type : AbsType) : ownPrefix type.name = true ↔ type ∉ xcbEntry := by
  cases type <;> exact (Bool.eq_iff_iff.mp (ownPrefix_ofList _)).trans (by decide)

end Janetland
