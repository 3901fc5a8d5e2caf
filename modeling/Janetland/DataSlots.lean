import Janetland.PutMethods
import Janetland.GetMethods

namespace Janetland

-- What a :data slot is for: the values that stand for one address of their own.
def Storable : Janet → Prop
  | .nil | .pointer _ | .table _ => True
  | .abstract value => ∃ type ptr, value.type = .own type ∧ value.payload = .wrapper ptr
  | _ => False

-- `slot` denotes the stored value again, read through the matching converter.
def Denotes (registry : Registry) (slot : Janet) : Janet → Prop
  | .nil => slot = .nil
  | .pointer address => if address = 0 then slot = .nil else slot = .pointer address
  | .table address => address ≠ 0 → cfunPointerToTable [slot] = .ok (.table address)
  | .abstract value => if value.payload.firstWord = 0 then slot = .nil else ∀ self,
      cfunPointerToAbstractObject registry self [slot,.symbol value.type.name] =
        .ok (.abstract ⟨self,value.type,.wrapper value.payload.firstWord⟩)
  | _ => False

-- Put the value under :data of a live object, then read that member as get does.
def SlotLaw (registry : Registry) (value : Janet) : Prop :=
  ((∃ ptr, jlValueToDataPointer value = .ok ptr) ↔ Storable value) ∧
  ∀ type method p mem, ∀ env : Env, AbsType.putMethod type = some method → p.payload.firstWord ≠ 0 →
    method.run env.mem p value (.keyword "data") = .ok mem → ∃ slot,
      (Access.nilOr (.pointer "data")).read { env with mem } method.struct p.payload.firstWord = .ok slot ∧
        Denotes registry slot value

def SlotFits : Janet → Prop
  | .abstract value => match value.type,value.payload with
    | .own type,.wrapper ptr => type ∉ xcbEntry ∧ (ptr ≠ 0 → type ∉ unregistered)
    | .own type,.inlined _ => type ∈ xcbEntry
    | .foreign name,_ => ownPrefix name = false
  | _ => True

def dataSlot (ptr : Addr) : Janet := if ptr = 0 then .nil else .pointer ptr

theorem data_get (env : Env) (struct : String) (ptr : Addr) (live : obj ≠ 0) : (Access.nilOr (.pointer "data")).read
    { env with mem := env.mem.setPtr obj struct "data" ptr } struct obj = .ok (dataSlot ptr) := by
  simp only [Access.read,Access.member,Env.readPtr_live _ live,CMem.setPtr,dataSlot]
  by_cases unset : ptr = 0 <;> simp [unset]

-- The law with put and get reduced to the address that passes between them.
theorem slot_law_reduced : SlotLaw registry value ↔
    ((∃ ptr, jlValueToDataPointer value = .ok ptr) ↔ Storable value) ∧
    ∀ ptr, jlValueToDataPointer value = .ok ptr → Denotes registry (dataSlot ptr) value := by
  refine and_congr_right fun _ => ⟨?_,?_⟩
  · intro law ptr accepted
    let p : Abstract := ⟨0,.own .jwlrAtWlrSurface,.wrapper 16⟩
    have surface : AbsType.putMethod .jwlrAtWlrSurface = some methodWlrSurfacePut := rfl
    have stored : methodWlrSurfacePut.run blankMem p value (.keyword "data") = _ := put_data surface (by decide)
    rw [accepted,Res.bind_ok] at stored
    obtain ⟨slot,read,denotes⟩ := law .jwlrAtWlrSurface _ _ _ blankEnv rfl (by decide) stored
    have back := data_get blankEnv "wlr_surface" ptr (show (16 : Addr) ≠ 0 by decide)
    cases back.symm.trans read
    exact denotes
  · intro law type method p mem env found live stored
    rw [put_data found live] at stored
    obtain ⟨ptr,accepted,written⟩ := Res.bind_exact.mp stored
    cases written
    exact ⟨dataSlot ptr,data_get env _ ptr live,law ptr accepted⟩

theorem accepts_own (self : Addr) (type : AbsType) (payload : Payload) :
    jlValueToDataPointer (.abstract ⟨self,.own type,payload⟩) = if type ∈ xcbEntry then
      panicf "unknown abstract type: %s" [.symbol type.name] else .ok payload.firstWord := by
  by_cases foreign : type ∈ xcbEntry
  · have rejected : ownPrefix type.name ≠ true := fun named => type.own_prefix.mp named foreign
    simp [jlValueToDataPointer,TypeRef.name,rejected,foreign]
  · simp [jlValueToDataPointer,TypeRef.name,type.own_prefix.mpr foreign,foreign]

theorem denotes_wrapper (loaded : Loaded registry) (self ptr : Addr) (type : AbsType) :
    Denotes registry (dataSlot ptr) (.abstract ⟨self,.own type,.wrapper ptr⟩) ↔ (ptr ≠ 0 → type ∉ unregistered) := by
  simp only [Denotes,Payload.firstWord,dataSlot]
  by_cases unset : ptr = 0
  · simp [unset]
  · simp only [unset,if_false,converted registry _ unset,TypeRef.name,loaded.resolves type]
    by_cases absent : type ∈ unregistered <;> simp [absent,unset,panicf]

theorem wrapper_law (loaded : Loaded registry) (self ptr : Addr) (type : AbsType) :
    SlotLaw registry (.abstract ⟨self,.own type,.wrapper ptr⟩) ↔
      type ∉ xcbEntry ∧ (ptr ≠ 0 → type ∉ unregistered) := by
  have storable : Storable (.abstract ⟨self,.own type,.wrapper ptr⟩) := ⟨type,ptr,rfl,rfl⟩
  rw [slot_law_reduced,accepts_own]
  by_cases foreign : type ∈ xcbEntry
  · simp [foreign,storable,panicf]
  · simp [foreign,storable,Payload.firstWord,denotes_wrapper loaded]

-- A struct held inline is no wrapper, so only a refusal is right.
theorem inlined_law (registry : Registry) (self word : Addr) (type : AbsType) :
    SlotLaw registry (.abstract ⟨self,.own type,.inlined word⟩) ↔ type ∈ xcbEntry := by
  have notStorable : ¬Storable (.abstract ⟨self,.own type,.inlined word⟩) := by
    rintro ⟨_,_,_,wrapped⟩
    cases wrapped
  rw [slot_law_reduced,accepts_own]
  by_cases foreign : type ∈ xcbEntry <;> simp [foreign,notStorable,panicf]

theorem foreign_law (registry : Registry) (self : Addr) (name : String) (payload : Payload) :
    SlotLaw registry (.abstract ⟨self,.foreign name,payload⟩) ↔ ownPrefix name = false := by
  have notStorable : ¬Storable (.abstract ⟨self,.foreign name,payload⟩) := by
    rintro ⟨_,_,own,_⟩
    cases own
  rw [slot_law_reduced]
  cases named : ownPrefix name <;> simp [jlValueToDataPointer,TypeRef.name,named,notStorable,panicf]

theorem slot_law_exact (loaded : Loaded registry) (value : Janet) : SlotLaw registry value ↔ SlotFits value := by
  cases value with
  | abstract value =>
      obtain ⟨self,type,payload⟩ := value
      cases type with
      | own type =>
          cases payload with
          | wrapper ptr => exact wrapper_law loaded self ptr type
          | inlined word => exact inlined_law registry self word type
      | foreign name => exact foreign_law registry self name payload
  | table address =>
      rw [slot_law_reduced]
      simp only [jlValueToDataPointer,Storable,SlotFits,Denotes,Res.ok.injEq]
      refine iff_of_true ⟨⟨fun _ => trivial,fun _ => ⟨address,rfl⟩⟩,?_⟩ trivial
      rintro ptr rfl set
      rw [dataSlot,if_neg set,table_converted set]
  | pointer address =>
      rw [slot_law_reduced]
      by_cases unset : address = 0 <;> simp [jlValueToDataPointer,Storable,SlotFits,Denotes,dataSlot,unset]
  | nil => simp [slot_law_reduced,jlValueToDataPointer,Storable,SlotFits,Denotes,dataSlot]
  | _ => simp [slot_law_reduced,jlValueToDataPointer,panicf,Storable,SlotFits]

-- A box is taken for a pointer: its first word, here x = 3 and y = 0, is stored.
theorem box_slot_broken : ¬∀ registry value, Loaded registry → SlotLaw registry value := by
  intro law
  have fits := (inlined_law loadedRegistry 8 3 .jwlrAtBox).mp (law loadedRegistry _ modules_load)
  revert fits
  decide

theorem surface_slot_fits : SlotLaw loadedRegistry (.abstract ⟨8,.own .jwlrAtWlrSurface,.wrapper 16⟩) :=
  (slot_law_exact modules_load _).mpr ⟨by decide,fun _ => by decide⟩

end Janetland
