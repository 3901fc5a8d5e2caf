import Janetland.GetMethods

namespace Janetland

-- A get returns single values and flat arrays; these hold of the abstracts in them.
def Leaf (good : Abstract → Prop) : Janet → Prop
  | .abstract value => good value
  | .array _ | .tuple _ => False
  | _ => True

def Flat (good : Abstract → Prop) : Janet → Prop
  | .array items | .tuple items => ∀ item ∈ items, Leaf good item
  | value => Leaf good value

-- The abstracts that a branch makes of the struct at `obj`.
def Access.Makes (env : Env) (struct : String) (obj : Addr) : Access → Abstract → Prop
  | .unsigned _,made | .words _ _,made | .embeddedWords _ _,made => made.type = .foreign "core/u64"
  | .wrap member type,made => made = jlPointerToAbsObj (env.alloc 0) (env.mem.ptr obj struct member) type
  | .wrapNamed member name,made =>
    jlPointerToAbsObjByName env.registry (env.alloc 0) (env.mem.ptr obj struct member) name = .ok made
  | .inner member type,made => made = jlPointerToAbsObj (env.alloc 0) (env.memberAddr obj struct member) type
  | .wrapElements member count type,made => uint32 (env.mem.bits obj struct count) ≤ int32Max ∧
    ∃ i < uint32 (env.mem.bits obj struct count),
      made = jlPointerToAbsObj (env.alloc i) (env.mem.ptrElem (env.mem.ptr obj struct member) i) type
  | .nilOr access,made => env.mem.ptr obj struct access.member ≠ 0 ∧ access.Makes env struct obj made
  | _,_ => False

-- Those that a get method makes: the wrappers of signals and lists, and its branches'.
def GetMethod.Makes (method : GetMethod) (env : Env) (p : Abstract) (made : Abstract) : Prop :=
  (∃ type ∈ [AbsType.jwlAtWlSignal,.jwlAtWlList], ∃ ptr,
    jlPointerToAbsObjByName env.registry (env.alloc 0) ptr type.name = .ok made) ∨
  ∃ row ∈ method.members, row.2.Makes env method.struct (method.object p) made

variable {env : Env} {good better : Abstract → Prop}

theorem Leaf.mono (leaf : Leaf good value) (implies : ∀ made, good made → better made) : Leaf better value := by
  cases value with
  | abstract made => exact implies made leaf
  | _ => exact leaf

theorem Flat.mono (flat : Flat good value) (implies : ∀ made, good made → better made) : Flat better value := by
  cases value with
  | array items | tuple items => exact fun item member => (flat item member).mono implies
  | abstract made => exact implies made flat
  | _ => trivial

theorem Leaf.flat (leaf : Leaf good value) : Flat good value := by
  cases value with
  | array items | tuple items => cases leaf
  | _ => exact leaf

theorem flagKeys_leaves (scanned : jlGetFlagKeys flags table = .ok keys) : ∀ item ∈ keys, Leaf good item := by
  induction table generalizing keys with
  | nil => cases scanned
  | cons entry rest ih =>
      unfold jlGetFlagKeys at scanned
      cases named : entry.name with
      | none =>
          simp only [named,Res.ok.injEq] at scanned
          simp [← scanned]
      | some name =>
          simp only [named] at scanned
          obtain ⟨later,ran,built⟩ := Res.bind_exact.mp scanned
          have leaves := ih ran
          cases built
          split
          · exact leaves
          · exact List.forall_mem_cons.mpr ⟨trivial,leaves⟩

theorem pushAll_flat {count : Nat} (items : ∀ i < count, count ≤ int32Max → Leaf good (item i))
    (pushed : pushAll count item = .ok value) : Flat good value := by
  obtain ⟨fits,rfl⟩ := pushAll_exact.mp pushed
  intro element member
  obtain ⟨i,inside,rfl⟩ := List.mem_map.mp member
  exact items i (List.mem_range.mp inside) fits

theorem pushBytes_flat (pushed : env.pushBytes source length = .ok value) : Flat good value := by
  unfold Env.pushBytes at pushed
  repeat' split at pushed
  all_goals cases pushed
  all_goals trivial

theorem keyAt_flat (selected : keyAt table index = .ok value) : Flat good value := by
  unfold keyAt janetCkeywordv at selected
  repeat' split at selected
  all_goals cases selected
  trivial

theorem read_live {access : Access} (read : access.read env struct obj = .ok value) :
    obj ≠ 0 ∨ ∃ member type, access = .inner member type := by
  by_cases live : obj = 0
  · cases access with
    | inner member type => exact .inr ⟨member,type,rfl⟩
    | _ => simp [Access.read,Env.readPtr,Env.readBits,Env.readNum,live] at read
  · exact .inl live

theorem read_makes {access : Access} (read : access.read env struct obj = .ok value) :
    Flat (access.Makes env struct obj) value := by
  rcases read_live read with live | ⟨member,type,rfl⟩
  · induction access with
    | nilOr inner ih =>
        simp only [Access.read,Env.readPtr_live _ live,Res.bind_ok] at read
        split at read
        · cases read
          trivial
        · rename_i set
          exact (ih read).mono fun _ made => ⟨set,made⟩
    | wrap member type =>
        simp only [Access.read,Env.readPtr_live _ live,Res.bind_ok] at read
        cases read
        rfl
    | inner member type =>
        cases read
        rfl
    | wrapNamed member name =>
        simp only [Access.read,Env.readPtr_live _ live,Res.bind_ok] at read
        obtain ⟨wrapper,made,built⟩ := Res.bind_exact.mp read
        cases built
        exact made
    | flags member table =>
        simp only [Access.read,Env.readBits_live _ live,Res.bind_ok] at read
        obtain ⟨keys,scanned,built⟩ := Res.bind_exact.mp read
        cases built
        exact flagKeys_leaves scanned
    | words member count =>
        simp only [Access.read,Env.readPtr_live _ live,Env.readBits_live _ live,Res.bind_ok] at read
        split at read
        · cases read
        · refine pushAll_flat ?_ read
          intro _ _ _
          rfl
    | embeddedWords member count =>
        simp only [Access.read,Env.readBits_live _ live,Res.bind_ok] at read
        split at read
        · cases read
        · refine pushAll_flat ?_ read
          intro _ _ _
          rfl
    | wrapElements member count type =>
        simp only [Access.read,Env.readPtr_live _ live,Env.readBits_live _ live,Res.bind_ok] at read
        split at read
        · cases read
        · refine pushAll_flat ?_ read
          intro i inside fits
          exact ⟨fits,i,inside,rfl⟩
    | enumKey member table guarded =>
        simp only [Access.read,Env.readBits_live _ live,Res.bind_ok,panicf] at read
        split at read
        · split at read
          · cases read
          · exact keyAt_flat read
        · exact keyAt_flat read
    | cstring member =>
        simp only [Access.read,Env.readPtr_live _ live,Res.bind_ok,Env.janetCstringv] at read
        split at read <;> cases read
        trivial
    | bytes member size =>
        simp only [Access.read,Env.readPtr_live _ live,Env.readBits_live _ live,Res.bind_ok] at read
        exact pushBytes_flat read
    | pixels member width height =>
        simp only [Access.read,Env.readPtr_live _ live,Env.readBits_live _ live,Res.bind_ok] at read
        split at read
        · cases read
        · exact pushBytes_flat read
    | unsigned member =>
        simp only [Access.read,Env.readBits_live _ live,Res.bind_ok] at read
        cases read
        rfl
    | _ =>
        simp only [Access.read,Env.readBits_live _ live,Env.readPtr_live _ live,Env.readNum_live _ live,
          Res.bind_ok] at read
        cases read
        trivial
  · cases read
    rfl

theorem wrapEntry_makes {method : GetMethod} (listed : type ∈ [AbsType.jwlAtWlSignal,.jwlAtWlList])
    (ran : method.wrapEntry env p type entry = .ok (some value)) : Flat (method.Makes env p) value := by
  obtain ⟨wrapper,wrapped,built⟩ := Res.bind_exact.mp ran
  cases built
  exact .inl ⟨type,listed,_,wrapped⟩

theorem run_makes {method : GetMethod} (ran : method.run env p key = .ok (some value)) :
    Flat (method.Makes env p) value := by
  have answer := method.run_answer env p key
  rw [ran] at answer
  generalize result : Res.ok (some value) = answered at answer
  cases answer with
  | entry listed => exact wrapEntry_makes listed result.symm
  | branch found =>
      obtain ⟨inner,read,built⟩ := Res.bind_exact.mp result.symm
      cases built
      exact (read_makes read).mono fun _ made => .inr ⟨_,GetMethod.branch_row found,made⟩
  | _ => cases result

theorem index_flat (items : ∀ item ∈ list, Leaf good item) (selected : janetGetIndex list key = some value) :
    Flat good value := by
  unfold janetGetIndex at selected
  repeat' split at selected
  all_goals try cases selected
  exact (items value (List.mem_of_getElem? selected)).flat

-- What holds of all abstracts in a value and of all that its get method makes holds of
-- all abstracts in what `get` returns.
theorem get_flat (held : Flat good value) (made : ∀ wrapper type method, value = .abstract wrapper →
    wrapper.type = .own type → type.getMethod = some method → ∀ next, method.Makes env wrapper next → good next)
    (ran : janetGet env value key = .ok (some next)) : Flat good next := by
  cases value with
  | abstract wrapper =>
      simp only [janetGet] at ran
      split at ran
      · rename_i type typed
        split at ran
        · rename_i method found
          exact (run_makes ran).mono (made wrapper type method rfl typed found)
        · cases ran
      · cases ran
  | array items | tuple items => exact index_flat held (Res.ok.inj ran)
  | string bytes | buffer bytes =>
      refine index_flat ?_ (Res.ok.inj ran)
      intro item member
      obtain ⟨byte,_,rfl⟩ := List.mem_map.mp member
      trivial
  | _ => simp [janetGet] at ran

end Janetland
