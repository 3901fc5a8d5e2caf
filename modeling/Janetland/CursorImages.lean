import Janetland.EventForwarding

namespace Janetland

-- A 32-bit cursor image; its pixels are there unless it has none. Reading n bytes of
-- memory gives n bytes.
structure XcursorImage (env : Env) (obj : Addr) : Prop where
  live : obj ≠ 0
  width : env.mem.bits obj "wlr_xcursor_image" "width" < 4294967296
  height : env.mem.bits obj "wlr_xcursor_image" "height" < 4294967296
  filled : 0 < env.mem.bits obj "wlr_xcursor_image" "width" * env.mem.bits obj "wlr_xcursor_image" "height" →
    env.mem.ptr obj "wlr_xcursor_image" "buffer" ≠ 0
  sized : ∀ n, (env.mem.bytes (env.mem.ptr obj "wlr_xcursor_image" "buffer") n).length = n

def imageWidth (env : Env) (obj : Addr) : Nat := env.mem.bits obj "wlr_xcursor_image" "width"
def imageHeight (env : Env) (obj : Addr) : Nat := env.mem.bits obj "wlr_xcursor_image" "height"
def imageBytes (env : Env) (obj : Addr) : Nat := 4 * imageWidth env obj * imageHeight env obj

-- The call of handle-xwayland-ready for one image. :width is a boxed u64, whose
-- multiplication wraps at 64 bits.
def setXcursor (scan : List UInt8 → Option (BitVec 64)) (env : Env) (xwayland image : Janet) :
    Res (LibCall × Janet) := do
  let pixels ← field env image "buffer"
  let width ← field env image "width"
  let stride ← match boxedWord width with
    | some word => Res.ok (env.janetWrapU64 1 (word * 4#64).toNat)
    | none => panicf "could not find method :* for %v" [width]
  let height ← field env image "height"
  let hotspotX ← field env image "hotspot-x"
  let hotspotY ← field env image "hotspot-y"
  cfunWlrXwaylandSetCursor scan [xwayland,pixels,stride,width,height,hotspotX,hotspotY]

structure CursorLaw (scan : List UInt8 → Option (BitVec 64)) (env : Env) (cell obj : Addr) (xwayland : Janet) : Prop where
  exact : (∃ bytes, field env (wrapped cell obj .jwlrAtWlrXcursorImage) "buffer" = .ok (.buffer bytes) ∧
      bytes.length = imageBytes env obj) ∨
    ∃ error, field env (wrapped cell obj .jwlrAtWlrXcursorImage) "buffer" = .panic error
  enough : ∀ target pixels stride width height hotspotX hotspotY result,
    setXcursor scan env xwayland (wrapped cell obj .jwlrAtWlrXcursorImage) =
      .ok (.xwaylandSetCursor target pixels stride width height hotspotX hotspotY,result) →
    stride.toNat * height.toNat ≤ pixels.length

theorem pixelBytes_cond (width height : Nat) : pixelBytes width height =
    if 2 * ((4 * width * height) % 4294967296) < 4294967296 then (((4 * width * height) % 4294967296 : Nat) : Int)
    else (((4 * width * height) % 4294967296 : Nat) : Int) - 4294967296 := by
  have product : width * height * 4 = 4 * width * height := by rw [Nat.mul_comm,Nat.mul_assoc]
  simp only [pixelBytes,CType.toInt32,product,BitVec.toInt_eq_toNat_cond,BitVec.toNat_ofNat]
  rfl

theorem pixelBytes_exact (width height : Nat) :
    pixelBytes width height = (4 * width * height : Nat) ↔ 4 * width * height < 2147483648 := by
  rw [pixelBytes_cond]
  generalize 4 * width * height = size
  split <;> omega

section
variable {env : Env} {cell obj : Addr} {scan : List UInt8 → Option (BitVec 64)}

theorem image_field (branch : methodWlrXcursorImageGet.branch kw = some access) :
    field env (wrapped cell obj .jwlrAtWlrXcursorImage) kw = access.read env "wlr_xcursor_image" obj :=
  field_read (rfl : AbsType.jwlrAtWlrXcursorImage.getMethod = some methodWlrXcursorImageGet) ⟨rfl,rfl⟩ rfl branch

theorem buffer_field (live : obj ≠ 0) : field env (wrapped cell obj .jwlrAtWlrXcursorImage) "buffer" =
    if pixelBytes (imageWidth env obj) (imageHeight env obj) < 0 then .fault .assertion
    else env.pushBytes (env.mem.ptr obj "wlr_xcursor_image" "buffer")
      (pixelBytes (imageWidth env obj) (imageHeight env obj)) := by
  rw [image_field (rfl : methodWlrXcursorImageGet.branch "buffer" = some (.pixels "buffer" "width" "height"))]
  simp only [Access.read,Env.readBits_live _ live,Env.readPtr_live _ live,Res.bind_ok]
  rfl

theorem pushBytes_returns {source : Addr} {length : Int} {value : Janet} (pushed : env.pushBytes source length = .ok value)
    (sized : ∀ n, (env.mem.bytes source n).length = n) :
    ∃ bytes, value = .buffer bytes ∧ 0 ≤ length ∧ bytes.length = length.toNat := by
  unfold Env.pushBytes at pushed
  split at pushed
  · rename_i zero
    cases pushed
    exact ⟨[],rfl,Int.le_of_eq zero.symm,by simp [zero]⟩
  · split at pushed
    · cases pushed
    · split at pushed <;> cases pushed
      exact ⟨_,rfl,by omega,sized _⟩

theorem pushBytes_fits {source : Addr} {length : Int} (counted : 0 ≤ length) (there : 0 < length → source ≠ 0) :
    ∃ value, env.pushBytes source length = .ok value := by
  unfold Env.pushBytes
  by_cases zero : length = 0
  · exact ⟨_,if_pos zero⟩
  · rw [if_neg zero,if_neg (there (by omega)),if_neg (Int.not_lt.mpr counted)]
    exact ⟨_,rfl⟩

theorem pushBytes_unpanicked {source : Addr} {length : Int} : env.pushBytes source length ≠ .panic error := by
  unfold Env.pushBytes
  split
  · simp
  · split
    · simp
    · split <;> simp

-- What the get returns is a buffer of the wrapped length.
theorem buffer_returned (image : XcursorImage env obj)
    (got : field env (wrapped cell obj .jwlrAtWlrXcursorImage) "buffer" = .ok value) : ∃ bytes, value = .buffer bytes ∧
      0 ≤ pixelBytes (imageWidth env obj) (imageHeight env obj) ∧
      (bytes.length : Int) = pixelBytes (imageWidth env obj) (imageHeight env obj) := by
  rw [buffer_field image.live] at got
  split at got
  · cases got
  · obtain ⟨bytes,same,counted,length⟩ := pushBytes_returns got image.sized
    exact ⟨bytes,same,counted,by omega⟩

theorem buffer_unpanicked (live : obj ≠ 0) :
    field env (wrapped cell obj .jwlrAtWlrXcursorImage) "buffer" ≠ .panic error := by
  rw [buffer_field live]
  split
  · simp
  · exact pushBytes_unpanicked

theorem buffer_exact (cell : Addr) (image : XcursorImage env obj) :
    ((∃ bytes, field env (wrapped cell obj .jwlrAtWlrXcursorImage) "buffer" = .ok (.buffer bytes) ∧
        bytes.length = imageBytes env obj) ∨
      ∃ error, field env (wrapped cell obj .jwlrAtWlrXcursorImage) "buffer" = .panic error) ↔
    imageBytes env obj < 2147483648 := by
  rw [imageBytes,← pixelBytes_exact]
  constructor
  · rintro (⟨bytes,got,length⟩ | ⟨error,panicked⟩)
    · obtain ⟨other,same,_,counted⟩ := buffer_returned image got
      cases same
      rw [← counted,length]
    · exact absurd panicked (buffer_unpanicked image.live)
  · intro whole
    have counted : ¬pixelBytes (imageWidth env obj) (imageHeight env obj) < 0 := by omega
    have there : 0 < pixelBytes (imageWidth env obj) (imageHeight env obj) →
        env.mem.ptr obj "wlr_xcursor_image" "buffer" ≠ 0 := by
      intro positive
      rw [whole,Nat.mul_assoc] at positive
      apply image.filled
      change 0 < imageWidth env obj * imageHeight env obj
      omega
    obtain ⟨value,pushed⟩ := pushBytes_fits (Int.not_lt.mp counted) there
    obtain ⟨bytes,rfl,_,length⟩ := pushBytes_returns pushed image.sized
    refine .inl ⟨bytes,?_,?_⟩
    · rw [buffer_field image.live,if_neg counted,pushed]
    · rw [length,whole]
      rfl

theorem image_word (live : obj ≠ 0) (small : env.mem.bits obj "wlr_xcursor_image" member < 4294967296)
    (branch : methodWlrXcursorImageGet.branch kw = some (.unsigned member)) :
    field env (wrapped cell obj .jwlrAtWlrXcursorImage) kw =
      .ok (env.janetWrapU64 0 (env.mem.bits obj "wlr_xcursor_image" member)) := by
  rw [image_field branch,unsigned_read live,Env.word,BitVec.toNat_ofNat,Nat.mod_eq_of_lt small]

theorem boxedWord_wrap (n value : Nat) : boxedWord (env.janetWrapU64 n value) = some (BitVec.ofNat 64 value) := by
  simp [boxedWord,Env.janetWrapU64,Payload.firstWord]

theorem boxed_read (scan : List UInt8 → Option (BitVec 64)) (there : slot argv i = env.janetWrapU64 n value) :
    janetGetuinteger64 scan argv i = .ok (BitVec.ofNat 64 value) := by
  unfold janetGetuinteger64 janetUnwrapU64
  have unwrapped : unwrapU64? scan (env.janetWrapU64 n value) = some (BitVec.ofNat 64 value) := boxedWord_wrap n value
  rw [there,unwrapped]

-- The arguments that reach wlroots, whatever the hotspot is.
theorem cursor_passed (image : XcursorImage env obj)
    (ran : setXcursor scan env xwayland (wrapped cell obj .jwlrAtWlrXcursorImage) =
      .ok (.xwaylandSetCursor target pixels stride width height hotspotX hotspotY,result)) :
    field env (wrapped cell obj .jwlrAtWlrXcursorImage) "buffer" = .ok (.buffer pixels) ∧
      stride.toNat = 4 * imageWidth env obj % 4294967296 ∧ height.toNat = imageHeight env obj := by
  have wide : imageWidth env obj < 4294967296 := image.width
  have high : imageHeight env obj < 4294967296 := image.height
  unfold setXcursor at ran
  obtain ⟨buffer,got,ran⟩ := Res.bind_exact.mp ran
  obtain ⟨bytes,rfl,_⟩ := buffer_returned image got
  rw [image_word image.live image.width rfl,image_word image.live image.height rfl] at ran
  simp only [Res.bind_ok,boxedWord_wrap] at ran
  obtain ⟨x,_,ran⟩ := Res.bind_exact.mp ran
  obtain ⟨y,_,ran⟩ := Res.bind_exact.mp ran
  unfold cfunWlrXwaylandSetCursor at ran
  obtain ⟨_,_,ran⟩ := Res.bind_exact.mp ran
  obtain ⟨server,_,ran⟩ := Res.bind_exact.mp ran
  obtain ⟨data,read,ran⟩ := Res.bind_exact.mp ran
  cases (read : Res.ok bytes = .ok data)
  rw [boxed_read scan rfl,boxed_read scan rfl,boxed_read scan rfl] at ran
  simp only [Res.bind_ok] at ran
  obtain ⟨_,_,ran⟩ := Res.bind_exact.mp ran
  obtain ⟨_,_,ran⟩ := Res.bind_exact.mp ran
  cases ran
  refine ⟨got,?_,?_⟩
  · simp only [BitVec.toNat_setWidth,BitVec.toNat_mul,BitVec.toNat_ofNat]
    change imageWidth env obj % 2 ^ 64 * (4 % 2 ^ 64) % 2 ^ 64 % 2 ^ 64 % 2 ^ 32 = _
    omega
  · simp only [BitVec.toNat_setWidth,BitVec.toNat_ofNat]
    change imageHeight env obj % 2 ^ 64 % 2 ^ 32 = _
    omega

theorem cursor_images_exact (scan : List UInt8 → Option (BitVec 64)) (env : Env) (cell obj : Addr) (xwayland : Janet)
    (image : XcursorImage env obj) : CursorLaw scan env cell obj xwayland ↔ imageBytes env obj < 2147483648 := by
  constructor
  · intro law
    exact (buffer_exact cell image).mp law.exact
  · intro small
    have exact_ := (buffer_exact cell image).mpr small
    refine ⟨exact_,?_⟩
    intro target pixels stride width height hotspotX hotspotY result ran
    obtain ⟨got,strided,high⟩ := cursor_passed image ran
    rcases exact_ with ⟨bytes,returned,length⟩ | ⟨error,panicked⟩
    · rw [got] at returned
      cases returned
      rw [length,strided,high,imageBytes]
      exact Nat.mul_le_mul_right _ (Nat.mod_le _ _)
    · rw [got] at panicked
      cases panicked

end

-- An image of the given size whose pixels are all zero.
def imageEnv (width height : Nat) : Env :=
  { blankEnv with mem := { blankMem with
      ptr := fun _ _ _ => 64
      bits := fun _ _ member => if member = "width" then width else if member = "height" then height else 0
      bytes := fun _ n => List.replicate n 0 } }

theorem imageEnv_image (wide : width < 4294967296) (high : height < 4294967296) :
    XcursorImage (imageEnv width height) 8 where
  live := by decide
  width := wide
  height := high
  filled _ := Nat.succ_ne_zero 63
  sized n := List.length_replicate

def xwaylandServer : Janet := wrapped 24 32 .jwlrAtWlrXwayland

-- A pointer of 4 x 4 pixels is set with its 64 bytes and a stride of 16.
theorem cursor_images_exact_pointer :
    (CursorLaw (fun _ => none) (imageEnv 4 4) 16 8 xwaylandServer ↔ imageBytes (imageEnv 4 4) 8 < 2147483648) ∧
      setXcursor (fun _ => none) (imageEnv 4 4) xwaylandServer (wrapped 16 8 .jwlrAtWlrXcursorImage) =
        .ok (.xwaylandSetCursor 32 (List.replicate 64 0) 16 4 4 0 0,.nil) :=
  ⟨cursor_images_exact _ _ 16 8 xwaylandServer (imageEnv_image (by decide) (by decide)),rfl⟩

-- The limit for each side is 32767 where cursors are loaded. The assertion fails for the
-- length of 32767 x 16385 pixels.
theorem large_image_asserts : XcursorImage (imageEnv 32767 16385) 8 ∧
    field (imageEnv 32767 16385) (wrapped 16 8 .jwlrAtWlrXcursorImage) "buffer" = .fault .assertion ∧
    ¬CursorLaw (fun _ => none) (imageEnv 32767 16385) 16 8 xwaylandServer := by
  have image : XcursorImage (imageEnv 32767 16385) 8 := imageEnv_image (by decide) (by decide)
  refine ⟨image,buffer_field image.live,?_⟩
  intro law
  have small := (buffer_exact 16 image).mp law.exact
  revert small
  decide

end Janetland
