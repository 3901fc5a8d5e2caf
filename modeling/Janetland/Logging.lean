import Janetland.RegistrationEffects
import Janetland.Foundations.Directives

namespace Janetland
open Act

-- A call of the script's log function.
structure LogCall where
  callback : Addr
  argv : List Janet

-- What a call of vsnprintf leaves: the length it returns and the bytes it wrote before
-- the NUL. The length is negative when it exceeds an int.
structure Printed where
  strLen : Int
  data : List UInt8

section
variable {α : Type} (convert : List UInt8 → α → List UInt8)

def vsnprintf (capacity : Nat) (fmt : List UInt8) (args : List α) : Res Printed :=
  match Directives.format convert fmt args with
  | none => .fault .missingArgument
  | some text =>
    if int32Max < text.length then .ok ⟨-1,[]⟩ else .ok ⟨text.length,text.take (capacity-1)⟩

-- The buffer is printed once more when it was too small; `str_len + 1` is an int32_t.
def printAll (fmt : List UInt8) (args : List α) : Res Printed := do
  let printed ← vsnprintf convert 256 fmt args
  if 256 ≤ printed.strLen then
    if int32Max < printed.strLen + 1 then .fault .overflow
    else vsnprintf convert (printed.strLen + 1).toNat fmt args
  else return printed

def jwlrLogCallback (jwlrLogCallbackFn : Option Addr) (importance : Int) (fmt : List UInt8) (args : List α) :
    Res (List LogCall) := match jwlrLogCallbackFn with
  | none => .ok []
  | some callback =>
    if 4 < importance then panicf "unknown log level: %d" [janetInteger importance]
    else do
      let printed ← printAll convert fmt args
      if printed.strLen < 0 then return []
      else do
        let level ← keyAt logDefs importance.toNat
        return [⟨callback,[level,.buffer printed.data]⟩]

-- wlroots hands the format and the arguments to the callback that wlr_log_init set; its
-- own default callback never calls a script.
def wlrLog (s : State) (verbosity : Int) (format : List UInt8) (args : List α) : Res (List LogCall) :=
  if s.logHooked then jwlrLogCallback convert s.logFn verbosity format args else .ok []

-- `stringFormat` is Janet's string/format, whose result is read as a C string.
def cfunWlrLog (stringFormat : List Janet → Res (List UInt8)) (s : State) (argv : List Janet) :
    Res (List LogCall) := do
  janetArity argv 2 none
  let verb ← jlGetKeyDef argv 0 logDefs
  if s.logImportance < verb then return []
  else do
    let formattedStr ← stringFormat (argv.drop 1)
    wlrLog convert s verb (formattedStr.takeWhile (· ≠ 0)) ([] : List α)

end

structure Installed (s : State) (callback : Addr) : Prop where
  hooked : s.logHooked = true
  logFn : s.logFn = some callback

-- The log function is called once, with the level and a buffer that holds the text.
def Delivers (calls : Res (List LogCall)) (callback : Addr) (verb : Int) (text : List UInt8) : Prop :=
  ∃ level, keyAt logDefs verb.toNat = .ok level ∧ calls = .ok [⟨callback,[level,.buffer text]⟩]

variable {α : Type} {convert : List UInt8 → α → List UInt8} {text output : List UInt8} {s t : State}

theorem vsnprintf_rendered (rendered : Directives.format convert text args = some output)
    (short : output.length ≤ int32Max) (capacity : Nat) :
    vsnprintf convert capacity text args = .ok ⟨output.length,output.take (capacity-1)⟩ := by
  rw [vsnprintf,rendered]
  exact if_neg (Int.not_lt.mpr short)

-- What is printed is the rendering as a whole, as long as one more byte still counts.
theorem printAll_rendered (rendered : Directives.format convert text args = some output) :
    printAll convert text args = if int32Max < output.length then .ok ⟨-1,[]⟩
      else if output.length = int32Max then .fault .overflow else .ok ⟨output.length,output⟩ := by
  unfold printAll
  by_cases long : int32Max < output.length
  · have failed : vsnprintf convert 256 text args = .ok ⟨-1,[]⟩ := by
      rw [vsnprintf,rendered]
      exact if_pos long
    simp [failed,long]
  · have short := Int.not_lt.mp long
    rw [vsnprintf_rendered rendered short 256,Res.bind_ok,if_neg long]
    by_cases room : (256 : Int) ≤ output.length
    · by_cases last : (output.length : Int) = int32Max
      · have beyond : int32Max < (output.length : Int) + 1 := by omega
        rw [if_pos room,if_pos last,if_pos beyond]
      · have whole : output.take (((output.length : Int) + 1).toNat - 1) = output := by
          apply List.take_of_length_le
          omega
        have within : ¬int32Max < (output.length : Int) + 1 := by omega
        rw [if_pos room,if_neg last,if_neg within,vsnprintf_rendered rendered short,whole]
    · have whole : output.take (256 - 1) = output := by
        apply List.take_of_length_le
        omega
      have inside : (output.length : Int) ≠ int32Max := by
        unfold int32Max
        omega
      rw [if_neg room,if_neg inside,whole]
      rfl

theorem printAll_undefined (undefined : Directives.format convert text args = none) :
    printAll convert text args = .fault .missingArgument := by
  simp [printAll,vsnprintf,undefined]

theorem printAll_faithful (convert : List UInt8 → α → List UInt8) :
    (∃ printed, printAll convert text [] = .ok printed ∧ 0 ≤ printed.strLen ∧ printed.data = text) ↔
      Directives.percent ∉ text ∧ text.length < int32Max := by
  constructor
  · rintro ⟨printed,ran,counted,same⟩
    cases rendered : Directives.format convert text [] with
    | none =>
        rw [printAll_undefined rendered] at ran
        cases ran
    | some output =>
        rw [printAll_rendered rendered] at ran
        split at ran
        · cases ran
          cases counted
        · split at ran
          · cases ran
          · rename_i short inside
            cases ran
            cases same
            exact ⟨Directives.format_text_exact.mp rendered,Int.lt_iff_le_and_ne.mpr ⟨Int.not_lt.mp short,inside⟩⟩
  · rintro ⟨plain,short⟩
    have rendered : Directives.format convert text [] = some text := Directives.format_text_exact.mpr plain
    refine ⟨⟨text.length,text⟩,?_,Int.natCast_nonneg _,rfl⟩
    rw [printAll_rendered rendered,if_neg (Int.not_lt.mpr (Int.le_of_lt short)),if_neg (Int.ne_of_lt short)]

-- The levels that keywords name are those the callback has keywords for.
theorem level_named (named : jlGetKeyDef argv n logDefs = .ok verb) :
    verb ≤ 4 ∧ ∃ level, keyAt logDefs verb.toNat = .ok level := by
  obtain ⟨kw,_,scanned⟩ := Res.bind_exact.mp named
  split at scanned
  · rename_i entry hit
    cases scanned
    obtain ⟨member,key,same,_⟩ := SentinelScan.hit_member hit
    have levels : ∀ entry ∈ logDefs, entry.key ≤ 4 ∧ ∃ level, keyAt logDefs entry.key.toNat = .ok level := by
      simp only [logDefs,List.forall_mem_cons,List.not_mem_nil,false_implies,implies_true,and_true]
      refine ⟨?_,?_,?_,?_,?_,?_⟩ <;> exact ⟨by decide,_,rfl⟩
    exact levels entry member
  · cases scanned
  · cases scanned

theorem callback_exact (low : verb ≤ 4) (named : ∃ level, keyAt logDefs verb.toNat = .ok level) :
    Delivers (jwlrLogCallback convert (some callback) verb text []) callback verb text ↔
      Directives.percent ∉ text ∧ text.length < int32Max := by
  rw [← printAll_faithful convert]
  obtain ⟨level,keyed⟩ := named
  simp only [jwlrLogCallback,if_neg (Int.not_lt.mpr low),Delivers,keyed]
  constructor
  · rintro ⟨_,same,delivered⟩
    cases same
    obtain ⟨printed,ran,rest⟩ := Res.bind_exact.mp delivered
    split at rest
    · cases rest
    · rename_i counted
      refine ⟨printed,ran,Int.not_lt.mp counted,?_⟩
      simpa using rest
  · rintro ⟨printed,ran,counted,rfl⟩
    exact ⟨level,rfl,by simp [ran,Int.not_lt.mpr counted]⟩

theorem logInit_installs (ran : cfunWlrLogInit [level,.function callback] s = (.ok value,t)) :
    Installed t callback := by
  have chosen : janetOptfunction [level,.function callback] 1 = .ok (some callback) := rfl
  have accepted : janetArity [level,.function callback] 1 (some 2) = .ok () := rfl
  simp only [cfunWlrLogInit,bind_run,lift,accepted,chosen,optional,setLogCallback_run,wlrLogInit,Act.modify] at ran
  cases named : jlGetKeyDef [level,.function callback] 0 logDefs with
  | ok verbosity =>
      simp only [named] at ran
      cases ran
      exact ⟨by simp,rfl⟩
  | panic error => simp [named] at ran
  | fault kind => simp [named] at ran

-- A text reaches the script's log function as it is exactly when no byte of it starts a
-- directive and its length leaves room for one more byte in an int32_t.
theorem log_text_exact (stringFormat : List Janet → Res (List UInt8)) (installed : Installed s callback)
    (arity : 2 ≤ argv.length) (named : jlGetKeyDef argv 0 logDefs = .ok verb) (heard : verb ≤ s.logImportance)
    (formatted : stringFormat (argv.drop 1) = .ok text) (ended : 0 ∉ text) :
    Delivers (cfunWlrLog convert stringFormat s argv) callback verb text ↔
      Directives.percent ∉ text ∧ text.length < int32Max := by
  obtain ⟨low,keyed⟩ := level_named named
  have whole : text.takeWhile (· ≠ 0) = text := by
    apply List.takeWhile_eq_self_iff.mpr
    intro byte member
    simp only [decide_eq_true_eq]
    rintro rfl
    exact ended member
  have ran : cfunWlrLog convert stringFormat s argv = jwlrLogCallback convert (some callback) verb text [] := by
    simp only [cfunWlrLog,janetArity,if_neg (Nat.not_lt.mpr arity),Res.bind_ok,named,
      if_neg (Int.not_lt.mpr heard),formatted,wlrLog,installed.hooked,installed.logFn,whole,if_true]
  rw [ran]
  exact callback_exact low keyed

-- What Janet's string/format makes of "%s" and a text.
def formatText : List Janet → Res (List UInt8)
  | [.string [37,115],.string bytes] => .ok bytes
  | _ => panicf "another format" []

def logged : State := (cfunWlrLogInit [.keyword "debug",.function 0] (opening [.function []])).2

theorem plain_text_delivered : Delivers (cfunWlrLog (fun _ (_ : Unit) => []) formatText logged
    [.keyword "info",.string [37,115],.string [111,107]]) 0 2 [111,107] := by
  have ran : cfunWlrLogInit [.keyword "debug",.function 0] (opening [.function []]) = (.ok .nil,logged) := rfl
  have installed : Installed logged 0 := logInit_installs ran
  exact (log_text_exact formatText installed (by decide) rfl (by decide) rfl (by decide)).mpr (by decide)

-- Of two percent signs one is left.
theorem percent_text_broken : ¬∀ text : List UInt8, 0 ∉ text → Delivers (cfunWlrLog (fun _ (_ : Unit) => [])
    formatText logged [.keyword "info",.string [37,115],.string text]) 0 2 text := by
  intro law
  obtain ⟨level,_,delivered⟩ := law [37,37] (by decide)
  have halved : cfunWlrLog (fun _ (_ : Unit) => []) formatText logged
      [.keyword "info",.string [37,115],.string [37,37]] = .ok [⟨0,[.keyword "info",.buffer [37]]⟩] := rfl
  rw [halved] at delivered
  cases delivered

end Janetland
