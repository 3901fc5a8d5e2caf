import Janetland.KeyDefs
import Janetland.Foundations.FlagTables

namespace Janetland

-- A jl_key_def_t table of flags; names are C strings and keys int32_t words.
structure FlagDefs where
  rows : List (String × BitVec 32)
  cstrings : ∀ row ∈ rows, cString row.1 = row.1
  separated : FlagTables.Separated rows

namespace FlagDefs

def table (defs : FlagDefs) : List KeyDef := defs.rows.map (fun row => keyDef row.1 row.2.toInt) ++ [.null]

def names (defs : FlagDefs) : List String := defs.rows.map Prod.fst

def IsName (defs : FlagDefs) : Janet → Prop
  | .keyword name => name ∈ defs.names
  | _ => False

-- janet_cstrcmp compares a keyword up to its first NUL.
def ReadsName (defs : FlagDefs) : Janet → Prop
  | .keyword name => cString name ∈ defs.names
  | _ => False

end FlagDefs

-- The elements that jl_get_key_flags goes through, if it takes the value at all.
def flagItems : Janet → Option (List Janet)
  | .keyword name => some [.keyword name]
  | .tuple items | .array items => some items
  | _ => none

def keywordText : Janet → String
  | .keyword name => cString name
  | _ => ""

structure FlagCodec (defs : FlagDefs) (named : Janet → Prop) : Prop where
  masked : ∀ word, ∃ keys, jlGetFlagKeys word defs.table = .ok keys ∧ ∀ argv n, slot argv n = .array keys →
    jlGetKeyFlags argv n defs.table = .ok (word &&& FlagTables.union (defs.rows.map Prod.snd))
  listed : ∀ names : List String, (∀ name ∈ names, name ∈ defs.names) → ∀ argv n,
    slot argv n = .tuple (names.map .keyword) ∨ slot argv n = .array (names.map .keyword) →
      ∃ flags, jlGetKeyFlags argv n defs.table = .ok flags ∧ jlGetFlagKeys flags defs.table =
        .ok ((defs.rows.filter fun row => row.1 ∈ names ∧ row.2 ≠ 0).map fun row => .keyword row.1)
  single : ∀ argv n name, slot argv n = .keyword name → ∀ other m,
    slot other m = .tuple [.keyword name] ∨ slot other m = .array [.keyword name] →
      jlGetKeyFlags argv n defs.table = jlGetKeyFlags other m defs.table
  refused : ∀ argv n, (∃ error, jlGetKeyFlags argv n defs.table = .panic error) ↔
    ∀ items, flagItems (slot argv n) = some items → ∃ item ∈ items, ¬named item

namespace FlagDefs

variable (defs : FlagDefs) {names : List String} {items : List Janet}

theorem scan_rows (rows : List (String × BitVec 32)) (kw : String) :
    SentinelScan.scan KeyDef.name (janetCstrcmp kw) (rows.map (fun row => keyDef row.1 row.2.toInt) ++ [.null]) =
      match rows.find? fun row => row.1 = cString kw with
      | some row => .hit (keyDef row.1 row.2.toInt)
      | none => .stopped := by
  induction rows with
  | nil => rfl
  | cons row rest ih =>
      rw [List.map_cons,List.cons_append,List.find?_cons]
      by_cases same : row.1 = cString kw
      · rw [SentinelScan.scan_match keyDef_name (by simp [janetCstrcmp,same])]
        simp [same]
      · have differs : janetCstrcmp kw row.1 = false := by simpa [janetCstrcmp] using Ne.symm same
        rw [SentinelScan.scan_next keyDef_name differs,ih]
        simp [same]

theorem keyDef_named (there : slot argv n = .keyword kw) (named : cString kw ∈ defs.names) : ∃ key,
    jlGetKeyDef argv n defs.table = .ok key ∧ BitVec.ofInt 32 key = FlagTables.keyOf defs.rows (cString kw) := by
  unfold jlGetKeyDef janetGetkeyword
  simp only [there,Res.bind_ok,table,scan_rows,FlagTables.keyOf]
  cases found : defs.rows.find? fun row => row.1 = cString kw with
  | some row => exact ⟨row.2.toInt,rfl,BitVec.ofInt_toInt⟩
  | none =>
      obtain ⟨row,member,same⟩ := List.mem_map.mp named
      exact absurd same (by simpa using List.find?_eq_none.mp found row member)

theorem keyDef_unnamed (there : slot argv n = .keyword kw) (unnamed : cString kw ∉ defs.names) :
    jlGetKeyDef argv n defs.table = panicf "unknown key: %v" [.keyword kw] := by
  unfold jlGetKeyDef janetGetkeyword
  simp only [there,Res.bind_ok,table,scan_rows]
  cases found : defs.rows.find? fun row => row.1 = cString kw with
  | none => rfl
  | some row =>
      have same : row.1 = cString kw := by simpa using List.find?_some found
      exact absurd (List.mem_map.mpr ⟨row,List.mem_of_find?_eq_some found,same⟩) unnamed

theorem slot_item (rest : items.drop i = item :: later) : slot items i = item := by
  have there : items[i]? = some item := by
    have first : (items.drop i)[0]? = some item := by rw [rest]; rfl
    rwa [List.getElem?_drop,Nat.add_zero] at first
  rw [slot,List.getD_eq_getElem?_getD,there]
  rfl

theorem drop_next (rest : items.drop i = item :: later) : items.drop (i+1) = later := by
  rw [← List.drop_drop,rest]
  rfl

-- Induction over the elements still to come; `flags` holds the keys of those before.
theorem keyFlags_named (remaining : items.drop i = rest) (named : ∀ item ∈ rest, defs.ReadsName item) :
    keyFlags items defs.table rest i flags =
      .ok (flags ||| FlagTables.encode defs.rows (rest.map keywordText)) := by
  induction rest generalizing i flags with
  | nil => simp [keyFlags,FlagTables.encode,FlagTables.union]
  | cons item later ih =>
      obtain ⟨first,others⟩ := List.forall_mem_cons.mp named
      cases item with
      | keyword kw =>
          obtain ⟨key,found,word⟩ := defs.keyDef_named (slot_item remaining) first
          rw [keyFlags,found,Res.bind_ok,ih (drop_next remaining) others,word,BitVec.or_assoc]
          rfl
      | _ => cases first

theorem keyFlags_unnamed (remaining : items.drop i = rest) (unnamed : ∃ item ∈ rest, ¬defs.ReadsName item) :
    ∃ error, keyFlags items defs.table rest i flags = .panic error := by
  induction rest generalizing i flags with
  | nil => simp at unnamed
  | cons item later ih =>
      cases item with
      | keyword kw =>
          by_cases named : cString kw ∈ defs.names
          · obtain ⟨key,found,_⟩ := defs.keyDef_named (slot_item remaining) named
            rw [keyFlags,found,Res.bind_ok]
            apply ih (drop_next remaining)
            obtain ⟨other,member,bad⟩ := unnamed
            rcases List.mem_cons.mp member with rfl | inside
            · exact absurd named bad
            · exact ⟨other,inside,bad⟩
          · rw [keyFlags,defs.keyDef_unnamed (slot_item remaining) named]
            exact ⟨_,rfl⟩
      | _ => exact ⟨_,rfl⟩

theorem single_item (argv : List Janet) (there : slot argv n = .keyword name) :
    jlGetKeyFlags argv n defs.table = keyFlags [.keyword name] defs.table [.keyword name] 0 0 := by
  have alone : slot [.keyword name] 0 = .keyword name := rfl
  simp only [jlGetKeyFlags,there,keyFlags]
  by_cases named : cString name ∈ defs.names
  · obtain ⟨key,found,word⟩ := defs.keyDef_named there named
    obtain ⟨other,again,same⟩ := defs.keyDef_named alone named
    simp [found,again,word,same]
  · rw [defs.keyDef_unnamed there named,defs.keyDef_unnamed alone named]
    rfl

theorem keyFlags_items (taken : flagItems (slot argv n) = some items) :
    jlGetKeyFlags argv n defs.table = keyFlags items defs.table items 0 0 := by
  cases there : slot argv n with
  | keyword name =>
      rw [there] at taken
      cases taken
      exact defs.single_item argv there
  | tuple items | array items =>
      rw [there] at taken
      cases taken
      simp [jlGetKeyFlags,there]
  | _ => simp [there,flagItems] at taken

theorem keyFlags_refused (untaken : flagItems (slot argv n) = none) :
    ∃ error, jlGetKeyFlags argv n defs.table = .panic error := by
  cases there : slot argv n with
  | keyword _ | tuple _ | array _ => simp [there,flagItems] at untaken
  | _ =>
      rw [jlGetKeyFlags,there]
      exact ⟨_,rfl⟩

theorem keyFlags_taken (taken : flagItems (slot argv n) = some items)
    (named : ∀ item ∈ items, defs.ReadsName item) : jlGetKeyFlags argv n defs.table =
      .ok (FlagTables.encode defs.rows (items.map keywordText)) := by
  rw [defs.keyFlags_items taken,defs.keyFlags_named List.drop_zero named]
  exact congrArg Res.ok BitVec.zero_or

theorem flagKeys_rows (flags : BitVec 32) (rows : List (String × BitVec 32)) :
    jlGetFlagKeys flags (rows.map (fun row => keyDef row.1 row.2.toInt) ++ [.null]) =
      .ok ((FlagTables.decode flags rows).map .keyword) := by
  induction rows with
  | nil => rfl
  | cons row rest ih =>
      simp only [List.map_cons,List.cons_append,jlGetFlagKeys,keyDef_name,keyDef_key,ih,Res.bind_ok,
        BitVec.ofInt_toInt,FlagTables.decode,List.filter_cons]
      by_cases meets : flags &&& row.2 = 0#32 <;> simp [meets]

theorem table_names : defs.table.filterMap KeyDef.name = defs.names := by
  simp [table,names,List.filterMap_map,Function.comp_def,KeyDef.null]

theorem names_exact (inside : name ∈ defs.names) : cString name = name := by
  obtain ⟨row,member,rfl⟩ := List.mem_map.mp inside
  exact defs.cstrings row member

theorem keywords_named (inside : ∀ name ∈ names, name ∈ defs.names) :
    ∀ item ∈ names.map Janet.keyword, defs.ReadsName item := by
  intro item member
  obtain ⟨name,listed,rfl⟩ := List.mem_map.mp member
  change cString name ∈ defs.names
  rw [defs.names_exact (inside name listed)]
  exact inside name listed

theorem keyword_texts (inside : ∀ name ∈ names, name ∈ defs.names) :
    (names.map Janet.keyword).map keywordText = names := by
  rw [List.map_map]
  conv_rhs => rw [← List.map_id names]
  apply List.map_congr_left
  intro name listed
  exact defs.names_exact (inside name listed)

theorem keywords_taken (taken : flagItems (slot argv n) = some (names.map .keyword))
    (inside : ∀ name ∈ names, name ∈ defs.names) :
    jlGetKeyFlags argv n defs.table = .ok (FlagTables.encode defs.rows names) := by
  rw [defs.keyFlags_taken taken (defs.keywords_named inside),defs.keyword_texts inside]

end FlagDefs

theorem flag_codec (defs : FlagDefs) : FlagCodec defs defs.ReadsName where
  masked := by
    intro word
    refine ⟨_,FlagDefs.flagKeys_rows word defs.rows,?_⟩
    intro argv n there
    rw [defs.keywords_taken (by rw [there]; rfl),FlagTables.encode_decode defs.separated]
    intro name listed
    obtain ⟨row,member,rfl⟩ := List.mem_map.mp listed
    exact List.mem_map_of_mem (List.mem_of_mem_filter member)
  listed := by
    intro names inside argv n given
    have taken : flagItems (slot argv n) = some (names.map .keyword) := by
      rcases given with there | there <;> rw [there] <;> rfl
    refine ⟨_,defs.keywords_taken taken inside,?_⟩
    rw [FlagDefs.table,FlagDefs.flagKeys_rows,FlagTables.decode_encode defs.separated,List.map_map]
    rfl
  single := by
    intro argv n name there other m given
    have taken : flagItems (slot other m) = some [.keyword name] := by
      rcases given with listed | listed <;> rw [listed] <;> rfl
    rw [defs.single_item argv there,defs.keyFlags_items taken]
  refused := by
    intro argv n
    constructor
    · rintro ⟨error,raised⟩ items taken
      by_contra fits
      push Not at fits
      rw [defs.keyFlags_taken taken fits] at raised
      cases raised
    · intro bad
      cases taken : flagItems (slot argv n) with
      | none => exact defs.keyFlags_refused taken
      | some items =>
          rw [defs.keyFlags_items taken]
          exact defs.keyFlags_unnamed List.drop_zero (bad items taken)

def flagRows (table : List KeyDef) : List (String × BitVec 32) :=
  table.filterMap fun entry => entry.name.map fun name => (name,BitVec.ofInt 32 entry.key)

-- The flag tables that the decoders above use are such tables.
theorem flag_tables : ∀ table ∈ [wlEventDefs,wlrSurfaceStateFieldDefs,wlrEdgesDefs,wlrKeyboardModifierDefs],
    ∃ defs : FlagDefs, defs.table = table := by
  intro table member
  have checked : ∀ table ∈ [wlEventDefs,wlrSurfaceStateFieldDefs,wlrEdgesDefs,wlrKeyboardModifierDefs],
      (∀ row ∈ flagRows table, cString row.1 = row.1) ∧ FlagTables.Separated (flagRows table) ∧
        (flagRows table).map (fun row => keyDef row.1 row.2.toInt) ++ [.null] = table := by decide
  obtain ⟨cstrings,separated,same⟩ := checked table member
  exact ⟨⟨flagRows table,cstrings,separated⟩,same⟩

-- A keyword may hold a NUL, and what follows the NUL is not read.
theorem longer_keyword_taken : ¬∀ defs : FlagDefs, FlagCodec defs defs.IsName := by
  intro codec
  obtain ⟨defs,edges⟩ := flag_tables wlrEdgesDefs (by decide)
  obtain ⟨error,raised⟩ := ((codec defs).refused [.keyword "top\x00x"] 0).mpr (by
    intro items taken
    cases taken
    refine ⟨_,List.mem_singleton_self _,?_⟩
    change "top\x00x" ∉ defs.names
    rw [← defs.table_names,edges]
    decide)
  rw [edges] at raised
  cases raised

end Janetland
