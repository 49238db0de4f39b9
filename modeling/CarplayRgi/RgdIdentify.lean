import CarplayRgi.ByteBuffers
import CarplayRgi.Iap2TlvCodec
import CarplayRgi.Utf8Text

/-!
# The patched identification

The hook puts a route-guidance component of its own into the identification of
the accessory, in place of the first one that is there or behind the last
item.  The frame is edited in the buffer that holds it, which grows when there
is no room; `fresh` gives what the new bytes of a grown buffer hold.
-/

namespace CarplayRgi

open ByteBuffers Iap2

def identTlvRouteGuidanceComponent : Nat := 0x001E

/-- The name of the component with its terminating zero. -/
def componentName : List UInt8 :=
  Utf8Text.encode "RouteGuidanceDisplayComponent".toList ++ [0]

/-- A 16-bit item of the component. -/
def componentU16 (id value : Nat) : List UInt8 :=
  Iap2.writeBe16 6 ++ (Iap2.writeBe16 id ++ Iap2.writeBe16 value)

/-- The nine items of the component. -/
def componentItems (componentId : Nat) : List UInt8 :=
  componentU16 0x0000 componentId ++
    (Iap2.writeBe16 (4 + componentName.length) ++ (Iap2.writeBe16 0x0001 ++ componentName)) ++
    componentU16 0x0002 0x0100 ++
    componentU16 0x0003 0x0100 ++
    componentU16 0x0004 0x0100 ++
    componentU16 0x0005 0x0100 ++
    componentU16 0x0006 0x0006 ++
    componentU16 0x0007 0x0100 ++
    componentU16 0x0008 0x0006

/-- The length of the component, as it is computed before anything is written. -/
def componentLen : Nat :=
  4 + (6 + (4 + componentName.length) + 6 + 6 + 6 + 6 + 6 + 6 + 6)

/-- `rgd_build_component_tlv`. -/
def rgdBuildComponentTlv (maxLen componentId : Nat) : Option (List UInt8) :=
  if maxLen < componentLen then none
  else
    some (Iap2.writeBe16 componentLen ++
      (Iap2.writeBe16 identTlvRouteGuidanceComponent ++ componentItems componentId))

/-- The loop of `rgd_extract_component_id`; every round passes at least four
bytes. -/
def extractComponentIdFrom (tlv : List UInt8) : Nat → Nat → Nat
  | 0, _ => 0
  | fuel + 1, innerOff =>
      if tlv.length < innerOff + 4 then 0
      else
        let innerLen := readBe16 (tlv.drop innerOff)
        if innerLen < 4 ∨ tlv.length < innerOff + innerLen then 0
        else if readBe16 (tlv.drop (innerOff + 2)) = 0x0000 ∧ 6 ≤ innerLen then
          readBe16 (tlv.drop (innerOff + 4))
        else extractComponentIdFrom tlv fuel (innerOff + innerLen)

/-- `rgd_extract_component_id`. -/
def rgdExtractComponentId (tlv : List UInt8) : Nat :=
  if tlv.length < 10 then 0 else extractComponentIdFrom tlv tlv.length 4

/-- `rgd_resize_identify_buffer`: the bytes of the frame are kept. -/
def rgdResizeIdentifyBuffer (fresh : Option (Nat → UInt8)) (mem : List UInt8)
    (len newLen : Nat) : Option (List UInt8) :=
  if newLen ≤ mem.length then some mem
  else fresh.map fun byte => mem.take len ++ (List.range (newLen + 64 - len)).map byte

/-- The buffer after a patch, the length of the frame in it, and the component
id that the hook has from now on. -/
structure PatchedIdentify where
  mem : List UInt8
  len : Nat
  componentId : Nat

/-- The frame in the buffer. -/
def PatchedIdentify.frame (patched : PatchedIdentify) : List UInt8 :=
  patched.mem.take patched.len

/-- The id of a component that is there, unless it is zero. -/
def keptComponentId (componentId : Nat) (existing : List UInt8) : Nat :=
  if rgdExtractComponentId existing = 0 then componentId else rgdExtractComponentId existing

/-- Put the component into a buffer with room, and rewrite the length. -/
def editIdentify (buf : List UInt8) (len existingOff existingLen : Nat) (newTlv : List UInt8)
    (newLen : Nat) : List UInt8 :=
  let afterOff := existingOff + existingLen
  let afterLen := len - afterOff
  let edited :=
    if 0 < existingLen then
      memcpy
        (if 0 < afterLen then memmove buf (existingOff + newTlv.length) afterOff afterLen else buf)
        existingOff newTlv
    else memcpy buf len newTlv
  memcpy edited 2 (Iap2.writeBe16 newLen)

/-- `rgd_identify_patcher`. -/
def rgdIdentifyPatcher (fresh : Option (Nat → UInt8)) (componentId : Nat) (mem : List UInt8)
    (len : Nat) : PatchedIdentify :=
  if len < 6 then ⟨mem, len, componentId⟩
  else
    let existing := iap2FindTlvOffset ((mem.take len).drop 6) identTlvRouteGuidanceComponent
    let existingLen := existing.2.getD 0
    let existingOff := existing.1 + 6
    let used :=
      if 0 < existingLen then
        keptComponentId componentId ((mem.drop existingOff).take existingLen)
      else componentId
    match rgdBuildComponentTlv 256 used with
    | none => ⟨mem, len, used⟩
    | some newTlv =>
        let newLen :=
          if 0 < existingLen then len - existingLen + newTlv.length else len + newTlv.length
        let resized :=
          if mem.length < newLen then rgdResizeIdentifyBuffer fresh mem len newLen else some mem
        match resized with
        | none => ⟨mem, len, used⟩
        | some buf => ⟨editIdentify buf len existingOff existingLen newTlv newLen, newLen, used⟩

theorem length_componentItems (componentId : Nat) : (componentItems componentId).length = 82 := by
  have name : componentName.length = 30 := by decide
  simp only [componentItems, componentU16, List.length_append, length_writeBe16, name]

/-- The component as an item of the identification. -/
def componentPair (componentId : Nat) : TlvPair where
  id := identTlvRouteGuidanceComponent
  value := componentItems componentId
  id_lt := by decide
  short := by rw [length_componentItems]; decide

theorem componentLen_eq : componentLen = 86 := by decide

theorem encoding_componentPair (componentId : Nat) :
    (componentPair componentId).encoding =
      Iap2.writeBe16 componentLen ++
        (Iap2.writeBe16 identTlvRouteGuidanceComponent ++ componentItems componentId) := by
  have length : 4 + (componentPair componentId).value.length = componentLen := by
    rw [componentLen_eq, componentPair, length_componentItems]
  rw [TlvPair.encoding_eq, length]
  rfl

theorem rgdBuildComponentTlv_eq (componentId : Nat) :
    rgdBuildComponentTlv 256 componentId = some (componentPair componentId).encoding := by
  rw [encoding_componentPair, rgdBuildComponentTlv, if_neg (by rw [componentLen_eq]; decide)]

theorem length_component (componentId : Nat) :
    (componentPair componentId).encoding.length = 86 := by
  rw [TlvPair.length_encoding, componentPair, length_componentItems]

/-- The id is found in the component that was built with it. -/
theorem rgdExtractComponentId_component {componentId : Nat} (small : componentId < 65536) :
    rgdExtractComponentId (componentPair componentId).encoding = componentId := by
  have length := length_component componentId
  have items : (componentPair componentId).encoding.drop 4 = componentItems componentId := by
    rw [encoding_componentPair]
    rfl
  have starts : ∃ rest, componentItems componentId =
      Iap2.writeBe16 6 ++ (Iap2.writeBe16 0x0000 ++ (Iap2.writeBe16 componentId ++ rest)) := by
    refine ⟨(componentItems componentId).drop 6, ?_⟩
    simp only [componentItems, componentU16, List.append_assoc]
    rfl
  obtain ⟨rest, startsEq⟩ := starts
  have innerLen : readBe16 ((componentPair componentId).encoding.drop 4) = 6 := by
    rw [items, startsEq, readBe16_writeBe16]
  have innerId : readBe16 ((componentPair componentId).encoding.drop (4 + 2)) = 0 := by
    rw [← List.drop_drop, items, startsEq]
    exact readBe16_writeBe16 0 _
  have value : readBe16 ((componentPair componentId).encoding.drop (4 + 4)) = componentId := by
    rw [← List.drop_drop, items, startsEq]
    exact (readBe16_writeBe16 componentId _).trans (Nat.mod_eq_of_lt small)
  unfold rgdExtractComponentId
  rw [if_neg (by omega), length, extractComponentIdFrom, if_neg (by omega)]
  dsimp only
  rw [innerLen, innerId, value, if_neg (by omega), if_pos (by decide)]

/-- A buffer with room has the frame at its start. -/
theorem exists_resized (fresh : Nat → UInt8) (frame spare : List UInt8) (newLen : Nat) :
    ∃ more, (if (frame ++ spare).length < newLen then
        rgdResizeIdentifyBuffer (some fresh) (frame ++ spare) frame.length newLen
      else some (frame ++ spare)) = some (frame ++ more) ∧
      newLen ≤ frame.length + more.length := by
  by_cases short : (frame ++ spare).length < newLen
  · refine ⟨(List.range (newLen + 64 - frame.length)).map fresh, ?_, ?_⟩
    · rw [if_pos short, rgdResizeIdentifyBuffer, if_neg (Nat.not_le.mpr short), Option.map_some,
        List.take_left]
    · rw [List.length_map, List.length_range]
      omega
  · refine ⟨spare, if_neg short, ?_⟩
    rw [List.length_append] at short
    omega

/-- An identification with these items; its length is in the header. -/
def identifyFrame (sync msgid : UInt8 × UInt8) (pairs : List TlvPair) : List UInt8 :=
  [sync.1, sync.2] ++ (Iap2.writeBe16 (6 + (encodings pairs).length) ++
    ([msgid.1, msgid.2] ++ encodings pairs))

/-- The first component is replaced, or one is appended. -/
def withComponent (component : TlvPair) : List TlvPair → List TlvPair
  | [] => [component]
  | pair :: pairs =>
      if pair.id = identTlvRouteGuidanceComponent then component :: pairs
      else pair :: withComponent component pairs

/-- The id of the first component, unless there is none or it is zero. -/
def usedComponentId (componentId : Nat) (pairs : List TlvPair) : Nat :=
  match pairs.find? fun pair => decide (pair.id = identTlvRouteGuidanceComponent) with
  | none => componentId
  | some pair => keptComponentId componentId pair.encoding

theorem withComponent_append {component : TlvPair} {earlier : List TlvPair}
    (others : ∀ pair ∈ earlier, pair.id ≠ identTlvRouteGuidanceComponent)
    (rest : List TlvPair) :
    withComponent component (earlier ++ rest) = earlier ++ withComponent component rest := by
  induction earlier with
  | nil => rfl
  | cons pair earlier ih =>
      rw [List.cons_append, withComponent, if_neg (others pair List.mem_cons_self),
        ih fun later member => others later (List.mem_cons_of_mem pair member)]
      rfl

theorem withComponent_none {component : TlvPair} {pairs : List TlvPair}
    (others : ∀ pair ∈ pairs, pair.id ≠ identTlvRouteGuidanceComponent) :
    withComponent component pairs = pairs ++ [component] := by
  have appended : withComponent component (pairs ++ []) = pairs ++ [component] :=
    withComponent_append others []
  rwa [List.append_nil] at appended

theorem encodings_append (earlier later : List TlvPair) :
    encodings (earlier ++ later) = encodings earlier ++ encodings later :=
  List.flatMap_append

section Patch

variable (fresh : Nat → UInt8) (componentId : Nat) (sync msgid : UInt8 × UInt8)
  (pairs : List TlvPair) (spare : List UInt8)

theorem length_identifyFrame :
    (identifyFrame sync msgid pairs).length = 6 + (encodings pairs).length := by
  simp only [identifyFrame, List.length_append, length_writeBe16, List.length_cons,
    List.length_nil]
  omega

theorem payload_identifyFrame : (identifyFrame sync msgid pairs).drop 6 = encodings pairs := rfl

/-- The header is rewritten last. -/
theorem memcpy_header (newLen : Nat) (oldLen rest : List UInt8) (two : oldLen.length = 2) :
    memcpy ([sync.1, sync.2] ++ (oldLen ++ ([msgid.1, msgid.2] ++ rest))) 2
        (Iap2.writeBe16 newLen) =
      [sync.1, sync.2] ++ (Iap2.writeBe16 newLen ++ ([msgid.1, msgid.2] ++ rest)) := by
  have copied := memcpy_append [sync.1, sync.2] (oldLen ++ ([msgid.1, msgid.2] ++ rest))
    (Iap2.writeBe16 newLen)
  rw [length_writeBe16, List.drop_left' two] at copied
  exact copied

/-- The buffer whose header has been rewritten starts with the new frame. -/
theorem memcpy_length {edited rest : List UInt8} {oldPairs : List TlvPair}
    (isEdited : edited = [sync.1, sync.2] ++ (Iap2.writeBe16 (6 + (encodings oldPairs).length) ++
      ([msgid.1, msgid.2] ++ (encodings pairs ++ rest)))) {newLen : Nat}
    (isLength : newLen = 6 + (encodings pairs).length) :
    memcpy edited 2 (Iap2.writeBe16 newLen) = identifyFrame sync msgid pairs ++ rest := by
  rw [isEdited, memcpy_header _ _ _ _ _ (length_writeBe16 _), isLength]
  simp only [identifyFrame, List.append_assoc]

/-- The patch of an identification without a component. -/
theorem patched_none
    (others : ∀ pair ∈ pairs, pair.id ≠ identTlvRouteGuidanceComponent) :
    ∃ rest, rgdIdentifyPatcher (some fresh) componentId (identifyFrame sync msgid pairs ++ spare)
        (identifyFrame sync msgid pairs).length =
      ⟨identifyFrame sync msgid (pairs ++ [componentPair componentId]) ++ rest,
        (identifyFrame sync msgid (pairs ++ [componentPair componentId])).length,
        componentId⟩ := by
  have length := length_identifyFrame sync msgid pairs
  have missing := ((carries_encodings pairs).leaves identTlvRouteGuidanceComponent).mpr others
  obtain ⟨more, resized, -⟩ := exists_resized fresh (identifyFrame sync msgid pairs) spare
    ((identifyFrame sync msgid pairs).length + 86)
  unfold rgdIdentifyPatcher
  dsimp only at missing ⊢
  rw [if_neg (by omega), List.take_left, payload_identifyFrame, missing]
  simp only [Option.getD_none, Nat.lt_irrefl, if_false, rgdBuildComponentTlv_eq,
    length_component, resized, editIdentify]
  have edited : memcpy (identifyFrame sync msgid pairs ++ more)
      (identifyFrame sync msgid pairs).length (componentPair componentId).encoding =
      [sync.1, sync.2] ++ (Iap2.writeBe16 (6 + (encodings pairs).length) ++ ([msgid.1, msgid.2] ++
        (encodings (pairs ++ [componentPair componentId]) ++ more.drop 86))) := by
    rw [memcpy_append, length_component, encodings_append, encodings_cons]
    simp only [identifyFrame, List.append_assoc]
    rfl
  have newLength : (identifyFrame sync msgid pairs).length + 86 =
      6 + (encodings (pairs ++ [componentPair componentId])).length := by
    rw [length, encodings_append, List.length_append, encodings_cons, List.length_append,
      length_component, Nat.add_assoc]
    rfl
  refine ⟨more.drop 86, ?_⟩
  rw [memcpy_length sync msgid _ edited newLength, newLength, length_identifyFrame]

/-- The patch of an identification with a component. -/
theorem patched_some {earlier later : List TlvPair} {pair : TlvPair}
    (others : ∀ other ∈ earlier, other.id ≠ identTlvRouteGuidanceComponent)
    (isComponent : pair.id = identTlvRouteGuidanceComponent) {used : Nat}
    (isUsed : keptComponentId componentId pair.encoding = used) :
    ∃ rest, rgdIdentifyPatcher (some fresh) componentId
        (identifyFrame sync msgid (earlier ++ pair :: later) ++ spare)
        (identifyFrame sync msgid (earlier ++ pair :: later)).length =
      ⟨identifyFrame sync msgid (earlier ++ componentPair used :: later) ++ rest,
        (identifyFrame sync msgid (earlier ++ componentPair used :: later)).length, used⟩ := by
  have length := length_identifyFrame sync msgid (earlier ++ pair :: later)
  have found := (carries_encodings (earlier ++ pair :: later)).finds earlier pair later rfl
    (by rw [isComponent]; exact others)
  have offset := found.2
  rw [isComponent] at offset
  have four := pair.length_encoding
  have split : encodings (earlier ++ pair :: later) =
      encodings earlier ++ (pair.encoding ++ encodings later) := by
    rw [encodings_append, encodings_cons]
  -- What stands before the component, with the header of the old frame.
  obtain ⟨before, isBefore⟩ : ∃ before, before = [sync.1, sync.2] ++
      (Iap2.writeBe16 (6 + (encodings (earlier ++ pair :: later)).length) ++
        ([msgid.1, msgid.2] ++ encodings earlier)) := ⟨_, rfl⟩
  have beforeLength : before.length = (encodings earlier).length + 6 := by
    rw [isBefore]
    simp only [List.length_append, length_writeBe16, List.length_cons, List.length_nil]
    omega
  have frameEq : identifyFrame sync msgid (earlier ++ pair :: later) =
      before ++ (pair.encoding ++ encodings later) := by
    rw [isBefore, identifyFrame]
    simp only [List.append_assoc]
    rw [split]
  have frameLength : (identifyFrame sync msgid (earlier ++ pair :: later)).length =
      before.length + pair.encoding.length + (encodings later).length := by
    rw [frameEq, List.length_append, List.length_append, Nat.add_assoc]
  have old : ((identifyFrame sync msgid (earlier ++ pair :: later) ++ spare).drop
      before.length).take pair.encoding.length = pair.encoding := by
    rw [frameEq, List.append_assoc, List.drop_left, List.append_assoc, List.take_left]
  obtain ⟨more, resized, room⟩ := exists_resized fresh
    (identifyFrame sync msgid (earlier ++ pair :: later)) spare
    ((identifyFrame sync msgid (earlier ++ pair :: later)).length - pair.encoding.length + 86)
  have positive : 0 < pair.encoding.length := by omega
  have behind : (identifyFrame sync msgid (earlier ++ pair :: later)).length -
      (before.length + pair.encoding.length) = (encodings later).length := by omega
  unfold rgdIdentifyPatcher
  dsimp only at offset ⊢
  rw [if_neg (by omega), List.take_left, payload_identifyFrame, offset]
  dsimp only [Option.getD_some]
  rw [if_pos positive, ← beforeLength, old, isUsed, rgdBuildComponentTlv_eq]
  simp only [positive, if_true, length_component, resized]
  have enough : (componentPair used).encoding.length ≤
      pair.encoding.length + ((encodings later).length + more.length) := by
    rw [length_component]
    omega
  obtain ⟨rest, moved⟩ := memcpy_memmove before pair.encoding (encodings later) more enough
  have edited : memcpy
      (if 0 < (encodings later).length then
        memmove (identifyFrame sync msgid (earlier ++ pair :: later) ++ more)
          (before.length + (componentPair used).encoding.length)
          (before.length + pair.encoding.length) (encodings later).length
      else identifyFrame sync msgid (earlier ++ pair :: later) ++ more) before.length
        (componentPair used).encoding =
      [sync.1, sync.2] ++ (Iap2.writeBe16 (6 + (encodings (earlier ++ pair :: later)).length) ++
        ([msgid.1, msgid.2] ++ (encodings (earlier ++ componentPair used :: later) ++ rest))) := by
    rw [frameEq, List.append_assoc, List.append_assoc, moved, isBefore,
      encodings_append earlier (componentPair used :: later), encodings_cons]
    simp only [List.append_assoc]
  have newLength : (identifyFrame sync msgid (earlier ++ pair :: later)).length -
      pair.encoding.length + 86 =
        6 + (encodings (earlier ++ componentPair used :: later)).length := by
    rw [frameLength, encodings_append, encodings_cons, List.length_append, List.length_append,
      length_component, beforeLength]
    omega
  refine ⟨rest, ?_⟩
  unfold editIdentify
  dsimp only
  rw [behind, if_pos positive, memcpy_length sync msgid _ edited newLength, newLength,
    length_identifyFrame]

/-- The patched identification, with or without a component in it. -/
theorem patched :
    ∃ rest, rgdIdentifyPatcher (some fresh) componentId (identifyFrame sync msgid pairs ++ spare)
        (identifyFrame sync msgid pairs).length =
      ⟨identifyFrame sync msgid
          (withComponent (componentPair (usedComponentId componentId pairs)) pairs) ++ rest,
        (identifyFrame sync msgid
          (withComponent (componentPair (usedComponentId componentId pairs)) pairs)).length,
        usedComponentId componentId pairs⟩ := by
  by_cases others : ∀ pair ∈ pairs, pair.id ≠ identTlvRouteGuidanceComponent
  · have notFound : pairs.find? (fun pair =>
        decide (pair.id = identTlvRouteGuidanceComponent)) = none := by
      rw [List.find?_eq_none]
      simpa using others
    rw [usedComponentId, notFound, withComponent_none others]
    exact patched_none fresh componentId sync msgid pairs spare others
  · obtain ⟨earlier, pair, later, rfl, isComponent, others⟩ := exists_first others
    have first : (earlier ++ pair :: later).find? (fun pair =>
        decide (pair.id = identTlvRouteGuidanceComponent)) = some pair := by
      rw [List.find?_eq_some_iff_append]
      exact ⟨decide_eq_true isComponent, earlier, later, rfl,
        fun other member => by simpa using others other member⟩
    rw [usedComponentId, first, withComponent_append others, withComponent, if_pos isComponent]
    exact patched_some fresh componentId sync msgid spare others isComponent rfl

end Patch

theorem extractComponentIdFrom_lt (tlv : List UInt8) (fuel innerOff : Nat) :
    extractComponentIdFrom tlv fuel innerOff < 65536 := by
  induction fuel generalizing innerOff with
  | zero => exact Nat.succ_pos _
  | succ fuel ih =>
      rw [extractComponentIdFrom]
      dsimp only
      split_ifs
      · exact Nat.succ_pos _
      · exact Nat.succ_pos _
      · exact readBe16_lt _
      · exact ih _

theorem rgdExtractComponentId_lt (tlv : List UInt8) : rgdExtractComponentId tlv < 65536 := by
  unfold rgdExtractComponentId
  split_ifs
  · exact Nat.succ_pos _
  · exact extractComponentIdFrom_lt _ _ _

theorem keptComponentId_lt {componentId : Nat} (small : componentId < 65536)
    (existing : List UInt8) : keptComponentId componentId existing < 65536 := by
  unfold keptComponentId
  split_ifs
  · exact small
  · exact rgdExtractComponentId_lt existing

theorem usedComponentId_lt {componentId : Nat} (small : componentId < 65536)
    (pairs : List TlvPair) : usedComponentId componentId pairs < 65536 := by
  unfold usedComponentId
  split
  · exact small
  · exact keptComponentId_lt small _

/-- The first component after a patch is the one that was put there. -/
theorem find_withComponent (componentId : Nat) (pairs : List TlvPair) :
    (withComponent (componentPair componentId) pairs).find? (fun pair =>
      decide (pair.id = identTlvRouteGuidanceComponent)) = some (componentPair componentId) := by
  induction pairs with
  | nil => rfl
  | cons pair pairs ih =>
      rw [withComponent]
      split_ifs with isComponent
      · rfl
      · rw [List.find?_cons_of_neg (by simpa using isComponent), ih]

theorem withComponent_withComponent (componentId : Nat) (pairs : List TlvPair) :
    withComponent (componentPair componentId) (withComponent (componentPair componentId) pairs) =
      withComponent (componentPair componentId) pairs := by
  induction pairs with
  | nil => rfl
  | cons pair pairs ih =>
      rw [withComponent]
      split_ifs with isComponent
      · rfl
      · rw [withComponent, if_neg isComponent, ih]

theorem usedComponentId_withComponent {used : Nat} (small : used < 65536)
    (pairs : List TlvPair) :
    usedComponentId used (withComponent (componentPair used) pairs) = used := by
  rw [usedComponentId, find_withComponent]
  dsimp only
  rw [keptComponentId, rgdExtractComponentId_component small, ite_self]

namespace PatchedIdentify

/-- The component that the patcher would find in the frame. -/
def component (patched : PatchedIdentify) : List UInt8 :=
  let found := iap2FindTlvOffset (patched.frame.drop 6) identTlvRouteGuidanceComponent
  (patched.frame.drop (6 + found.1)).take (found.2.getD 0)

end PatchedIdentify

theorem component_of_first {patched : PatchedIdentify} {pairs : List TlvPair} {pair : TlvPair}
    (payload : patched.frame.drop 6 = encodings pairs)
    (first : pairs.find? (fun pair => decide (pair.id = identTlvRouteGuidanceComponent)) =
      some pair) : patched.component = pair.encoding := by
  obtain ⟨isComponent, earlier, later, rfl, others⟩ := List.find?_eq_some_iff_append.mp first
  have isId : pair.id = identTlvRouteGuidanceComponent := of_decide_eq_true isComponent
  have found := ((carries_encodings (earlier ++ pair :: later)).finds earlier pair later rfl
    (by rw [isId]; exact fun other member => by simpa using others other member)).2
  rw [isId] at found
  dsimp only at found
  unfold PatchedIdentify.component
  dsimp only
  rw [← List.drop_drop, payload, found]
  dsimp only [Option.getD_some]
  rw [encodings_append, encodings_cons, List.drop_left, List.take_left]

/-- The patched identification has the items of the old one with the component
in it, a length that is its own, the id that the hook uses, and is left as it
is by a second patch. -/
theorem identify_patch (fresh again : Nat → UInt8) (componentId : Nat)
    (sync msgid : UInt8 × UInt8) (pairs : List TlvPair) (spare : List UInt8)
    (small : componentId < 65536)
    (fits : (identifyFrame sync msgid (withComponent
      (componentPair (usedComponentId componentId pairs)) pairs)).length ≤ 65535) :
    let patched := rgdIdentifyPatcher (some fresh) componentId
      (identifyFrame sync msgid pairs ++ spare) (identifyFrame sync msgid pairs).length
    tlvs (patched.frame.drop 6) =
        (withComponent (componentPair patched.componentId) pairs).map TlvPair.tlv ∧
      rgdBuildComponentTlv 256 patched.componentId =
        some (componentPair patched.componentId).encoding ∧
      patched.frame.length = patched.len ∧ readBe16 (patched.frame.drop 2) = patched.len ∧
      rgdExtractComponentId patched.component = patched.componentId ∧
      patched.componentId = usedComponentId componentId pairs ∧
      (rgdIdentifyPatcher (some again) patched.componentId patched.mem patched.len).frame =
        patched.frame := by
  obtain ⟨rest, patchedEq⟩ := patched fresh componentId sync msgid pairs spare
  have usedLt := usedComponentId_lt small pairs
  obtain ⟨used, isUsed⟩ : ∃ used, used = usedComponentId componentId pairs := ⟨_, rfl⟩
  rw [← isUsed] at patchedEq fits usedLt
  obtain ⟨more, againEq⟩ := patched again used sync msgid
    (withComponent (componentPair used) pairs) rest
  rw [usedComponentId_withComponent usedLt, withComponent_withComponent] at againEq
  dsimp only
  rw [patchedEq, againEq, ← isUsed]
  have isFrame : PatchedIdentify.frame
      ⟨identifyFrame sync msgid (withComponent (componentPair used) pairs) ++ rest,
        (identifyFrame sync msgid (withComponent (componentPair used) pairs)).length, used⟩ =
      identifyFrame sync msgid (withComponent (componentPair used) pairs) := List.take_left
  have component : PatchedIdentify.component
      ⟨identifyFrame sync msgid (withComponent (componentPair used) pairs) ++ rest,
        (identifyFrame sync msgid (withComponent (componentPair used) pairs)).length, used⟩ =
      (componentPair used).encoding :=
    component_of_first (congrArg (List.drop 6) isFrame) (find_withComponent used pairs)
  rw [isFrame, component]
  refine ⟨?_, rgdBuildComponentTlv_eq used, rfl, ?_, rgdExtractComponentId_component usedLt, rfl,
    List.take_left⟩
  · rw [payload_identifyFrame, tlvs_encodings]
  · rw [length_identifyFrame] at fits ⊢
    exact (readBe16_writeBe16 _ _).trans (Nat.mod_eq_of_lt (by omega))

/-- An accessory with a name and no component gets the component of the hook. -/
theorem named_identify_patch :
    let patched := rgdIdentifyPatcher (some fun _ => 0) 0x0010
      (identifyFrame (0x40, 0x40) (0x1D, 0x01) [⟨0, [65, 0], by decide, by decide⟩] ++ [])
      (identifyFrame (0x40, 0x40) (0x1D, 0x01) [⟨0, [65, 0], by decide, by decide⟩]).length
    tlvs (patched.frame.drop 6) =
        [⟨0, [65, 0]⟩, ⟨identTlvRouteGuidanceComponent, componentItems patched.componentId⟩] ∧
      rgdExtractComponentId patched.component = patched.componentId ∧
      (rgdIdentifyPatcher (some fun _ => 0) patched.componentId patched.mem patched.len).frame =
        patched.frame := by
  obtain ⟨items, -, -, -, extracted, -, same⟩ := identify_patch (fun _ => 0) (fun _ => 0) 0x0010
    (0x40, 0x40) (0x1D, 0x01) [⟨0, [65, 0], by decide, by decide⟩] [] (by decide) (by decide)
  exact ⟨items, extracted, same⟩

end CarplayRgi
