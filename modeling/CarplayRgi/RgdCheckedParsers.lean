import CarplayRgi.CheckedBuffers
import CarplayRgi.RgdParsedLanes

/-!
# The parsers with checked memory accesses

The parsers once more, now with the index loops of the source: every read goes
through a check against the length of the message or of the item at hand, and
every store through a check against the array it is made to.  On every byte
string they come to the parsed records, so no check ever fails.
-/

namespace CarplayRgi

open CheckedBuffers

def byteAt? (mem : List UInt8) (start : Nat) : Option Nat := (slice? mem start 1).map readBe

def readBe16At? (mem : List UInt8) (start : Nat) : Option Nat := (slice? mem start 2).map readBe

def readBe32At? (mem : List UInt8) (start : Nat) : Option Nat := (slice? mem start 4).map readBe

def readBe64At? (mem : List UInt8) (start : Nat) : Option Nat := (slice? mem start 8).map readBe

theorem byteAt?_eq {mem : List UInt8} {start : Nat} (inside : start + 1 ≤ mem.length) :
    byteAt? mem start = some (readByte (mem.drop start)) := by
  rw [byteAt?, slice?_of_le inside]
  rfl

theorem byteAt?_cons (byte : UInt8) (rest : List UInt8) :
    byteAt? (byte :: rest) 0 = some byte.toNat := by
  rw [byteAt?_eq (Nat.le_add_left 1 rest.length)]
  simp [readByte, readBe]

theorem readBe16At?_cons (first second : UInt8) (rest : List UInt8) :
    readBe16At? (first :: second :: rest) 0 = some (readBe16 [first, second]) := by
  rw [readBe16At?, slice?_of_le (Nat.le_add_left 2 rest.length)]
  rfl

theorem readBe16At?_eq {mem : List UInt8} {start : Nat} (inside : start + 2 ≤ mem.length) :
    readBe16At? mem start = some (readBe16 (mem.drop start)) := by
  rw [readBe16At?, slice?_of_le inside]
  rfl

theorem readBe32At?_eq {mem : List UInt8} {start : Nat} (inside : start + 4 ≤ mem.length) :
    readBe32At? mem start = some (readBe32 (mem.drop start)) := by
  rw [readBe32At?, slice?_of_le inside]
  rfl

theorem readBe64At?_eq {mem : List UInt8} {start : Nat} (inside : start + 8 ≤ mem.length) :
    readBe64At? mem start = some (readBe64 (mem.drop start)) := by
  rw [readBe64At?, slice?_of_le inside]
  rfl

section Items

variable {State Model : Type}

/-- The item loop of a parser from an offset on.  A handler is given the item's
id and the bytes of its value, and may end the loop. -/
def checkedTlvsFrom (handle : State → Nat → List UInt8 → Option (ForInStep State))
    (buf : List UInt8) : Nat → Nat → State → Option State
  | 0, _, out => some out
  | fuel + 1, off, out =>
      if off + 4 ≤ buf.length then do
        let tlvLen ← readBe16At? buf off
        let tlvId ← readBe16At? buf (off + 2)
        if tlvLen < 4 ∨ buf.length < off + tlvLen then some out
        else
          let val ← slice? buf (off + 4) (tlvLen - 4)
          match ← handle out tlvId val with
          | .done out => some out
          | .yield out => checkedTlvsFrom handle buf fuel (off + tlvLen) out
      else some out

/-- What a handler must do to follow the steps of a model: go on related to it,
or end when the model no longer changes. -/
structure Follows (handle : State → Nat → List UInt8 → Option (ForInStep State))
    (step : Model → Tlv → Model) (related ended : State → Model → Prop) : Prop where
  handled : ∀ out model id val, related out model →
    (∃ next, handle out id val = some (.yield next) ∧ related next (step model ⟨id, val⟩)) ∨
      ∃ next, handle out id val = some (.done next) ∧ ended next (step model ⟨id, val⟩)
  stays : ∀ out model tlv, ended out model → ended out (step model tlv)

variable {handle : State → Nat → List UInt8 → Option (ForInStep State)}
  {step : Model → Tlv → Model} {related ended : State → Model → Prop}

theorem Follows.ended_foldl (follows : Follows handle step related ended) {out : State}
    (items : List Tlv) {model : Model} (isOver : ended out model) :
    ended out (items.foldl step model) := by
  induction items generalizing model with
  | nil => exact isOver
  | cons item items ih => exact ih (follows.stays out model item isOver)

/-- The loop reads inside the message, and follows the fold over its items. -/
theorem checkedTlvsFrom_follows (follows : Follows handle step related ended)
    (buf : List UInt8) {fuel off : Nat} {out : State} {model : Model} (start : related out model) :
    ∃ result, checkedTlvsFrom handle buf fuel off out = some result ∧
      (related result ((tlvsWithin fuel (buf.drop off)).foldl step model) ∨
        ended result ((tlvsWithin fuel (buf.drop off)).foldl step model)) := by
  induction fuel generalizing off out model with
  | zero => exact ⟨out, rfl, .inl start⟩
  | succ fuel ih =>
      have lengthEq : (buf.drop off).length = buf.length - off := List.length_drop
      rw [checkedTlvsFrom, tlvsWithin]
      by_cases header : off + 4 ≤ buf.length
      · have lenRead := readBe16At?_eq (by omega : off + 2 ≤ buf.length)
        have idRead := readBe16At?_eq (by omega : off + 2 + 2 ≤ buf.length)
        rw [if_pos header, lenRead, idRead]
        change ∃ result, (if readBe16 (buf.drop off) < 4 ∨
          buf.length < off + readBe16 (buf.drop off) then some out else _) = some result ∧ _
        by_cases malformed : readBe16 (buf.drop off) < 4 ∨
            buf.length < off + readBe16 (buf.drop off)
        · rw [if_pos malformed, if_pos (by omega)]
          exact ⟨out, rfl, .inl start⟩
        · have valRead : slice? buf (off + 4) (readBe16 (buf.drop off) - 4) =
              some (((buf.drop off).take (readBe16 (buf.drop off))).drop 4) := by
            rw [slice?_of_le (by omega), List.drop_take, List.drop_drop]
          rw [if_neg malformed, if_neg (by omega), valRead, List.drop_drop, List.drop_drop,
            List.foldl_cons]
          change ∃ result, (handle out _ _).bind _ = some result ∧ _
          rcases follows.handled out model (readBe16 (buf.drop (off + 2)))
              (((buf.drop off).take (readBe16 (buf.drop off))).drop 4) start with
            ⟨next, handled, goesOn⟩ | ⟨next, handled, isOver⟩
          · rw [handled]
            exact ih goesOn
          · rw [handled]
            exact ⟨next, rfl, .inr (follows.ended_foldl _ isOver)⟩
      · rw [if_neg header, if_pos (by omega)]
        exact ⟨out, rfl, .inl start⟩

/-- A handler that never ends the loop follows its steps when it takes them
wherever an invariant holds. -/
theorem follows_of_eq {handle : State → Nat → List UInt8 → Option State}
    {step : State → Tlv → State} {holds : State → Prop}
    (handled : ∀ out id val, holds out → handle out id val = some (step out ⟨id, val⟩))
    (keeps : ∀ out tlv, holds out → holds (step out tlv)) :
    Follows (fun out id val => (handle out id val).map .yield) step
      (fun out model => out = model ∧ holds out) (fun _ _ => False) where
  handled := by
    rintro out _ id val ⟨rfl, held⟩
    exact .inl ⟨step out ⟨id, val⟩, by rw [handled out id val held]; rfl, rfl,
      keeps out ⟨id, val⟩ held⟩
  stays := fun _ _ _ impossible => impossible

/-- The item loop of a parser behind the six bytes of the header. -/
def checkedFrame (handle : State → Nat → List UInt8 → Option State) (buf : List UInt8)
    (out : State) : Option State :=
  checkedTlvsFrom (fun out id val => (handle out id val).map .yield) buf (buf.length - 6) 6 out

theorem checkedFrame_eq {handle : State → Nat → List UInt8 → Option State}
    {step : State → Tlv → State} {holds : State → Prop}
    (handled : ∀ out id val, holds out → handle out id val = some (step out ⟨id, val⟩))
    (keeps : ∀ out tlv, holds out → holds (step out tlv)) (buf : List UInt8) {out : State}
    (start : holds out) :
    checkedFrame handle buf out = some ((frameTlvs buf).foldl step out) ∧
      holds ((frameTlvs buf).foldl step out) := by
  have related : out = out ∧ holds out := ⟨rfl, start⟩
  obtain ⟨result, read, ⟨same, held⟩ | impossible⟩ :=
    @checkedTlvsFrom_follows State State _ _ _ _ (follows_of_eq handled keeps) buf
      (buf.length - 6) 6 out out related
  · have fuelEq : (buf.drop 6).length = buf.length - 6 := List.length_drop
    rw [frameTlvs, tlvs, fuelEq, ← same]
    exact ⟨read, held⟩
  · exact impossible.elim

end Items

/-- Set a field from an item of at least `size` bytes, else keep it. -/
def whenLong? {Value : Type} (size : Nat) (val : List UInt8)
    (read? : List UInt8 → Option Value) (old : Option Value) : Option (Option Value) :=
  if size ≤ val.length then (read? val).map some else some old

theorem whenLong?_eq {Value : Type} {size : Nat} {val : List UInt8}
    {read? : List UInt8 → Option Value} {read : List UInt8 → Value}
    (reads : size ≤ val.length → read? val = some (read val)) (old : Option Value) :
    whenLong? size val read? old = some (whenLong size val read old) := by
  unfold whenLong? whenLong
  split
  · rename_i long
    rw [reads long]
    rfl
  · rfl

/-- The loop over big-endian pairs, which ends when the array is full. -/
def checkedPairsFrom {Value : Type} (cap : Nat) (read : Nat → Value) (val : List UInt8) :
    Nat → Nat → List Value → Option (List Value)
  | 0, _, stored => some stored
  | fuel + 1, i, stored =>
      if i + 1 < val.length ∧ stored.length < cap then do
        let pair ← readBe16At? val i
        let stored ← push? cap stored (read pair)
        checkedPairsFrom cap read val fuel (i + 2) stored
      else some stored

def checkedPairs {Value : Type} (cap : Nat) (read : Nat → Value) (val : List UInt8)
    (stored : List Value) : Option (List Value) :=
  checkedPairsFrom cap read val val.length 0 stored

theorem be16Pairs_of_two {bytes : List UInt8} (two : 2 ≤ bytes.length) :
    be16Pairs bytes = readBe16 bytes :: be16Pairs (bytes.drop 2) := by
  match bytes, two with
  | first :: second :: rest, _ => rfl

theorem be16Pairs_of_short {bytes : List UInt8} (short : bytes.length < 2) :
    be16Pairs bytes = [] := by
  match bytes, short with
  | [], _ => rfl
  | [_], _ => rfl
  | _ :: _ :: _, impossible =>
      rw [List.length_cons, List.length_cons] at impossible
      omega

theorem checkedPairsFrom_eq {Value : Type} (cap : Nat) (read : Nat → Value) (val : List UInt8)
    {fuel i : Nat} {stored : List Value} (enough : val.length ≤ i + fuel)
    (short : stored.length ≤ cap) :
    checkedPairsFrom cap read val fuel i stored =
      some ((stored ++ (be16Pairs (val.drop i)).map read).take cap) := by
  have lengthEq : (val.drop i).length = val.length - i := List.length_drop
  induction fuel generalizing i stored with
  | zero =>
      rw [be16Pairs_of_short (by omega), List.map_nil, List.append_nil,
        List.take_of_length_le short]
      rfl
  | succ fuel ih =>
      rw [checkedPairsFrom]
      by_cases goesOn : i + 1 < val.length ∧ stored.length < cap
      · rw [if_pos goesOn, readBe16At?_eq (by omega)]
        change (push? cap stored (read (readBe16 (val.drop i)))).bind _ = _
        rw [push?_of_lt goesOn.2, be16Pairs_of_two (by omega), List.drop_drop, List.map_cons]
        refine (ih (by omega) ?_ List.length_drop).trans ?_
        · rw [List.length_append, List.length_singleton]
          omega
        · rw [List.append_assoc]
          rfl
      · rw [if_neg goesOn]
        by_cases full : stored.length < cap
        · rw [be16Pairs_of_short (by omega), List.map_nil, List.append_nil,
            List.take_of_length_le short]
        · rw [List.take_append_of_le_length (by omega), List.take_of_length_le short]

theorem checkedPairs_eq {Value : Type} {cap : Nat} (read : Nat → Value) (val : List UInt8)
    {stored : List Value} (short : stored.length ≤ cap) :
    checkedPairs cap read val stored =
      some ((stored ++ (be16Pairs val).map read).take cap) := by
  rw [checkedPairs, checkedPairsFrom_eq cap read val (by omega) short]
  rfl

/-- Copy an item into a field of `size` bytes and end it. -/
def copyString? (size : Nat) (val : List UInt8) : Option (List UInt8) := do
  let n := min val.length (size - 1)
  let text ← slice? val 0 n
  if n < size then some (cString text) else none

theorem copyString?_eq {size : Nat} (positive : 0 < size) (val : List UInt8) :
    copyString? size val = some (boundedString size val) := by
  rw [copyString?, slice?_of_le (by omega)]
  change (if min val.length (size - 1) < size then some (cString _) else none) = _
  rw [if_pos (by omega), List.drop_zero, Nat.min_comm, ← List.take_eq_take_min]
  rfl

/-- A byte of a preview: an ASCII control byte is replaced. -/
def previewByte (byte : UInt8) : UInt8 :=
  if 0x80 ≤ byte.toNat ∨ (0x20 ≤ byte.toNat ∧ byte.toNat ≤ 0x7E) then byte else 63

/-- The copy loop of `copy_printable_string_preview`. -/
def checkedPreviewFrom (size : Nat) (data : List UInt8) :
    Nat → Nat → List UInt8 → Option (List UInt8)
  | 0, _, out => some out
  | left + 1, n, out => do
      let c ← data[n]?
      if c = 0 then some out
      else
        let out ← push? (size - 1) out (previewByte c)
        checkedPreviewFrom size data left (n + 1) out

def checkedPreview (size : Nat) (data : List UInt8) : Option (List UInt8) :=
  checkedPreviewFrom size data (min data.length (size - 1)) 0 []

theorem checkedPreviewFrom_eq {size : Nat} {data : List UInt8} {left n : Nat} {out : List UInt8}
    (inside : n + left ≤ data.length) (room : out.length + left ≤ size - 1) :
    checkedPreviewFrom size data left n out =
      some (out ++ (cString ((data.drop n).take left)).map previewByte) := by
  induction left generalizing n out with
  | zero =>
      rw [List.take_zero]
      change some out = some (out ++ [])
      rw [List.append_nil]
  | succ left ih =>
      have inData : n < data.length := by omega
      rw [checkedPreviewFrom, List.getElem?_eq_getElem inData, List.drop_eq_getElem_cons inData,
        List.take_succ_cons, cString, List.takeWhile_cons]
      change (if data[n] = 0 then some out else _) = _
      by_cases ends : data[n] = 0
      · rw [if_pos ends, if_neg (by rw [bne_iff_ne]; exact fun differs => differs ends),
          List.map_nil, List.append_nil]
      · rw [if_neg ends, if_pos (by rw [bne_iff_ne]; exact ends), push?_of_lt (by omega)]
        refine (ih (by omega) ?_).trans ?_
        · rw [List.length_append, List.length_singleton]
          omega
        · rw [List.append_assoc]
          rfl

theorem checkedPreview_eq (size : Nat) (data : List UInt8) :
    checkedPreview size data = some (copyPrintableStringPreview size data) := by
  rw [checkedPreview, checkedPreviewFrom_eq (by omega)
    (by rw [List.length_nil]; omega), List.drop_zero, Nat.min_comm, ← List.take_eq_take_min]
  rfl

def checkedUpdateTlv (upd : RgdUpdate) (id : Nat) (val : List UInt8) : Option RgdUpdate :=
  match id with
  | 0x0000 => do
      let componentIds ← checkedPairs maxComponentList (fun id => id) val []
      some { upd with componentIds := some componentIds }
  | 0x0001 => do
      let routeState ← whenLong? 1 val (byteAt? · 0) upd.routeState
      some { upd with routeState }
  | 0x0002 => do
      let maneuverState ← whenLong? 1 val (byteAt? · 0) upd.maneuverState
      some { upd with maneuverState }
  | 0x0003 => do
      let text ← copyString? 256 val
      some { upd with currentRoad := some (replaceNewlines 256 text) }
  | 0x0004 => do
      let text ← copyString? 256 val
      some { upd with destination := some (replaceNewlines 256 text) }
  | 0x0005 => do
      let eta ← whenLong? 8 val (readBe64At? · 0) upd.eta
      some { upd with eta }
  | 0x0006 => do
      let timeRemaining ← whenLong? 8 val (readBe64At? · 0) upd.timeRemaining
      some { upd with timeRemaining }
  | 0x0007 => do
      let distanceRemaining ← whenLong? 4 val (readBe32At? · 0) upd.distanceRemaining
      some { upd with distanceRemaining }
  | 0x0008 => do
      let text ← copyString? 64 val
      some { upd with distanceString := some text }
  | 0x0009 => do
      let distanceUnits ← whenLong? 1 val (byteAt? · 0) upd.distanceUnits
      some { upd with distanceUnits }
  | 0x000A => do
      let distToManeuver ← whenLong? 4 val (readBe32At? · 0) upd.distToManeuver
      some { upd with distToManeuver }
  | 0x000B => do
      let text ← copyString? 64 val
      some { upd with distToManeuverString := some text }
  | 0x000C => do
      let distToManeuverUnits ← whenLong? 1 val (byteAt? · 0) upd.distToManeuverUnits
      some { upd with distToManeuverUnits }
  | 0x000D => do
      let maneuverList ← checkedPairs maxManeuverList (fun idx => idx) val []
      some { upd with maneuverList := some maneuverList }
  | 0x000E => do
      let maneuverCount ← whenLong? 2 val (readBe16At? · 0) upd.maneuverCount
      some { upd with maneuverCount }
  | 0x000F => do
      let visibleInApp ← whenLong? 1 val (byteAt? · 0) upd.visibleInApp
      some { upd with visibleInApp }
  | 0x0010 => do
      let laneGuidanceIndex ← whenLong? 2 val (readBe16At? · 0) upd.laneGuidanceIndex
      some { upd with laneGuidanceIndex }
  | 0x0011 => do
      let laneGuidanceTotal ← whenLong? 2 val (readBe16At? · 0) upd.laneGuidanceTotal
      some { upd with laneGuidanceTotal }
  | 0x0012 => do
      let laneGuidanceShowing ← whenLong? 1 val (byteAt? · 0) upd.laneGuidanceShowing
      some { upd with laneGuidanceShowing }
  | 0x0013 => do
      let text ← copyString? 64 val
      some { upd with sourceName := some (replaceNewlines 64 text) }
  | 0x0014 => do
      let sourceSupportsRouteGuidance ←
        whenLong? 1 val (byteAt? · 0) upd.sourceSupportsRouteGuidance
      some { upd with sourceSupportsRouteGuidance }
  | _ => some upd

def checkedParseUpdate (buf : List UInt8) : Option RgdUpdate :=
  if buf.length < 6 then some {} else checkedFrame checkedUpdateTlv buf {}

theorem checkedUpdateTlv_eq (upd : RgdUpdate) (id : Nat) (val : List UInt8) :
    checkedUpdateTlv upd id val = some (updateTlv upd ⟨id, val⟩) := by
  have byte : 1 ≤ val.length → byteAt? val 0 = some (readByte val) := fun long => byteAt?_eq long
  have be16 : 2 ≤ val.length → readBe16At? val 0 = some (readBe16 val) :=
    fun long => readBe16At?_eq long
  have be32 : 4 ≤ val.length → readBe32At? val 0 = some (readBe32 val) :=
    fun long => readBe32At?_eq long
  have be64 : 8 ≤ val.length → readBe64At? val 0 = some (readBe64 val) :=
    fun long => readBe64At?_eq long
  have pairs (cap : Nat) : checkedPairs cap (fun id => id) val [] =
      some ((be16Pairs val).take cap) := by
    rw [checkedPairs_eq _ _ (Nat.zero_le cap), List.nil_append, List.map_id']
  unfold checkedUpdateTlv
  split
  all_goals first
    | rw [whenLong?_eq byte]; rfl
    | rw [whenLong?_eq be16]; rfl
    | rw [whenLong?_eq be32]; rfl
    | rw [whenLong?_eq be64]; rfl
    | rw [pairs]; rfl
    | rw [copyString?_eq (by decide)]; rfl
    | (unfold updateTlv; dsimp only; split <;> first | contradiction | rfl)

theorem checkedParseUpdate_eq (buf : List UInt8) :
    checkedParseUpdate buf = some (rgdParseUpdate buf) := by
  unfold checkedParseUpdate
  split
  · rename_i short
    rw [rgdParseUpdate, frameTlvs, List.drop_eq_nil_of_le (by omega)]
    rfl
  · exact (@checkedFrame_eq RgdUpdate checkedUpdateTlv updateTlv (fun _ => True)
      (fun upd id val _ => checkedUpdateTlv_eq upd id val) (fun _ _ _ => trivial) buf {} trivial).1

def checkedManeuverTlv (man : RgdManeuver) (id : Nat) (val : List UInt8) : Option RgdManeuver :=
  match id with
  | 0x0000 => do
      let componentIds ← checkedPairs maxComponentList (fun id => id) val []
      some { man with componentIds := some componentIds }
  | 0x0001 => do
      let index ← whenLong? 2 val (readBe16At? · 0) man.index
      some { man with index }
  | 0x0002 => do
      let text ← copyString? 256 val
      some { man with description := some (replaceNewlines 256 text) }
  | 0x0003 => do
      let maneuverType ← whenLong? 1 val (byteAt? · 0) man.maneuverType
      some { man with maneuverType }
  | 0x0004 => do
      let text ← copyString? 256 val
      some { man with afterRoadName := some (replaceNewlines 256 text) }
  | 0x0005 => do
      let distanceBetween ← whenLong? 4 val (readBe32At? · 0) man.distanceBetween
      some { man with distanceBetween }
  | 0x0006 => do
      let text ← copyString? 64 val
      some { man with distanceString := some text }
  | 0x0007 => do
      let distanceUnits ← whenLong? 1 val (byteAt? · 0) man.distanceUnits
      some { man with distanceUnits }
  | 0x0008 => do
      let drivingSide ← whenLong? 1 val (byteAt? · 0) man.drivingSide
      some { man with drivingSide }
  | 0x0009 => do
      let junctionType ← whenLong? 1 val (byteAt? · 0) man.junctionType
      some { man with junctionType }
  -- The angles of repeated items are stored one behind the other.
  | 0x000A => do
      let junctionAngles ← checkedPairs maxManeuverList asInt16 val (man.junctionAngles.getD [])
      some { man with junctionAngles := some junctionAngles }
  | 0x000B => do
      let exitAngle ← whenLong? 2 val (fun val => (readBe16At? val 0).map asInt16) man.exitAngle
      some { man with exitAngle }
  | 0x000C => do
      let linkedLaneGuidanceIndex ← whenLong? 2 val (readBe16At? · 0) man.linkedLaneGuidanceIndex
      some { man with laneGuidanceRawLen := some val.length, linkedLaneGuidanceIndex }
  | 0x000D => do
      let text ← checkedPreview 257 val
      some { man with exitInfoRawLen := some val.length, exitInfoStr := some text }
  | _ => some man

def checkedParseManeuver (buf : List UInt8) : Option RgdManeuver :=
  if buf.length < 6 then some {}
  else
    (checkedFrame checkedManeuverTlv buf {}).map fun man =>
      if man.index.isSome && man.exitAngle.isNone then { man with exitAngle := some 1000 } else man

/-- The junction angles fit their array. -/
def JunctionFits (man : RgdManeuver) : Prop :=
  (man.junctionAngles.getD []).length ≤ maxManeuverList

theorem maneuverTlv_junctionFits {man : RgdManeuver} (fits : JunctionFits man) (tlv : Tlv) :
    JunctionFits (maneuverTlv man tlv) := by
  unfold maneuverTlv
  split
  case h_11 => exact List.length_take_le _ _
  all_goals exact fits

theorem checkedManeuverTlv_eq {man : RgdManeuver} (fits : JunctionFits man) (id : Nat)
    (val : List UInt8) : checkedManeuverTlv man id val = some (maneuverTlv man ⟨id, val⟩) := by
  have byte : 1 ≤ val.length → byteAt? val 0 = some (readByte val) := fun long => byteAt?_eq long
  have be16 : 2 ≤ val.length → readBe16At? val 0 = some (readBe16 val) :=
    fun long => readBe16At?_eq long
  have angle : 2 ≤ val.length →
      (readBe16At? val 0).map asInt16 = some (asInt16 (readBe16 val)) := by
    intro long
    rw [be16 long]
    rfl
  have be32 : 4 ≤ val.length → readBe32At? val 0 = some (readBe32 val) :=
    fun long => readBe32At?_eq long
  have pairs : checkedPairs maxComponentList (fun id => id) val [] =
      some ((be16Pairs val).take maxComponentList) := by
    rw [checkedPairs_eq _ _ (Nat.zero_le _), List.nil_append, List.map_id']
  unfold checkedManeuverTlv
  split
  all_goals first
    | rw [whenLong?_eq byte]; rfl
    | rw [whenLong?_eq be16]; rfl
    | rw [@whenLong?_eq Int 2 val _ (fun bytes => asInt16 (readBe16 bytes)) angle]; rfl
    | rw [whenLong?_eq be32]; rfl
    | rw [pairs]; rfl
    | rw [checkedPairs_eq asInt16 val fits]; rfl
    | rw [copyString?_eq (by decide)]; rfl
    | rw [checkedPreview_eq]; rfl
    | (unfold maneuverTlv; dsimp only; split <;> first | contradiction | rfl)

theorem checkedParseManeuver_eq (buf : List UInt8) :
    checkedParseManeuver buf = some (rgdParseManeuver buf) := by
  unfold checkedParseManeuver
  split
  · rename_i short
    rw [rgdParseManeuver, frameTlvs, List.drop_eq_nil_of_le (by omega)]
    rfl
  · rw [(checkedFrame_eq (fun man id val fits => checkedManeuverTlv_eq fits id val)
      (fun _ tlv fits => maneuverTlv_junctionFits fits tlv) buf (Nat.zero_le _)).1]
    rfl

/-- The variables of `rgd_parse_lane_information_value`: the lanes stored so
far, the position of the current one, and the two flags. -/
structure CheckedScan where
  lanes : List RgdLane := []
  laneIdx : Option Nat := none
  laneHasHighlight : Bool := false
  sawAny : Bool := false

namespace CheckedScan

/-- Start a lane behind the stored ones; the loop ends when there is no room
for it. -/
def openLane (outMax : Nat) (scan : CheckedScan) : Option (ForInStep CheckedScan) :=
  if outMax ≤ scan.lanes.length then some (.done scan)
  else do
    let lanes ← push? maxLaneGuidance scan.lanes (rgdLaneReset scan.lanes.length)
    some (.yield { scan with lanes, laneIdx := some scan.lanes.length, laneHasHighlight := false })

/-- Store into the current lane. -/
def storeLane (scan : CheckedScan) (change : RgdLane → RgdLane) : Option CheckedScan := do
  let position ← scan.laneIdx
  let lanes ← modify? scan.lanes position change
  some { scan with lanes }

end CheckedScan

/-- The angle loop, on the lane at hand. -/
def checkedAnglesFrom (laneHasHighlight : Bool) (val : List UInt8) :
    Nat → Nat → RgdLane → Option RgdLane
  | 0, _, lane => some lane
  | fuel + 1, p, lane =>
      if p < val.length ∧ lane.angles.length < maxLaneAngles then do
        let angle ← if p + 1 < val.length then (readBe16At? val p).map asInt16
          else (byteAt? val p).map Int.ofNat
        let angles ← push? maxLaneAngles lane.angles angle
        let direction :=
          if !laneHasHighlight && decide (lane.direction = 1000) then angle else lane.direction
        checkedAnglesFrom laneHasHighlight val fuel
          (if p + 1 < val.length then p + 2 else p + 1) { lane with angles, direction }
      else some lane

/-- One item of a lane information, on the scan that has a current lane. -/
def checkedLaneField (scan : CheckedScan) (id : Nat) (val : List UInt8) : Option CheckedScan :=
  match id with
  | 0x0000 =>
      if 2 ≤ val.length then do
        let position ← readBe16At? val 0
        scan.storeLane fun lane => { lane with position }
      else if 1 ≤ val.length then do
        let position ← byteAt? val 0
        scan.storeLane fun lane => { lane with position }
      else some scan
  | 0x0001 =>
      if 1 ≤ val.length then do
        let status ← byteAt? val 0
        scan.storeLane fun lane => { lane with status }
      else some scan
  | 0x0002 =>
      if 1 ≤ val.length then do
        let position ← scan.laneIdx
        let lane ← scan.lanes[position]?
        let lane ← checkedAnglesFrom scan.laneHasHighlight val val.length 0 lane
        scan.storeLane fun _ => lane
      else some scan
  | 0x0003 =>
      if 1 ≤ val.length then do
        let direction ← if 2 ≤ val.length then (readBe16At? val 0).map asInt16
          else (byteAt? val 0).map Int.ofNat
        let scan ← scan.storeLane fun lane => { lane with direction }
        some { scan with laneHasHighlight := true }
      else some scan
  | _ => some scan

/-- One item of a lane information: an index starts a lane, and so does any
other known item when there is none. -/
def checkedLaneTlv (outMax : Nat) (scan : CheckedScan) (id : Nat) (val : List UInt8) :
    Option (ForInStep CheckedScan) :=
  if 3 < id then some (.yield scan)
  else do
    let opened ← if id = 0 ∨ scan.laneIdx = none then scan.openLane outMax else some (.yield scan)
    match opened with
    | .done scan => some (.done scan)
    | .yield scan => do
        let scan ← checkedLaneField { scan with sawAny := true } id val
        some (.yield scan)

def checkedParseLaneInformationValue (val : List UInt8) (outMax : Nat) : Option (List RgdLane) :=
  if outMax = 0 ∨ val.length < 4 then some []
  else do
    let scan ← checkedTlvsFrom (checkedLaneTlv outMax) val val.length 0 {}
    some (if scan.sawAny then scan.lanes else [])

theorem laneAngleValues_of_two {bytes : List UInt8} (two : 2 ≤ bytes.length) :
    laneAngleValues bytes = asInt16 (readBe16 bytes) :: laneAngleValues (bytes.drop 2) := by
  match bytes, two with
  | first :: second :: rest, _ => rfl

theorem laneAngleValues_of_one {bytes : List UInt8} (one : bytes.length = 1) :
    laneAngleValues bytes = [(readByte bytes : Int)] := by
  match bytes, one with
  | [last], _ =>
      rw [laneAngleValues]
      simp [readByte, readBe]

/-- A full lane takes no more angles. -/
theorem foldl_addLaneAngle_full (highlight : Bool) (angles : List Int) {lane : RgdLane}
    (full : maxLaneAngles ≤ lane.angles.length) :
    angles.foldl (addLaneAngle highlight) lane = lane := by
  induction angles with
  | nil => rfl
  | cons angle angles ih =>
      have same : addLaneAngle highlight lane angle = lane := if_pos full
      rw [List.foldl_cons, same, ih]

theorem checkedAnglesFrom_eq (highlight : Bool) (val : List UInt8) {fuel p : Nat} {lane : RgdLane}
    (enough : val.length ≤ p + fuel) (fits : lane.angles.length ≤ maxLaneAngles) :
    checkedAnglesFrom highlight val fuel p lane =
      some ((laneAngleValues (val.drop p)).foldl (addLaneAngle highlight) lane) := by
  have lengthEq : (val.drop p).length = val.length - p := List.length_drop
  induction fuel generalizing p lane with
  | zero =>
      rw [List.drop_eq_nil_of_le (by omega)]
      rfl
  | succ fuel ih =>
      rw [checkedAnglesFrom]
      by_cases goesOn : p < val.length ∧ lane.angles.length < maxLaneAngles
      · have added (angle : Int) : addLaneAngle highlight lane angle =
            { lane with
              angles := lane.angles ++ [angle]
              direction :=
                if !highlight && decide (lane.direction = 1000) then angle
                else lane.direction } := if_neg (by omega)
        have short (angle : Int) : (addLaneAngle highlight lane angle).angles.length ≤
            maxLaneAngles := by
          rw [added]
          change (lane.angles ++ [angle]).length ≤ _
          rw [List.length_append, List.length_singleton]
          omega
        rw [if_pos goesOn]
        by_cases two : p + 1 < val.length
        · rw [if_pos two, if_pos two, readBe16At?_eq (by omega),
            laneAngleValues_of_two (by omega), List.foldl_cons, List.drop_drop]
          change (push? maxLaneAngles lane.angles (asInt16 (readBe16 (val.drop p)))).bind _ = _
          rw [push?_of_lt goesOn.2]
          refine Eq.trans ?_ (ih (by omega) (short _) List.length_drop)
          rw [added]
          rfl
        · rw [if_neg two, if_neg two, byteAt?_eq (by omega), laneAngleValues_of_one (by omega)]
          change (push? maxLaneAngles lane.angles (readByte (val.drop p) : Int)).bind _ = _
          rw [push?_of_lt goesOn.2]
          have rest := ih (by omega : val.length ≤ p + 1 + fuel)
            (short (readByte (val.drop p) : Int)) List.length_drop
          have past : val.drop (p + 1) = [] := List.drop_eq_nil_of_le (by omega)
          rw [past] at rest
          refine Eq.trans ?_ rest
          rw [added]
          rfl
      · rw [if_neg goesOn]
        by_cases inside : p < val.length
        · rw [foldl_addLaneAngle_full _ _ (by omega)]
        · rw [List.drop_eq_nil_of_le (by omega)]
          rfl

/-- The variables of the loop are those of the scan. -/
structure ScanRelated (scan : CheckedScan) (model : LaneScan) : Prop where
  lanes : model.lanes = scan.lanes
  highlight : model.laneHasHighlight = scan.laneHasHighlight
  running : model.stopped = false
  current : scan.laneIdx = if scan.lanes = [] then none else some (scan.lanes.length - 1)
  fits : ∀ lane ∈ scan.lanes, lane.angles.length ≤ maxLaneAngles

/-- The loop has ended because there was no room for a lane. -/
structure ScanEnded (scan : CheckedScan) (model : LaneScan) : Prop where
  lanes : model.lanes = scan.lanes
  stopped : model.stopped = true

theorem ScanRelated.saw {scan : CheckedScan} {model : LaneScan} (related : ScanRelated scan model) :
    ScanRelated { scan with sawAny := true } model :=
  ⟨related.lanes, related.highlight, related.running, related.current, related.fits⟩

theorem ScanRelated.openLane {outMax : Nat} {scan : CheckedScan} {model : LaneScan}
    (related : ScanRelated scan model) (small : outMax ≤ maxLaneGuidance) :
    (∃ next, scan.openLane outMax = some (.yield next) ∧ next.lanes ≠ [] ∧
        ScanRelated next (model.openLane outMax)) ∨
      scan.openLane outMax = some (.done scan) ∧ ScanEnded scan (model.openLane outMax) := by
  unfold CheckedScan.openLane LaneScan.openLane
  rw [related.lanes]
  by_cases full : outMax ≤ scan.lanes.length
  · rw [if_pos full, if_pos full]
    exact .inr ⟨rfl, rfl, rfl⟩
  · rw [if_neg full, if_neg full, push?_of_lt (by omega)]
    refine .inl ⟨_, rfl, ?_, rfl, rfl, related.running, ?_, fun lane member => ?_⟩
    · exact List.append_ne_nil_of_right_ne_nil _ (List.cons_ne_nil _ _)
    · dsimp only
      rw [if_neg (List.append_ne_nil_of_right_ne_nil _ (List.cons_ne_nil _ _)),
        List.length_append, List.length_singleton, Nat.add_sub_cancel]
    · rcases List.mem_append.mp member with earlier | isNew
      · exact related.fits lane earlier
      · rw [List.mem_singleton.mp isNew]
        exact Nat.zero_le _

theorem ScanRelated.storeLane {scan : CheckedScan} {model : LaneScan}
    (related : ScanRelated scan model) (nonempty : scan.lanes ≠ []) {change : RgdLane → RgdLane}
    (fits : ∀ lane ∈ scan.lanes, (change lane).angles.length ≤ maxLaneAngles) :
    ∃ next, scan.storeLane change = some next ∧ next.sawAny = scan.sawAny ∧
      ScanRelated next (model.updateLane change) := by
  have inside : scan.lanes.length - 1 < scan.lanes.length :=
    Nat.sub_lt (List.length_pos_of_ne_nil nonempty) Nat.one_pos
  refine ⟨{ scan with lanes := scan.lanes.modify (scan.lanes.length - 1) change }, ?_, rfl, ?_⟩
  · rw [CheckedScan.storeLane, related.current, if_neg nonempty]
    change (modify? scan.lanes (scan.lanes.length - 1) change).bind _ = _
    rw [modify?_of_lt inside]
    rfl
  · have updated : model.updateLane change =
        { model with lanes := scan.lanes.modify (scan.lanes.length - 1) change } := by
      rw [LaneScan.updateLane, related.running, related.lanes]
      rfl
    rw [updated]
    refine ⟨rfl, related.highlight, related.running, ?_, fun lane member => ?_⟩
    · have still : scan.lanes.modify (scan.lanes.length - 1) change ≠ [] := by
        rw [ne_eq, ← List.length_eq_zero_iff, List.length_modify]
        exact fun empty => nonempty (List.eq_nil_of_length_eq_zero empty)
      dsimp only
      rw [if_neg still, List.length_modify, related.current, if_neg nonempty]
    · obtain ⟨position, positionLt, rfl⟩ := List.mem_iff_getElem.mp member
      rw [List.length_modify] at positionLt
      rw [List.getElem_modify]
      split
      · exact fits _ (List.getElem_mem positionLt)
      · exact related.fits _ (List.getElem_mem positionLt)

/-- What an item changes in the scan that has its lane. -/
def laneFieldStep (scan : LaneScan) (tlv : Tlv) : LaneScan :=
  match tlv.id with
  | 0x0000 =>
      scan.updateLane fun lane =>
        match tlv.value with
        | [] => lane
        | [byte] => { lane with position := byte.toNat }
        | first :: second :: _ => { lane with position := readBe16 [first, second] }
  | 0x0001 =>
      scan.updateLane fun lane =>
        match tlv.value with
        | [] => lane
        | byte :: _ => { lane with status := byte.toNat }
  | 0x0002 =>
      scan.updateLane fun lane =>
        (laneAngleValues tlv.value).foldl (addLaneAngle scan.laneHasHighlight) lane
  | 0x0003 =>
      if tlv.value = [] ∨ scan.stopped = true then scan
      else
        { scan.updateLane fun lane =>
            { lane with direction := highlightDirection tlv.value } with
          laneHasHighlight := true }
  | _ => scan

theorem laneInformationStep_eq {outMax : Nat} {scan : LaneScan} (running : scan.stopped = false)
    (tlv : Tlv) :
    laneInformationStep outMax scan tlv =
      if 3 < tlv.id then scan
      else
        laneFieldStep (if tlv.id = 0 ∨ scan.lanes = [] then scan.openLane outMax else scan) tlv := by
  obtain ⟨id, value⟩ := tlv
  unfold laneInformationStep laneFieldStep
  rw [if_neg (by rw [running]; exact Bool.false_ne_true)]
  match id with
  | 0 => rfl
  | 1 =>
      have opens : scan.lanes = [] ↔ 1 = 0 ∨ scan.lanes = [] := (or_iff_right (by decide)).symm
      exact congrArg (laneFieldStep · ⟨1, value⟩) (if_congr opens rfl rfl)
  | 2 | 3 => simp
  | later + 4 =>
      have unknown : 3 < later + 4 := Nat.lt_add_left later (by decide)
      exact (if_pos unknown).symm

theorem laneFieldStep_of_stopped {scan : LaneScan} (stopped : scan.stopped = true) (tlv : Tlv) :
    laneFieldStep scan tlv = scan := by
  have kept (change : RgdLane → RgdLane) : scan.updateLane change = scan := if_pos stopped
  unfold laneFieldStep
  split
  · exact kept _
  · exact kept _
  · exact kept _
  · exact if_pos (.inr stopped)
  · rfl

theorem updateLane_self (scan : LaneScan) : (scan.updateLane fun lane => lane) = scan := by
  unfold LaneScan.updateLane
  split
  · rfl
  · change { scan with lanes := scan.lanes.modify (scan.lanes.length - 1) id } = scan
    rw [List.modify_id]

theorem updateLane_congr {scan : LaneScan} {first second : RgdLane → RgdLane}
    (agree : ∀ lane, scan.lanes[scan.lanes.length - 1]? = some lane → first lane = second lane) :
    scan.updateLane first = scan.updateLane second := by
  have lanes : scan.lanes.modify (scan.lanes.length - 1) first =
      scan.lanes.modify (scan.lanes.length - 1) second := by
    apply List.ext_getElem?
    intro position
    rw [List.getElem?_modify, List.getElem?_modify]
    cases found : scan.lanes[position]? with
    | none => rfl
    | some lane =>
        by_cases isCurrent : scan.lanes.length - 1 = position
        · subst isCurrent
          simp only [↓reduceIte, Option.map_eq_map, Option.map_some, agree lane found]
        · simp only [if_neg isCurrent]
  unfold LaneScan.updateLane
  rw [lanes]

theorem length_foldl_addLaneAngle_le (highlight : Bool) (angles : List Int) {lane : RgdLane}
    (fits : lane.angles.length ≤ maxLaneAngles) :
    (angles.foldl (addLaneAngle highlight) lane).angles.length ≤ maxLaneAngles := by
  induction angles generalizing lane with
  | nil => exact fits
  | cons angle angles ih =>
      refine ih ?_
      unfold addLaneAngle
      split
      · exact fits
      · rename_i room
        rw [List.length_append, List.length_singleton]
        omega

theorem ScanRelated.laneField {scan : CheckedScan} {model : LaneScan}
    (related : ScanRelated scan model) (nonempty : scan.lanes ≠ []) (id : Nat) (val : List UInt8) :
    ∃ next, checkedLaneField scan id val = some next ∧ next.sawAny = scan.sawAny ∧
      ScanRelated next (laneFieldStep model ⟨id, val⟩) := by
  have position : scan.laneIdx = some (scan.lanes.length - 1) := by
    rw [related.current, if_neg nonempty]
  have inside : scan.lanes.length - 1 < scan.lanes.length :=
    Nat.sub_lt (List.length_pos_of_ne_nil nonempty) Nat.one_pos
  have unchanged : ∃ next, some scan = some next ∧ next.sawAny = scan.sawAny ∧
      ScanRelated next (model.updateLane fun lane => lane) := by
    rw [updateLane_self]
    exact ⟨scan, rfl, rfl, related⟩
  have kept (lane : RgdLane) (member : lane ∈ scan.lanes) := related.fits lane member
  unfold checkedLaneField laneFieldStep
  match id, val with
  | 0, [] | 1, [] | 2, [] => exact unchanged
  | 3, [] => exact ⟨scan, rfl, rfl, related⟩
  | 0, [byte] =>
      simp only [List.length_singleton, Nat.reduceLeDiff, ↓reduceIte, byteAt?_cons]
      exact related.storeLane nonempty kept
  | 0, first :: second :: rest =>
      have long : 2 ≤ (first :: second :: rest).length := Nat.le_add_left 2 rest.length
      simp only [if_pos long, readBe16At?_cons]
      exact related.storeLane nonempty kept
  | 1, byte :: rest =>
      have long : 1 ≤ (byte :: rest).length := Nat.le_add_left 1 rest.length
      simp only [if_pos long, byteAt?_cons]
      exact related.storeLane nonempty kept
  | 2, byte :: rest =>
      have fits := related.fits _ (List.getElem_mem inside)
      have angles := checkedAnglesFrom_eq scan.laneHasHighlight (byte :: rest)
        (Nat.le_add_left (byte :: rest).length 0) fits
      have long : 1 ≤ (byte :: rest).length := Nat.le_add_left 1 rest.length
      have same : model.updateLane (fun lane =>
            (laneAngleValues (byte :: rest)).foldl (addLaneAngle model.laneHasHighlight) lane) =
          model.updateLane (fun _ => (laneAngleValues (byte :: rest)).foldl
            (addLaneAngle scan.laneHasHighlight) scan.lanes[scan.lanes.length - 1]) := by
        refine updateLane_congr fun lane isCurrent => ?_
        rw [related.lanes, List.getElem?_eq_getElem inside] at isCurrent
        rw [Option.some.inj isCurrent, related.highlight]
      simp only [if_pos long, position, Option.bind_eq_bind, Option.bind_some,
        List.getElem?_eq_getElem inside, angles, List.drop_zero]
      rw [same]
      refine related.storeLane nonempty fun _ _ => ?_
      exact length_foldl_addLaneAngle_le _ _ fits
  | 3, byte :: rest =>
      have long : 1 ≤ (byte :: rest).length := Nat.le_add_left 1 rest.length
      obtain ⟨next, stored, saw, nextRelated⟩ := @ScanRelated.storeLane scan model related nonempty
        (fun lane => { lane with direction := highlightDirection (byte :: rest) }) kept
      have running : ¬((byte :: rest) = [] ∨ model.stopped = true) := by
        rw [related.running]
        simp
      refine ⟨{ next with laneHasHighlight := true }, ?_, saw, ?_⟩
      · simp only [if_pos long]
        cases rest with
        | nil =>
            simp only [List.length_singleton, Nat.reduceLeDiff, ↓reduceIte, byteAt?_cons]
            change (scan.storeLane fun lane =>
              { lane with direction := highlightDirection [byte] }).bind _ = _
            rw [stored]
            rfl
        | cons second rest =>
            have two : 2 ≤ (byte :: second :: rest).length := Nat.le_add_left 2 rest.length
            simp only [if_pos two, readBe16At?_cons]
            change (scan.storeLane fun lane =>
              { lane with direction := highlightDirection (byte :: second :: rest) }).bind _ = _
            rw [stored]
            rfl
      · simp only [if_neg running]
        exact ⟨nextRelated.lanes, rfl, nextRelated.running, nextRelated.current, nextRelated.fits⟩
  | later + 4, val => exact ⟨scan, rfl, rfl, related⟩

theorem ScanRelated.isEmpty {scan : CheckedScan} {model : LaneScan}
    (related : ScanRelated scan model) : scan.laneIdx = none ↔ model.lanes = [] := by
  rw [related.current, related.lanes]
  split
  · rename_i empty
    exact iff_of_true rfl empty
  · rename_i nonempty
    exact iff_of_false (Option.some_ne_none _) nonempty

/-- A scan that has lanes has seen an item. -/
def CheckedScan.Saw (scan : CheckedScan) : Prop := scan.lanes ≠ [] → scan.sawAny = true

theorem checkedLaneTlv_follows {outMax : Nat} (small : outMax ≤ maxLaneGuidance) :
    Follows (checkedLaneTlv outMax) (laneInformationStep outMax)
      (fun scan model => ScanRelated scan model ∧ scan.Saw)
      (fun scan model => ScanEnded scan model ∧ scan.Saw) where
  handled := by
    rintro scan model id val ⟨related, saw⟩
    rw [laneInformationStep_eq related.running]
    unfold checkedLaneTlv
    by_cases unknown : 3 < id
    · rw [if_pos unknown, if_pos unknown]
      exact .inl ⟨scan, rfl, related, saw⟩
    · rw [if_neg unknown, if_neg unknown]
      by_cases opens : id = 0 ∨ model.lanes = []
      · have checkedOpens : id = 0 ∨ scan.laneIdx = none := opens.imp_right related.isEmpty.mpr
        rw [if_pos opens, if_pos checkedOpens]
        rcases related.openLane small with ⟨next, opened, nonempty, nextRelated⟩ | ⟨full, isOver⟩
        · obtain ⟨last, stored, lastSaw, lastRelated⟩ := nextRelated.saw.laneField nonempty id val
          refine .inl ⟨last, ?_, lastRelated, fun _ => lastSaw⟩
          rw [opened]
          change (checkedLaneField _ id val).bind _ = _
          rw [stored]
          rfl
        · refine .inr ⟨scan, ?_, ?_, saw⟩
          · rw [full]
            rfl
          · rwa [laneFieldStep_of_stopped isOver.stopped]
      · have nonempty : scan.lanes ≠ [] := by
          rw [← related.lanes]
          exact fun empty => opens (.inr empty)
        have checkedOpens : ¬(id = 0 ∨ scan.laneIdx = none) :=
          fun either => opens (either.imp_right related.isEmpty.mp)
        obtain ⟨last, stored, lastSaw, lastRelated⟩ := related.saw.laneField nonempty id val
        rw [if_neg opens, if_neg checkedOpens]
        refine .inl ⟨last, ?_, lastRelated, fun _ => lastSaw⟩
        change (checkedLaneField _ id val).bind _ = _
        rw [stored]
        rfl
  stays := by
    rintro scan model tlv ⟨isOver, saw⟩
    have same : laneInformationStep outMax model tlv = model := if_pos isOver.stopped
    rw [same]
    exact ⟨isOver, saw⟩

theorem checkedParseLaneInformationValue_eq (val : List UInt8) {outMax : Nat}
    (small : outMax ≤ maxLaneGuidance) :
    checkedParseLaneInformationValue val outMax =
      some (rgdParseLaneInformationValue val outMax) := by
  unfold checkedParseLaneInformationValue
  by_cases nothing : outMax = 0 ∨ val.length < 4
  · rw [if_pos nothing]
    rcases nothing with rfl | short
    · have noRoom := (rgdParseLaneInformationValue_parsed val (Nat.zero_le maxLaneGuidance)).1
      rw [List.eq_nil_of_length_eq_zero (Nat.le_zero.mp noRoom)]
    · have noItem : tlvs val = [] := by
        rw [tlvs]
        cases val.length with
        | zero => rfl
        | succ fuel => exact if_pos (.inl short)
      rw [rgdParseLaneInformationValue, noItem]
      rfl
  · rw [if_neg nothing]
    have start : ScanRelated {} {} ∧ CheckedScan.Saw {} :=
      ⟨⟨rfl, rfl, rfl, rfl, fun _ member => by cases member⟩, fun nonempty => absurd rfl nonempty⟩
    obtain ⟨result, read, finished⟩ := @checkedTlvsFrom_follows _ _ _ _ _ _
      (checkedLaneTlv_follows small) val val.length 0 _ _ start
    rw [List.drop_zero] at finished
    have lanes : result.lanes = rgdParseLaneInformationValue val outMax ∧ result.Saw := by
      rcases finished with ⟨related, saw⟩ | ⟨isOver, saw⟩
      · exact ⟨related.lanes.symm, saw⟩
      · exact ⟨isOver.lanes.symm, saw⟩
    rw [read]
    change some (if result.sawAny then result.lanes else []) = _
    by_cases empty : result.lanes = []
    · rw [← lanes.1, empty]
      simp
    · rw [if_pos (lanes.2 empty), lanes.1]

/-- The lanes of an item are stored behind those of the items before. -/
def checkedStoreLanes : List RgdLane → List RgdLane → Option (List RgdLane)
  | stored, [] => some stored
  | stored, lane :: parsed =>
      if stored.length < maxLaneGuidance then do
        let stored ← push? maxLaneGuidance stored lane
        checkedStoreLanes stored parsed
      else some stored

/-- An odd last byte is an id of its own when there is room for it. -/
def checkedOddByte (val : List UInt8) (stored : List Nat) : Option (List Nat) :=
  if val.length % 2 = 1 ∧ stored.length < maxComponentList then do
    let last ← byteAt? val (val.length - 1)
    push? maxComponentList stored last
  else some stored

/-- The lanes of one item behind those that are stored, when there is room. -/
def checkedLaneInformations (val : List UInt8) (stored : List RgdLane) : Option (List RgdLane) :=
  if 0 < val.length ∧ stored.length < maxLaneGuidance then do
    let parsed ← checkedParseLaneInformationValue val (maxLaneGuidance - stored.length)
    checkedStoreLanes stored parsed
  else some stored

def checkedLaneGuidanceTlv (lane : RgdLaneGuidance) (id : Nat) (val : List UInt8) :
    Option RgdLaneGuidance :=
  match id with
  | 0x0000 => do
      let stored ← checkedPairs maxComponentList (fun id => id) val (lane.componentIds.getD [])
      let componentIds ← checkedOddByte val stored
      some { lane with componentIds := some componentIds }
  | 0x0001 =>
      if 2 ≤ val.length then do
        let index ← readBe16At? val 0
        some { lane with laneGuidanceIndex := some index }
      else if 1 ≤ val.length then do
        let index ← byteAt? val 0
        some { lane with laneGuidanceIndex := some index }
      else some lane
  | 0x0002 => do
      let lanes ← checkedLaneInformations val (lane.laneInformations.getD [])
      some { lane with laneInformations := some lanes }
  | 0x0003 => do
      let text ← copyString? 64 val
      some { lane with laneGuidanceDescription := some text }
  | _ => some lane

def checkedParseLaneGuidance (buf : List UInt8) : Option RgdLaneGuidance :=
  if buf.length < 6 then some {} else checkedFrame checkedLaneGuidanceTlv buf {}

/-- The component ids and the lanes fit their arrays. -/
structure LaneGuidanceFits (lane : RgdLaneGuidance) : Prop where
  componentIds : (lane.componentIds.getD []).length ≤ maxComponentList
  lanes : (lane.laneInformations.getD []).length ≤ maxLaneGuidance

theorem checkedStoreLanes_eq {stored parsed : List RgdLane}
    (room : stored.length + parsed.length ≤ maxLaneGuidance) :
    checkedStoreLanes stored parsed = some (stored ++ parsed) := by
  induction parsed generalizing stored with
  | nil => rw [checkedStoreLanes, List.append_nil]
  | cons lane parsed ih =>
      rw [List.length_cons] at room
      rw [checkedStoreLanes, if_pos (by omega), push?_of_lt (by omega)]
      refine (ih ?_).trans ?_
      · rw [List.length_append, List.length_singleton]
        omega
      · rw [List.append_assoc]
        rfl

theorem laneGuidanceTlv_fits {lane : RgdLaneGuidance} (fits : LaneGuidanceFits lane) (tlv : Tlv) :
    LaneGuidanceFits (laneGuidanceTlv lane tlv) := by
  unfold laneGuidanceTlv
  split
  · exact ⟨List.length_take_le _ _, fits.lanes⟩
  · exact ⟨fits.componentIds, fits.lanes⟩
  · refine ⟨fits.componentIds, ?_⟩
    have parsed := (rgdParseLaneInformationValue_parsed tlv.value
      (Nat.sub_le maxLaneGuidance (lane.laneInformations.getD []).length)).1
    have stored := fits.lanes
    dsimp only [Option.getD_some]
    rw [List.length_append]
    omega
  · exact ⟨fits.componentIds, fits.lanes⟩
  · exact fits

theorem checkedOddByte_eq (ids : List Nat) (val : List UInt8) :
    checkedOddByte val (ids.take maxComponentList) =
      some ((ids ++ if val.length % 2 = 1 then [readBe (val.drop (val.length - 1))] else []).take
        maxComponentList) := by
  have lengthEq : (ids.take maxComponentList).length = min maxComponentList ids.length :=
    List.length_take
  unfold checkedOddByte
  by_cases odd : val.length % 2 = 1
  · have last : byteAt? val (val.length - 1) = some (readBe (val.drop (val.length - 1))) := by
      have one : (val.drop (val.length - 1)).length = 1 := by
        rw [List.length_drop]
        omega
      rw [byteAt?_eq (by omega), readByte, List.take_of_length_le (Nat.le_of_eq one)]
    rw [if_pos odd]
    by_cases room : ids.length < maxComponentList
    · rw [if_pos ⟨odd, by omega⟩, last, List.take_of_length_le (Nat.le_of_lt room),
        List.take_of_length_le (by rw [List.length_append, List.length_singleton]; omega)]
      exact push?_of_lt room _
    · rw [if_neg (by omega), List.take_append_of_le_length (by omega)]
  · rw [if_neg (fun both => odd both.1), if_neg odd, List.append_nil]

theorem checkedLaneInformations_eq {stored : List RgdLane} (val : List UInt8)
    (fits : stored.length ≤ maxLaneGuidance) :
    checkedLaneInformations val stored =
      some (stored ++ rgdParseLaneInformationValue val (maxLaneGuidance - stored.length)) := by
  obtain ⟨short, -⟩ := rgdParseLaneInformationValue_parsed val
    (Nat.sub_le maxLaneGuidance stored.length)
  unfold checkedLaneInformations
  by_cases reads : 0 < val.length ∧ stored.length < maxLaneGuidance
  · rw [if_pos reads, checkedParseLaneInformationValue_eq val (Nat.sub_le _ _)]
    exact checkedStoreLanes_eq (by omega)
  · have nothing : rgdParseLaneInformationValue val (maxLaneGuidance - stored.length) = [] := by
      by_cases empty : val.length = 0
      · rw [List.eq_nil_of_length_eq_zero empty]
        rfl
      · exact List.eq_nil_of_length_eq_zero (by omega)
    rw [if_neg reads, nothing, List.append_nil]

theorem checkedLaneGuidanceTlv_eq {lane : RgdLaneGuidance} (fits : LaneGuidanceFits lane)
    (id : Nat) (val : List UInt8) :
    checkedLaneGuidanceTlv lane id val = some (laneGuidanceTlv lane ⟨id, val⟩) := by
  unfold checkedLaneGuidanceTlv
  split
  · rw [checkedPairs_eq _ _ fits.componentIds, List.map_id']
    change (checkedOddByte val _).bind _ = _
    rw [checkedOddByte_eq]
    rfl
  · change _ = some
      { lane with laneGuidanceIndex := whenLong 1 val readBe16 lane.laneGuidanceIndex }
    by_cases two : 2 ≤ val.length
    · rw [if_pos two, readBe16At?_eq two]
      rw [whenLong, if_pos (Nat.le_of_lt two)]
      rfl
    · rw [if_neg two]
      by_cases one : 1 ≤ val.length
      · have whole : val.take 1 = val.take 2 := by
          rw [List.take_of_length_le (by omega), List.take_of_length_le (by omega)]
        rw [if_pos one, byteAt?_eq one, whenLong, if_pos one, List.drop_zero, readByte, readBe16,
          whole]
        rfl
      · rw [if_neg one, whenLong, if_neg one]
  · rw [checkedLaneInformations_eq val fits.lanes]
    rfl
  · rw [copyString?_eq (by decide)]
    rfl
  · unfold laneGuidanceTlv
    dsimp only
    split <;> first | contradiction | rfl

theorem checkedParseLaneGuidance_eq (buf : List UInt8) :
    checkedParseLaneGuidance buf = some (rgdParseLaneGuidance buf) := by
  unfold checkedParseLaneGuidance
  split
  · rename_i short
    rw [rgdParseLaneGuidance, frameTlvs, List.drop_eq_nil_of_le (by omega)]
    rfl
  · exact (checkedFrame_eq (fun lane id val fits => checkedLaneGuidanceTlv_eq fits id val)
      (fun _ tlv fits => laneGuidanceTlv_fits fits tlv) buf
      ⟨Nat.zero_le _, Nat.zero_le _⟩).1

end CarplayRgi
