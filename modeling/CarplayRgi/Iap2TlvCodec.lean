import CarplayRgi.Iap2Protocol

/-!
# The item codec of iAP2

Items that have been built are yielded again in their order, alone or inside a
frame that is found in a longer buffer.  On any other bytes the iterator stops
before the first malformed item, and the values that it has yielded lie in the
buffer.
-/

namespace CarplayRgi

namespace Iap2

theorem readBe16_writeBe16 (value : Nat) (rest : List UInt8) :
    readBe16 (writeBe16 value ++ rest) = value % 65536 := by
  have high : (UInt8.ofNat (value / 256)).toNat = value / 256 % 256 := by simp
  have low : (UInt8.ofNat value).toNat = value % 256 := by simp
  simp only [readBe16, readBe, writeBe16, List.cons_append, List.nil_append, List.take_succ_cons,
    List.take_zero, List.foldl_cons, List.foldl_nil, high, low]
  omega

@[simp]
theorem length_writeBe16 (value : Nat) : (writeBe16 value).length = 2 := rfl

variable {data : List UInt8} {off : Nat}

/-- There is an item at the offset that ends in the buffer. -/
def ItemAt (data : List UInt8) (off : Nat) : Prop :=
  off + 4 ≤ data.length ∧ 4 ≤ readBe16 (data.drop off) ∧
    off + readBe16 (data.drop off) ≤ data.length

theorem iap2TlvIterNext_item (item : ItemAt data off) :
    iap2TlvIterNext ⟨data, off⟩ =
      some (.atOffset data off, ⟨data, off + readBe16 (data.drop off)⟩) := by
  obtain ⟨header, long, inside⟩ := item
  unfold iap2TlvIterNext iap2ParseTlv
  dsimp only
  rw [if_neg (by omega), if_neg (by omega), if_neg (by omega)]
  rfl

theorem iap2TlvIterNext_none (malformed : ¬ItemAt data off) :
    iap2TlvIterNext ⟨data, off⟩ = none := by
  unfold ItemAt at malformed
  unfold iap2TlvIterNext iap2ParseTlv
  dsimp only
  split_ifs with short few bad
  · rfl
  · rfl
  · rfl
  · exact absurd ⟨by omega, by omega, by omega⟩ malformed

theorem inside_atOffset (item : ItemAt data off) : (Iap2Tlv.atOffset data off).Inside data := by
  obtain ⟨-, long, inside⟩ := item
  unfold Iap2Tlv.Inside Iap2Tlv.atOffset
  dsimp only
  split_ifs with hasValue
  · rintro start ⟨⟩
    omega
  · rintro start ⟨⟩

theorem read_atOffset (data : List UInt8) (off : Nat) :
    (Iap2Tlv.atOffset data off).read data =
      ⟨readBe16 (data.drop (off + 2)),
        ((data.drop off).take (readBe16 (data.drop off))).drop 4⟩ := by
  have value : (Iap2Tlv.atOffset data off).bytes data =
      ((data.drop off).take (readBe16 (data.drop off))).drop 4 := by
    rw [List.drop_take, List.drop_drop]
    unfold Iap2Tlv.bytes Iap2Tlv.atOffset
    dsimp only
    split_ifs with hasValue
    · rfl
    · rw [Nat.sub_eq_zero_of_le (Nat.le_of_not_lt hasValue)]
      rfl
  rw [Iap2Tlv.read, value]
  rfl

theorem tlvsWithin_eq_tlvs {fuel : Nat} {bytes : List UInt8} (enough : bytes.length ≤ fuel) :
    tlvsWithin fuel bytes = tlvs bytes := by
  unfold tlvs
  induction fuel using Nat.strongRecOn generalizing bytes with
  | ind fuel ih =>
      cases fuel with
      | zero =>
          rw [Nat.le_zero.mp enough]
      | succ fuel =>
          cases bytes with
          | nil => rfl
          | cons byte bytes =>
              rw [List.length_cons, tlvsWithin, tlvsWithin]
              split_ifs with malformed
              · rfl
              · have shorter : ((byte :: bytes).drop (readBe16 (byte :: bytes))).length ≤
                    bytes.length := by
                  rw [List.length_drop, List.length_cons]
                  omega
                rw [List.length_cons] at enough
                rw [ih fuel (Nat.lt_succ_self fuel) (by omega),
                  ih bytes.length (by omega) shorter]

theorem tlvs_item (item : ItemAt data off) :
    tlvs (data.drop off) =
      (Iap2Tlv.atOffset data off).read data ::
        tlvs (data.drop (off + readBe16 (data.drop off))) := by
  obtain ⟨header, long, inside⟩ := item
  have positive : (data.drop off).length = (data.drop off).length - 1 + 1 := by
    rw [List.length_drop]
    omega
  rw [read_atOffset, tlvs, positive, tlvsWithin]
  rw [if_neg (by rw [List.length_drop]; omega), List.drop_drop, List.drop_drop,
    tlvsWithin_eq_tlvs (by rw [List.length_drop, List.length_drop]; omega)]

theorem tlvs_malformed (malformed : ¬ItemAt data off) : tlvs (data.drop off) = [] := by
  unfold ItemAt at malformed
  rw [tlvs]
  cases length : (data.drop off).length with
  | zero => rfl
  | succ fuel =>
      rw [List.length_drop] at length
      rw [tlvsWithin]
      rw [if_pos (by rw [List.length_drop]; omega)]

/-- The iterator stops on every bytes, and what it yields lies in them. -/
theorem exists_iterates (data : List UInt8) (off : Nat) :
    ∃ yielded, Iterates ⟨data, off⟩ yielded ∧
      yielded.map (Iap2Tlv.read data) = tlvs (data.drop off) ∧
      ∀ tlv ∈ yielded, tlv.Inside data := by
  induction size : data.length - off using Nat.strongRecOn generalizing off with
  | ind left ih =>
      by_cases item : ItemAt data off
      · have shorter : data.length - (off + readBe16 (data.drop off)) < left := by
          obtain ⟨header, long, -⟩ := item
          omega
        obtain ⟨yielded, iterates, reads, inside⟩ := ih _ shorter _ rfl
        refine ⟨.atOffset data off :: yielded, .yields (iap2TlvIterNext_item item) iterates, ?_, ?_⟩
        · rw [List.map_cons, reads, tlvs_item item]
        · exact List.forall_mem_cons.mpr ⟨inside_atOffset item, inside⟩
      · refine ⟨[], .ends (iap2TlvIterNext_none item), (tlvs_malformed item).symm, ?_⟩
        exact List.forall_mem_nil _

theorem Iterates.unique {iter : Iap2TlvIter} {first second : List Iap2Tlv}
    (firstIterates : Iterates iter first) (secondIterates : Iterates iter second) :
    first = second := by
  induction firstIterates generalizing second with
  | ends ended =>
      cases secondIterates with
      | ends _ => rfl
      | yields next _ => rw [ended] at next; cases next
  | yields next _ ih =>
      cases secondIterates with
      | ends ended => rw [ended] at next; cases next
      | yields otherNext rest =>
          obtain ⟨rfl, rfl⟩ := Prod.mk.inj (Option.some.inj (next.symm.trans otherNext))
          rw [ih rest]

/-- A pair that fits an item. -/
structure TlvPair where
  id : Nat
  value : List UInt8
  id_lt : id < 65536
  short : value.length ≤ 65531

namespace TlvPair

def tlv (pair : TlvPair) : Tlv := ⟨pair.id, pair.value⟩

/-- What `iap2_build_tlv` writes into a buffer with just enough room. -/
def encoding (pair : TlvPair) : List UInt8 :=
  (iap2BuildTlv (4 + pair.value.length) pair.id pair.value).getD []

theorem encoding_eq (pair : TlvPair) :
    pair.encoding = writeBe16 (4 + pair.value.length) ++ (writeBe16 pair.id ++ pair.value) := by
  unfold encoding iap2BuildTlv
  rw [if_neg (Nat.lt_irrefl _), Option.getD_some]

/-- More room does not change what is written. -/
theorem iap2BuildTlv_pair (pair : TlvPair) {outMax : Nat}
    (room : 4 + pair.value.length ≤ outMax) :
    iap2BuildTlv outMax pair.id pair.value = some pair.encoding := by
  rw [encoding_eq]
  unfold iap2BuildTlv
  rw [if_neg (Nat.not_lt.mpr room)]

@[simp]
theorem length_encoding (pair : TlvPair) : pair.encoding.length = 4 + pair.value.length := by
  rw [encoding_eq]
  simp only [List.length_append, length_writeBe16]
  omega

end TlvPair

def encodings (pairs : List TlvPair) : List UInt8 := pairs.flatMap TlvPair.encoding

section Encoded

variable {bytes rest : List UInt8} {pair : TlvPair}

theorem itemLen_encoding (starts : data.drop off = pair.encoding ++ rest) :
    readBe16 (data.drop off) = 4 + pair.value.length := by
  have short := pair.short
  rw [starts, pair.encoding_eq, List.append_assoc, readBe16_writeBe16]
  omega

theorem itemAt_encoding (starts : data.drop off = pair.encoding ++ rest) : ItemAt data off := by
  have length := congrArg List.length starts
  rw [List.length_drop, List.length_append, pair.length_encoding] at length
  unfold ItemAt
  rw [itemLen_encoding starts]
  omega

theorem itemId_encoding (starts : data.drop off = pair.encoding ++ rest) :
    readBe16 (data.drop (off + 2)) = pair.id := by
  have afterLen : (pair.encoding ++ rest).drop 2 = writeBe16 pair.id ++ (pair.value ++ rest) := by
    rw [pair.encoding_eq]
    simp [writeBe16]
  rw [← List.drop_drop, starts, afterLen, readBe16_writeBe16, Nat.mod_eq_of_lt pair.id_lt]

theorem read_encoding (starts : data.drop off = pair.encoding ++ rest) :
    (Iap2Tlv.atOffset data off).read data = pair.tlv := by
  have value : ((data.drop off).take (readBe16 (data.drop off))).drop 4 = pair.value := by
    rw [itemLen_encoding starts, starts, ← pair.length_encoding, List.take_left, pair.encoding_eq]
    simp [writeBe16]
  rw [read_atOffset, itemId_encoding starts, value]
  rfl

theorem rest_encoding (starts : data.drop off = pair.encoding ++ rest) :
    data.drop (off + readBe16 (data.drop off)) = rest := by
  rw [itemLen_encoding starts, ← List.drop_drop, starts, ← pair.length_encoding, List.drop_left]

end Encoded

theorem encodings_cons (pair : TlvPair) (pairs : List TlvPair) :
    encodings (pair :: pairs) = pair.encoding ++ encodings pairs :=
  List.flatMap_cons

theorem tlvs_encodings (pairs : List TlvPair) :
    tlvs (encodings pairs) = pairs.map TlvPair.tlv := by
  induction pairs with
  | nil => rfl
  | cons pair pairs ih =>
      have starts : (encodings (pair :: pairs)).drop 0 = pair.encoding ++ encodings pairs :=
        encodings_cons pair pairs
      have first := tlvs_item (itemAt_encoding starts)
      rw [read_encoding starts, rest_encoding starts, ih, List.drop_zero] at first
      exact first

theorem findTlvFrom_item (item : ItemAt data off) (tlvId fuel : Nat) :
    findTlvFrom data tlvId (fuel + 1) off =
      if readBe16 (data.drop (off + 2)) = tlvId then some off
      else findTlvFrom data tlvId fuel (off + readBe16 (data.drop off)) := by
  obtain ⟨header, long, inside⟩ := item
  rw [findTlvFrom, if_neg (by omega)]
  dsimp only
  rw [if_neg (by omega)]

/-- Pairs with other ids are passed. -/
theorem findTlvFrom_pass {tlvId : Nat} {earlier : List TlvPair} {rest : List UInt8}
    (others : ∀ pair ∈ earlier, pair.id ≠ tlvId) {fuel : Nat}
    (starts : data.drop off = encodings earlier ++ rest) :
    findTlvFrom data tlvId (earlier.length + fuel) off =
      findTlvFrom data tlvId fuel (off + (encodings earlier).length) := by
  induction earlier generalizing off with
  | nil => rw [List.length_nil, Nat.zero_add]; rfl
  | cons pair earlier ih =>
      rw [encodings_cons, List.append_assoc] at starts
      have laterOthers : ∀ later ∈ earlier, later.id ≠ tlvId := fun later member =>
        others later (List.mem_cons_of_mem pair member)
      rw [List.length_cons, Nat.add_right_comm, findTlvFrom_item (itemAt_encoding starts),
        itemId_encoding starts, if_neg (others pair List.mem_cons_self),
        ih laterOthers (rest_encoding starts), itemLen_encoding starts, encodings_cons,
        List.length_append, pair.length_encoding, Nat.add_assoc]

theorem length_le_length_encodings (pairs : List TlvPair) :
    pairs.length ≤ (encodings pairs).length := by
  induction pairs with
  | nil => exact Nat.le_refl 0
  | cons pair pairs ih =>
      rw [encodings_cons, List.length_append, List.length_cons, pair.length_encoding]
      omega

theorem findTlvFrom_found {earlier later : List TlvPair} {pair : TlvPair}
    (others : ∀ other ∈ earlier, other.id ≠ pair.id) :
    findTlvFrom (encodings (earlier ++ pair :: later)) pair.id
      (encodings (earlier ++ pair :: later)).length 0 = some (encodings earlier).length := by
  have split : encodings (earlier ++ pair :: later) =
      encodings earlier ++ (pair.encoding ++ encodings later) := by
    unfold encodings
    rw [List.flatMap_append, List.flatMap_cons]
  have positive := pair.length_encoding
  obtain ⟨fuel, fuelEq⟩ : ∃ fuel, (encodings (earlier ++ pair :: later)).length =
      earlier.length + (fuel + 1) := by
    refine ⟨(encodings (earlier ++ pair :: later)).length - earlier.length - 1, ?_⟩
    have passed := length_le_length_encodings earlier
    rw [split, List.length_append, List.length_append]
    omega
  have starts : (encodings (earlier ++ pair :: later)).drop (encodings earlier).length =
      pair.encoding ++ encodings later := by
    rw [split, List.drop_left]
  have whole : (encodings (earlier ++ pair :: later)).drop 0 =
      encodings earlier ++ (pair.encoding ++ encodings later) := split
  rw [fuelEq, findTlvFrom_pass others whole, Nat.zero_add,
    findTlvFrom_item (itemAt_encoding starts), itemId_encoding starts, if_pos rfl]

theorem findTlvFrom_missing {tlvId : Nat} {pairs : List TlvPair}
    (others : ∀ pair ∈ pairs, pair.id ≠ tlvId) :
    findTlvFrom (encodings pairs) tlvId (encodings pairs).length 0 = none := by
  obtain ⟨fuel, fuelEq⟩ := Nat.exists_eq_add_of_le (length_le_length_encodings pairs)
  have starts : (encodings pairs).drop 0 = encodings pairs ++ [] := (List.append_nil _).symm
  rw [fuelEq, findTlvFrom_pass others starts, Nat.zero_add]
  cases fuel with
  | zero => rfl
  | succ fuel => rw [findTlvFrom, if_pos (by omega)]

/-- The iterator yields the pairs and ends, and a search finds the first pair
with an id, if there is one. -/
structure Carries (iter : Iap2TlvIter) (pairs : List TlvPair) : Prop where
  iterates : ∃ yielded, Iterates iter yielded ∧
    yielded.map (Iap2Tlv.read iter.data) = pairs.map TlvPair.tlv
  finds : ∀ earlier pair later, pairs = earlier ++ pair :: later →
    (∀ other ∈ earlier, other.id ≠ pair.id) →
      (iap2FindTlv iter.data pair.id).map (Iap2Tlv.read iter.data) = some pair.tlv ∧
        iap2FindTlvOffset iter.data pair.id =
          ((encodings earlier).length, some pair.encoding.length)
  misses : ∀ tlvId, iap2FindTlv iter.data tlvId = none ↔ ∀ pair ∈ pairs, pair.id ≠ tlvId
  leaves : ∀ tlvId, (iap2FindTlvOffset iter.data tlvId).2 = none ↔
    ∀ pair ∈ pairs, pair.id ≠ tlvId

theorem exists_first {pairs : List TlvPair} {tlvId : Nat}
    (present : ¬∀ pair ∈ pairs, pair.id ≠ tlvId) :
    ∃ earlier pair later, pairs = earlier ++ pair :: later ∧ pair.id = tlvId ∧
      ∀ other ∈ earlier, other.id ≠ tlvId := by
  have found : (pairs.find? fun pair => decide (pair.id = tlvId)).isSome := by
    rw [List.find?_isSome]
    simpa using present
  obtain ⟨pair, isFirst⟩ := Option.isSome_iff_exists.mp found
  obtain ⟨hasId, earlier, later, split, others⟩ := List.find?_eq_some_iff_append.mp isFirst
  exact ⟨earlier, pair, later, split, of_decide_eq_true hasId,
    fun other member => by simpa using others other member⟩

theorem four_le_length_encodings {earlier later : List TlvPair} (pair : TlvPair) :
    4 ≤ (encodings (earlier ++ pair :: later)).length := by
  unfold encodings
  rw [List.flatMap_append, List.flatMap_cons, List.length_append, List.length_append,
    pair.length_encoding]
  omega

theorem carries_encodings (pairs : List TlvPair) : Carries ⟨encodings pairs, 0⟩ pairs := by
  have finds (earlier : List TlvPair) (pair : TlvPair) (later : List TlvPair)
      (split : pairs = earlier ++ pair :: later)
      (others : ∀ other ∈ earlier, other.id ≠ pair.id) :
      (iap2FindTlv (encodings pairs) pair.id).map (Iap2Tlv.read (encodings pairs)) =
          some pair.tlv ∧
        iap2FindTlvOffset (encodings pairs) pair.id =
          ((encodings earlier).length, some pair.encoding.length) := by
    have starts : (encodings (earlier ++ pair :: later)).drop (encodings earlier).length =
        pair.encoding ++ encodings later := by
      unfold encodings
      rw [List.flatMap_append, List.flatMap_cons, List.drop_left]
    have long : ¬(encodings (earlier ++ pair :: later)).length < 4 :=
      Nat.not_lt.mpr (four_le_length_encodings pair)
    subst split
    unfold iap2FindTlv iap2FindTlvOffset
    rw [if_neg long, if_neg long, findTlvFrom_found others, Option.map_some, Option.map_some,
      read_encoding starts]
    dsimp only
    rw [itemLen_encoding starts, pair.length_encoding]
    exact ⟨rfl, rfl⟩
  have misses (tlvId : Nat) (others : ∀ pair ∈ pairs, pair.id ≠ tlvId) :
      iap2FindTlv (encodings pairs) tlvId = none ∧
        iap2FindTlvOffset (encodings pairs) tlvId = (0, none) := by
    unfold iap2FindTlv iap2FindTlvOffset
    rw [findTlvFrom_missing others, Option.map_none, ite_self, ite_self]
    exact ⟨rfl, rfl⟩
  obtain ⟨yielded, iterates, reads, -⟩ := exists_iterates (encodings pairs) 0
  rw [List.drop_zero, tlvs_encodings] at reads
  refine ⟨⟨yielded, iterates, reads⟩, finds, fun tlvId => ?_, fun tlvId => ?_⟩
  · refine ⟨fun missing => ?_, fun others => (misses tlvId others).1⟩
    by_contra present
    obtain ⟨earlier, pair, later, split, rfl, others⟩ := exists_first present
    have found := (finds earlier pair later split others).1
    rw [missing] at found
    cases found
  · refine ⟨fun untouched => ?_, fun others => congrArg Prod.snd (misses tlvId others).2⟩
    by_contra present
    obtain ⟨earlier, pair, later, split, rfl, others⟩ := exists_first present
    have found := (finds earlier pair later split others).2
    rw [found] at untouched
    cases untouched

variable {payload frame before after : List UInt8} {outMax msgid : Nat}

theorem iap2BuildFrame_eq (built : iap2BuildFrame outMax msgid payload = some frame) :
    frame = [0x40, 0x40] ++ (writeBe16 (6 + payload.length) ++ (writeBe16 msgid ++ payload)) := by
  unfold iap2BuildFrame at built
  split_ifs at built
  exact (Option.some.inj built).symm

theorem length_of_built (built : iap2BuildFrame outMax msgid payload = some frame) :
    frame.length = 6 + payload.length := by
  rw [iap2BuildFrame_eq built]
  simp only [List.length_append, length_writeBe16, List.length_cons, List.length_nil]
  omega

theorem drop_buffer (count : Nat) (small : count ≤ frame.length) :
    (before ++ (frame ++ after)).drop (before.length + count) = frame.drop count ++ after := by
  rw [← List.drop_drop, List.drop_left, List.drop_append_of_le_length small]

theorem flen_of_built (built : iap2BuildFrame outMax msgid payload = some frame)
    (fits : 6 + payload.length ≤ 65535) :
    readBe16 ((before ++ (frame ++ after)).drop (before.length + 2)) = 6 + payload.length := by
  have length := length_of_built built
  rw [drop_buffer 2 (by omega), iap2BuildFrame_eq built]
  simp only [List.cons_append, List.nil_append, List.drop_succ_cons, List.drop_zero,
    List.append_assoc]
  rw [readBe16_writeBe16]
  omega

theorem msgid_of_built (built : iap2BuildFrame outMax msgid payload = some frame)
    (small : msgid < 65536) :
    readBe16 ((before ++ (frame ++ after)).drop (before.length + 4)) = msgid := by
  have length := length_of_built built
  rw [drop_buffer 4 (by omega), iap2BuildFrame_eq built]
  simp only [writeBe16, List.cons_append, List.nil_append, List.drop_succ_cons, List.drop_zero]
  exact (readBe16_writeBe16 msgid _).trans (Nat.mod_eq_of_lt small)

/-- A built frame is found where no earlier offset passes the tests. -/
theorem iap2FindFrame_of_built (built : iap2BuildFrame outMax msgid payload = some frame)
    (fits : 6 + payload.length ≤ 65535) (small : msgid < 65536)
    (noEarlier : ∀ i < before.length, framePasses (before ++ (frame ++ after)) i = false) :
    iap2FindFrame (before ++ (frame ++ after)) =
      some
        { offset := before.length
          frameLen := 6 + payload.length
          msgid := msgid
          payload := if payload = [] then none else some (before.length + 6)
          payloadLen := payload.length } := by
  have length := length_of_built built
  have whole : (before ++ (frame ++ after)).length =
      before.length + (6 + payload.length) + after.length := by
    rw [List.length_append, List.length_append, length]
    omega
  have first : (before ++ (frame ++ after))[before.length]? = some 0x40 := by
    rw [List.getElem?_append_right (Nat.le_refl _), Nat.sub_self, iap2BuildFrame_eq built]
    rfl
  have second : (before ++ (frame ++ after))[before.length + 1]? = some 0x40 := by
    rw [List.getElem?_append_right (Nat.le_add_right _ 1), Nat.add_sub_cancel_left,
      iap2BuildFrame_eq built]
    rfl
  have passes : framePasses (before ++ (frame ++ after)) before.length = true := by
    unfold framePasses
    dsimp only
    rw [flen_of_built built fits, first, second]
    simp only [decide_true, Bool.true_and, Bool.and_eq_true, decide_eq_true_eq]
    omega
  have found : (List.range ((before ++ (frame ++ after)).length - 5)).find?
      (framePasses (before ++ (frame ++ after))) = some before.length := by
    rw [List.find?_range_eq_some]
    refine ⟨passes, List.mem_range.mpr (by omega), fun i earlier => ?_⟩
    rw [noEarlier i earlier]
    rfl
  unfold iap2FindFrame iap2FindFrameAt
  rw [if_neg (by omega), List.drop_zero, found, Option.map_some]
  unfold frameAt
  rw [flen_of_built built fits, msgid_of_built built small]
  cases payload with
  | nil => rfl
  | cons byte payload => simp

theorem drop_header_of_built (built : iap2BuildFrame outMax msgid payload = some frame) :
    frame.drop 6 = payload := by
  rw [iap2BuildFrame_eq built]
  rfl

theorem payloadBytes_of_built (built : iap2BuildFrame outMax msgid payload = some frame) :
    Iap2Frame.payloadBytes (before ++ (frame ++ after))
      { offset := before.length
        frameLen := 6 + payload.length
        msgid := msgid
        payload := if payload = [] then none else some (before.length + 6)
        payloadLen := payload.length } = payload := by
  have length := length_of_built built
  unfold Iap2Frame.payloadBytes
  dsimp only
  by_cases empty : payload = []
  · rw [if_pos empty, empty]
  · rw [if_neg empty]
    dsimp only
    rw [drop_buffer 6 (by omega), drop_header_of_built built, List.take_left]

theorem iap2TlvIterInit_of_built (built : iap2BuildFrame outMax msgid payload = some frame) :
    iap2TlvIterInit frame = ⟨payload, 0⟩ := by
  have length := length_of_built built
  unfold iap2TlvIterInit
  split_ifs with long
  · rw [drop_header_of_built built]
  · rw [List.eq_nil_of_length_eq_zero (show payload.length = 0 by omega)]

/-- The builder succeeds in a buffer with enough room. -/
theorem exists_built (msgid : Nat) (room : 6 + payload.length ≤ outMax) :
    ∃ frame, iap2BuildFrame outMax msgid payload = some frame :=
  ⟨_, if_neg (Nat.not_lt.mpr room)⟩

/-- The items of a list are read back, alone or inside a frame, and on any
bytes the iterator stops and yields values inside of them only. -/
theorem tlv_codec (pairs : List TlvPair) :
    (∀ pair ∈ pairs, ∀ outMax, 4 + pair.value.length ≤ outMax →
      iap2BuildTlv outMax pair.id pair.value = some pair.encoding) ∧
    Carries ⟨encodings pairs, 0⟩ pairs ∧
    (∀ outMax msgid, msgid < 65536 → 6 + (encodings pairs).length ≤ 65535 →
      6 + (encodings pairs).length ≤ outMax →
        ∃ frame, iap2BuildFrame outMax msgid (encodings pairs) = some frame ∧
          frame.length = 6 + (encodings pairs).length ∧
          ∀ before after,
            (∀ i < before.length, framePasses (before ++ (frame ++ after)) i = false) →
              ∃ found, iap2FindFrame (before ++ (frame ++ after)) = some found ∧
                found.offset = before.length ∧ found.msgid = msgid ∧
                found.bytes (before ++ (frame ++ after)) = frame ∧
                Carries (iap2TlvIterInit (found.bytes (before ++ (frame ++ after)))) pairs ∧
                Carries ⟨found.payloadBytes (before ++ (frame ++ after)), 0⟩ pairs) ∧
    ∀ data, ∃ yielded, Iterates ⟨data, 0⟩ yielded ∧
      yielded.map (Iap2Tlv.read data) = tlvs data ∧ ∀ tlv ∈ yielded, tlv.Inside data := by
  refine ⟨fun pair _ outMax room => pair.iap2BuildTlv_pair room, carries_encodings pairs, ?_,
    fun data => exists_iterates data 0⟩
  intro outMax msgid small fits room
  obtain ⟨frame, built⟩ := exists_built msgid room
  refine ⟨frame, built, length_of_built built, fun before after noEarlier => ?_⟩
  have isFrame : ((before ++ (frame ++ after)).drop before.length).take
      (6 + (encodings pairs).length) = frame := by
    rw [List.drop_left, ← length_of_built built, List.take_left]
  refine ⟨_, iap2FindFrame_of_built built fits small noEarlier, rfl, rfl, isFrame, ?_, ?_⟩
  · unfold Iap2Frame.bytes
    dsimp only
    rw [isFrame, iap2TlvIterInit_of_built built]
    exact carries_encodings pairs
  · rw [payloadBytes_of_built built]
    exact carries_encodings pairs

/-- Two pairs of different length. -/
def codecPairs : List TlvPair :=
  [⟨17, [7, 8], by decide, by decide⟩, ⟨18, [9], by decide, by decide⟩]

/-- They are read back from a frame behind another sync byte. -/
theorem tlv_codec_framed : ∃ frame found,
    iap2BuildFrame 64 0x5200 (encodings codecPairs) = some frame ∧
      iap2FindFrame ([0x40] ++ (frame ++ [0])) = some found ∧ found.offset = 1 ∧
      found.msgid = 0x5200 ∧
      Carries (iap2TlvIterInit (found.bytes ([0x40] ++ (frame ++ [0])))) codecPairs := by
  obtain ⟨frame, built, -, reads⟩ := (tlv_codec codecPairs).2.2.1 64 0x5200 (by decide) (by decide)
    (by decide)
  have bytes : iap2BuildFrame 64 0x5200 (encodings codecPairs) =
      some [0x40, 0x40, 0, 17, 0x52, 0, 0, 6, 0, 17, 7, 8, 0, 5, 0, 18, 9] := by decide
  obtain rfl := Option.some.inj (built.symm.trans bytes)
  obtain ⟨found, isFound, offset, msgid, -, carries, -⟩ := reads [0x40] [0] (by decide)
  exact ⟨_, found, built, isFound, offset, msgid, carries⟩

end Iap2

end CarplayRgi
