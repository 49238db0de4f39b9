import CarplayRgi.CoverartWorker
import Mathlib.Data.List.Chain

/-!
# What the worker of the cover art publishes

In every order of the steps, whoever opens the published file finds the picture
of an image that has been saved, or what an earlier process has left.  The
checksums are announced in the order in which the pictures have been published,
and never twice in a row.  When nothing stands in the way of the worker and it
has nothing to do, the checksum is that of the last image that has been handed
over.
-/

namespace CarplayRgi

namespace Coverart

/-- The image could be the published one: it is a JPEG or a PNG of a usable
size, and can be decoded. -/
structure Acceptable (codec : Codec) (data : List UInt8) (image : DecodedImage) : Prop where
  size : coverartMinBytes ≤ data.length ∧ data.length ≤ coverartMaxBytes
  signature : (isJpeg data || isPng data) = true
  load : codec.load data = some image
  wide : image.width ≠ 0
  high : image.height ≠ 0

/-- What zlib and the decoder promise: an image has three bytes for each of its
pixels. -/
structure Codec.Documented (codec : Codec) : Prop where
  zlib : codec.zlib.Documented
  whole : ∀ data image, codec.load data = some image →
    image.rgb.length = image.height * (image.width * 3)

/-- The image is small enough for the `int`s of the resizing. -/
def DecodedImage.Small (image : DecodedImage) : Prop :=
  Counted image.width image.height outputWidth outputHeight

/-- The file is read as the image, fitted into the square.  It may be black
instead, unless there has been memory for every fitted image. -/
def IsPictureOf (codec : Codec) (memory : Bool) (data png : List UInt8) : Prop :=
  ∃ image rgb, Acceptable codec data image ∧ image.Small ∧
    readPng codec.zlib png = some ⟨outputWidth, outputHeight, rgb⟩ ∧
    (ShowsFitted rgb image.rgb image.width image.height outputWidth outputHeight
        (codec.rounded image.width image.height)
        (decide (ExifOrientation.getJpegOrientation? data = some 4)) ∨
      memory = false ∧ rgb = List.replicate (outputWidth * outputHeight * 3) 0)

theorem isPictureOf_encodeArtwork {codec : Codec} (documented : codec.Documented) {memory : Bool}
    {answers : SaveAnswers} (fitted : memory = true → answers.fitted = true)
    {data png : List UInt8} {image : DecodedImage} (acceptable : Acceptable codec data image)
    (small : image.Small) (encoded : encodeArtwork codec answers data image = some png) :
    IsPictureOf codec memory data png := by
  unfold encodeArtwork at encoded
  dsimp only at encoded
  split_ifs at encoded with noMemory
  have read := readPng_buildPng documented.zlib (by decide)
    (by rw [length_resizeRgbContain _ _ _ (by decide) (by decide), Nat.mul_assoc]) encoded
  refine ⟨image, _, acceptable, small, read, ?_⟩
  cases inMemory : answers.fitted with
  | true =>
      have decoded : Decoded image.rgb image.width image.height :=
        ⟨documented.whole data image acceptable.load, Nat.pos_of_ne_zero acceptable.wide,
          Nat.pos_of_ne_zero acceptable.high⟩
      exact .inl fun x y c column row channel =>
        getElem?_resizeRgbContain decoded small _ _ column row channel
  | false =>
      refine .inr ⟨?_, rfl⟩
      rw [← Bool.not_eq_true]
      intro always
      rw [fitted always] at inMemory
      cases inMemory

/-- Handling an image leaves everything as it is, or writes its picture. -/
theorem maybeHandleImage_cases {codec : Codec} (documented : codec.Documented) {memory : Bool}
    {answers : SaveAnswers} (fitted : memory = true → answers.fitted = true) {data : List UInt8}
    (small : ∀ image, Acceptable codec data image → image.Small) (state : CoverartModule) :
    (∃ answer, maybeHandleImage codec answers data state = ⟨state, [], none, answer⟩) ∨
      ∃ png, IsPictureOf codec memory data png ∧ crc32Bytes data ≠ state.lastCrc ∧
        maybeHandleImage codec answers data state = writeArtwork answers data png state := by
  unfold maybeHandleImage saveArtwork
  by_cases size : data.length < coverartMinBytes ∨ coverartMaxBytes < data.length
  · rw [if_pos size]
    exact .inl ⟨_, rfl⟩
  rw [if_neg size, if_neg size]
  by_cases signature : (isJpeg data || isPng data) = true
  · rw [if_pos signature]
    by_cases known : crc32Bytes data = state.lastCrc
    · rw [if_pos known]
      exact .inl ⟨_, rfl⟩
    rw [if_neg known]
    cases loaded : codec.load data with
    | none => exact .inl ⟨_, rfl⟩
    | some image =>
        dsimp only
        by_cases empty : image.width = 0 ∨ image.height = 0
        · rw [if_pos empty]
          exact .inl ⟨_, rfl⟩
        rw [if_neg empty]
        rw [not_or] at size empty
        have acceptable : Acceptable codec data image :=
          ⟨⟨Nat.not_lt.mp size.1, Nat.not_lt.mp size.2⟩, signature, loaded, empty.1, empty.2⟩
        cases encoded : encodeArtwork codec answers data image with
        | none => exact .inl ⟨_, rfl⟩
        | some png =>
            exact .inr ⟨png, isPictureOf_encodeArtwork documented fitted acceptable
              (small image acceptable) encoded, known, rfl⟩
  · rw [if_neg signature]
    exact .inl ⟨_, rfl⟩

/-- A call that loses nothing when it closes its file. -/
def Answers.Keeps (answers : Answers) : Prop := answers.keptAtClose = none

theorem kept_of_keeps {png : List UInt8} {answers : Answers} {dir : Directory}
    (keeps : answers.Keeps) (success : succeeds png answers dir = true) :
    kept png answers = png := by
  simp only [succeeds, Bool.and_eq_true, decide_eq_true_eq] at success
  have whole : stored png answers = png := by
    rw [stored, success.1.1.1.2, Option.getD_some, List.take_length]
  rw [kept, keeps, Option.getD_none, whole, List.take_length]

/-- What a write does to the module, with the link of the published file not on
the file that is written to. -/
structure Written (data png : List UInt8) (state : CoverartModule) (outcome : SaveOutcome) :
    Prop where
  free : outcome.state.dir.link ≠ some outcome.state.slot.other
  passed : ∀ moment ∈ outcome.moments, moment.published = state.dir.published ∨
    outcome.saved = some ⟨data, png⟩ ∧ moment.published = some png
  state : (outcome.saved = none ∧ outcome.state.lastCrc = state.lastCrc ∧
      outcome.state.imagesFound = state.imagesFound ∧
      outcome.state.dir.published = state.dir.published) ∨
    (outcome.saved = some ⟨data, png⟩ ∧ outcome.state.lastCrc = crc32Bytes data ∧
      outcome.state.imagesFound = state.imagesFound + 1 ∧
      outcome.state.dir.published = some png)

theorem written_writeArtwork {answers : SaveAnswers} (keeps : answers.write.Keeps)
    (data png : List UInt8) {state : CoverartModule}
    (free : state.dir.link ≠ some state.slot.other) :
    Written data png state (writeArtwork answers data png state) := by
  cases success : succeeds png answers.write state.dir with
  | false =>
      obtain ⟨failed, sameSlot, aside, moments⟩ :=
        writePngFile_failed png answers.write state.slot state.dir success
      have outcome : writeArtwork answers data png state = ⟨{ state with
          slot := (writePngFile png answers.write state.slot state.dir).slot,
          dir := (writePngFile png answers.write state.slot state.dir).dir },
          (writePngFile png answers.write state.slot state.dir).moments, none, true⟩ := by
        unfold writeArtwork
        dsimp only
        rw [if_neg (by rw [failed]; exact Bool.false_ne_true)]
      rw [outcome]
      refine ⟨?_, fun moment member => .inl ((moments moment member).published free),
        .inl ⟨rfl, rfl, rfl, aside.published free⟩⟩
      dsimp only
      rw [sameSlot, aside.link]
      exact free
  | true =>
      obtain ⟨ok, newSlot, link, published, moments⟩ :=
        writePngFile_swapped png answers.write state.slot state.dir success
      rw [kept_of_keeps keeps success] at published moments
      have outcome : writeArtwork answers data png state = ⟨⟨crc32Bytes data, state.imagesFound + 1,
          (writePngFile png answers.write state.slot state.dir).slot,
          (writePngFile png answers.write state.slot state.dir).dir⟩,
          (writePngFile png answers.write state.slot state.dir).moments, some ⟨data, png⟩, true⟩ := by
        unfold writeArtwork
        dsimp only
        rw [if_pos ok]
      rw [outcome]
      refine ⟨?_, fun moment member => ?_, .inr ⟨rfl, rfl, rfl, published⟩⟩
      · dsimp only
        rw [newSlot, link]
        intro same
        exact Slot.other_ne state.slot.other (Option.some.inj same).symm
      · rcases moments moment member with aside | isNew
        · exact .inl (aside.published free)
        · exact .inr ⟨rfl, isNew⟩

def savedIn (history : List WorkerEvent) : List SavedImage :=
  history.filterMap fun
    | .saved image => some image
    | _ => none

def announcedIn (history : List WorkerEvent) : List UInt32 :=
  history.filterMap fun
    | .announced crc => some crc
    | _ => none

theorem savedIn_append (history events : List WorkerEvent) :
    savedIn (history ++ events) = savedIn history ++ savedIn events :=
  List.filterMap_append

theorem announcedIn_append (history events : List WorkerEvent) :
    announcedIn (history ++ events) = announcedIn history ++ announcedIn events :=
  List.filterMap_append

def crcOf (image : SavedImage) : UInt32 := crc32Bytes image.data

/-- What the history of the threads says about the published picture, where
`start` is what has been published before. -/
structure Publishes (codec : Codec) (memory : Bool) (start : Option (List UInt8))
    (state : WorkerState) (history : List WorkerEvent) : Prop where
  free : state.coverart.dir.link ≠ some state.coverart.slot.other
  published : state.coverart.dir.published =
    ((savedIn history).getLast?.map SavedImage.png).or start
  passed : ∀ dir, .passed dir ∈ history → dir.published = start ∨
    ∃ image ∈ savedIn history, dir.published = some image.png
  pictures : ∀ image ∈ savedIn history, IsPictureOf codec memory image.data image.png
  lastCrc : state.coverart.lastCrc = ((savedIn history).getLast?.map crcOf).getD 0
  imagesFound : state.coverart.imagesFound = (savedIn history).length
  announced : announcedIn history ++ state.stage.unsent.toList = (savedIn history).map crcOf
  distinct : List.IsChain (· ≠ ·) (0 :: (savedIn history).map crcOf)

section Steps

variable {codec : Codec} {memory : Bool} {start : Option (List UInt8)}
  {state next : WorkerState} {history events : List WorkerEvent}

/-- Steps that neither save nor announce nor touch the directory. -/
theorem Publishes.silent (publishes : Publishes codec memory start state history)
    (sameCoverart : next.coverart = state.coverart)
    (sameUnsent : next.stage.unsent = state.stage.unsent)
    (noneSaved : savedIn events = []) (noneAnnounced : announcedIn events = [])
    (nonePassed : ∀ dir, .passed dir ∉ events) :
    Publishes codec memory start next (history ++ events) := by
  have sameSaved : savedIn (history ++ events) = savedIn history := by
    rw [savedIn_append, noneSaved, List.append_nil]
  have sameAnnounced : announcedIn (history ++ events) = announcedIn history := by
    rw [announcedIn_append, noneAnnounced, List.append_nil]
  constructor
  · rw [sameCoverart]
    exact publishes.free
  · rw [sameCoverart, sameSaved]
    exact publishes.published
  · intro dir member
    rw [sameSaved]
    rcases List.mem_append.mp member with before | new
    · exact publishes.passed dir before
    · exact absurd new (nonePassed dir)
  · rw [sameSaved]
    exact publishes.pictures
  · rw [sameCoverart, sameSaved]
    exact publishes.lastCrc
  · rw [sameCoverart, sameSaved]
    exact publishes.imagesFound
  · rw [sameAnnounced, sameUnsent, sameSaved]
    exact publishes.announced
  · rw [sameSaved]
    exact publishes.distinct

theorem Publishes.announce (publishes : Publishes codec memory start state history)
    {data : List UInt8} {crc : UInt32} (announcing : state.stage = .announcing data crc) :
    Publishes codec memory start { state with stage := .releasing data }
      (history ++ [.announced crc]) := by
  have sameSaved : savedIn (history ++ [.announced crc]) = savedIn history := by
    rw [savedIn_append]
    exact List.append_nil _
  have announced := publishes.announced
  rw [announcing] at announced
  constructor
  · exact publishes.free
  · rw [sameSaved]
    exact publishes.published
  · intro dir member
    rw [sameSaved]
    rcases List.mem_append.mp member with before | new
    · exact publishes.passed dir before
    · cases List.mem_singleton.mp new
  · rw [sameSaved]
    exact publishes.pictures
  · rw [sameSaved]
    exact publishes.lastCrc
  · rw [sameSaved]
    exact publishes.imagesFound
  · rw [announcedIn_append, sameSaved]
    exact (List.append_nil _).trans announced
  · rw [sameSaved]
    exact publishes.distinct

/-- The published picture before a step is the one of before, or a saved one. -/
theorem Publishes.published_cases (publishes : Publishes codec memory start state history) :
    state.coverart.dir.published = start ∨
      ∃ image ∈ savedIn history, state.coverart.dir.published = some image.png := by
  rw [publishes.published]
  cases last : (savedIn history).getLast? with
  | none => exact .inl rfl
  | some image => exact .inr ⟨image, List.mem_of_getLast? last, rfl⟩

theorem mem_passed {dir : Directory} {outcome : SaveOutcome}
    (member : WorkerEvent.passed dir ∈
      outcome.moments.map WorkerEvent.passed ++ outcome.saved.toList.map WorkerEvent.saved) :
    dir ∈ outcome.moments := by
  rcases List.mem_append.mp member with inMoments | inSaved
  · obtain ⟨moment, passed, same⟩ := List.mem_map.mp inMoments
    cases same
    exact passed
  · obtain ⟨image, -, same⟩ := List.mem_map.mp inSaved
    cases same

theorem savedIn_handled (outcome : SaveOutcome) :
    savedIn (outcome.moments.map WorkerEvent.passed ++
      outcome.saved.toList.map WorkerEvent.saved) = outcome.saved.toList := by
  have passed : savedIn (outcome.moments.map WorkerEvent.passed) = [] := by
    unfold savedIn
    rw [List.filterMap_eq_nil_iff]
    intro event member
    obtain ⟨dir, -, rfl⟩ := List.mem_map.mp member
    rfl
  rw [savedIn_append, passed, List.nil_append]
  cases outcome.saved with
  | none | some image => rfl

theorem announcedIn_handled (outcome : SaveOutcome) :
    announcedIn (outcome.moments.map WorkerEvent.passed ++
      outcome.saved.toList.map WorkerEvent.saved) = [] := by
  unfold announcedIn
  rw [List.filterMap_eq_nil_iff]
  intro event member
  rcases List.mem_append.mp member with inMoments | inSaved
  · obtain ⟨dir, -, rfl⟩ := List.mem_map.mp inMoments
    rfl
  · obtain ⟨image, -, rfl⟩ := List.mem_map.mp inSaved
    rfl

/-- The image is written: it is the last one that has been saved, or nothing
has been. -/
theorem Publishes.write (publishes : Publishes codec memory start state history)
    {data png : List UInt8} (holding : state.stage = .holding data) (isPicture : IsPictureOf codec memory data png)
    (isNew : crc32Bytes data ≠ state.coverart.lastCrc) {outcome : SaveOutcome}
    (written : Written data png state.coverart outcome) :
    Publishes codec memory start
      { state with
        coverart := outcome.state
        stage := match outcome.saved with
          | some image => .announcing data (crc32Bytes image.data)
          | none => .releasing data }
      (history ++ (outcome.moments.map .passed ++ outcome.saved.toList.map .saved)) := by
  have announced := publishes.announced
  rw [holding] at announced
  rcases written.state with ⟨failed, sameCrc, sameCount, samePublished⟩ |
    ⟨saved, newCrc, newCount, newPublished⟩
  · have sameSaved : savedIn (history ++ (outcome.moments.map .passed ++
        outcome.saved.toList.map .saved)) = savedIn history := by
      rw [savedIn_append, savedIn_handled, failed]
      exact List.append_nil _
    constructor
    · exact written.free
    · rw [sameSaved]
      exact samePublished.trans publishes.published
    · intro dir member
      rw [sameSaved]
      rcases List.mem_append.mp member with before | new
      · exact publishes.passed dir before
      · rcases written.passed dir (mem_passed new) with same | ⟨saved, -⟩
        · rw [same]
          exact publishes.published_cases
        · rw [failed] at saved
          cases saved
    · rw [sameSaved]
      exact publishes.pictures
    · rw [sameSaved]
      exact sameCrc.trans publishes.lastCrc
    · rw [sameSaved]
      exact sameCount.trans publishes.imagesFound
    · rw [announcedIn_append, announcedIn_handled, sameSaved, failed, List.append_nil]
      exact announced
    · rw [sameSaved]
      exact publishes.distinct
  · have nowSaved : savedIn (history ++ (outcome.moments.map .passed ++
        outcome.saved.toList.map .saved)) = savedIn history ++ [⟨data, png⟩] := by
      rw [savedIn_append, savedIn_handled, saved]
      rfl
    constructor
    · exact written.free
    · rw [nowSaved, List.getLast?_concat]
      exact newPublished
    · intro dir member
      rw [nowSaved]
      have earlier : (∃ image ∈ savedIn history, dir.published = some image.png) →
          ∃ image ∈ savedIn history ++ [⟨data, png⟩], dir.published = some image.png :=
        fun ⟨image, inHistory, same⟩ => ⟨image, List.mem_append_left _ inHistory, same⟩
      rcases List.mem_append.mp member with before | new
      · exact (publishes.passed dir before).imp_right earlier
      · rcases written.passed dir (mem_passed new) with same | ⟨-, isPng⟩
        · rw [same] at earlier ⊢
          exact publishes.published_cases.imp_right earlier
        · exact .inr ⟨_, List.mem_append_right _ List.mem_cons_self, isPng⟩
    · intro image member
      rw [nowSaved] at member
      rcases List.mem_append.mp member with before | new
      · exact publishes.pictures image before
      · rw [List.mem_singleton.mp new]
        exact isPicture
    · rw [nowSaved, List.getLast?_concat]
      exact newCrc
    · rw [nowSaved, List.length_append]
      exact newCount.trans (congrArg (· + 1) publishes.imagesFound)
    · rw [announcedIn_append, announcedIn_handled, nowSaved, saved, List.append_nil, List.map_append]
      have nothing : (WorkerStage.holding data).unsent.toList = [] := rfl
      rw [nothing, List.append_nil] at announced
      rw [announced]
      rfl
    · have lastCrc := publishes.lastCrc
      rw [nowSaved, List.map_append, ← List.cons_append]
      refine publishes.distinct.append (.singleton _) fun last isLast first isFirst => ?_
      have isData : first = crc32Bytes data := (Option.some.inj isFirst).symm
      have isCrc : last = state.coverart.lastCrc := by
        rw [List.getLast?_cons, List.getLast?_map] at isLast
        exact (Option.some.inj isLast).symm.trans lastCrc.symm
      rw [isData, isCrc]
      exact isNew.symm

/-- No call loses what it has written when it closes its file, images are small,
and there is memory for the fitted ones if `memory` says so. -/
structure Regular (codec : Codec) (memory : Bool) (state : WorkerState) (label : WorkerLabel) :
    Prop where
  closesWell : ∀ answers, label = .handle answers → answers.write.Keeps
  small : ∀ answers data image, label = .handle answers → state.stage = .holding data →
    Acceptable codec data image → image.Small
  fitted : ∀ answers, label = .handle answers → memory = true → answers.fitted = true

/-- Every step keeps what the history says. -/
theorem Publishes.step (documented : codec.Documented)
    (publishes : Publishes codec memory start state history) {label : WorkerLabel}
    (regular : Regular codec memory state label)
    (stepTo : workerStep codec state label = some (next, events)) :
    Publishes codec memory start next (history ++ events) := by
  have dropped : ∀ pending : Option (List UInt8),
      savedIn (pending.toList.map WorkerEvent.dropped) = [] ∧
        announcedIn (pending.toList.map WorkerEvent.dropped) = [] ∧
        ∀ dir, WorkerEvent.passed dir ∉ pending.toList.map WorkerEvent.dropped := by
    intro pending
    cases pending with
    | none | some data => exact ⟨rfl, rfl, fun dir => by simp⟩
  cases label with
  | enqueue data =>
      cases stepTo
      obtain ⟨noneSaved, noneAnnounced, nonePassed⟩ := dropped state.pending
      refine publishes.silent rfl rfl ?_ ?_ fun dir member => ?_
      · rw [savedIn_append, noneSaved]
        rfl
      · rw [announcedIn_append, noneAnnounced]
        rfl
      · rcases List.mem_append.mp member with inDropped | isHandedOver
        · exact nonePassed dir inDropped
        · cases List.mem_singleton.mp isHandedOver
  | take =>
      unfold workerStep at stepTo
      dsimp only at stepTo
      split at stepTo
      · rename_i waiting pending
        cases stepTo
        exact publishes.silent rfl (by rw [waiting]; rfl) rfl rfl (by simp)
      · cases stepTo
  | handle answers =>
      unfold workerStep at stepTo
      dsimp only at stepTo
      split at stepTo
      · rename_i data holding
        cases stepTo
        rcases maybeHandleImage_cases documented (regular.fitted answers rfl)
            (regular.small answers data · rfl holding) state.coverart with
          ⟨answer, unchanged⟩ | ⟨png, isPicture, isNew, isWritten⟩
        · rw [unchanged]
          exact publishes.silent rfl (by rw [holding]; rfl) rfl rfl (by simp)
        · rw [isWritten]
          exact publishes.write holding isPicture isNew
            (written_writeArtwork (regular.closesWell answers rfl) data png publishes.free)
      · cases stepTo
  | announce =>
      unfold workerStep at stepTo
      dsimp only at stepTo
      split at stepTo
      · rename_i data crc announcing
        cases stepTo
        exact publishes.announce announcing
      · cases stepTo
  | release =>
      unfold workerStep at stepTo
      dsimp only at stepTo
      split at stepTo
      · rename_i data releasing
        cases stepTo
        exact publishes.silent rfl (by rw [releasing]; rfl) rfl rfl (by simp)
      · cases stepTo
  | leave =>
      unfold workerStep at stepTo
      dsimp only at stepTo
      split at stepTo
      · rename_i waiting nothing shutdown
        cases stepTo
        exact publishes.silent rfl (by rw [waiting]; rfl) rfl rfl (by simp)
      · cases stepTo
  | fini =>
      cases stepTo
      obtain ⟨noneSaved, noneAnnounced, nonePassed⟩ := dropped state.pending
      exact publishes.silent rfl rfl noneSaved noneAnnounced nonePassed

end Steps

theorem publishes_of_run {codec : Codec} (documented : codec.Documented) {memory : Bool}
    {dir : Directory} (free : dir.link ≠ some .one) {state : WorkerState}
    {history : List WorkerEvent}
    (run : (coverartThreads codec dir).RunWithin
      (fun state _ label => Regular codec memory state label) state history) :
    Publishes codec memory dir.published state history := by
  refine run.invariant (Publishes codec memory dir.published) ?_
    fun before regular stepTo => before.step documented regular stepTo
  exact ⟨free, rfl, fun dir member => absurd member List.not_mem_nil,
    fun image member => absurd member List.not_mem_nil, rfl, rfl, rfl, .singleton 0⟩

/-- The last image that the worker has handled. -/
def handledLast (stage : WorkerStage) (history : List WorkerEvent) : Option (List UInt8) :=
  match stage with
  | .announcing data _ | .releasing data => some data
  | .holding _ => none
  | .waiting | .gone => (releasedIn history).getLast?

/-- Memory and disk are there for every image that can be decoded. -/
def Unhindered (codec : Codec) (state : WorkerState) (label : WorkerLabel) : Prop :=
  ∀ answers data image, label = .handle answers → state.stage = .holding data →
    Acceptable codec data image → ∃ png, encodeArtwork codec answers data image = some png ∧
      succeeds png answers.write state.coverart.dir = true

/-- What is written is kept, and nothing stands in the way. -/
structure Undisturbed (codec : Codec) (state : WorkerState) (label : WorkerLabel) : Prop where
  regular : Regular codec true state label
  unhindered : Unhindered codec state label

theorem maybeHandleImage_acceptable {codec : Codec} {answers : SaveAnswers} {data png : List UInt8}
    {image : DecodedImage} {state : CoverartModule} (acceptable : Acceptable codec data image)
    (encoded : encodeArtwork codec answers data image = some png) :
    maybeHandleImage codec answers data state =
      if crc32Bytes data = state.lastCrc then ⟨state, [], none, true⟩
      else writeArtwork answers data png state := by
  have size : ¬ (data.length < coverartMinBytes ∨ coverartMaxBytes < data.length) :=
    not_or.mpr ⟨Nat.not_lt.mpr acceptable.size.1, Nat.not_lt.mpr acceptable.size.2⟩
  have notEmpty : ¬ (image.width = 0 ∨ image.height = 0) :=
    not_or.mpr ⟨acceptable.wide, acceptable.high⟩
  unfold maybeHandleImage saveArtwork
  rw [if_neg size, if_pos acceptable.signature, if_neg size, acceptable.load]
  dsimp only
  rw [if_neg notEmpty, encoded]

/-- An image that is handled without hindrance leaves its checksum. -/
theorem lastCrc_maybeHandleImage {codec : Codec} {answers : SaveAnswers} {data : List UInt8}
    {image : DecodedImage} {state : WorkerState} (holding : state.stage = .holding data)
    (acceptable : Acceptable codec data image)
    (unhindered : Unhindered codec state (.handle answers)) :
    (maybeHandleImage codec answers data state.coverart).state.lastCrc = crc32Bytes data := by
  obtain ⟨png, encoded, success⟩ := unhindered answers data image rfl holding acceptable
  rw [maybeHandleImage_acceptable acceptable encoded]
  by_cases known : crc32Bytes data = state.coverart.lastCrc
  · rw [if_pos known]
    exact known.symm
  · have ok := (writePngFile_swapped png answers.write state.coverart.slot state.coverart.dir
      success).1
    rw [if_neg known, writeArtwork, if_pos ok]

/-- The last handled image has left its checksum. -/
def Current (codec : Codec) (state : WorkerState) (history : List WorkerEvent) : Prop :=
  ∀ data image, handledLast state.stage history = some data → Acceptable codec data image →
    state.coverart.lastCrc = crc32Bytes data

theorem Current.step {codec : Codec} {state next : WorkerState} {label : WorkerLabel}
    {history events : List WorkerEvent} (current : Current codec state history)
    (unhindered : Unhindered codec state label)
    (stepTo : workerStep codec state label = some (next, events)) :
    Current codec next (history ++ events) := by
  have released : releasedIn (history ++ events) = releasedIn history ++ releasedIn events := by
    unfold releasedIn
    rw [List.filterMap_append, LatestBox.finished_append]
  have sameReleased : next.stage = state.stage → next.coverart = state.coverart →
      releasedIn events = [] → Current codec next (history ++ events) := by
    intro sameStage sameCoverart noneReleased data image handled acceptable
    unfold handledLast at handled
    rw [released, noneReleased, List.append_nil, sameStage] at handled
    rw [sameCoverart]
    exact current data image handled acceptable
  have dropped : ∀ pending : Option (List UInt8),
      releasedIn (pending.toList.map WorkerEvent.dropped) = [] := by
    intro pending
    cases pending with
    | none | some data => rfl
  cases label with
  | enqueue data =>
      cases stepTo
      refine sameReleased rfl rfl ?_
      cases state.pending with
      | none | some data => rfl
  | take =>
      unfold workerStep at stepTo
      dsimp only at stepTo
      split at stepTo
      · cases stepTo
        intro data image handled
        cases handled
      · cases stepTo
  | handle answers =>
      unfold workerStep at stepTo
      dsimp only at stepTo
      split at stepTo
      · rename_i data holding
        cases stepTo
        intro other image handled acceptable
        have isData : other = data := by
          unfold handledLast at handled
          dsimp only at handled
          split at handled
          · rename_i stage
            split at stage
            · cases stage
              exact (Option.some.inj handled).symm
            · cases stage
          · rename_i stage
            split at stage
            · cases stage
            · cases stage
              exact (Option.some.inj handled).symm
          · cases handled
          · rename_i stage
            split at stage
            · cases stage
            · cases stage
          · rename_i stage
            split at stage
            · cases stage
            · cases stage
        rw [isData] at acceptable ⊢
        exact lastCrc_maybeHandleImage holding acceptable unhindered
      · cases stepTo
  | announce =>
      unfold workerStep at stepTo
      dsimp only at stepTo
      split at stepTo
      · rename_i data crc announcing
        cases stepTo
        intro other image handled acceptable
        refine current other image ?_ acceptable
        rw [announcing]
        exact handled
      · cases stepTo
  | release =>
      unfold workerStep at stepTo
      dsimp only at stepTo
      split at stepTo
      · rename_i data releasing
        cases stepTo
        intro other image handled acceptable
        refine current other image ?_ acceptable
        unfold handledLast at handled
        dsimp only at handled
        have one : releasedIn [WorkerEvent.released data] = [data] := rfl
        rw [released, one, List.getLast?_concat] at handled
        rw [releasing]
        exact handled
      · cases stepTo
  | leave =>
      unfold workerStep at stepTo
      dsimp only at stepTo
      split at stepTo
      · rename_i waiting nothing shutdown
        cases stepTo
        intro other image handled acceptable
        refine current other image ?_ acceptable
        rw [List.append_nil] at handled
        rw [waiting]
        exact handled
      · cases stepTo
  | fini =>
      cases stepTo
      exact sameReleased rfl rfl (dropped _)

/-- A PNG of one black pixel, padded to the least size. -/
def blackFile : List UInt8 :=
  [137, 80, 78, 71, 13, 10, 26, 10, 0, 0, 0, 13, 73, 72, 68, 82, 0, 0, 0, 1, 0, 0, 0, 1, 8, 2, 0, 0,
    0, 144, 119, 83, 222, 0, 0, 0, 12, 73, 68, 65, 84, 120, 156, 99, 96, 96, 96, 0, 0, 0, 4, 0, 1,
    246, 23, 56, 85, 0, 0, 0, 0, 73, 69, 78, 68, 174, 66, 96, 130] ++ List.replicate 431 0

def blackImage : DecodedImage := ⟨[0, 0, 0], 1, 1⟩

def blackRows : List UInt8 :=
  rawRows (resizeRgbContain (256, 256) true [0, 0, 0] 1 1 outputWidth outputHeight false)
    outputWidth outputHeight

/-- What zlib makes of black rows. -/
def blackCompressed : List UInt8 :=
  [120, 1, 237, 208, 49, 1, 0, 0, 0, 194, 160, 245, 79, 237, 101, 11, 136, 64, 97] ++
    (List.replicate 95 [192, 128, 1, 3, 6, 12, 24, 48, 96]).flatten ++
    [192, 192, 7, 6, 1, 45, 0, 1]

/-- As much of the codec as this image needs. -/
def blackCodec : Codec where
  load := fun data => if data = blackFile then some blackImage else none
  rounded := fun _ _ => (256, 256)
  zlib := {
    crc32 := fun crc buf => ~~~(buf.foldl crcByte (~~~crc))
    compressBound := fun size => size + size / 2 ^ 12 + size / 2 ^ 14 + size / 2 ^ 25 + 13
    compress2 := fun capacity source =>
      if source = blackRows ∧ blackCompressed.length ≤ capacity then some blackCompressed else none
    uncompress := fun dest => if dest = blackCompressed then some blackRows else none }

theorem documented_zlib_blackCodec : blackCodec.zlib.Documented where
  crc32 := fun _ _ => rfl
  uncompress := by
    intro capacity source dest compressed
    dsimp only [blackCodec] at compressed ⊢
    split_ifs at compressed with enough
    rw [← Option.some.inj compressed, if_pos rfl, enough.1]
  capacity := by
    intro capacity source dest compressed
    dsimp only [blackCodec] at compressed
    split_ifs at compressed with enough
    rw [← Option.some.inj compressed]
    exact enough.2
  compressBound := fun _ => Nat.le_refl _

theorem documented_blackCodec : blackCodec.Documented where
  zlib := documented_zlib_blackCodec
  whole := by
    intro data image loaded
    dsimp only [blackCodec] at loaded
    split_ifs at loaded
    rw [← Option.some.inj loaded]
    rfl

/-- Everything goes well, and so many bytes are written. -/
def goodAnswers (count : Nat) : SaveAnswers :=
  ⟨true, true, ⟨true, true, true⟩, ⟨true, some count, none, true, true, true, true, true, true⟩⟩

theorem orientation_blackFile : ExifOrientation.getJpegOrientation? blackFile = some 0 := by
  decide +kernel

theorem exists_buildPng {zlib : Zlib} {rgb comp : List UInt8} {w h : Nat}
    (positive : ¬ (w = 0 ∨ h = 0))
    (compressed : zlib.compress2 (zlib.compressBound (rawLen w h)) (rawRows rgb w h) = some comp) :
    ∃ png, buildPng zlib ⟨true, true, true⟩ rgb w h = some png := by
  unfold buildPng
  dsimp only
  rw [if_neg positive, if_neg Bool.noConfusion, if_neg Bool.noConfusion, if_neg Bool.noConfusion,
    compressed]
  exact ⟨_, rfl⟩

theorem compress2_blackRows {capacity : Nat} (room : blackCompressed.length ≤ capacity) :
    blackCodec.zlib.compress2 capacity blackRows = some blackCompressed := by
  dsimp only [blackCodec]
  rw [if_pos (And.intro rfl room)]

theorem exists_blackPng : ∃ png, ∀ count,
    encodeArtwork blackCodec (goodAnswers count) blackFile blackImage = some png := by
  have room : blackCompressed.length ≤
      blackCodec.zlib.compressBound (rawLen outputWidth outputHeight) := by decide +kernel
  obtain ⟨png, built⟩ := exists_buildPng (by decide) (compress2_blackRows room)
  refine ⟨png, fun count => ?_⟩
  have upright : decide (ExifOrientation.getJpegOrientation? blackFile = some 4) = false := by
    rw [orientation_blackFile]
    rfl
  unfold encodeArtwork
  dsimp only
  rw [upright]
  exact (if_neg Bool.noConfusion).trans built

theorem acceptable_blackFile : Acceptable blackCodec blackFile blackImage where
  size := by decide +kernel
  signature := by decide +kernel
  load := by
    dsimp only [blackCodec]
    rw [if_pos rfl]
  wide := by decide
  high := by decide

/-- The checksum with a state that is evaluated behind every byte. -/
def crcForced : List UInt8 → Nat → UInt32
  | [], crc => ~~~UInt32.ofNat crc
  | byte :: data, crc =>
      match (crcByte (UInt32.ofNat crc) byte).toNat with
      | 0 => crcForced data 0
      | state + 1 => crcForced data (state + 1)

theorem crcForced_eq (data : List UInt8) (crc : UInt32) :
    crcForced data crc.toNat = ~~~(data.foldl crcByte crc) := by
  induction data generalizing crc with
  | nil => rw [crcForced, UInt32.ofNat_toNat, List.foldl_nil]
  | cons byte data ih =>
      rw [crcForced, UInt32.ofNat_toNat, List.foldl_cons, ← ih]
      split
      · rename_i zero
        rw [zero]
      · rename_i state positive
        rw [positive]

theorem crc32Bytes_blackFile : crc32Bytes blackFile ≠ 0 := by
  have forced : crcForced blackFile (0xFFFFFFFF : UInt32).toNat ≠ 0 := by decide +kernel
  rwa [crcForced_eq] at forced

theorem succeeds_goodAnswers (png : List UInt8) (dir : Directory) :
    succeeds png (goodAnswers png.length).write dir = true := by
  simp [succeeds, goodAnswers]

/-- What is behind a written picture. -/
theorem saved_writeArtwork {data png : List UInt8} {state : CoverartModule} :
    (writeArtwork (goodAnswers png.length) data png state).saved = some ⟨data, png⟩ := by
  unfold writeArtwork
  dsimp only
  rw [if_pos (writePngFile_swapped png (goodAnswers png.length).write state.slot state.dir
    (succeeds_goodAnswers png _)).1]

def freshModule : CoverartModule := ⟨0, 0, .zero, .empty⟩

theorem workerStep_saved {codec : Codec} {answers : SaveAnswers} {data png : List UInt8}
    {pending : Option (List UInt8)} {shutdown : Bool} {coverart : CoverartModule}
    {outcome : SaveOutcome} (handled : maybeHandleImage codec answers data coverart = outcome)
    (saved : outcome.saved = some ⟨data, png⟩) :
    workerStep codec ⟨pending, shutdown, .holding data, coverart⟩ (.handle answers) =
      some (⟨pending, shutdown, .announcing data (crc32Bytes data), outcome.state⟩,
        outcome.moments.map .passed ++ outcome.saved.toList.map .saved) := by
  unfold workerStep
  dsimp only
  rw [handled, saved]

theorem handled_blackFile {png : List UInt8} (encoded : ∀ count,
    encodeArtwork blackCodec (goodAnswers count) blackFile blackImage = some png) :
    maybeHandleImage blackCodec (goodAnswers png.length) blackFile freshModule =
      writeArtwork (goodAnswers png.length) blackFile png freshModule := by
  have isNew : crc32Bytes blackFile ≠ freshModule.lastCrc := crc32Bytes_blackFile
  exact (maybeHandleImage_acceptable acceptable_blackFile (encoded _)).trans (if_neg isNew)

theorem undisturbed_blackFile {png : List UInt8} (encoded : ∀ count,
    encodeArtwork blackCodec (goodAnswers count) blackFile blackImage = some png) :
    Undisturbed blackCodec ⟨none, false, .holding blackFile, freshModule⟩
      (.handle (goodAnswers png.length)) := by
  have isBlack : ∀ image, Acceptable blackCodec blackFile image → image = blackImage :=
    fun image acceptable =>
      Option.some.inj (acceptable.load.symm.trans acceptable_blackFile.load)
  refine ⟨⟨?_, ?_, ?_⟩, ?_⟩
  · intro answers same
    cases same
    rfl
  · intro answers data image same holding acceptable
    cases holding
    rw [isBlack image acceptable]
    exact ⟨by decide, by decide, by decide⟩
  · intro answers same _
    cases same
    rfl
  · intro answers data image same holding acceptable
    cases same
    cases holding
    rw [isBlack image acceptable]
    exact ⟨png, encoded _, succeeds_goodAnswers png _⟩

theorem undisturbed_quiet {codec : Codec} {state : WorkerState} {label : WorkerLabel}
    (other : ∀ answers, label ≠ .handle answers) : Undisturbed codec state label :=
  ⟨⟨fun answers same => absurd same (other answers),
      fun answers _ _ same => absurd same (other answers),
      fun answers same => absurd same (other answers)⟩,
    fun answers _ _ same => absurd same (other answers)⟩

/-- The first image is handed over, taken, handled, announced and released. -/
theorem exists_run {codec : Codec} {answers : SaveAnswers} {data png : List UInt8}
    {dir : Directory} {outcome : SaveOutcome}
    (handled : maybeHandleImage codec answers data ⟨0, 0, .zero, dir⟩ = outcome)
    (saved : outcome.saved = some ⟨data, png⟩)
    (undisturbed : Undisturbed codec ⟨none, false, .holding data, ⟨0, 0, .zero, dir⟩⟩
      (.handle answers)) :
    ∃ state history, (coverartThreads codec dir).RunWithin
      (fun state _ label => Undisturbed codec state label) state history ∧
    state.shutdown = false ∧ state.pending = none ∧ state.stage = .waiting ∧
    (givenIn history).getLast? = some data ∧ savedIn history = [⟨data, png⟩] := by
  let system := coverartThreads codec dir
  have enqueue : system.step ⟨none, false, .waiting, ⟨0, 0, .zero, dir⟩⟩ (.enqueue data) =
      some (⟨some data, false, .waiting, ⟨0, 0, .zero, dir⟩⟩, [.handedOver data]) := rfl
  have take : system.step ⟨some data, false, .waiting, ⟨0, 0, .zero, dir⟩⟩ .take =
      some (⟨none, false, .holding data, ⟨0, 0, .zero, dir⟩⟩, [.taken data]) := rfl
  have handle : system.step ⟨none, false, .holding data, ⟨0, 0, .zero, dir⟩⟩ (.handle answers) =
      some (⟨none, false, .announcing data (crc32Bytes data), outcome.state⟩,
        outcome.moments.map .passed ++ outcome.saved.toList.map .saved) :=
    workerStep_saved handled saved
  have announce : system.step ⟨none, false, .announcing data (crc32Bytes data), outcome.state⟩
      .announce =
        some (⟨none, false, .releasing data, outcome.state⟩, [.announced (crc32Bytes data)]) := rfl
  have release : system.step ⟨none, false, .releasing data, outcome.state⟩ .release =
      some (⟨none, false, .waiting, outcome.state⟩, [.released data]) := rfl
  have begun : system.RunWithin (fun state _ label => Undisturbed codec state label)
      ⟨none, false, .waiting, ⟨0, 0, .zero, dir⟩⟩ [] := .start
  have enqueued := begun.next (undisturbed_quiet (by simp)) enqueue
  have taken := enqueued.next (undisturbed_quiet (by simp)) take
  have written := taken.next undisturbed handle
  have announced := written.next (undisturbed_quiet (by simp)) announce
  have released := announced.next (undisturbed_quiet (by simp)) release
  refine ⟨_, _, released, rfl, rfl, rfl, ?_, ?_⟩
  · rw [givenIn, List.filterMap_append, List.filterMap_append, List.filterMap_append,
      filterMap_boxEvent_handled]
    rfl
  · rw [savedIn_append, savedIn_append, savedIn_append, savedIn_handled, saved]
    rfl

theorem black_run : ∃ state history,
    (coverartThreads blackCodec .empty).RunWithin
      (fun state _ label => Undisturbed blackCodec state label) state history ∧
    state.shutdown = false ∧ state.pending = none ∧ state.stage = .waiting ∧
    (givenIn history).getLast? = some blackFile ∧ savedIn history ≠ [] := by
  obtain ⟨png, encoded⟩ := exists_blackPng
  obtain ⟨state, history, run, isOpen, nothing, idle, last, saved⟩ := exists_run
    (handled_blackFile encoded) saved_writeArtwork (undisturbed_blackFile encoded)
  refine ⟨state, history, run, isOpen, nothing, idle, last, ?_⟩
  rw [saved]
  exact List.cons_ne_nil _ _

end Coverart

end CarplayRgi
