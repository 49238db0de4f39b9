import CarplayRgi.CoverartPng
import CarplayRgi.CoverartSwap
import CarplayRgi.ExifOrientation
import CarplayRgi.LatestBox
import CarplayRgi.TracedPairs

/-!
# The worker of the cover art

The threads that read the phone's messages hand their images to a worker, which
saves one after the other as the published picture and announces its checksum.
An image that has not been taken yet is given up for a newer one.  In every
order of the steps each image is released once, the published picture is that
of the last image that has been saved, and its checksum is the last one that
has been announced or is about to be.
-/

namespace CarplayRgi

namespace Coverart

def coverartMinBytes : Nat := 500

def coverartMaxBytes : Nat := 800000

def outputWidth : Nat := 256

def outputHeight : Nat := 256

structure DecodedImage where
  rgb : List UInt8
  width : Nat
  height : Nat

/-- What decodes an image, what the rounding of doubles makes of its size, and
zlib. -/
structure Codec where
  load : List UInt8 → Option DecodedImage
  rounded : Nat → Nat → Int × Int
  zlib : Zlib

/-- What the system answers while an image is saved: memory for the resized
image, for the fitted one and for the PNG, and the steps of writing it. -/
structure SaveAnswers where
  resized : Bool
  fitted : Bool
  png : PngMemory
  write : Answers

/-- `g_coverart`, with the directory of the files. -/
structure CoverartModule where
  lastCrc : UInt32
  imagesFound : Nat
  slot : Slot
  dir : Directory

/-- A saved image: what has come of the phone, and the file it was saved as. -/
structure SavedImage where
  data : List UInt8
  png : List UInt8
  deriving DecidableEq

/-- A call of `save_artwork`: the state behind it, the states that the directory
has passed through, what has been saved if anything, and the answer. -/
structure SaveOutcome where
  state : CoverartModule
  moments : List Directory
  saved : Option SavedImage
  answer : Bool

/-- The picture of an image that has been fitted and encoded. -/
def encodeArtwork (codec : Codec) (answers : SaveAnswers) (data : List UInt8)
    (image : DecodedImage) : Option (List UInt8) :=
  let flip := decide (ExifOrientation.getJpegOrientation? data = some 4)
  if answers.resized = false then none
  else
    buildPng codec.zlib answers.png
      (resizeRgbContain (codec.rounded image.width image.height) answers.fitted image.rgb
        image.width image.height outputWidth outputHeight flip) outputWidth outputHeight

/-- The image is written, and remembered if that has gone well. -/
def writeArtwork (answers : SaveAnswers) (data png : List UInt8) (state : CoverartModule) :
    SaveOutcome :=
  let call := writePngFile png answers.write state.slot state.dir
  if call.ok then
    ⟨⟨crc32Bytes data, state.imagesFound + 1, call.slot, call.dir⟩, call.moments,
      some ⟨data, png⟩, true⟩
  else ⟨{ state with slot := call.slot, dir := call.dir }, call.moments, none, true⟩

def saveArtwork (codec : Codec) (answers : SaveAnswers) (data : List UInt8)
    (state : CoverartModule) : SaveOutcome :=
  if data.length < coverartMinBytes ∨ coverartMaxBytes < data.length then ⟨state, [], none, false⟩
  else if crc32Bytes data = state.lastCrc then ⟨state, [], none, true⟩
  else
    match codec.load data with
    | none => ⟨state, [], none, false⟩
    | some image =>
        if image.width = 0 ∨ image.height = 0 then ⟨state, [], none, false⟩
        else
          match encodeArtwork codec answers data image with
          | none => ⟨state, [], none, false⟩
          | some png => writeArtwork answers data png state

def isPng (data : List UInt8) : Bool :=
  decide (data.take 8 = pngSignature)

def isJpeg (data : List UInt8) : Bool :=
  decide (data.take 3 = [0xFF, 0xD8, 0xFF])

def maybeHandleImage (codec : Codec) (answers : SaveAnswers) (data : List UInt8)
    (state : CoverartModule) : SaveOutcome :=
  if data.length < coverartMinBytes ∨ coverartMaxBytes < data.length then ⟨state, [], none, false⟩
  else if isJpeg data || isPng data then saveArtwork codec answers data state
  else ⟨state, [], none, false⟩

/-- Where the worker is: it waits, it has an image in its hands, it has handled
it and announces a checksum, or it has gone. -/
inductive WorkerStage where
  | waiting
  | holding (data : List UInt8)
  | announcing (data : List UInt8) (crc : UInt32)
  | releasing (data : List UInt8)
  | gone

/-- The image that the worker is responsible for. -/
def WorkerStage.image : WorkerStage → Option (List UInt8)
  | .holding data | .announcing data _ | .releasing data => some data
  | .waiting | .gone => none

/-- The checksum that is still to be announced. -/
def WorkerStage.unsent : WorkerStage → Option UInt32
  | .announcing _ crc => some crc
  | _ => none

structure WorkerState where
  pending : Option (List UInt8)
  shutdown : Bool
  stage : WorkerStage
  coverart : CoverartModule

inductive WorkerLabel where
  | enqueue (data : List UInt8)
  | take
  | handle (answers : SaveAnswers)
  | announce
  | release
  | leave
  | fini

inductive WorkerEvent where
  | handedOver (data : List UInt8)
  | dropped (data : List UInt8)
  | taken (data : List UInt8)
  | passed (dir : Directory)
  | saved (image : SavedImage)
  | announced (crc : UInt32)
  | released (data : List UInt8)

/-- A step of a thread.  The worker has been started before the first message is
read, and a lock guards the pending image. -/
def workerStep (codec : Codec) (state : WorkerState) :
    WorkerLabel → Option (WorkerState × List WorkerEvent)
  | .enqueue data =>
      some ({ state with pending := some data },
        state.pending.toList.map .dropped ++ [.handedOver data])
  | .take =>
      match state.stage, state.pending with
      | .waiting, some data =>
          some ({ state with pending := none, stage := .holding data }, [.taken data])
      | _, _ => none
  | .handle answers =>
      match state.stage with
      | .holding data =>
          let outcome := maybeHandleImage codec answers data state.coverart
          let stage := match outcome.saved with
            | some image => .announcing data (crc32Bytes image.data)
            | none => .releasing data
          some ({ state with stage := stage, coverart := outcome.state },
            outcome.moments.map .passed ++ outcome.saved.toList.map .saved)
      | _ => none
  | .announce =>
      match state.stage with
      | .announcing data crc =>
          some ({ state with stage := .releasing data }, [.announced crc])
      | _ => none
  | .release =>
      match state.stage with
      | .releasing data => some ({ state with stage := .waiting }, [.released data])
      | _ => none
  | .leave =>
      match state.stage, state.pending, state.shutdown with
      | .waiting, none, true => some ({ state with stage := .gone }, [])
      | _, _, _ => none
  | .fini =>
      some ({ state with pending := none, shutdown := true },
        state.pending.toList.map .dropped)

/-- The threads on a directory that an earlier process may have left. -/
def coverartThreads (codec : Codec) (dir : Directory) :
    TracedSystem WorkerState WorkerLabel WorkerEvent where
  init := ⟨none, false, .waiting, ⟨0, 0, .zero, dir⟩⟩
  step := workerStep codec

def WorkerState.box (state : WorkerState) : LatestBox (List UInt8) :=
  ⟨state.pending, state.stage.image, state.shutdown⟩

def boxEvent : WorkerEvent → Option (LatestBox.Event (List UInt8))
  | .handedOver data => some (.given data)
  | .dropped data => some (.dropped data)
  | .taken data => some (.taken data)
  | .released data => some (.finished data)
  | .passed _ | .saved _ | .announced _ => none

theorem filterMap_boxEvent_dropped (pending : Option (List UInt8)) :
    (pending.toList.map WorkerEvent.dropped).filterMap boxEvent =
      pending.toList.map LatestBox.Event.dropped := by
  cases pending with
  | none | some data => rfl

theorem filterMap_boxEvent_handled (outcome : SaveOutcome) :
    (outcome.moments.map WorkerEvent.passed ++ outcome.saved.toList.map WorkerEvent.saved).filterMap
      boxEvent = [] := by
  rw [List.filterMap_eq_nil_iff]
  intro event member
  rcases List.mem_append.mp member with inMoments | inSaved
  · obtain ⟨dir, -, rfl⟩ := List.mem_map.mp inMoments
    rfl
  · obtain ⟨image, -, rfl⟩ := List.mem_map.mp inSaved
    rfl

/-- A step of a thread is one of the box, or nothing happens to the box. -/
theorem workerStep_box {codec : Codec} {state next : WorkerState} {label : WorkerLabel}
    {events : List WorkerEvent} (stepTo : workerStep codec state label = some (next, events)) :
    (next.box = state.box ∧ events.filterMap boxEvent = []) ∨
      ∃ call, state.box.step call = some (next.box, events.filterMap boxEvent) := by
  obtain ⟨pending, shutdown, stage, coverart⟩ := state
  cases label with
  | enqueue data =>
      cases stepTo
      refine .inr ⟨.put data, ?_⟩
      rw [List.filterMap_append, filterMap_boxEvent_dropped]
      rfl
  | take =>
      unfold workerStep at stepTo
      dsimp only at stepTo
      split at stepTo
      · cases stepTo
        exact .inr ⟨.take, rfl⟩
      · cases stepTo
  | handle answers =>
      unfold workerStep at stepTo
      dsimp only at stepTo
      split at stepTo
      · rename_i data
        cases stepTo
        refine .inl ⟨?_, filterMap_boxEvent_handled _⟩
        unfold WorkerState.box
        dsimp only
        split <;> rfl
      · cases stepTo
  | announce =>
      unfold workerStep at stepTo
      dsimp only at stepTo
      split at stepTo
      · cases stepTo
        exact .inl ⟨rfl, rfl⟩
      · cases stepTo
  | release =>
      unfold workerStep at stepTo
      dsimp only at stepTo
      split at stepTo
      · cases stepTo
        exact .inr ⟨.finish, rfl⟩
      · cases stepTo
  | leave =>
      unfold workerStep at stepTo
      dsimp only at stepTo
      split at stepTo
      · cases stepTo
        exact .inl ⟨rfl, rfl⟩
      · cases stepTo
  | fini =>
      cases stepTo
      refine .inr ⟨.close, ?_⟩
      rw [filterMap_boxEvent_dropped]
      rfl

/-- The images of a run as a box sees them. -/
theorem box_run {codec : Codec} {dir : Directory} {state : WorkerState}
    {history : List WorkerEvent} {guard : WorkerState → List WorkerEvent → WorkerLabel → Prop}
    (run : (coverartThreads codec dir).RunWithin guard state history) :
    (LatestBox.system (List UInt8)).Run state.box (history.filterMap boxEvent) :=
  (run.refines WorkerState.box boxEvent (fun _ => True) trivial rfl
    fun _ _ stepTo => ⟨trivial, workerStep_box stepTo⟩).2

def givenIn (history : List WorkerEvent) : List (List UInt8) :=
  LatestBox.given (history.filterMap boxEvent)

def droppedIn (history : List WorkerEvent) : List (List UInt8) :=
  LatestBox.dropped (history.filterMap boxEvent)

def releasedIn (history : List WorkerEvent) : List (List UInt8) :=
  LatestBox.finished (history.filterMap boxEvent)

/-- Every image that has been handed over has been dropped or released, or is
the one that is pending or in the worker's hands.  The worker handles images in
the order in which they have come.  Without a shutdown, the last one that has
come is the last one that the worker has released once it has nothing to do. -/
theorem images_released_once {codec : Codec} {dir : Directory} {state : WorkerState}
    {history : List WorkerEvent} (run : (coverartThreads codec dir).Run state history) :
    (givenIn history).Perm (droppedIn history ++
        (releasedIn history ++ state.stage.image.toList ++ state.pending.toList)) ∧
      (releasedIn history ++ state.stage.image.toList ++ state.pending.toList).Sublist
        (givenIn history) ∧
      (state.shutdown = false → state.pending = none → state.stage.image = none →
        (releasedIn history).getLast? = (givenIn history).getLast?) := by
  have boxRun := box_run run
  have balanced := LatestBox.balanced_of_run boxRun
  have conserved := balanced.conserved
  have order := balanced.order
  rw [balanced.work] at conserved order
  exact ⟨conserved, order, fun isOpen nothing idle =>
    LatestBox.finished_latest boxRun isOpen nothing idle⟩

/-- A codec that decodes nothing, which is all that short data need. -/
def emptyCodec : Codec where
  load := fun _ => none
  rounded := fun _ _ => (1, 1)
  zlib := ⟨fun crc _ => crc, id, fun _ _ => none, fun _ => none⟩

/-- Of three images the second one is dropped, and the third one is handled last. -/
theorem second_image_dropped : ∃ state history,
    (coverartThreads emptyCodec .empty).Run state history ∧
      droppedIn history = [[2]] ∧ (releasedIn history).getLast? = (givenIn history).getLast? := by
  obtain ⟨state, history, run, checked⟩ := (coverartThreads emptyCodec .empty).exists_run_of_replay
    [.enqueue [1], .take, .enqueue [2], .enqueue [3],
      .handle ⟨true, true, ⟨true, true, true⟩,
        ⟨true, none, none, true, true, true, true, true, true⟩⟩,
      .release, .take,
      .handle ⟨true, true, ⟨true, true, true⟩,
        ⟨true, none, none, true, true, true, true, true, true⟩⟩, .release]
    (fun result => decide (droppedIn result.2 = [[2]]) && !result.1.shutdown &&
      result.1.pending.isNone && result.1.stage.image.isNone)
    (by decide +kernel)
  simp only [Bool.and_eq_true, decide_eq_true_eq, Bool.not_eq_true', Option.isNone_iff_eq_none]
    at checked
  obtain ⟨⟨⟨dropped, isOpen⟩, nothing⟩, idle⟩ := checked
  exact ⟨state, history, run, dropped, (images_released_once run).2.2 isOpen nothing idle⟩

end Coverart

end CarplayRgi
